import AiWorld.Api.ClosingTask

set_option autoImplicit false

namespace AiWorld.Api

open AiWorld.Concurrency AiWorld.Database

variable {known : AgentRuntimeSession} {mission : Loaded Mission} {p tenantId : Nat} {children : List Nat}
  {outcome : AgentRuntimeOutcome}

-- The children of a session the process has locked: all but those of the list are over.
structure Watches (pid p tenantId : Nat) (children : List Nat) (s : Sys) : Prop where
  locked : s.server.keyLock (.session p) = some pid
  awaited : ∀ id row, (s.sees pid).session id = some row → row.parentSessionId = some p → row.endedAt = none → id ∈ children
  known : ∀ id ∈ children, ∃ row, (row.kind = .subagent ∧ row.tenantId = tenantId) ∧ Known pid id row s

variable {pid : Nat}

theorem watches_carried {apart : Option Nat} : Carried (Retains apart pid) (Watches pid p tenantId children) := by
  intro s t watches carries
  refine ⟨carries.keyLock _ watches.locked, fun id row stored named unended => ?_, fun id member => ?_⟩
  · obtain ⟨old, before⟩ := carries.children id row p stored named watches.locked
    obtain ⟨found, present, further⟩ := carries.lasts id old before
    obtain rfl : found = row := Option.some.inj (present.symm.trans stored)
    rw [further.pinned] at named
    exact watches.awaited id old before named (by_contra (fun ended => further.stays ended unended))
  · obtain ⟨row, fits, known⟩ := watches.known id member
    exact ⟨row, fits, known_carried s t known carries.lasts⟩

theorem watches_over {p tenantId id : Nat} {rest : List Nat} {s : Sys} (watches : Watches pid p tenantId (id :: rest) s)
    (ended : Over pid id s) : Watches pid p tenantId rest s := by
  refine ⟨watches.locked, fun other row stored named unended => ?_, fun other member => watches.known other (List.mem_cons_of_mem _ member)⟩
  rcases List.mem_cons.mp (watches.awaited other row stored named unended) with rfl | member
  · obtain ⟨found, present, isOver⟩ := ended
    rw [Option.some.inj (present.symm.trans stored)] at isOver
    exact absurd unended isOver
  · exact member

section
variable {start : Db} {terms : Terms} {pid : Nat} {request : Request} {due : List CloseCall} {busy : Option Nat} {frame : Sys → Prop}
  {raised : Failure → Sys → Prop} {p tenantId : Nat} {session : AgentRuntimeSession}

theorem select_children_walks (tenant : session.tenantId = tenantId) (carried : Carried (Stays terms pid) frame) :
    Walks start terms pid request
      (InOrder terms pid (fun s => frame s ∧ Grips pid p session (StillOpen terms p session) s))
      (select (openSubagents p))
      (fun children => InOrder terms pid (fun s => (frame s ∧ Grips pid p session (StillOpen terms p session) s) ∧ Watches pid p tenantId children s)) := by
  refine framed_select _ (carried_and carried (stays_of_passes (grips_carried (still_open_about terms p session))))
    (fun s composed holds kept inv => ⟨composed, holds, holds.2.locked, fun id row stored named unended => ?_, fun id member => ?_⟩)
  · refine List.mem_map.mpr ⟨(id, row), List.mem_filter.mpr ⟨(mem_sessions _ _).mpr stored, ?_⟩, rfl⟩
    simp [named, unended]
  · obtain ⟨⟨other, row⟩, listed, rfl⟩ := List.mem_map.mp member
    obtain ⟨present, fits⟩ := List.mem_filter.mp listed
    have stored : (s.sees pid).session other = some row := (mem_sessions _ _).mp present
    have child : row.parentSessionId = some p ∧ row.endedAt = none := by simpa using fits
    obtain ⟨kind, parent, there, same⟩ := composed.kin other row p stored child.1
    obtain ⟨found, known, pinned⟩ := holds.2.known
    obtain rfl : found = parent := Option.some.inj (known.symm.trans there)
    rw [pinned] at same
    exact ⟨row, ⟨kind, same.symm.trans tenant⟩, row, stored, pinned_refl (.session other) row⟩

-- What is kept of the session while its children are closed.
def Parenting (terms : Terms) (pid p tenantId : Nat) (session : AgentRuntimeSession) (frame : Sys → Prop) (children : List Nat)
    (s : Sys) : Prop :=
  (frame s ∧ Grips pid p session (StillOpen terms p session) s) ∧ Watches pid p tenantId children s

theorem parenting_carried {apart : Option Nat} (other : apart ≠ some p) (carried : Carried (Lasts pid) frame) :
    Carried (Retains apart pid) (Parenting terms pid p tenantId session frame children) :=
  carried_and (carried_and (carried_weaken (fun _ _ moves => moves.lasts) carried)
    (grips_apart other (still_open_about terms p session) (fun _ _ _ _ holds => holds))) (watches_carried)

theorem close_child_walks {id : Nat} {rest : List Nat} (subagent : known.kind = .subagent) (tenant : known.tenantId = tenantId)
    (other : id ≠ p) (carried : Carried (Lasts pid) frame) :
    Walks start terms pid request
      (InOrder terms pid (fun s => Parenting terms pid p tenantId session frame (id :: rest) s ∧ Known pid id known s))
      (closeTask tenantId id .sessionEnd sessionEndPayload none)
      (fun _ => InOrder terms pid (Parenting terms pid p tenantId session frame rest)) := by
  have apart : (some id : Option Nat) ≠ some p := fun same => other (Option.some.inj same)
  exact raises_weaken (close_task_walks .sessionEnd sessionEndPayload (.inl rfl) subagent
    (parenting_carried apart carried)) (fun _ holds => holds)
    (fun _ s ⟨composed, parenting, ended⟩ => ⟨composed, parenting.1, watches_over parenting.2 (ended tenant)⟩) (fun _ _ holds => holds)

theorem close_subagents_walks (kind : session.kind = .session) (carried : Carried (Lasts pid) frame) :
    Walks start terms pid request
      (InOrder terms pid (Parenting terms pid p tenantId session frame children))
      (closeSubagents tenantId children)
      (fun _ => InOrder terms pid (Parenting terms pid p tenantId session frame [])) := by
  induction children with
  | nil => exact raises_done
  | cons id rest ih =>
      rintro s ⟨composed, parenting⟩
      obtain ⟨known, ⟨subagent, tenant⟩, mine⟩ := parenting.2.known id List.mem_cons_self
      have other : id ≠ p := by
        rintro rfl
        obtain ⟨row, stored, pinned⟩ := mine
        obtain ⟨same, present, pinnedToo⟩ := parenting.1.2.known
        obtain rfl : row = same := Option.some.inj (stored.symm.trans present)
        have first : row.kind = .subagent := by rw [pinned]; exact subagent
        have second : row.kind = .session := by rw [pinnedToo]; exact kind
        cases first.symm.trans second
      exact raises_bind _ (close_child_walks subagent tenant other carried) (fun _ => ih) s ⟨composed, parenting, mine⟩

theorem mark_mission_walks {target : MissionStatus} (carried : Carried (Sides terms pid) frame)
    (fails : ∀ failure s, Composed terms due busy pid s ∧ frame s → raised failure s) :
    Raises (running start terms).toContract pid request (Framed terms due busy pid frame)
      (markMissionStatus mission target) (fun _ => Framed terms due busy pid frame) raised := by
  refine raises_bind _ (validated_walks fails) (fun _ => ?_)
  refine raises_bind _ (framed_update carried rfl) (fun _ => ?_)
  exact raises_done

theorem complete_mission_walks (carried : Carried (Sides terms pid) frame) :
    Walks start terms pid request (Framed terms due busy pid frame)
      (completeMission mission) (fun _ => Framed terms due busy pid frame) := by
  unfold completeMission
  split
  · refine raises_bind (fun _ => Framed terms due busy pid frame) (raises_catch (fun _ => Framed terms due busy pid frame)
      (mark_mission_walks carried (fun _ _ holds => holds)) (fun failure => ?_)) (fun _ => ?_)
    · cases failure with
      | invalidTransition error => exact raises_done
      | _ => exact walks_throw
    · exact raises_done
  · exact raises_done

theorem complete_session_mission_walks {missionId : Option Nat} (carried : Carried (Sides terms pid) frame) :
    Walks start terms pid request (Framed terms due busy pid frame)
      (completeSessionMission missionId) (fun _ => Framed terms due busy pid frame) := by
  cases missionId with
  | none => exact raises_done
  | some missionId =>
      refine raises_bind _ (framed_reads (stays_of_sides carried)) (fun mission => ?_)
      cases mission with
      | none => exact raises_done
      | some mission => exact complete_mission_walks carried

-- The session ends when none of its children is open.
theorem end_parent_walks (kind : session.kind = .session) (unended : session.endedAt = none)
    (carried : Carried (Lasts pid) frame) :
    Walks start terms pid request
      (InOrder terms pid (Parenting terms pid p tenantId session frame []))
      (endRow p session outcome) (fun _ => InOrder terms pid frame) := by
  have stays : Carried (Stays terms pid) (Parenting terms pid p tenantId session frame []) :=
    carried_weaken (stays_retains none) (parenting_carried (Option.some_ne_none p).symm carried)
  refine raises_bind _ (framed_now stays) (fun (time : Nat) => ?_)
  refine running_ask (framed_stable stays) ?_ ?_ (fun same => by cases same) ?_
  · rintro s query kept ⟨-, ⟨-, grips⟩, -⟩ same
    cases same
    exact ends_respects kept (.inl grips) grips.locked grips.known (fun _ => unended)
  · intro query write same sets
    cases same
    cases sets
    exact shrinks_apart (fun id same => by cases same)
  · rintro s choice answer t ⟨composed, ⟨framed, grips⟩, watches⟩ kept inv - executed
    obtain ⟨row, stored, pinned⟩ := grips.known
    have kindToo : row.kind = .session := by rw [pinned]; exact kind
    rcases exec_update executed with ⟨absent, -⟩ | ⟨-, appends⟩
    · cases absent.symm.trans stored
    have sets : Sets pid p (endColumns time outcome) row s t := ⟨appends, stored, rfl, fun _ => Option.some_ne_none time⟩
    refine ⟨composed_session sets composed (fun _ found present subagent => ?_) (fun _ _ _ _ id child there named ended => ?_)
      (fun _ subagent => by cases kindToo.symm.trans subagent), carried s t framed (sets_retains sets).lasts⟩
    · rw [← Option.some.inj ((sets_here sets).symm.trans present)] at subagent
      cases kindToo.symm.trans subagent
    · exact List.not_mem_nil (watches.awaited id child there named ended)

theorem end_open_session_walks (kind : session.kind = .session) (tenant : session.tenantId = tenantId)
    (unended : session.endedAt = none) (carried : Carried (Lasts pid) frame) :
    Walks start terms pid request
      (InOrder terms pid (fun s => (frame s ∧ Grips pid p session (StillOpen terms p session) s) ∧ Entrusts terms pid session.taskId (fun _ task => task.isSome = true) s))
      (endOpenSession tenantId p session outcome) (fun _ => InOrder terms pid frame) := by
  have passes : Carried (Passes pid) (fun s => frame s ∧ Grips pid p session (StillOpen terms p session) s) :=
    carried_and (carried_weaken (fun _ _ moves => moves.lasts) carried) (grips_carried (still_open_about terms p session))
  refine raises_bind _ (load_task_walks (stays_of_passes passes)) (fun task => raises_fact
    (fun readOf => ?_))
  refine raises_bind _ (advance_task_walks rfl readOf passes) (fun _ => ?_)
  refine raises_bind _ (raises_before (select_children_walks tenant (stays_of_lasts carried))
    (fun s holds => ⟨holds.1, holds.2.1⟩)) (fun children => ?_)
  refine raises_bind _ (close_subagents_walks kind carried) (fun _ => ?_)
  refine raises_bind _ (complete_session_mission_walks (carried_weaken (fun _ _ sides => sides.toRetains)
    (parenting_carried (Option.some_ne_none p).symm carried))) (fun _ => ?_)
  exact end_parent_walks kind unended carried

theorem end_session_walks {loaded : Option AgentRuntimeSession} (read : loaded = none ∨ loaded = some known)
    (kind : known.kind = .session) (carried : Carried (Lasts pid) frame) :
    Walks start terms pid request (InOrder terms pid (fun s => frame s ∧ Known pid p known s))
      (endSession tenantId p outcome loaded) (fun _ => InOrder terms pid frame) := by
  refine raises_bind _ (framed_lock read (stays_of_lasts carried)) (fun found => ?_)
  cases found with
  | none => exact raises_pure _ (fun s holds => ⟨holds.1, holds.2.1⟩)
  | some session =>
      refine raises_given (fun s ⟨_, _, facts, _⟩ => facts) (fun ⟨pinned, tenant⟩ => ?_)
      have kindToo : session.kind = .session := by rw [pinned]; exact kind
      have tenantToo : session.tenantId = tenantId := by rw [pinned]; exact tenant
      cases unended : session.endedAt with
      | some time => simpa only [unended] using raises_pure _ (fun s holds => ⟨holds.1, holds.2.1⟩)
      | none =>
          simp only [unended]
          exact raises_weaken (end_open_session_walks kindToo tenantToo unended carried)
            (fun s ⟨composed, framed, _, grips, entrusts⟩ => ⟨composed, ⟨framed, grips⟩, entrusts⟩) (fun _ _ holds => holds)
            (fun _ _ holds => holds)

end

end AiWorld.Api
