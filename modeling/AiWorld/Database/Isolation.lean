import AiWorld.Database.Server

set_option autoImplicit false

namespace AiWorld.Database

variable {other pid : Nat}

@[simp] theorem free_iff (holder : Option Nat) (pid : Nat) : free holder pid = true ↔ holder = none ∨ holder = some pid := by
  simp [free]

@[simp] theorem released_eq_some (pid other : Nat) (holder : Option Nat) :
    released pid holder = some other ↔ holder = some other ∧ other ≠ pid := by
  by_cases held : holder = some pid
  · subst held
    simp only [released, if_true, reduceCtorEq, Option.some.injEq, false_iff, not_and, not_not]
    exact Eq.symm
  · simp only [released, if_neg held]
    refine ⟨fun same => ⟨same, ?_⟩, fun both => both.1⟩
    rintro rfl
    exact held same

section
variable {Key : Type} {Row : Key → Type} {Index Note : Type}

@[simp] theorem Server.stages_db (pid : Nat) (s : Server Row Index Note) (write : Write Row) :
    (s.stages pid write).db = s.db := rfl

@[simp] theorem Server.notes_db (pid : Nat) (s : Server Row Index Note) (note : Note) : (s.notes pid note).db = s.db := rfl

@[simp] theorem Server.rollsBack_db (pid : Nat) (s : Server Row Index Note) : (s.rollsBack pid).db = s.db := rfl

-- The lock table agrees with the writes that wait for their commit.
structure Tidy (s : Server Row Index Note) : Prop where
  owned : ∀ pid, ∀ write ∈ s.staged pid, s.rowLock write.key = some pid
  strong : ∀ key pid, s.keyLock key = some pid → s.rowLock key = some pid
  exclusive : ∀ key pid, s.keyLock key = some pid → ∀ holder ∈ s.shares key, holder = pid

theorem tidy_start (db : AList Row) : Tidy ({ db := db } : Server Row Index Note) := by
  refine ⟨?_, ?_, ?_⟩
  · intro pid write member
    cases member
  · intro key pid held
    cases held
  · intro key pid held
    cases held

theorem rollback_tidy (pid : Nat) {s : Server Row Index Note} (tidy : Tidy s) : Tidy (s.rollsBack pid) where
  owned := by
    intro other write member
    by_cases same : other = pid
    · subst same
      simp [Server.rollsBack] at member
    · have held := tidy.owned other write (by simpa [Server.rollsBack, same] using member)
      simp [Server.rollsBack, held, same]
  strong := by
    intro key other held
    have before : s.keyLock key = some other ∧ other ≠ pid := by simpa [Server.rollsBack] using held
    simp [Server.rollsBack, tidy.strong key other before.1, before.2]
  exclusive := by
    intro key other held holder sharing
    have before : s.keyLock key = some other ∧ other ≠ pid := by simpa [Server.rollsBack] using held
    have old : holder ∈ s.shares key ∧ holder ≠ pid := by simpa [Server.rollsBack] using sharing
    exact tidy.exclusive key other before.1 holder old.1

theorem grantable_iff (pid : Nat) (s : Server Row Index Note) (grab : Grab Key Index) :
    s.grantable pid grab = true ↔
      (∀ key ∈ grab.rows, s.rowLock key = none ∨ s.rowLock key = some pid) ∧
      (∀ key ∈ grab.strong, (s.rowLock key = none ∨ s.rowLock key = some pid) ∧ ∀ holder ∈ s.shares key, holder = pid) ∧
      (∀ key ∈ grab.shared, s.keyLock key = none ∨ s.keyLock key = some pid) ∧
      (∀ entry ∈ grab.entries, s.entryLock entry = none ∨ s.entryLock entry = some pid) := by
  simp [Server.grantable, Server.lockable, and_assoc]

-- A transaction that has added these writes to what it holds.
structure Appends (pid : Nat) (writes : List (Write Row)) (s t : Server Row Index Note) : Prop where
  db : t.db = s.db
  pending : t.pending pid = s.pending pid
  rowLock : ∀ key, s.rowLock key = some pid → t.rowLock key = some pid
  keyLock : ∀ key, s.keyLock key = some pid → t.keyLock key = some pid
  held : ∀ write ∈ writes, t.rowLock write.key = some pid
  staged : t.staged pid = s.staged pid ++ writes

theorem appends_refl (pid : Nat) (s : Server Row Index Note) : Appends pid [] s s :=
  ⟨rfl, rfl, fun _ held => held, fun _ held => held, by simp, (List.append_nil _).symm⟩

end

section
variable {Key : Type} [DecidableEq Key] {Row : Key → Type} {Index Note : Type}

-- What one transaction may see the others do: its own writes and locks stay, and so
-- do the committed rows it has locked.
structure Undisturbed (pid : Nat) (s t : Server Row Index Note) : Prop where
  staged : t.staged pid = s.staged pid
  pending : t.pending pid = s.pending pid
  rowLock : ∀ key, t.rowLock key = some pid ↔ s.rowLock key = some pid
  keyLock : ∀ key, t.keyLock key = some pid ↔ s.keyLock key = some pid
  shares : ∀ key, pid ∈ t.shares key ↔ pid ∈ s.shares key
  rows : ∀ key, s.rowLock key = some pid → t.db.lookup key = s.db.lookup key

theorem undisturbed_refl (pid : Nat) (s : Server Row Index Note) : Undisturbed pid s s :=
  ⟨rfl, rfl, fun _ => Iff.rfl, fun _ => Iff.rfl, fun _ => Iff.rfl, fun _ _ => rfl⟩

theorem undisturbed_trans (pid : Nat) (s t u : Server Row Index Note) (first : Undisturbed pid s t)
    (second : Undisturbed pid t u) : Undisturbed pid s u where
  staged := second.staged.trans first.staged
  pending := second.pending.trans first.pending
  rowLock := fun key => (second.rowLock key).trans (first.rowLock key)
  keyLock := fun key => (second.keyLock key).trans (first.keyLock key)
  shares := fun key => (second.shares key).trans (first.shares key)
  rows := fun key held => (second.rows key ((first.rowLock key).mpr held)).trans (first.rows key held)

theorem rollback_undisturbed (pid other : Nat) (s : Server Row Index Note) (different : other ≠ pid) :
    Undisturbed other s (s.rollsBack pid) where
  staged := by simp [Server.rollsBack, different]
  pending := by simp [Server.rollsBack, different]
  rowLock := fun key => by simp [Server.rollsBack, different]
  keyLock := fun key => by simp [Server.rollsBack, different]
  shares := fun key => by simp [Server.rollsBack, different]
  rows := fun _ _ => rfl

variable {s t : Server Row Index Note} {key : Key}

-- A transaction sees a row it has not locked as it is committed.
theorem view_unlocked (tidy : Tidy s) (unlocked : s.rowLock key ≠ some pid) : (s.view pid).lookup key = s.db.lookup key := by
  refine lookup_replay_untouched s.db (fun write member here => ?_)
  subst here
  exact unlocked (tidy.owned pid write member)

theorem view_undisturbed (moved : Undisturbed pid s t) (held : s.rowLock key = some pid) :
    (t.view pid).lookup key = (s.view pid).lookup key := by
  unfold Server.view
  rw [moved.staged]
  exact lookup_replay_congr (s.staged pid) t.db s.db (moved.rows key held)

-- A committed row that has not changed is seen as before.
theorem view_kept (pid : Nat) (s t : Server Row Index Note) (moved : Undisturbed pid s t) (key : Key)
    (same : t.db.lookup key = s.db.lookup key) : (t.view pid).lookup key = (s.view pid).lookup key := by
  rw [Server.view, Server.view, moved.staged]
  exact lookup_replay_congr (s.staged pid) t.db s.db same

-- After the others have moved, a transaction sees a row as before or as it is committed.
theorem view_cases (tidy : Tidy t) (moved : Undisturbed pid s t) (key : Key) :
    (s.rowLock key = some pid ∧ (t.view pid).lookup key = (s.view pid).lookup key) ∨
      (t.view pid).lookup key = t.db.lookup key := by
  by_cases held : s.rowLock key = some pid
  · exact .inl ⟨held, view_undisturbed moved held⟩
  · exact .inr (view_unlocked tidy (fun after => held ((moved.rowLock key).mp after)))

theorem appends_view {writes : List (Write Row)} (appends : Appends pid writes s t) :
    t.view pid = replay writes (s.view pid) := by
  rw [Server.view, appends.staged, appends.db, replay, List.foldl_append]
  rfl

theorem skips_grantable (pid : Nat) (wanted : AList Row → List Key) (limit : Nat) (s : Server Row Index Note) :
    s.grantable pid { strong := s.skips pid wanted limit } = true := by
  have each : ∀ key ∈ s.skips pid wanted limit, s.lockable pid key = true := fun key member =>
    (List.mem_filter.mp (List.mem_of_mem_take member)).2
  simpa [Server.grantable] using each

namespace Server

variable (pid other : Nat) (s : Server Row Index Note)

@[simp] theorem stages_view (write : Write Row) : (s.stages pid write).view pid = write.apply (s.view pid) := by
  simp [view, stages]

@[simp] theorem stages_view_ne (write : Write Row) (different : other ≠ pid) :
    (s.stages pid write).view other = s.view other := by
  simp [view, stages, different]

@[simp] theorem notes_view (note : Note) : (s.notes pid note).view other = s.view other := rfl

@[simp] theorem commits_db : (s.commits pid).db = s.view pid := rfl

@[simp] theorem commits_view : (s.commits pid).view pid = s.view pid := by simp [view, commits, rollsBack]

@[simp] theorem rollsBack_view : (s.rollsBack pid).view pid = s.db := by simp [view, rollsBack]

@[simp] theorem rollsBack_view_ne (different : other ≠ pid) : (s.rollsBack pid).view other = s.view other := by
  simp [view, rollsBack, different]

end Server

end

section
variable {Key : Type} [DecidableEq Key] {Row : Key → Type} {Index Note : Type} [DecidableEq Index]

@[simp] theorem Server.grabs_view (pid other : Nat) (s : Server Row Index Note) (grab : Grab Key Index) :
    (s.grabs pid grab).view other = s.view other := rfl

@[simp] theorem Server.grabs_db (pid : Nat) (s : Server Row Index Note) (grab : Grab Key Index) :
    (s.grabs pid grab).db = s.db := rfl

@[simp] theorem Server.grabs_staged (pid : Nat) (s : Server Row Index Note) (grab : Grab Key Index) :
    (s.grabs pid grab).staged = s.staged := rfl

-- The write a statement makes when it takes effect, and when it does.
def Stmt.write : Stmt Row Note → Option (Write Row)
  | .insert key row => some (.put key row)
  | .update key _ columns => some (.change key columns)
  | .updateWhere key _ columns => some (.change key columns)
  | .delete key => some (.erase key)
  | _ => none

def Stmt.applies (schema : Schema Row Index) (db : AList Row) : Stmt Row Note → Prop
  | .insert key row => schema.accepts key row db = true
  | .updateWhere key holds _ => ∃ row, db.lookup key = some row ∧ holds row = true
  | _ => True

-- The rows a statement that takes effect holds a share of.
def Stmt.sharing (schema : Schema Row Index) : Stmt Row Note → List Key
  | .insert key row => schema.references key row
  | _ => []

-- The unique index entries a statement that takes effect holds.
def Stmt.entries (schema : Schema Row Index) : Stmt Row Note → List Index
  | .insert key row => schema.indexed key row
  | _ => []

-- What one statement can do to the server.
inductive Move (schema : Schema Row Index) (pid : Nat) (stmt : Stmt Row Note) (s : Server Row Index Note) :
    Server Row Index Note → Prop where
  | none : Move schema pid stmt s s
  | grab (grab : Grab Key Index) (granted : s.grantable pid grab = true) : Move schema pid stmt s (s.grabs pid grab)
  | write (grab : Grab Key Index) (write : Write Row) (granted : s.grantable pid grab = true)
      (covered : write.key ∈ grab.rows) (issued : stmt.write = some write) (applies : stmt.applies schema (s.view pid))
      (sharing : ∀ key ∈ stmt.sharing schema, key ∈ grab.shared) (entries : ∀ entry ∈ stmt.entries schema, entry ∈ grab.entries) :
      Move schema pid stmt s ((s.grabs pid grab).stages pid write)
  | note (note : Note) (issued : stmt = .note note) : Move schema pid stmt s (s.notes pid note)
  | commit (issued : stmt = .commit) : Move schema pid stmt s (s.commits pid)
  | rollback (issued : stmt = .rollback) : Move schema pid stmt s (s.rollsBack pid)

variable {s t : Server Row Index Note} {grab : Grab Key Index} {schema : Schema Row Index} {stmt : Stmt Row Note}
  {table : Key → Bool}

theorem grabbed_row (granted : s.grantable pid grab = true) (different : other ≠ pid) (key : Key) :
    (s.grabs pid grab).rowLock key = some other ↔ s.rowLock key = some other := by
  obtain ⟨rows, strong, -, -⟩ := (grantable_iff pid s grab).mp granted
  by_cases asked : key ∈ grab.rows ∨ key ∈ grab.strong
  · have mine : s.rowLock key = none ∨ s.rowLock key = some pid := by
      cases asked with
      | inl row => exact rows key row
      | inr key_ => exact (strong key key_).1
    simp only [Server.grabs, if_pos asked, Option.some.injEq]
    refine ⟨fun same => absurd same.symm different, fun held => ?_⟩
    rcases mine with none | own
    · simp [none] at held
    · exact absurd (Option.some.inj (held.symm.trans own)) different
  · simp only [Server.grabs, if_neg asked]

theorem grabbed_key (tidy : Tidy s) (granted : s.grantable pid grab = true) (different : other ≠ pid) (key : Key) :
    (s.grabs pid grab).keyLock key = some other ↔ s.keyLock key = some other := by
  obtain ⟨-, strong, -, -⟩ := (grantable_iff pid s grab).mp granted
  by_cases asked : key ∈ grab.strong
  · simp only [Server.grabs, if_pos asked, Option.some.injEq]
    refine ⟨fun same => absurd same.symm different, fun held => ?_⟩
    rcases (strong key asked).1 with none | own
    · simp [tidy.strong key other held] at none
    · exact absurd (Option.some.inj ((tidy.strong key other held).symm.trans own)) different
  · simp only [Server.grabs, if_neg asked]

theorem grabbed_share (s : Server Row Index Note) (grab : Grab Key Index) (different : other ≠ pid)
    (key : Key) : other ∈ (s.grabs pid grab).shares key ↔ other ∈ s.shares key := by
  by_cases asked : key ∈ grab.shared <;> simp [Server.grabs, asked, different]

theorem grabs_undisturbed (tidy : Tidy s) (granted : s.grantable pid grab = true) (different : other ≠ pid) :
    Undisturbed other s (s.grabs pid grab) where
  staged := rfl
  pending := rfl
  rowLock := grabbed_row granted different
  keyLock := grabbed_key tidy granted different
  shares := grabbed_share s grab different
  rows := fun _ _ => rfl

theorem grabs_tidy (tidy : Tidy s) (granted : s.grantable pid grab = true) : Tidy (s.grabs pid grab) where
  owned := by
    intro other write member
    have held := tidy.owned other write member
    by_cases same : other = pid
    · subst same
      by_cases asked : write.key ∈ grab.rows ∨ write.key ∈ grab.strong <;> simp [Server.grabs, asked, held]
    · exact (grabbed_row granted same write.key).mpr held
  strong := by
    intro key other held
    by_cases same : other = pid
    · subst same
      by_cases asked : key ∈ grab.strong
      · simp [Server.grabs, asked]
      · have before : s.keyLock key = some other := by simpa [Server.grabs, asked] using held
        simp [Server.grabs, tidy.strong key other before]
    · have before := (grabbed_key tidy granted same key).mp held
      exact (grabbed_row granted same key).mpr (tidy.strong key other before)
  exclusive := by
    intro key other held holder sharing
    obtain ⟨-, strong, shared, -⟩ := (grantable_iff pid s grab).mp granted
    have origin : holder ∈ s.shares key ∨ (holder = pid ∧ key ∈ grab.shared) := by
      by_cases asked : key ∈ grab.shared
      · simp only [Server.grabs, if_pos asked, List.mem_cons] at sharing
        exact sharing.elim (fun mine => .inr ⟨mine, asked⟩) .inl
      · exact .inl (by simpa [Server.grabs, asked] using sharing)
    by_cases asked : key ∈ grab.strong
    · obtain rfl : pid = other := by simpa [Server.grabs, asked] using held
      exact origin.elim ((strong key asked).2 holder) And.left
    · have before : s.keyLock key = some other := by simpa [Server.grabs, asked] using held
      rcases origin with old | ⟨rfl, mine⟩
      · exact tidy.exclusive key other before holder old
      · simpa [before, eq_comm] using shared key mine

theorem move_tidy (schema : Schema Row Index) (pid : Nat) (stmt : Stmt Row Note) (tidy : Tidy s)
    (move : Move schema pid stmt s t) : Tidy t := by
  cases move with
  | none => exact tidy
  | grab grab granted => exact grabs_tidy tidy granted
  | write grab write granted covered issued applies sharing =>
      have grabbed := grabs_tidy tidy granted
      refine ⟨fun other entry member => ?_, grabbed.strong, grabbed.exclusive⟩
      by_cases same : other = pid
      · subst same
        have origin : entry ∈ s.staged other ∨ entry = write := by simpa [Server.stages] using member
        rcases origin with old | rfl
        · exact grabbed.owned other entry old
        · simp [Server.stages, Server.grabs, covered]
      · exact grabbed.owned other entry (by simpa [Server.stages, same] using member)
  | note note issued => exact ⟨tidy.owned, tidy.strong, tidy.exclusive⟩
  | commit issued =>
      have ended := rollback_tidy pid tidy
      exact ⟨ended.owned, ended.strong, ended.exclusive⟩
  | rollback issued => exact rollback_tidy pid tidy

theorem move_undisturbed (schema : Schema Row Index) (stmt : Stmt Row Note) (tidy : Tidy s) (different : other ≠ pid)
    (move : Move schema pid stmt s t) : Undisturbed other s t := by
  cases move with
  | none => exact undisturbed_refl other s
  | grab grab granted => exact grabs_undisturbed tidy granted different
  | write grab write granted covered issued applies sharing =>
      have grabbed := grabs_undisturbed tidy granted different
      exact { grabbed with staged := by simp [Server.stages, different] }
  | note note issued => exact { undisturbed_refl other s with pending := by simp [Server.notes, different] }
  | commit issued =>
      have ended := rollback_undisturbed pid other s different
      refine { ended with rows := fun key held => view_unlocked tidy ?_ }
      rw [held]
      exact fun same => different (Option.some.inj same)
  | rollback issued => exact rollback_undisturbed pid other s different

-- What is staged after a step was staged before it or is the write of the step.
theorem move_staged (move : Move schema pid stmt s t) {write : Write Row} (member : write ∈ t.staged other) :
    write ∈ s.staged other ∨ (other = pid ∧ stmt.write = some write ∧ stmt.applies schema (s.view pid)) := by
  cases move with
  | none => exact .inl member
  | grab grab granted => exact .inl member
  | note note issued => exact .inl member
  | write grab fresh granted covered issued applies sharing entries =>
      by_cases same : other = pid
      · subst same
        have origin : write ∈ s.staged other ∨ write = fresh := by simpa [Server.stages] using member
        rcases origin with old | rfl
        · exact .inl old
        · exact .inr ⟨rfl, issued, applies⟩
      · exact .inl (by simpa [Server.stages, same] using member)
  | commit issued =>
      by_cases same : other = pid
      · simp [Server.commits, Server.rollsBack, same] at member
      · exact .inl (by simpa [Server.commits, Server.rollsBack, same] using member)
  | rollback issued =>
      by_cases same : other = pid
      · simp [Server.rollsBack, same] at member
      · exact .inl (by simpa [Server.rollsBack, same] using member)

-- Only a commit changes the committed rows.
theorem move_db (move : Move schema pid stmt s t) : t.db = s.db ∨ (stmt = .commit ∧ t = s.commits pid) := by
  cases move with
  | commit issued => exact .inr ⟨issued, rfl⟩
  | _ => exact .inl rfl

theorem move_journal (move : Move schema pid stmt s t) : t.journal = s.journal ∨ stmt = .commit := by
  cases move with
  | commit issued => exact .inr issued
  | _ => exact .inl rfl

-- What a step within a transaction leaves to it.
structure Onward (schema : Schema Row Index) (pid : Nat) (stmt : Stmt Row Note) (s t : Server Row Index Note) : Prop where
  db : t.db = s.db
  locks : ∀ key, s.rowLock key = some pid → t.rowLock key = some pid
  view : t.view pid = s.view pid ∨
    ∃ write, stmt.write = some write ∧ stmt.applies schema (s.view pid) ∧ t.view pid = write.apply (s.view pid)

theorem grabs_keeps (grab : Grab Key Index) (key : Key) (held : s.rowLock key = some pid) :
    (s.grabs pid grab).rowLock key = some pid := by
  simp [Server.grabs, held]

theorem move_onward (move : Move schema pid stmt s t) :
    (stmt = .commit ∧ t = s.commits pid) ∨ (stmt = .rollback ∧ t = s.rollsBack pid) ∨ Onward schema pid stmt s t := by
  cases move with
  | none => exact .inr (.inr ⟨rfl, fun _ held => held, .inl rfl⟩)
  | grab grab granted => exact .inr (.inr ⟨rfl, grabs_keeps grab, .inl rfl⟩)
  | note note issued => exact .inr (.inr ⟨rfl, fun _ held => held, .inl rfl⟩)
  | commit issued => exact .inl ⟨issued, rfl⟩
  | rollback issued => exact .inr (.inl ⟨issued, rfl⟩)
  | write grab write granted covered issued applies sharing entries =>
      exact .inr (.inr ⟨rfl, grabs_keeps grab, .inr ⟨write, issued, applies, by simp⟩⟩)

def Stmt.within : Stmt Row Note → Bool
  | .commit => false
  | .rollback => false
  | .note _ => false
  | _ => true

theorem grabs_appends (pid : Nat) (s : Server Row Index Note) (grab : Grab Key Index) : Appends pid [] s (s.grabs pid grab) :=
  ⟨rfl, rfl, grabs_keeps grab, fun key held => by simp [Server.grabs, held], by simp, (List.append_nil _).symm⟩

theorem stages_appends (pid : Nat) (s : Server Row Index Note) {write : Write Row} (covered : write.key ∈ grab.rows) :
    Appends pid [write] s ((s.grabs pid grab).stages pid write) where
  db := rfl
  pending := rfl
  rowLock := (grabs_appends pid s grab).rowLock
  keyLock := (grabs_appends pid s grab).keyLock
  held := by simp [Server.stages, Server.grabs, covered]
  staged := by simp [Server.stages]

theorem move_appends (within : stmt.within = true) (reading : stmt.write = none) (move : Move schema pid stmt s t) :
    Appends pid [] s t := by
  cases move with
  | none => exact appends_refl pid s
  | grab grab granted => exact grabs_appends pid s grab
  | write grab write granted covered issued applies sharing entries => cases reading.symm.trans issued
  | note note issued =>
      subst issued
      cases within
  | commit issued =>
      subst issued
      cases within
  | rollback issued =>
      subst issued
      cases within

-- A row that is seen after the step was seen before it, or is the one the step inserts.
theorem onward_row (onward : Onward schema pid stmt s t) {key : Key} {row : Row key}
    (seen : (t.view pid).lookup key = some row) :
    ((s.view pid).lookup key).isSome = true ∨ (stmt = .insert key row ∧ stmt.applies schema (s.view pid)) := by
  rcases onward.view with unchanged | ⟨write, issued, applies, after⟩
  · exact .inl (by rw [← unchanged, seen]; rfl)
  rw [after] at seen
  by_cases here : key = write.key
  · subst here
    rw [write.lookup_apply_self] at seen
    cases stmt with
    | insert place fresh =>
        cases issued
        cases seen
        exact .inr ⟨rfl, applies⟩
    | update place loaded columns =>
        cases issued
        obtain ⟨old, stored, -⟩ := Option.map_eq_some_iff.mp seen
        exact .inl (Option.isSome_of_eq_some stored)
    | updateWhere place wanted columns =>
        cases issued
        obtain ⟨old, stored, -⟩ := Option.map_eq_some_iff.mp seen
        exact .inl (Option.isSome_of_eq_some stored)
    | delete place =>
        cases issued
        cases seen
    | _ => cases issued
  · rw [write.lookup_apply_ne _ key here] at seen
    exact .inl (Option.isSome_of_eq_some seen)

-- The rows of a table that a transaction sees as they are committed.
def Server.Untouched (pid : Nat) (table : Key → Bool) (s : Server Row Index Note) : Prop :=
  ∀ key, table key = true → (s.view pid).lookup key = s.db.lookup key

omit [DecidableEq Index] in
theorem untouched_undisturbed (tidy : Tidy t) (moved : Undisturbed pid s t) (untouched : s.Untouched pid table) :
    t.Untouched pid table := by
  intro key listed
  by_cases held : s.rowLock key = some pid
  · rw [view_undisturbed moved held, moved.rows key held]
    exact untouched key listed
  · exact view_unlocked tidy (fun after => held ((moved.rowLock key).mp after))

theorem untouched_onward (onward : Onward schema pid stmt s t)
    (elsewhere : ∀ write, stmt.write = some write → table write.key = false) (untouched : s.Untouched pid table) :
    t.Untouched pid table := by
  intro key listed
  rw [onward.db, ← untouched key listed]
  rcases onward.view with unchanged | ⟨write, issued, -, after⟩
  · rw [unchanged]
  · rw [after]
    refine write.lookup_apply_ne _ key ?_
    rintro rfl
    exact Bool.false_ne_true ((elsewhere write issued).symm.trans listed)

theorem writes_cases {write : Write Row} (written : s.writes pid write = some t) :
    s.grantable pid { rows := [write.key] } = true ∧ t = (s.grabs pid { rows := [write.key] }).stages pid write := by
  by_cases granted : s.grantable pid { rows := [write.key] } = true
  · exact ⟨granted, by simpa [Server.writes, granted, eq_comm] using written⟩
  · simp [Server.writes, granted] at written

theorem writes_moves {write : Write Row} (issued : stmt.write = some write) (applies : stmt.applies schema (s.view pid))
    (alone : stmt.sharing schema = []) (plain : stmt.entries schema = []) (written : s.writes pid write = some t) :
    Move schema pid stmt s t := by
  obtain ⟨granted, rfl⟩ := writes_cases written
  exact .write _ write granted (by simp) issued applies (by simp [alone]) (by simp [plain])

theorem inserts_cases {key : Key} {row : Row key} {answer : Bool} (inserted : s.inserts schema pid key row = some (answer, t)) :
    (answer = false ∧ schema.accepts key row (s.view pid) = false ∧ t = s) ∨
      (answer = true ∧ schema.accepts key row (s.view pid) = true ∧ s.grantable pid (schema.claims key row) = true ∧
        t = (s.grabs pid (schema.claims key row)).stages pid (.put key row)) := by
  unfold Server.inserts at inserted
  split at inserted
  next unique =>
    split at inserted
    next accepted =>
      split at inserted
      next referenced =>
        right
        have both : true = answer ∧ (s.grabs pid (schema.claims key row)).stages pid (.put key row) = t := by
          simpa using inserted
        refine ⟨both.1.symm, accepted, ?_, both.2.symm⟩
        rw [grantable_iff] at unique referenced ⊢
        exact ⟨fun other member => unique.1 other (by simp_all [Schema.claims]), by simp [Schema.claims],
          referenced.2.2.1, unique.2.2.2⟩
      next => cases inserted
    next refused =>
      have both : false = answer ∧ s = t := by simpa using inserted
      exact .inl ⟨both.1.symm, by simpa using refused, both.2.symm⟩
  next => cases inserted

theorem perform_moves {answer : Ans stmt} (performed : perform schema pid stmt s = some (answer, t)) :
    Move schema pid stmt s t := by
  cases stmt with
  | select =>
      cases performed
      exact .none
  | selectForUpdate key wanted loaded =>
      cases found : ((s.view pid).lookup key).filter wanted with
      | none =>
          simp only [perform, found] at performed
          cases performed
          exact .none
      | some row =>
          by_cases granted : s.grantable pid { strong := [key] } = true
          · simp only [perform, found, if_pos granted] at performed
            cases performed
            exact .grab _ granted
          · simp [perform, found, granted] at performed
  | selectSkipLocked wanted limit =>
      cases performed
      exact .grab _ (skips_grantable pid wanted limit s)
  | insert key row =>
      rcases inserts_cases performed with ⟨-, -, rfl⟩ | ⟨-, accepted, granted, rfl⟩
      · exact .none
      · exact .write _ _ granted (by simp [Schema.claims, Write.key]) rfl accepted (fun _ named => named) (fun _ listed => listed)
  | update key loaded columns =>
      cases found : (s.view pid).lookup key with
      | none =>
          simp only [perform, found] at performed
          cases performed
          exact .none
      | some row =>
          simp only [perform, found] at performed
          obtain ⟨u, written, same⟩ := Option.map_eq_some_iff.mp performed
          cases same
          exact writes_moves rfl trivial rfl rfl written
  | updateWhere key holds columns =>
      cases found : ((s.view pid).lookup key).filter holds with
      | none =>
          simp only [perform, found] at performed
          cases performed
          exact .none
      | some row =>
          simp only [perform, found] at performed
          obtain ⟨u, written, same⟩ := Option.map_eq_some_iff.mp performed
          cases same
          exact writes_moves rfl ⟨row, Option.filter_eq_some_iff.mp found⟩ rfl rfl written
  | delete key =>
      obtain ⟨u, written, same⟩ := Option.map_eq_some_iff.mp performed
      cases same
      exact writes_moves rfl trivial rfl rfl written
  | commit =>
      cases performed
      exact .commit rfl
  | rollback =>
      cases performed
      exact .rollback rfl
  | written =>
      cases performed
      exact .none
  | note note =>
      cases performed
      exact .note note rfl

variable {db : AList Row}

theorem accepts_cases {key : Key} {row : Row key} (accepted : schema.accepts key row db = true) :
    (∀ rival found, db.lookup rival = some found → rival ≠ key ∧
      ∀ entry ∈ schema.indexed rival found, entry ∉ schema.indexed key row) ∧
    schema.valid key row db = true ∧ ∀ reference ∈ schema.references key row, (db.lookup reference).isSome = true := by
  have parts : (schema.rivals key row db = [] ∧ schema.valid key row db = true) ∧
      ∀ reference ∈ schema.references key row, (db.lookup reference).isSome = true := by
    simpa [Schema.accepts] using accepted
  refine ⟨fun rival found stored => ?_, parts.1.2, parts.2⟩
  have present : Sigma.mk rival found ∈ db.entries := AList.mem_lookup_iff.mp stored
  have none := parts.1.1
  simp only [Schema.rivals, List.map_eq_nil_iff, List.filter_eq_nil_iff] at none
  have clear := none ⟨rival, found⟩ present
  simp only [decide_eq_true_eq, List.any_eq_true, not_or, not_exists, not_and] at clear
  exact clear

theorem accepts_intro (schema : Schema Row Index) (key : Key) (row : Row key) (db : AList Row)
    (unrivalled : ∀ rival found, db.lookup rival = some found → rival ≠ key ∧
      ∀ entry ∈ schema.indexed rival found, entry ∉ schema.indexed key row)
    (fits : schema.valid key row db = true)
    (referenced : ∀ reference ∈ schema.references key row, (db.lookup reference).isSome = true) :
    schema.accepts key row db = true := by
  have none : schema.rivals key row db = [] := by
    simp only [Schema.rivals, List.map_eq_nil_iff, List.filter_eq_nil_iff]
    rintro ⟨rival, found⟩ present
    simpa using unrivalled rival found (AList.mem_lookup_iff.mpr present)
  simp only [Schema.accepts, none, List.isEmpty_nil, Bool.true_and, Bool.and_eq_true, List.all_eq_true]
  exact ⟨fits, referenced⟩

theorem accepts_absent {key : Key} {row : Row key} (accepted : schema.accepts key row db = true) : db.lookup key = none := by
  cases stored : db.lookup key with
  | none => rfl
  | some found => exact absurd rfl ((accepts_cases accepted).1 key found stored).1

-- A transaction with a lock of any kind.
def Server.Holds (s : Server Row Index Note) (pid : Nat) : Prop :=
  (∃ key, s.rowLock key = some pid) ∨ (∃ key, s.keyLock key = some pid) ∨ (∃ key, pid ∈ s.shares key) ∨
    ∃ entry, s.entryLock entry = some pid

omit [DecidableEq Key] [DecidableEq Index] in
theorem ungrantable_waits (grab : Grab Key Index) (waits : s.grantable pid grab ≠ true) :
    ∃ other, other ≠ pid ∧ s.Holds other := by
  by_contra nobody
  have mine : ∀ holder, s.Holds holder → holder = pid := fun holder holds => by
    by_contra different
    exact nobody ⟨holder, different, holds⟩
  have unheld : ∀ holder : Option Nat, (∀ other, holder = some other → s.Holds other) → holder = none ∨ holder = some pid := by
    intro holder holds
    cases holder with
    | none => exact .inl rfl
    | some other => exact .inr (congrArg some (mine other (holds other rfl)))
  refine waits ((grantable_iff pid s grab).mpr ⟨fun key _ => ?_, fun key _ => ⟨?_, fun holder sharing => ?_⟩, fun key _ => ?_,
    fun entry _ => ?_⟩)
  · exact unheld _ (fun other held => .inl ⟨key, held⟩)
  · exact unheld _ (fun other held => .inl ⟨key, held⟩)
  · exact mine holder (.inr (.inr (.inl ⟨key, sharing⟩)))
  · exact unheld _ (fun other held => .inr (.inl ⟨key, held⟩))
  · exact unheld _ (fun other held => .inr (.inr (.inr ⟨entry, held⟩)))

theorem writes_waits {write : Write Row} (blocked : s.writes pid write = none) : ∃ other, other ≠ pid ∧ s.Holds other := by
  refine ungrantable_waits { rows := [write.key] } (fun granted => ?_)
  simp [Server.writes, granted] at blocked

theorem inserts_waits {key : Key} {row : Row key} (blocked : s.inserts schema pid key row = none) :
    ∃ other, other ≠ pid ∧ s.Holds other := by
  unfold Server.inserts at blocked
  split at blocked
  next =>
    split at blocked
    next =>
      split at blocked
      next => cases blocked
      next waits => exact ungrantable_waits _ waits
    next => cases blocked
  next waits => exact ungrantable_waits _ waits

-- A statement is kept waiting by another transaction only.
theorem perform_waits (blocked : perform schema pid stmt s = none) : ∃ other, other ≠ pid ∧ s.Holds other := by
  cases stmt with
  | selectForUpdate key wanted loaded =>
      simp only [perform] at blocked
      split at blocked
      next => cases blocked
      next =>
        split at blocked
        next => cases blocked
        next waits => exact ungrantable_waits _ waits
  | insert key row => exact inserts_waits blocked
  | update key loaded columns =>
      simp only [perform] at blocked
      split at blocked
      next => cases blocked
      next => exact writes_waits (Option.map_eq_none_iff.mp blocked)
  | updateWhere key wanted columns =>
      simp only [perform] at blocked
      split at blocked
      next => cases blocked
      next => exact writes_waits (Option.map_eq_none_iff.mp blocked)
  | delete key => exact writes_waits (Option.map_eq_none_iff.mp blocked)
  | _ => cases blocked

end

end AiWorld.Database
