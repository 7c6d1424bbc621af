import Mathlib.Algebra.Order.Field.Rat
import Mathlib.Tactic.Linarith
import Mathlib.Tactic.NormNum
import Mathlib.Tactic.Ring
import AiWorld.Lease.TaskLease

set_option autoImplicit false

namespace AiWorld.Lease

variable {into : ℚ}

-- The durations a heartbeat goes by, in seconds.
structure Pace where
  ttl : ℚ
  refresh : ℚ
  refreshTimeout : ℚ
deriving DecidableEq

def leaseRefreshSeconds : ℚ := 5

def leaseRefreshTimeoutSeconds : ℚ := 2

def leasePace : Pace := ⟨leaseTtlMs / 1000, leaseRefreshSeconds, leaseRefreshTimeoutSeconds⟩

def Pace.worstCycle (pace : Pace) : ℚ := pace.refresh + pace.refreshTimeout

-- How a refresh ends: the TTL was set some time after the command was sent, the token
-- was gone, or the call failed or timed out.
inductive Refreshed where
  | extended (setAfter : ℚ)
  | gone
  | failed
deriving DecidableEq

-- A sleep and one refresh, which takes no longer than its timeout.
structure Cycle (pace : Pace) where
  took : ℚ
  refreshed : Refreshed
  nonneg : 0 ≤ took
  bounded : took ≤ pace.refreshTimeout
  inside : ∀ setAfter, refreshed = .extended setAfter → 0 ≤ setAfter ∧ setAfter ≤ took

-- `now` and `lastOk` are the worker's, and `setAt` is when the server last set the TTL.
structure Heart where
  now : ℚ
  lastOk : ℚ
  setAt : ℚ
deriving DecidableEq

-- The heartbeat starts `lag` after `acquire` has set the TTL.
def Heart.start (lag : ℚ) : Heart := ⟨0, 0, -lag⟩

section
variable {pace : Pace}

-- One turn of the loop of `_heartbeat`, none where it returns.
def beat (s : Heart) (cycle : Cycle pace) : Option Heart :=
  let now := s.now + pace.refresh + cycle.took
  match cycle.refreshed with
  | .gone => none
  | .extended setAfter => some ⟨now, now, s.now + pace.refresh + setAfter⟩
  | .failed => if now - s.lastOk + pace.worstCycle ≥ pace.ttl then none else some { s with now := now }

def beats (s : Heart) (cycles : List (Cycle pace)) : Option Heart := cycles.foldlM beat s

-- How long ago the TTL was set, some time into a cycle.
def age (s : Heart) (cycle : Cycle pace) (into : ℚ) : ℚ :=
  match cycle.refreshed with
  | .extended setAfter =>
      if pace.refresh + setAfter ≤ into then into - (pace.refresh + setAfter) else s.now + into - s.setAt
  | _ => s.now + into - s.setAt

-- At every instant at which `_heartbeat` has not returned, the key has not expired.
structure InTime (lag : ℚ) (cycles : List (Cycle pace)) : Prop where
  during : ∀ before cycle after s, cycles = before ++ cycle :: after → beats (.start lag) before = some s →
    ∀ into, 0 ≤ into → into < pace.refresh + cycle.took → age s cycle into < pace.ttl
  still : ∀ s, beats (.start lag) cycles = some s → s.now - s.setAt < pace.ttl

-- How long it takes from the sending of the refresh until the TTL is set, or else the
-- refresh is over.
def Cycle.unset (cycle : Cycle pace) : ℚ :=
  match cycle.refreshed with
  | .extended setAfter => setAfter
  | _ => cycle.took

-- What the cycles so far leave behind: the time from the last setting of the TTL to its
-- reply, and the times of the failed refreshes since.
structure Missed where
  lag : ℚ
  failed : List ℚ

def Missed.next (missed : Missed) (cycle : Cycle pace) : Missed :=
  match cycle.refreshed with
  | .extended setAfter => ⟨cycle.took - setAfter, []⟩
  | .gone => missed
  | .failed => { missed with failed := missed.failed ++ [cycle.took] }

def missedAfter (lag : ℚ) (cycles : List (Cycle pace)) : Missed := cycles.foldl Missed.next ⟨lag, []⟩

structure Tracks (pace : Pace) (s : Heart) (missed : Missed) : Prop where
  lag : s.lastOk - s.setAt = missed.lag
  elapsed : s.now - s.lastOk = missed.failed.length * pace.refresh + missed.failed.sum

theorem start_tracks (lag : ℚ) : Tracks pace (.start lag) ⟨lag, []⟩ := ⟨by simp [Heart.start], by simp [Heart.start]⟩

theorem beat_tracks (s t : Heart) (missed : Missed) (cycle : Cycle pace) (tracks : Tracks pace s missed)
    (beaten : beat s cycle = some t) : Tracks pace t (missed.next cycle) := by
  cases outcome : cycle.refreshed with
  | gone => simp [beat, outcome] at beaten
  | extended setAfter =>
      simp only [beat, outcome, Option.some.injEq] at beaten
      subst beaten
      simp only [Missed.next, outcome]
      exact ⟨by ring, by simp⟩
  | failed =>
      simp only [beat, outcome] at beaten
      split at beaten
      next => cases beaten
      next =>
        cases beaten
        simp only [Missed.next, outcome]
        refine ⟨tracks.lag, ?_⟩
        have elapsed := tracks.elapsed
        simp only [List.length_append, List.length_cons, List.length_nil, List.sum_append, List.sum_cons, List.sum_nil]
        push_cast
        linarith

variable {cycles : List (Cycle pace)}

theorem beats_tracks (s : Heart) {t : Heart} (missed : Missed) (tracks : Tracks pace s missed)
    (beaten : beats s cycles = some t) : Tracks pace t (cycles.foldl Missed.next missed) := by
  induction cycles generalizing s missed with
  | nil =>
      cases beaten
      exact tracks
  | cons cycle rest ih =>
      obtain ⟨next, first, later⟩ := Option.bind_eq_some_iff.mp beaten
      exact ih next (missed.next cycle) (beat_tracks s next missed cycle tracks first) later

theorem unset_bounds (cycle : Cycle pace) : 0 ≤ cycle.unset ∧ cycle.unset ≤ cycle.took := by
  unfold Cycle.unset
  cases outcome : cycle.refreshed with
  | extended setAfter => exact cycle.inside setAfter outcome
  | _ => exact ⟨cycle.nonneg, le_refl _⟩

theorem age_before (s : Heart) {cycle : Cycle pace} (early : into < pace.refresh + cycle.unset) :
    age s cycle into = s.now + into - s.setAt := by
  unfold Cycle.unset at early
  cases outcome : cycle.refreshed with
  | extended setAfter =>
      simp only [outcome] at early
      simp only [age, outcome]
      rw [if_neg (not_le.mpr early)]
  | _ => simp only [age, outcome]

theorem age_after (s : Heart) {cycle : Cycle pace} (late : pace.refresh + cycle.unset ≤ into)
    (inside : into < pace.refresh + cycle.took) : age s cycle into < pace.refreshTimeout := by
  have bounds := unset_bounds cycle
  have bounded := cycle.bounded
  unfold Cycle.unset at late bounds
  cases outcome : cycle.refreshed with
  | extended setAfter =>
      simp only [outcome] at late bounds
      simp only [age, outcome]
      rw [if_pos late]
      linarith
  | _ =>
      simp only [outcome] at late
      linarith

-- A cycle is in time if the key lasts until the refresh sets the TTL again.
theorem cycle_in_time_iff (positive : 0 < pace.refresh) (short : pace.refreshTimeout ≤ pace.ttl) {s : Heart} {missed : Missed}
    (tracks : Tracks pace s missed) (cycle : Cycle pace) :
    (∀ into, 0 ≤ into → into < pace.refresh + cycle.took → age s cycle into < pace.ttl) ↔
      missed.lag + missed.failed.sum + cycle.unset ≤ pace.ttl - (missed.failed.length + 1) * pace.refresh := by
  have lag := tracks.lag
  have elapsed := tracks.elapsed
  have bounds := unset_bounds cycle
  constructor
  · intro covered
    by_contra late
    let into := max 0 (pace.ttl - (s.now - s.setAt))
    have early : into < pace.refresh + cycle.unset := max_lt (by linarith) (by linarith)
    have within := covered into (le_max_left _ _) (by linarith)
    rw [age_before s early] at within
    have reached : pace.ttl - (s.now - s.setAt) ≤ into := le_max_right _ _
    linarith
  · intro enough into _ inside
    by_cases early : into < pace.refresh + cycle.unset
    · rw [age_before s early]
      linarith
    · exact (age_after s (not_lt.mp early) inside).trans_le short

-- A heartbeat that goes on after failures has left itself one worst cycle.
theorem beats_margin (cycles : List (Cycle pace)) (s t : Heart) (missed : Missed) (tracks : Tracks pace s missed)
    (margin : missed.failed = [] ∨ s.now - s.lastOk + pace.worstCycle < pace.ttl) (beaten : beats s cycles = some t) :
    (cycles.foldl Missed.next missed).failed = [] ∨ t.now - t.lastOk + pace.worstCycle < pace.ttl := by
  induction cycles generalizing s missed with
  | nil =>
      cases beaten
      exact margin
  | cons cycle rest ih =>
      obtain ⟨next, first, later⟩ := Option.bind_eq_some_iff.mp beaten
      refine ih next (missed.next cycle) (beat_tracks s next missed cycle tracks first) ?_ later
      cases outcome : cycle.refreshed with
      | gone => simp [beat, outcome] at first
      | extended setAfter => exact .inl (by simp [Missed.next, outcome])
      | failed =>
          simp only [beat, outcome] at first
          split at first
          next => cases first
          next early =>
            cases first
            exact .inr (not_le.mp early)

-- With no lag between the setting of the TTL and its reply, it stays without one.
theorem prompt_lag (missed : Missed) (none : missed.lag = 0)
    (prompt : ∀ cycle ∈ cycles, ∀ setAfter, cycle.refreshed = .extended setAfter → setAfter = cycle.took) :
    (cycles.foldl Missed.next missed).lag = 0 := by
  induction cycles generalizing missed with
  | nil => exact none
  | cons cycle rest ih =>
      refine ih (missed.next cycle) ?_ (fun later member => prompt later (List.mem_cons_of_mem _ member))
      cases outcome : cycle.refreshed with
      | gone => simpa only [Missed.next, outcome] using none
      | failed => simpa only [Missed.next, outcome] using none
      | extended setAfter =>
          have same := prompt cycle List.mem_cons_self setAfter outcome
          simp only [Missed.next, outcome]
          linarith

end

theorem lease_ttl : leasePace.ttl = 20 := by norm_num [leasePace, leaseTtlMs]

variable {cycles : List (Cycle leasePace)}

theorem lease_tracks {lag : ℚ} {s : Heart} (beaten : beats (.start lag) cycles = some s) :
    s.lastOk - s.setAt = (missedAfter lag cycles).lag ∧
      s.now - s.lastOk = (missedAfter lag cycles).failed.length * 5 + (missedAfter lag cycles).failed.sum := by
  obtain ⟨back, elapsed⟩ := beats_tracks _ _ (start_tracks lag) beaten
  exact ⟨back, elapsed⟩

theorem lease_during_iff (lag : ℚ) (before : List (Cycle leasePace)) (cycle : Cycle leasePace) (s : Heart)
    (beaten : beats (.start lag) before = some s) :
    (∀ into, 0 ≤ into → into < leasePace.refresh + cycle.took → age s cycle into < leasePace.ttl) ↔
      (missedAfter lag before).lag + (missedAfter lag before).failed.sum + cycle.unset ≤
        15 - 5 * (missedAfter lag before).failed.length := by
  have positive : (0 : ℚ) < leasePace.refresh := by norm_num [leasePace, leaseRefreshSeconds]
  have short : leasePace.refreshTimeout ≤ leasePace.ttl := by
    rw [lease_ttl]
    norm_num [leasePace, leaseRefreshTimeoutSeconds]
  rw [cycle_in_time_iff positive short (beats_tracks _ _ (start_tracks lag) beaten) cycle, lease_ttl,
    show leasePace.refresh = 5 from rfl]
  change (missedAfter lag before).lag + (missedAfter lag before).failed.sum + cycle.unset ≤
    20 - ((missedAfter lag before).failed.length + 1) * 5 ↔ _
  constructor <;> intro bound <;> linarith

theorem lease_still_iff (lag : ℚ) (cycles : List (Cycle leasePace)) (s : Heart) (beaten : beats (.start lag) cycles = some s) :
    s.now - s.setAt < leasePace.ttl ↔
      (missedAfter lag cycles).lag + (missedAfter lag cycles).failed.sum < 20 - 5 * (missedAfter lag cycles).failed.length := by
  obtain ⟨back, elapsed⟩ := lease_tracks beaten
  rw [lease_ttl]
  constructor <;> intro bound <;> linarith

-- One worst cycle is margin enough where a reply arrives the moment the TTL is set.
theorem prompt_heartbeat_in_time
    (prompt : ∀ cycle ∈ cycles, ∀ setAfter, cycle.refreshed = .extended setAfter → setAfter = cycle.took) : InTime 0 cycles := by
  have worst : leasePace.worstCycle = 7 := by norm_num [Pace.worstCycle, leasePace, leaseRefreshSeconds, leaseRefreshTimeoutSeconds]
  have spare : ∀ front s, (∀ cycle ∈ front, cycle ∈ cycles) → beats (.start 0) front = some s →
      (missedAfter 0 front).lag + (missedAfter 0 front).failed.sum ≤ 13 - 5 * (missedAfter 0 front).failed.length :=
    fun front s listed beaten => by
      have none : (missedAfter 0 front).lag = 0 :=
        prompt_lag ⟨0, []⟩ rfl (fun cycle member => prompt cycle (listed cycle member))
      have elapsed := (lease_tracks beaten).2
      have margin : (missedAfter 0 front).failed = [] ∨ s.now - s.lastOk + 7 < 20 := by
        rw [← worst, ← lease_ttl]
        exact beats_margin front (.start 0) s ⟨0, []⟩ (start_tracks 0) (.inl rfl) beaten
      rcases margin with fresh | early
      · rw [none, fresh]
        norm_num
      · linarith
  refine ⟨fun before cycle after s split beaten => (lease_during_iff 0 before cycle s beaten).mpr ?_, fun s beaten =>
    (lease_still_iff 0 cycles s beaten).mpr ?_⟩
  · have margin := spare before s (fun other member => by simp [split, member]) beaten
    have bounds := unset_bounds cycle
    have bounded : cycle.took ≤ 2 := cycle.bounded
    linarith
  · have margin := spare cycles s (fun _ member => member) beaten
    linarith

namespace Sample

-- The TTL is set at once, and its reply takes the whole two seconds.
def slowReply : Cycle leasePace := ⟨2, .extended 0, by norm_num, by decide +kernel, fun _ same => by cases same; norm_num⟩

def fails (took : ℚ) (nonneg : 0 ≤ took) (bounded : took ≤ leasePace.refreshTimeout) : Cycle leasePace :=
  ⟨took, .failed, nonneg, bounded, fun _ same => by cases same⟩

def blips : List (Cycle leasePace) :=
  [slowReply, fails (3 / 2) (by norm_num) (by decide +kernel), fails (7 / 5) (by norm_num) (by decide +kernel)]

def hangs : Cycle leasePace := fails 2 (by norm_num) (by decide +kernel)

-- The TTL is set just as the reply arrives, after the whole two seconds.
def promptReply : Cycle leasePace := ⟨2, .extended 2, by norm_num, by decide +kernel, fun _ same => by cases same; norm_num⟩

end Sample

theorem prompt_heartbeat_in_time_hanging : InTime 0 [Sample.promptReply, Sample.hangs] :=
  prompt_heartbeat_in_time (fun cycle member setAfter same => by
    rcases List.mem_cons.mp member with rfl | last
    · exact (Refreshed.extended.inj same).symm
    · rw [List.mem_singleton.mp last] at same
      cases same)

end AiWorld.Lease
