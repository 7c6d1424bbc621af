import AiWorld.Gateway.CircuitBreaker
import Mathlib.Algebra.Order.Field.Rat
import Mathlib.Data.List.Induction

set_option autoImplicit false

namespace AiWorld.Gateway

variable {breaker : CircuitBreaker} {failures : List ℚ}

inductive Event where
  | beforeCall (provider : String) (now : ℚ)
  | success (provider : String) (now : ℚ)
  | failure (provider : String) (now : ℚ)
deriving DecidableEq

namespace Event

def provider : Event → String
  | beforeCall provider _ => provider
  | success provider _ => provider
  | failure provider _ => provider

end Event

def CircuitBreaker.apply (breaker : CircuitBreaker) : Event → CircuitBreaker
  | .beforeCall provider now => (breaker.beforeCall provider now).2
  | .success provider _ => breaker.recordSuccess provider
  | .failure provider now => breaker.recordFailure provider now

def CircuitBreaker.after (breaker : CircuitBreaker) (events : List Event) : CircuitBreaker := events.foldl CircuitBreaker.apply breaker

def newBreaker (threshold : Nat) (cooldown : ℚ) : CircuitBreaker := { failureThreshold := threshold, cooldownSeconds := cooldown }

-- Whether `before_call` is refused at the end of a trace.
def refused (threshold : Nat) (cooldown : ℚ) (events : List Event) (provider : String) (now : ℚ) : Bool :=
  (((newBreaker threshold cooldown).after events).beforeCall provider now).1.isSome

section History

variable (threshold : Nat) (cooldown : ℚ) (provider : String)

-- The opening that some failures since the last reset have made is over at `now`.
def expired (failures : List ℚ) (now : ℚ) : Bool :=
  match failures[threshold - 1]? with
  | none => false
  | some opened => cooldown ≤ now - opened

def resetBy (failures : List ℚ) : Event → Bool
  | .success other _ => other = provider
  | .beforeCall other now => other = provider && expired threshold cooldown failures now
  | .failure _ _ => false

def noted (failures : List ℚ) (event : Event) : List ℚ :=
  if resetBy threshold cooldown provider failures event then []
  else
    match event with
    | .failure other now => if other = provider then failures ++ [now] else failures
    | _ => failures

-- The times of the provider's failures since the last reset of a trace, in order.
def failuresSince (events : List Event) : List ℚ := events.foldl (noted threshold cooldown provider) []

-- A success of the provider, or a call that passed after an expired opening.
def Resets (events : List Event) (event : Event) : Prop :=
  resetBy threshold cooldown provider (failuresSince threshold cooldown provider events) event = true

-- The failure at `opened` is the one that reached the threshold, and nothing has reset it.
def OpenedBy (events : List Event) (opened : ℚ) : Prop :=
  ∃ before later, events = before ++ .failure provider opened :: later ∧
    (failuresSince threshold cooldown provider before).length + 1 = threshold ∧
    ∀ between event rest, later = between ++ event :: rest →
      ¬ Resets threshold cooldown provider (before ++ .failure provider opened :: between) event

theorem failures_since_concat (events : List Event) (event : Event) :
    failuresSince threshold cooldown provider (events ++ [event]) =
      noted threshold cooldown provider (failuresSince threshold cooldown provider events) event := by
  simp [failuresSince]

variable {threshold cooldown provider}

theorem concat_splits {α : Type} {events before later : List α} {event first : α}
    (splits : events ++ [event] = before ++ first :: later) :
    (later = [] ∧ events = before ∧ event = first) ∨ ∃ between, later = between ++ [event] ∧ events = before ++ first :: between := by
  rcases List.eq_nil_or_concat' later with rfl | ⟨between, last, rfl⟩
  · obtain ⟨same, lasts⟩ := List.append_inj' splits rfl
    exact Or.inl ⟨rfl, same, (List.cons.inj lasts).1⟩
  · rw [← List.cons_append, ← List.append_assoc] at splits
    obtain ⟨same, lasts⟩ := List.append_inj' splits rfl
    exact Or.inr ⟨between, by rw [lasts], same⟩

variable {events : List Event}

theorem not_opened_by_reset {event : Event} (opened : ℚ) (reset : Resets threshold cooldown provider events event) :
    ¬ OpenedBy threshold cooldown provider (events ++ [event]) opened := by
  rintro ⟨before, later, splits, -, kept⟩
  rcases concat_splits splits with ⟨-, -, rfl⟩ | ⟨between, rfl, rfl⟩
  · cases reset
  · exact kept between event [] rfl reset

theorem opened_by_concat {event : Event} (opened : ℚ) (kept : ¬ Resets threshold cooldown provider events event) :
    OpenedBy threshold cooldown provider (events ++ [event]) opened ↔
      OpenedBy threshold cooldown provider events opened ∨
        (event = .failure provider opened ∧ (failuresSince threshold cooldown provider events).length + 1 = threshold) := by
  constructor
  · rintro ⟨before, later, splits, count, undisturbed⟩
    rcases concat_splits splits with ⟨-, rfl, rfl⟩ | ⟨between, rfl, rfl⟩
    · exact Or.inr ⟨rfl, count⟩
    · refine Or.inl ⟨before, between, rfl, count, ?_⟩
      intro earlier other rest parts
      exact undisturbed earlier other (rest ++ [event]) (by simp [parts])
  · rintro (⟨before, later, rfl, count, undisturbed⟩ | ⟨rfl, count⟩)
    · refine ⟨before, later ++ [event], by simp, count, ?_⟩
      intro between other rest parts
      rcases concat_splits parts with ⟨-, rfl, rfl⟩ | ⟨front, rfl, rfl⟩
      · exact kept
      · exact undisturbed between other front rfl
    · refine ⟨events, [], rfl, count, ?_⟩
      intro between other rest parts
      simp at parts

-- The opening is the failure in the threshold's place of the list.
theorem opened_by_iff (positive : 1 ≤ threshold) (events : List Event) (opened : ℚ) :
    OpenedBy threshold cooldown provider events opened ↔
      (failuresSince threshold cooldown provider events)[threshold - 1]? = some opened := by
  induction events using List.reverseRecOn with
  | nil => simp [OpenedBy, failuresSince]
  | append_singleton events event ih =>
      rw [failures_since_concat]
      by_cases reset : Resets threshold cooldown provider events event
      · have cleared : resetBy threshold cooldown provider (failuresSince threshold cooldown provider events) event = true := reset
        simp [not_opened_by_reset opened reset, noted, cleared]
      · have kept : resetBy threshold cooldown provider (failuresSince threshold cooldown provider events) event = false := by
          simpa [Resets] using reset
        rw [opened_by_concat opened reset, ih]
        cases event with
        | beforeCall other now => simp [noted, kept]
        | success other now => simp [noted, kept]
        | failure other now =>
            by_cases same : other = provider
            · subst same
              simp only [noted, kept, Bool.false_eq_true, if_false, if_true, Event.failure.injEq, true_and]
              rw [List.getElem?_append]
              by_cases inside : threshold - 1 < (failuresSince threshold cooldown other events).length
              · have past : (failuresSince threshold cooldown other events).length + 1 ≠ threshold := by omega
                simp [inside, past]
              · by_cases last : (failuresSince threshold cooldown other events).length + 1 = threshold
                · have place : threshold - 1 - (failuresSince threshold cooldown other events).length = 0 := by omega
                  simp [inside, last, place]
                · have beyond : threshold - 1 - (failuresSince threshold cooldown other events).length ≠ 0 := by omega
                  simp [inside, last, beyond]
            · simp [noted, kept, same]

-- The breaker's two fields say what the failures since the last reset do.
structure Tracks (threshold : Nat) (cooldown : ℚ) (provider : String) (failures : List ℚ) (breaker : CircuitBreaker) : Prop where
  sameThreshold : breaker.failureThreshold = threshold
  sameCooldown : breaker.cooldownSeconds = cooldown
  count : (breaker.state provider).consecutiveFailures = failures.length
  opened : (breaker.state provider).openedAt = failures[threshold - 1]?

theorem tracks_put {other : String} (entry : ProviderState) (tracks : Tracks threshold cooldown provider failures breaker)
    (different : other ≠ provider) : Tracks threshold cooldown provider failures (breaker.put other entry) := by
  have same : (breaker.put other entry).state provider = breaker.state provider := by
    simp [CircuitBreaker.put, Ne.symm different]
  exact ⟨tracks.sameThreshold, tracks.sameCooldown, by rw [same]; exact tracks.count, by rw [same]; exact tracks.opened⟩

theorem tracks_cleared (tracks : Tracks threshold cooldown provider failures breaker) :
    Tracks threshold cooldown provider [] (breaker.put provider {}) :=
  ⟨tracks.sameThreshold, tracks.sameCooldown, by simp [CircuitBreaker.put], by simp [CircuitBreaker.put]⟩

theorem before_call_tracks (tracks : Tracks threshold cooldown provider failures breaker) (other : String) (now : ℚ) :
    Tracks threshold cooldown provider (noted threshold cooldown provider failures (.beforeCall other now))
      (breaker.beforeCall other now).2 := by
  by_cases same : other = provider
  · subst same
    simp only [CircuitBreaker.beforeCall, noted, resetBy, decide_true, Bool.true_and, expired, tracks.opened, tracks.sameCooldown]
    cases failures[threshold - 1]? with
    | none => simpa using tracks
    | some opened =>
        by_cases early : now - opened < cooldown
        · simpa [early, not_le.mpr early] using tracks
        · simpa [early, not_lt.mp early] using tracks_cleared tracks
  · have kept : noted threshold cooldown provider failures (.beforeCall other now) = failures := by simp [noted, resetBy, same]
    rw [kept]
    unfold CircuitBreaker.beforeCall
    split
    · exact tracks
    · split
      · exact tracks
      · exact tracks_put _ tracks same

theorem failure_tracks (positive : 1 ≤ threshold) (tracks : Tracks threshold cooldown provider failures breaker)
    (other : String) (now : ℚ) :
    Tracks threshold cooldown provider (noted threshold cooldown provider failures (.failure other now))
      (breaker.recordFailure other now) := by
  by_cases same : other = provider
  · subst same
    have kept : noted threshold cooldown other failures (.failure other now) = failures ++ [now] := by simp [noted, resetBy]
    rw [kept]
    refine ⟨tracks.sameThreshold, tracks.sameCooldown, ?_, ?_⟩
    · simp [CircuitBreaker.recordFailure, CircuitBreaker.put, tracks.count]
    · simp only [CircuitBreaker.recordFailure, CircuitBreaker.put, if_true, tracks.count, tracks.sameThreshold, tracks.opened]
      rw [List.getElem?_append]
      by_cases inside : threshold - 1 < failures.length
      · simp [inside]
      · by_cases last : failures.length + 1 = threshold
        · have place : threshold - 1 - failures.length = 0 := by omega
          simp [inside, last, place]
        · have beyond : threshold - 1 - failures.length ≠ 0 := by omega
          have below : ¬ threshold ≤ failures.length + 1 := by omega
          simp [inside, beyond, below]
  · have kept : noted threshold cooldown provider failures (.failure other now) = failures := by simp [noted, resetBy, same]
    rw [kept]
    exact tracks_put _ tracks same

theorem success_tracks (tracks : Tracks threshold cooldown provider failures breaker) (other : String) (now : ℚ) :
    Tracks threshold cooldown provider (noted threshold cooldown provider failures (.success other now))
      (breaker.recordSuccess other) := by
  by_cases same : other = provider
  · subst same
    simpa [noted, resetBy, CircuitBreaker.recordSuccess] using tracks_cleared tracks
  · have kept : noted threshold cooldown provider failures (.success other now) = failures := by simp [noted, resetBy, same]
    rw [kept]
    exact tracks_put _ tracks same

theorem apply_tracks (positive : 1 ≤ threshold) (tracks : Tracks threshold cooldown provider failures breaker) (event : Event) :
    Tracks threshold cooldown provider (noted threshold cooldown provider failures event) (breaker.apply event) := by
  cases event with
  | beforeCall other now => exact before_call_tracks tracks other now
  | success other now => exact success_tracks tracks other now
  | failure other now => exact failure_tracks positive tracks other now

theorem after_tracks (positive : 1 ≤ threshold) (events : List Event) :
    Tracks threshold cooldown provider (failuresSince threshold cooldown provider events)
      ((newBreaker threshold cooldown).after events) := by
  induction events using List.reverseRecOn with
  | nil => exact ⟨rfl, rfl, rfl, rfl⟩
  | append_singleton events event ih =>
      rw [failures_since_concat, CircuitBreaker.after, List.foldl_append]
      exact apply_tracks positive ih event

theorem refused_iff_opened (positive : 1 ≤ threshold) (events : List Event) (now : ℚ) :
    refused threshold cooldown events provider now = true ↔
      ∃ opened, (failuresSince threshold cooldown provider events)[threshold - 1]? = some opened ∧ now - opened < cooldown := by
  have tracks : Tracks threshold cooldown provider _ _ := after_tracks positive events
  unfold refused CircuitBreaker.beforeCall
  rw [tracks.opened, tracks.sameCooldown]
  cases (failuresSince threshold cooldown provider events)[threshold - 1]? with
  | none => simp
  | some opened => by_cases early : now - opened < cooldown <;> simp [early]

-- Nobody else's event is noted.
theorem noted_other (failures : List ℚ) {event : Event} (different : event.provider ≠ provider) :
    noted threshold cooldown provider failures event = failures := by
  cases event <;> simp_all [noted, resetBy, Event.provider]

theorem failures_since_own (events : List Event) (failures : List ℚ) :
    (events.filter (fun event => event.provider = provider)).foldl (noted threshold cooldown provider) failures =
      events.foldl (noted threshold cooldown provider) failures := by
  induction events generalizing failures with
  | nil => rfl
  | cons event events ih =>
      by_cases own : event.provider = provider
      · simp [own, ih]
      · simp [own, ih, noted_other failures own]

-- Failures after the threshold's one keep it in its place.
theorem failures_keep_opening (provider : String) (cooldown : ℚ) (failures times : List ℚ) (opened : ℚ) (found : failures[threshold - 1]? = some opened) :
    ((times.map (fun time => Event.failure provider time)).foldl (noted threshold cooldown provider) failures)[threshold - 1]? =
      some opened := by
  induction times generalizing failures with
  | nil => exact found
  | cons time times ih =>
      refine ih (noted threshold cooldown provider failures (.failure provider time)) ?_
      have inside := (List.getElem?_eq_some_iff.mp found).1
      simp [noted, resetBy, List.getElem?_append_left inside, found]

end History

theorem breaker_refuses_iff (threshold : Nat) (cooldown : ℚ) (positive : 1 ≤ threshold)
    (events : List Event) (provider : String) (now : ℚ) :
    (refused threshold cooldown events provider now = true ↔
      ∃ before opened later, events = before ++ .failure provider opened :: later ∧
        (failuresSince threshold cooldown provider before).length + 1 = threshold ∧
        (∀ between event rest, later = between ++ event :: rest →
          ¬ Resets threshold cooldown provider (before ++ .failure provider opened :: between) event) ∧
        now - opened < cooldown) ∧
    refused threshold cooldown events provider now =
      refused threshold cooldown (events.filter (fun event => event.provider = provider)) provider now ∧
    ∀ (times : List ℚ) time, refused threshold cooldown events provider time = true →
      refused threshold cooldown (events ++ times.map (fun time => .failure provider time)) provider now =
        refused threshold cooldown events provider now := by
  refine ⟨?_, ?_, ?_⟩
  · rw [refused_iff_opened positive]
    constructor
    · rintro ⟨opened, found, early⟩
      obtain ⟨before, later, splits, count, kept⟩ := (opened_by_iff positive events opened).mpr found
      exact ⟨before, opened, later, splits, count, kept, early⟩
    · rintro ⟨before, opened, later, splits, count, kept, early⟩
      exact ⟨opened, (opened_by_iff positive events opened).mp ⟨before, later, splits, count, kept⟩, early⟩
  · rw [Bool.eq_iff_iff, refused_iff_opened positive, refused_iff_opened positive]
    simp only [failuresSince, failures_since_own]
  · intro times time refusedThen
    obtain ⟨opened, found, -⟩ := (refused_iff_opened positive events time).mp refusedThen
    have kept := failures_keep_opening provider cooldown _ times opened found
    rw [Bool.eq_iff_iff, refused_iff_opened positive, refused_iff_opened positive, failuresSince, List.foldl_append]
    rw [← failuresSince, kept, found]

namespace Sample

-- A second failure opens the circuit, a third one does not keep it open for longer.
def outage : List Event :=
  [.failure "openai" 0, .failure "anthropic" 1, .failure "openai" 5, .beforeCall "openai" 6, .failure "openai" 30]

end Sample

theorem breaker_refuses_in_outage :
    (∃ before opened later, Sample.outage = before ++ .failure "openai" opened :: later ∧
      (failuresSince 2 30 "openai" before).length + 1 = 2 ∧
      (∀ between event rest, later = between ++ event :: rest →
        ¬ Resets 2 30 "openai" (before ++ .failure "openai" opened :: between) event) ∧ 34 - opened < 30) ∧
      refused 2 30 Sample.outage "openai" 35 = false := by
  have iff := (breaker_refuses_iff 2 30 (by decide) Sample.outage "openai" 34).1
  exact ⟨iff.mp (by decide +kernel), by decide +kernel⟩

end AiWorld.Gateway
