set_option autoImplicit false

namespace AiWorld.Concurrency

section
variable {σ ℓ : Type} (step : σ → ℓ → Option σ)

-- A run lists the labels it takes. The condition is tested in the state before
-- each step, so a theorem about conditioned runs says nothing about others.
inductive Runs (ok : σ → ℓ → Prop) : σ → List ℓ → σ → Prop where
  | nil (s : σ) : Runs ok s [] s
  | cons (s t u : σ) (label : ℓ) (rest : List ℓ) (met : ok s label)
      (next : step s label = some t) (tail : Runs ok t rest u) : Runs ok s (label :: rest) u

def runLabels (s : σ) : List ℓ → Option σ
  | [] => some s
  | label :: rest => (step s label).bind (fun t => runLabels t rest)

-- The same run with a decidable condition tested on the way.
def checkedLabels (check : σ → ℓ → Bool) (s : σ) : List ℓ → Option σ
  | [] => some s
  | label :: rest => if check s label then (step s label).bind (fun t => checkedLabels check t rest) else none

def Anything (_ : σ) (_ : ℓ) : Prop := True

variable {step}

theorem runs_of_labels (s u : σ) (labels : List ℓ) (completed : runLabels step s labels = some u) :
    Runs step Anything s labels u := by
  induction labels generalizing s with
  | nil =>
      obtain rfl : s = u := by simpa [runLabels] using completed
      exact .nil _
  | cons label rest ih =>
      cases next : step s label with
      | none => simp [runLabels, next] at completed
      | some t =>
          have later : runLabels step t rest = some u := by simpa [runLabels, next] using completed
          exact .cons s t u label rest trivial next (ih t later)

variable (step) in
theorem runs_exhibit (shows : σ → Bool) (s : σ) (labels : List ℓ) (evaluates : (runLabels step s labels).any shows = true) :
    ∃ t, Runs step Anything s labels t ∧ shows t = true := by
  cases completed : runLabels step s labels with
  | none => simp [completed] at evaluates
  | some t => exact ⟨t, runs_of_labels s t labels completed, by simpa [completed] using evaluates⟩

variable {ok : σ → ℓ → Prop} {labels front back : List ℓ} {s u : σ}

theorem runs_of_checked (check : σ → ℓ → Bool) (checks : ∀ s label, check s label = true → ok s label) (s u : σ)
    (completed : checkedLabels step check s labels = some u) : Runs step ok s labels u := by
  induction labels generalizing s with
  | nil =>
      obtain rfl : s = u := by simpa [checkedLabels] using completed
      exact .nil _
  | cons label rest ih =>
      by_cases met : check s label = true
      · cases next : step s label with
        | none => simp [checkedLabels, met, next] at completed
        | some t =>
            have later : checkedLabels step check t rest = some u := by simpa [checkedLabels, met, next] using completed
            exact .cons s t u label rest (checks s label met) next (ih t later)
      · simp [checkedLabels, met] at completed

variable (step) in
theorem checked_exhibit (check : σ → ℓ → Bool) (checks : ∀ s label, check s label = true → ok s label) (shows : σ → Bool)
    (s : σ) (labels : List ℓ) (evaluates : (checkedLabels step check s labels).any shows = true) :
    ∃ t, Runs step ok s labels t ∧ shows t = true := by
  cases completed : checkedLabels step check s labels with
  | none => simp [completed] at evaluates
  | some t => exact ⟨t, runs_of_checked check checks s t completed, by simpa [completed] using evaluates⟩

theorem runs_invariant (inv : σ → Prop) (kept : ∀ s t label, inv s → ok s label → step s label = some t → inv t)
    (run : Runs step ok s labels u) (start : inv s) : inv u := by
  induction run with
  | nil => exact start
  | cons s t u label rest met next _ ih => exact ih (kept s t label start met next)

theorem runs_relates (inv : σ → Prop) (relates : σ → σ → Prop) (refl : ∀ s, relates s s)
    (trans : ∀ s t u, relates s t → relates t u → relates s u)
    (kept : ∀ s t label, inv s → ok s label → step s label = some t → inv t ∧ relates s t) (run : Runs step ok s labels u)
    (start : inv s) : relates s u := by
  induction run with
  | nil s => exact refl s
  | cons s t u label rest met next _ ih =>
      obtain ⟨holds, first⟩ := kept s t label start met next
      exact trans s t u first (ih holds)

theorem runs_weaken {weaker : σ → ℓ → Prop} (implies : ∀ s label, ok s label → weaker s label) (run : Runs step ok s labels u) :
    Runs step weaker s labels u := by
  induction run with
  | nil s => exact .nil s
  | cons s t u label rest met next _ ih => exact .cons s t u label rest (implies s label met) next ih

theorem runs_append {t : σ} (before : Runs step ok s front t) (after : Runs step ok t back u) :
    Runs step ok s (front ++ back) u := by
  induction before with
  | nil => exact after
  | cons s m t label rest met next _ ih => exact .cons s m u label (rest ++ back) met next (ih after)

theorem runs_split (run : Runs step ok s (front ++ back) u) : ∃ t, Runs step ok s front t ∧ Runs step ok t back u := by
  induction front generalizing s with
  | nil => exact ⟨s, .nil s, run⟩
  | cons label rest ih =>
      cases run with
      | cons _ next _ _ _ met stepped tail =>
          obtain ⟨t, first, second⟩ := ih tail
          exact ⟨t, .cons s next t label rest met stepped first, second⟩

-- A label of a run is a step the run has taken.
theorem runs_step_of_mem (run : Runs step ok s labels u) (label : ℓ) (member : label ∈ labels) :
    ∃ before after, step before label = some after := by
  obtain ⟨front, back, rfl⟩ := List.append_of_mem member
  obtain ⟨before, -, rest⟩ := runs_split run
  cases rest with
  | cons _ after _ _ _ _ stepped _ => exact ⟨before, after, stepped⟩

end

end AiWorld.Concurrency
