import Mathlib.Data.List.Basic

set_option autoImplicit false

namespace AiWorld.Regex

variable {most : Option Nat}

-- A character class, as the ranges it lists.
abbrev CharClass := List (Char × Char)

def CharClass.allows (ranges : CharClass) (char : Char) : Bool :=
  ranges.any (fun range => range.1 ≤ char ∧ char ≤ range.2)

-- Patterns without groups: anchors, and runs of a class that are as long as they can be.
inductive Pattern where
  | start
  | finish
  | one (ranges : CharClass)
  | run (ranges : CharClass) (least : Nat) (most : Option Nat)
  | seq (first second : Pattern)
deriving DecidableEq, Repr

-- What can be left of a text after a run, the longest run first.
def runRests (ranges : CharClass) : Nat → Option Nat → List Char → List (List Char)
  | least, some 0, text => if least = 0 then [text] else []
  | least, _, [] => if least = 0 then [[]] else []
  | least, most, char :: text =>
      (if ranges.allows char then runRests ranges (least - 1) (most.map (· - 1)) text else []) ++
        (if least = 0 then [char :: text] else [])

-- What can be left of a text after a match, in the order of backtracking. Without the
-- multi-line flag `$` also matches before a newline that ends the text.
def Pattern.rests (whole : List Char) : Pattern → List Char → List (List Char)
  | .start, text => if text.length = whole.length then [text] else []
  | .finish, text => if text = [] ∨ text = ['\n'] then [text] else []
  | .one _, [] => []
  | .one ranges, char :: text => if ranges.allows char then [text] else []
  | .run ranges least most, text => runRests ranges least most text
  | .seq first second, text => (first.rests whole text).flatMap (second.rests whole)

-- A match from the start of the text, which need not reach its end.
def Pattern.matches (pattern : Pattern) (text : String) : Bool :=
  !(pattern.rests text.toList text.toList).isEmpty

def AtMost (length : Nat) : Option Nat → Prop
  | none => True
  | some most => length ≤ most

theorem at_most_zero (most : Option Nat) : AtMost 0 most := by
  cases most <;> simp [AtMost]

theorem at_most_succ (room : most ≠ some 0) (length : Nat) : AtMost (length + 1) most ↔ AtMost length (most.map (· - 1)) := by
  cases most with
  | none => exact Iff.rfl
  | some most =>
      have positive : most ≠ 0 := fun zero => room (congrArg some zero)
      simp only [AtMost, Option.map_some]
      omega

theorem run_rests_nil (ranges : CharClass) (least : Nat) (most : Option Nat) :
    runRests ranges least most [] = if least = 0 then [[]] else [] := by
  cases most with
  | none => rfl
  | some most => cases most <;> rfl

theorem run_rests_cons (ranges : CharClass) (least : Nat) (room : most ≠ some 0) (char : Char) (text : List Char) :
    runRests ranges least most (char :: text) =
      (if ranges.allows char then runRests ranges (least - 1) (most.map (· - 1)) text else []) ++
        (if least = 0 then [char :: text] else []) := by
  cases most with
  | none => rfl
  | some most =>
      cases most with
      | zero => exact absurd rfl room
      | succ most => rfl

-- A run stops anywhere between its bounds, within the class.
structure Taken (ranges : CharClass) (least : Nat) (most : Option Nat) (taken : List Char) : Prop where
  allowed : ∀ char ∈ taken, ranges.allows char = true
  enough : least ≤ taken.length
  few : AtMost taken.length most

theorem taken_nil (ranges : CharClass) (least : Nat) (most : Option Nat) : Taken ranges least most [] ↔ least = 0 :=
  ⟨fun taken => Nat.le_zero.mp taken.enough, fun none => ⟨by simp, Nat.le_of_eq none, at_most_zero most⟩⟩

theorem taken_cons (ranges : CharClass) (least : Nat) (room : most ≠ some 0) (char : Char) (taken : List Char) :
    Taken ranges least most (char :: taken) ↔
      ranges.allows char = true ∧ Taken ranges (least - 1) (most.map (· - 1)) taken := by
  constructor
  · intro whole
    refine ⟨whole.allowed char List.mem_cons_self, fun other member => whole.allowed other (List.mem_cons_of_mem _ member), ?_,
      (at_most_succ room taken.length).mp whole.few⟩
    have enough := whole.enough
    simp only [List.length_cons] at enough
    omega
  · rintro ⟨allowed, rest⟩
    refine ⟨by simpa [allowed] using rest.allowed, ?_, (at_most_succ room taken.length).mpr rest.few⟩
    have enough := rest.enough
    simp only [List.length_cons]
    omega

theorem mem_run_rests (ranges : CharClass) (text : List Char) (least : Nat) (most : Option Nat) (rest : List Char) :
    rest ∈ runRests ranges least most text ↔ ∃ taken, text = taken ++ rest ∧ Taken ranges least most taken := by
  induction text generalizing least most with
  | nil =>
      have only : rest ∈ runRests ranges least most [] ↔ rest = [] ∧ least = 0 := by
        by_cases none : least = 0 <;> simp [run_rests_nil, none]
      rw [only]
      constructor
      · rintro ⟨rfl, none⟩
        exact ⟨[], rfl, (taken_nil ranges least most).mpr none⟩
      · rintro ⟨taken, split, whole⟩
        obtain ⟨rfl, rfl⟩ := List.append_eq_nil_iff.mp split.symm
        exact ⟨rfl, (taken_nil ranges least most).mp whole⟩
  | cons char text ih =>
      by_cases full : most = some 0
      · subst full
        have only : rest ∈ runRests ranges least (some 0) (char :: text) ↔ rest = char :: text ∧ least = 0 := by
          by_cases none : least = 0 <;> simp [runRests, none]
        rw [only]
        constructor
        · rintro ⟨rfl, none⟩
          exact ⟨[], rfl, (taken_nil ranges least (some 0)).mpr none⟩
        · rintro ⟨taken, split, whole⟩
          obtain rfl : taken = [] := List.length_eq_zero_iff.mp (Nat.le_zero.mp whole.few)
          exact ⟨split.symm, (taken_nil ranges least (some 0)).mp whole⟩
      · rw [run_rests_cons ranges least full, List.mem_append]
        constructor
        · rintro (longer | stops)
          · by_cases allowed : ranges.allows char = true
            · rw [if_pos allowed] at longer
              obtain ⟨taken, rfl, whole⟩ := (ih _ _).mp longer
              exact ⟨char :: taken, rfl, (taken_cons ranges least full char taken).mpr ⟨allowed, whole⟩⟩
            · rw [if_neg allowed] at longer
              cases longer
          · by_cases none : least = 0
            · rw [if_pos none] at stops
              exact ⟨[], (List.mem_singleton.mp stops).symm, (taken_nil ranges least most).mpr none⟩
            · rw [if_neg none] at stops
              cases stops
        · rintro ⟨taken, split, whole⟩
          cases taken with
          | nil =>
              rw [if_pos ((taken_nil ranges least most).mp whole)]
              exact .inr (List.mem_singleton.mpr split.symm)
          | cons first taken =>
              obtain ⟨rfl, rfl⟩ := List.cons.inj split
              obtain ⟨allowed, shorter⟩ := (taken_cons ranges least full char taken).mp whole
              rw [if_pos allowed]
              exact .inl ((ih _ _).mpr ⟨taken, rfl, shorter⟩)

section
variable (whole text rest : List Char)

theorem mem_rests_start : rest ∈ Pattern.start.rests whole text ↔ rest = text ∧ text.length = whole.length := by
  by_cases same : text.length = whole.length <;> simp [Pattern.rests, same]

theorem mem_rests_finish : rest ∈ Pattern.finish.rests whole text ↔ rest = text ∧ (text = [] ∨ text = ['\n']) := by
  by_cases finished : text = [] ∨ text = ['\n'] <;> simp [Pattern.rests, finished]

theorem mem_rests_one (ranges : CharClass) :
    rest ∈ (Pattern.one ranges).rests whole text ↔ ∃ char, text = char :: rest ∧ ranges.allows char = true := by
  cases text with
  | nil => simp [Pattern.rests]
  | cons char tail =>
      constructor
      · intro left
        by_cases allowed : ranges.allows char = true
        · rw [Pattern.rests, if_pos allowed] at left
          exact ⟨char, by rw [List.mem_singleton.mp left], allowed⟩
        · rw [Pattern.rests, if_neg allowed] at left
          cases left
      · rintro ⟨first, split, allowed⟩
        obtain ⟨rfl, rfl⟩ := List.cons.inj split
        simp [Pattern.rests, allowed]

theorem mem_rests_run (ranges : CharClass) (least : Nat) (most : Option Nat) :
    rest ∈ (Pattern.run ranges least most).rests whole text ↔
      ∃ taken, text = taken ++ rest ∧ Taken ranges least most taken :=
  mem_run_rests ranges text least most rest

theorem mem_rests_seq (first second : Pattern) :
    rest ∈ (Pattern.seq first second).rests whole text ↔
      ∃ middle, middle ∈ first.rests whole text ∧ rest ∈ second.rests whole middle := by
  simp [Pattern.rests]

end

theorem matches_iff (pattern : Pattern) (text : String) :
    pattern.matches text = true ↔ ∃ rest, rest ∈ pattern.rests text.toList text.toList := by
  rw [Pattern.matches, Bool.not_eq_true', List.isEmpty_eq_false_iff_exists_mem]

end AiWorld.Regex
