import Mathlib.Algebra.Ring.Nat
import Mathlib.Data.List.AList

set_option autoImplicit false

namespace AiWorld.Projects

-- `charCodeAt` counts UTF-16 code units.
def codeUnits (character : Char) : List Nat :=
  if character.toNat < 0x10000 then [character.toNat]
  else [0xd800 + (character.toNat - 0x10000) / 0x400, 0xdc00 + (character.toNat - 0x10000) % 0x400]

-- FNV-1a, 32-bit.
def hashString (text : String) : Nat :=
  (text.toList.flatMap codeUnits).foldl (fun hash unit => ((hash ^^^ unit) * 0x01000193) % 2 ^ 32) 0x811c9dc5

def lotCount : Nat := 8 * 6

-- The allocator's state: the lots given so far and the ones taken.
structure Lots where
  assigned : AList (fun _ : String => Nat) := ∅
  taken : Nat → Bool := fun _ => false

def probes (home : Nat) : List Nat := (List.range lotCount).map (fun probe => (home + probe) % lotCount)

section Hash

variable (hash : String → Nat)

def Lots.assignsBy (lots : Lots) (id : String) : Lots :=
  if (lots.assigned.lookup id).isSome then lots
  else
    match (probes (hash id % lotCount)).find? (fun candidate => !lots.taken candidate) with
    | none => lots
    | some candidate => ⟨lots.assigned.insert id candidate, Function.update lots.taken candidate true⟩

def assignLotsBy (projectIds : List String) : AList (fun _ : String => Nat) :=
  (projectIds.foldl (Lots.assignsBy hash) {}).assigned

theorem assigns_keeps {lots : Lots} (id other : String) (lot : Nat) (given : lots.assigned.lookup id = some lot) :
    (lots.assignsBy hash other).assigned.lookup id = some lot := by
  unfold Lots.assignsBy
  split
  · exact given
  · rename_i unassigned
    split
    · exact given
    · have different : id ≠ other := by
        rintro rfl
        simp [given] at unassigned
      exact (AList.lookup_insert_ne different).trans given

theorem assign_all_keeps (ids : List String) (lots : Lots) (id : String) {lot : Nat}
    (given : lots.assigned.lookup id = some lot) : (ids.foldl (Lots.assignsBy hash) lots).assigned.lookup id = some lot := by
  induction ids generalizing lots with
  | nil => exact given
  | cons first rest ih => exact ih (lots.assignsBy hash first) (assigns_keeps hash id first lot given)

end Hash

def Lots.assigns : Lots → String → Lots := Lots.assignsBy hashString

def assignLots (projectIds : List String) : AList (fun _ : String => Nat) := (projectIds.foldl Lots.assigns {}).assigned

-- Lots are given first come, first served: what follows takes none of them back.
theorem assign_lots_prefix (first second : List String) (extends_ : first <+: second) (id : String) (lot : Nat)
    (given : (assignLots first).lookup id = some lot) : (assignLots second).lookup id = some lot := by
  obtain ⟨rest, rfl⟩ := extends_
  unfold assignLots at given ⊢
  rw [List.foldl_append]
  exact assign_all_keeps hashString rest _ id given

def hexDigits : List Char := "0123456789abcdef".toList

-- The text an id has in a response.
def uuidText (id : Nat) : String :=
  let digits := (List.range 32).map (fun place => hexDigits.getD (id / 16 ^ (31 - place) % 16) '0')
  String.ofList (digits.take 8 ++ '-' :: (digits.drop 8).take 4 ++ '-' :: (digits.drop 12).take 4 ++
    '-' :: (digits.drop 16).take 4 ++ '-' :: digits.drop 20)

end AiWorld.Projects
