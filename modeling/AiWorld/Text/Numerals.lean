import Mathlib.Logic.Function.Basic

set_option autoImplicit false

namespace AiWorld.Numerals

-- The decimal numerals of two numbers are equal only if the numbers are.
theorem nat_text_injective : Function.Injective Nat.repr := by
  intro first second same
  have digits := congrArg String.toList same
  rw [Nat.toList_repr, Nat.toList_repr] at digits
  have values := congrArg (fun text => Nat.ofDigitChars 10 text 0) digits
  simpa only [Nat.ofDigitChars_ten_toDigits] using values

theorem unsigned_text (value other : Nat) : value.repr ≠ "-" ++ other.repr := by
  intro same
  have letters := congrArg String.toList same
  rw [String.toList_append, Nat.toList_repr] at letters
  have sign : '-' ∈ Nat.toDigits 10 value := by
    rw [letters]
    exact List.mem_append_left _ (List.mem_singleton.mpr rfl)
  have digit := Nat.isDigit_of_mem_toDigits (by decide) (by decide) sign
  revert digit
  decide

theorem int_text_injective : Function.Injective (fun value : Int => toString value) := by
  intro first second same
  cases first with
  | ofNat value =>
      cases second with
      | ofNat other => exact congrArg Int.ofNat (nat_text_injective same)
      | negSucc other => exact absurd same (unsigned_text value (other + 1))
  | negSucc value =>
      cases second with
      | ofNat other => exact absurd same.symm (unsigned_text other (value + 1))
      | negSucc other =>
          have letters : ("-" ++ (value + 1).repr).toList = ("-" ++ (other + 1).repr).toList := congrArg String.toList same
          rw [String.toList_append, String.toList_append] at letters
          have digits := nat_text_injective (String.toList_injective (List.append_cancel_left letters))
          rw [Nat.succ.inj digits]

end AiWorld.Numerals
