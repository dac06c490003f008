import ControlVault.Foundation.Text
import Mathlib.Data.List.Lex
import Mathlib.Order.Lattice

namespace ControlVault.Foundation

open List

/-!
# Decimal numbers in text

Numbers are written in decimal, perhaps filled up with zeros to a minimal
width, and read back as the standard library does.  As long as a number fits
the width, comparing the texts is comparing the numbers; one digit more and
this is no longer so.
-/

def decimal (number : Nat) : Text :=
  Nat.toDigits 10 number

/-- A number with zeros in front, up to a minimal width. -/
def paddedDecimal (width number : Nat) : Text :=
  (decimal number).leftpad width '0'

/-- An unsigned number as the standard library parses it: digits, perhaps after a plus sign. -/
def parseUnsigned (bits : Nat) (text : Text) : Option Nat :=
  let digits :=
    match text with
    | '+' :: rest => rest
    | _ => text
  if digits.isEmpty || !digits.all Char.isDigit then none
  else
    let value := Nat.ofDigitChars 10 digits 0
    if value < 2 ^ bits then some value else none

theorem decimal_digits (number : Nat) : ∀ char ∈ decimal number, char.isDigit = true :=
  fun _ mem => Nat.isDigit_of_mem_toDigits (by decide) (by decide) mem

theorem length_decimal_le (positive : 0 < width) (fits : number < 10 ^ width) :
    (decimal number).length <= width :=
  (Nat.length_toDigits_le_iff (by decide) positive).mpr fits

theorem paddedDecimal_digits (width number : Nat) :
    ∀ char ∈ paddedDecimal width number, char.isDigit = true := by
  intro char mem
  rcases mem_append.mp mem with zero | digit
  · rw [eq_of_mem_replicate zero]
    rfl
  · exact decimal_digits number char digit

theorem length_paddedDecimal (positive : 0 < width) (fits : number < 10 ^ width) :
    (paddedDecimal width number).length = width := by
  rw [paddedDecimal, length_leftpad]
  exact max_eq_left (length_decimal_le positive fits)

private theorem ofDigitChars_zeros (count : Nat) (rest : Text) :
    Nat.ofDigitChars 10 (replicate count '0' ++ rest) 0 = Nat.ofDigitChars 10 rest 0 := by
  induction count with
  | zero => rfl
  | succ count ih => exact ih

theorem ofDigitChars_paddedDecimal (width number : Nat) :
    Nat.ofDigitChars 10 (paddedDecimal width number) 0 = number := by
  rw [paddedDecimal, leftpad, ofDigitChars_zeros]
  exact Nat.ofDigitChars_ten_toDigits

theorem paddedDecimal_ne_nil (width number : Nat) : paddedDecimal width number ≠ [] := by
  intro empty
  exact Nat.toDigits_ne_nil (append_eq_nil_iff.mp empty).2

/-- A padded number is read back as itself, if it is in range. -/
theorem parseUnsigned_paddedDecimal (bits width number : Nat) :
    parseUnsigned bits (paddedDecimal width number) =
      if number < 2 ^ bits then some number else none := by
  have digits := paddedDecimal_digits width number
  have value := ofDigitChars_paddedDecimal width number
  cases text : paddedDecimal width number with
  | nil => exact absurd text (paddedDecimal_ne_nil width number)
  | cons head tail =>
    rw [text] at digits value
    have notPlus : head ≠ '+' := by
      rintro rfl
      exact absurd (digits '+' mem_cons_self) (by decide)
    have all : (head :: tail).all Char.isDigit = true := all_eq_true.mpr digits
    rw [parseUnsigned, all, value, if_neg (by simp)]
    intro rest same
    cases same
    exact notPlus rfl

theorem paddedDecimal_injective (width : Nat)
    (same : paddedDecimal width first = paddedDecimal width second) : first = second := by
  rw [<- ofDigitChars_paddedDecimal width first, same, ofDigitChars_paddedDecimal]

/-! ## Order -/

private theorem digit_bounds {char : Char} (digit : char.isDigit = true) :
    48 <= char.toNat /\ char.toNat <= 57 := by
  rw [Char.isDigit, Bool.and_eq_true, decide_eq_true_iff, decide_eq_true_iff] at digit
  exact ⟨UInt32.le_iff_toNat_le.mp digit.1, UInt32.le_iff_toNat_le.mp digit.2⟩

private theorem char_lt_iff (first second : Char) : first < second <-> first.toNat < second.toNat :=
  UInt32.lt_iff_toNat_lt

/-- Digit strings of one length are ordered like the numbers they continue. -/
theorem ofDigitChars_lt_iff (first : Text) :
    ∀ (second : Text) (firstStart secondStart : Nat), first.length = second.length ->
      (∀ char ∈ first, char.isDigit = true) ->
      (∀ char ∈ second, char.isDigit = true) ->
      (Nat.ofDigitChars 10 first firstStart < Nat.ofDigitChars 10 second secondStart <->
        firstStart < secondStart ∨ firstStart = secondStart /\ first < second) := by
  induction first with
  | nil =>
    intro second firstStart secondStart same _ _
    rw [length_eq_zero_iff.mp same.symm]
    simp [Nat.ofDigitChars]
  | cons head tail ih =>
    intro second firstStart secondStart same firstDigits secondDigits
    cases second with
    | nil => exact absurd same (by simp)
    | cons other rest =>
      have headBounds := digit_bounds (firstDigits head mem_cons_self)
      have otherBounds := digit_bounds (secondDigits other mem_cons_self)
      have step := ih rest (10 * firstStart + (head.toNat - 48))
        (10 * secondStart + (other.toNat - 48)) (Nat.succ.inj same)
        (fun char mem => firstDigits char (mem_cons_of_mem _ mem))
        (fun char mem => secondDigits char (mem_cons_of_mem _ mem))
      have sameChar : head = other <-> head.toNat = other.toNat := Char.toNat_inj.symm
      rw [cons_lt_cons_iff, char_lt_iff, sameChar]
      refine step.trans ?_
      constructor
      · rintro (less | ⟨equal, later⟩)
        · rcases Nat.lt_trichotomy firstStart secondStart with below | rfl | _
          · exact .inl below
          · exact .inr ⟨rfl, .inl (by omega)⟩
          · omega
        · exact .inr ⟨by omega, .inr ⟨by omega, later⟩⟩
      · rintro (below | ⟨rfl, less | ⟨equal, later⟩⟩)
        · exact .inl (by omega)
        · exact .inl (by omega)
        · exact .inr ⟨by omega, later⟩

/-- Within the width, padded numbers are ordered like the numbers. -/
theorem paddedDecimal_lt (positive : 0 < width) (less : first < second)
    (fits : second < 10 ^ width) : paddedDecimal width first < paddedDecimal width second := by
  have same : (paddedDecimal width first).length = (paddedDecimal width second).length := by
    rw [length_paddedDecimal positive (less.trans fits), length_paddedDecimal positive fits]
  have order := ofDigitChars_lt_iff _ _ 0 0 same (paddedDecimal_digits width first)
    (paddedDecimal_digits width second)
  rw [ofDigitChars_paddedDecimal, ofDigitChars_paddedDecimal] at order
  rcases order.mp less with never | ⟨_, lower⟩
  · exact absurd never (lt_irrefl 0)
  · exact lower

end ControlVault.Foundation
