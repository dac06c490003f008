import Mathlib.Algebra.Order.Ring.Nat
import Mathlib.Data.List.Basic
import Mathlib.Tactic.Ring

namespace ControlVault.Foundation

open List

/-!
# Byte strings

Binary formats are built from numbers of a fixed width, written with the least
significant byte first, and read back by slicing.  Writing a number and reading
it back is the identity below the range of the width, and every byte string of
that width is the writing of the number it reads as.
-/

abbrev Bytes := List UInt8

/-- The lowest bytes of a number, least significant first. -/
def littleEndian : Nat -> Nat -> Bytes
  | 0, _ => []
  | width + 1, number => UInt8.ofNat number :: littleEndian width (number / 256)

def ofLittleEndian : Bytes -> Nat
  | [] => 0
  | byte :: rest => byte.toNat + 256 * ofLittleEndian rest

@[simp] theorem length_littleEndian (width number : Nat) :
    (littleEndian width number).length = width := by
  induction width generalizing number with
  | zero => rfl
  | succ width ih => rw [littleEndian, length_cons, ih]

/-- The same bytes with the most significant one first. -/
theorem reverse_littleEndian (width number : Nat) :
    (littleEndian width number).reverse =
      (range width).map (fun index => UInt8.ofNat (number / 256 ^ (width - 1 - index))) := by
  induction width generalizing number with
  | zero => rfl
  | succ width ih =>
    rw [littleEndian, reverse_cons, ih, range_succ, map_append]
    congr 1
    · apply map_congr_left
      intro index mem
      have below := mem_range.mp mem
      have exponent : width + 1 - 1 - index = (width - 1 - index) + 1 := by omega
      rw [exponent, Nat.pow_succ', Nat.div_div_eq_div_mul]
    · simp

theorem ofLittleEndian_littleEndian (bounded : number < 256 ^ width) :
    ofLittleEndian (littleEndian width number) = number := by
  induction width generalizing number with
  | zero =>
    rw [pow_zero, Nat.lt_one_iff] at bounded
    rw [bounded]
    rfl
  | succ width ih =>
    have quotient : number / 256 < 256 ^ width :=
      Nat.div_lt_of_lt_mul (by rwa [<- Nat.pow_succ'])
    have low : (UInt8.ofNat number).toNat = number % 256 := UInt8.toNat_ofNat'
    rw [littleEndian, ofLittleEndian, ih quotient]
    omega

theorem ofLittleEndian_lt (bytes : Bytes) : ofLittleEndian bytes < 256 ^ bytes.length := by
  induction bytes with
  | nil => exact Nat.one_pos
  | cons byte =>
    have low := byte.toNat_lt
    rw [ofLittleEndian, length_cons]
    omega

theorem littleEndian_ofLittleEndian (bytes : Bytes) :
    littleEndian bytes.length (ofLittleEndian bytes) = bytes := by
  induction bytes with
  | nil => rfl
  | cons byte rest ih =>
    have low := byte.toNat_lt
    have quotient : (byte.toNat + 256 * ofLittleEndian rest) / 256 = ofLittleEndian rest := by
      omega
    have head : UInt8.ofNat (byte.toNat + 256 * ofLittleEndian rest) = byte := by
      apply UInt8.toNat_inj.mp
      rw [UInt8.toNat_ofNat']
      omega
    rw [length_cons, littleEndian, ofLittleEndian, quotient, head, ih]

/-! ## Slices -/

/-- A number of bytes from a position on. -/
def slice (bytes : Bytes) (start length : Nat) : Bytes :=
  (bytes.drop start).take length

variable {length start : Nat} {bytes first : Bytes}

theorem length_slice (inside : start + length <= bytes.length) :
    (slice bytes start length).length = length := by
  rw [slice, length_take, length_drop]
  omega

theorem slice_append_right (second : Bytes) (length : Nat) (behind : first.length <= start) :
    slice (first ++ second) start length = slice second (start - first.length) length := by
  rw [slice, slice, drop_append, drop_eq_nil_of_le behind, nil_append]

theorem slice_append_add (second : Bytes) (start length : Nat) (same : first.length = offset) :
    slice (first ++ second) (offset + start) length = slice second start length := by
  rw [slice_append_right _ _ (by omega), same, Nat.add_sub_cancel_left]

theorem slice_append_left (second : Bytes) (same : first.length = length) :
    slice (first ++ second) 0 length = first := by
  rw [slice, drop_zero, <- same, take_left]

theorem slice_all (same : bytes.length = length) : slice bytes 0 length = bytes := by
  rw [slice, drop_zero, <- same, take_length]

theorem slice_append_drop (bytes : Bytes) (start length : Nat) :
    slice bytes start length ++ bytes.drop (start + length) = bytes.drop start := by
  rw [slice, <- drop_drop, take_append_drop]

end ControlVault.Foundation
