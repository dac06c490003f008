import Mathlib.Algebra.BigOperators.Group.List.Basic
import Mathlib.Algebra.Ring.Nat
import Mathlib.Data.List.DropRight

namespace ControlVault.Foundation

open List

/-!
# Text as a list of characters

Texts are lists of Unicode scalar values.  Only the operations that the daemon
applies to identifiers are defined: trimming with the Unicode `White_Space`
property, ASCII lower-casing, the UTF-8 length used by size limits, and the
UTF-8 bytes used by hashes.  Trimming followed by lower-casing is the canonical
form under which identifiers are compared; it is idempotent.
-/

abbrev Text := List Char

/-- A string stands for its characters where a text is expected. -/
instance : Coe String Text := ⟨String.toList⟩

namespace Text

variable (char : Char)

/-- The Unicode property `White_Space`, which `str::trim` uses. -/
def isWhitespace : Bool :=
  let code := char.toNat
  (9 <= code && code <= 13) || code == 0x20 || code == 0x85 || code == 0xA0 || code == 0x1680 ||
    (0x2000 <= code && code <= 0x200A) || code == 0x2028 || code == 0x2029 || code == 0x202F ||
    code == 0x205F || code == 0x3000

def trim (text : Text) : Text :=
  (text.dropWhile isWhitespace).rdropWhile isWhitespace

def asciiLower (text : Text) : Text :=
  text.map Char.toLower

/-- Trimmed and lower-cased, the form in which identifiers are compared. -/
def canonical (text : Text) : Text :=
  asciiLower (trim text)

def utf8Length (text : Text) : Nat :=
  (text.map Char.utf8Size).sum

def utf8 (text : Text) : List UInt8 :=
  text.flatMap String.utf8EncodeChar

theorem length_utf8_le (text : Text) : text.utf8.length <= 4 * text.length := by
  induction text with
  | nil => exact Nat.zero_le _
  | cons head tail ih =>
    have one := head.utf8Size_le_four
    rw [utf8, flatMap_cons, length_append, String.length_utf8EncodeChar, length_cons]
    rw [utf8] at ih
    omega

/-- The first character can be read off its bytes, whatever follows. -/
theorem utf8EncodeChar_append_inj
    (same : String.utf8EncodeChar first ++ left = String.utf8EncodeChar second ++ right) :
    first = second /\ left = right := by
  have decoded := @ByteArray.utf8DecodeChar?_utf8EncodeChar_append left.toByteArray first
  have again := @ByteArray.utf8DecodeChar?_utf8EncodeChar_append right.toByteArray second
  rw [<- toByteArray_append] at decoded again
  rw [same, again] at decoded
  cases decoded
  exact ⟨rfl, append_cancel_left same⟩

theorem utf8_cons_ne_nil (head : Char) (tail : Text) : utf8 (head :: tail) ≠ [] := by
  simp [utf8]

theorem utf8_injective : Function.Injective utf8 := by
  intro first
  induction first with
  | nil =>
    intro second same
    cases second with
    | nil => rfl
    | cons => exact absurd same.symm (utf8_cons_ne_nil _ _)
  | cons head tail ih =>
    intro second same
    cases second with
    | nil => exact absurd same (utf8_cons_ne_nil _ _)
    | cons =>
      rcases utf8EncodeChar_append_inj same with ⟨rfl, later⟩
      rw [ih later]

/-- Whether a text contains another one as a contiguous part. -/
def contains (text pattern : Text) : Bool :=
  text.tails.any pattern.isPrefixOf

/-- The parts between the occurrences of a separator. -/
def split (separator : Char) : Text -> List Text
  | [] => [[]]
  | head :: tail =>
    if head = separator then [] :: split separator tail
    else
      match split separator tail with
      | [] => [[head]]
      | part :: parts => (head :: part) :: parts

theorem split_ne_nil (separator : Char) (text : Text) : split separator text ≠ [] := by
  cases text with
  | nil => exact cons_ne_nil _ _
  | cons head tail =>
    rw [split]
    split_ifs
    · exact cons_ne_nil _ _
    · cases split separator tail <;> exact cons_ne_nil _ _

variable {text : Text}

/-- Every character is the separator or belongs to a part. -/
theorem mem_split {separator char : Char} (mem : char ∈ text) :
    char = separator ∨ ∃ part ∈ split separator text, char ∈ part := by
  induction text with
  | nil => cases mem
  | cons head tail ih =>
    rw [split]
    split_ifs with same
    · rcases mem_cons.mp mem with rfl | later
      · exact .inl same
      · rcases ih later with separatorHere | ⟨part, partMember, inside⟩
        · exact .inl separatorHere
        · exact .inr ⟨part, mem_cons_of_mem _ partMember, inside⟩
    · cases parts : split separator tail with
      | nil => exact absurd parts (split_ne_nil separator tail)
      | cons =>
        rcases mem_cons.mp mem with rfl | later
        · exact .inr ⟨_, mem_cons_self, mem_cons_self⟩
        · rw [parts] at ih
          rcases ih later with separatorHere | ⟨part, partMember, inside⟩
          · exact .inl separatorHere
          · rcases mem_cons.mp partMember with rfl | partLater
            · exact .inr ⟨_, mem_cons_self, mem_cons_of_mem _ inside⟩
            · exact .inr ⟨part, mem_cons_of_mem _ partLater, inside⟩

/-- A trailing separator leaves an empty last part. -/
theorem split_append_separator (separator : Char) (text : Text) :
    split separator (text ++ [separator]) = split separator text ++ [[]] := by
  induction text with
  | nil => simp [split]
  | cons head tail ih =>
    rw [cons_append, split, split, ih]
    split_ifs
    · rfl
    · cases parts : split separator tail with
      | nil => exact absurd parts (split_ne_nil separator tail)
      | cons => rfl

/-- Neither end of the text is white space. -/
structure Trimmed (text : Text) : Prop where
  first : ∀ char, text.head? = some char -> isWhitespace char = false
  last : ∀ char, text.getLast? = some char -> isWhitespace char = false

theorem Trimmed.trim_eq (trimmed : Trimmed text) : trim text = text := by
  have front : text.dropWhile isWhitespace = text := by
    cases text with
    | nil => rfl
    | cons head =>
      rw [dropWhile_cons, trimmed.first head rfl]
      rfl
  rw [trim, front, rdropWhile_eq_self_iff]
  intro nonempty
  rw [trimmed.last _ (getLast?_eq_some_getLast nonempty)]
  exact Bool.false_ne_true

theorem trim_trimmed (text : Text) : Trimmed (trim text) := by
  constructor
  · intro char head
    have inherited : (text.dropWhile isWhitespace).head? = some char := by
      rcases rdropWhile_prefix isWhitespace (l := text.dropWhile isWhitespace) with ⟨_, split⟩
      rw [<- split, head?_append]
      change (trim text).head?.or _ = _
      rw [head]
      rfl
    have rejected := head?_dropWhile_not isWhitespace text
    rw [inherited] at rejected
    simpa using rejected
  · intro char last
    have nonempty : trim text ≠ [] := by
      intro empty
      rw [empty] at last
      cases last
    have rejected := rdropWhile_last_not isWhitespace (text.dropWhile isWhitespace) nonempty
    rw [getLast?_eq_some_getLast nonempty] at last
    cases last
    exact Bool.eq_false_iff.mpr rejected

theorem trim_trim (text : Text) : trim (trim text) = trim text :=
  (trim_trimmed text).trim_eq

/-- Lower-casing adds 32 to the code of `A` to `Z` and keeps every other character. -/
theorem toNat_toLower :
    char.toLower.toNat =
      if 65 <= char.toNat /\ char.toNat <= 90 then char.toNat + 32
      else char.toNat := by
  have low : ('A'.val <= char.val) <-> 65 <= char.toNat := UInt32.le_iff_toNat_le
  have high : (char.val <= 'Z'.val) <-> char.toNat <= 90 := UInt32.le_iff_toNat_le
  by_cases upper : 65 <= char.toNat /\ char.toNat <= 90
  · have same : char.toLower.val = char.val + 32 :=
      congrArg Char.val (dif_pos ⟨low.mpr upper.1, high.mpr upper.2⟩)
    rw [if_pos upper]
    change char.toLower.val.toNat = char.val.toNat + 32
    have bound : char.val.toNat <= 90 := upper.2
    rw [same]
    change (char.val.toNat + 32) % 2 ^ 32 = _
    omega
  · have same : char.toLower = char := by
      apply dif_neg
      rintro ⟨above, below⟩
      exact upper ⟨low.mp above, high.mp below⟩
    rw [if_neg upper, same]

/-- Letters are not white space, so lower-casing does not move the trimmed ends. -/
theorem isWhitespace_toLower : isWhitespace char.toLower = isWhitespace char := by
  by_cases upper : 65 <= char.toNat /\ char.toNat <= 90
  · have lowered : char.toLower.toNat = char.toNat + 32 := by
      rw [toNat_toLower, if_pos upper]
    have notBefore : isWhitespace char = false := by
      simp [isWhitespace]
      omega
    have notAfter : isWhitespace char.toLower = false := by
      simp [isWhitespace]
      omega
    rw [notBefore, notAfter]
  · rw [isWhitespace, toNat_toLower, if_neg upper, isWhitespace]

theorem toLower_toLower : char.toLower.toLower = char.toLower := by
  apply Char.toNat_inj.mp
  have settled : ¬ (65 <= char.toLower.toNat /\ char.toLower.toNat <= 90) := by
    rw [toNat_toLower char]
    split <;> omega
  rw [toNat_toLower char.toLower, if_neg settled]

theorem asciiLower_trimmed (trimmed : Trimmed text) : Trimmed (asciiLower text) := by
  constructor
  · intro char head
    rw [asciiLower, head?_map, Option.map_eq_some_iff] at head
    rcases head with ⟨original, first, rfl⟩
    rw [isWhitespace_toLower]
    exact trimmed.first original first
  · intro char last
    rw [asciiLower, getLast?_map, Option.map_eq_some_iff] at last
    rcases last with ⟨original, final, rfl⟩
    rw [isWhitespace_toLower]
    exact trimmed.last original final

theorem asciiLower_asciiLower (text : Text) : asciiLower (asciiLower text) = asciiLower text := by
  rw [asciiLower, asciiLower, map_map]
  exact map_congr_left (fun char _ => toLower_toLower char)

@[simp] theorem canonical_canonical (text : Text) : canonical (canonical text) = canonical text := by
  have trimmed : trim (canonical text) = canonical text :=
    (asciiLower_trimmed (trim_trimmed text)).trim_eq
  rw [canonical, trimmed]
  exact asciiLower_asciiLower (trim text)

/-- A text that is already in canonical form. -/
def IsCanonical (text : Text) : Prop :=
  canonical text = text

instance (text : Text) : Decidable (IsCanonical text) :=
  inferInstanceAs (Decidable (canonical text = text))

theorem isCanonical_canonical (text : Text) : IsCanonical (canonical text) :=
  canonical_canonical text

theorem IsCanonical.asciiLower_eq (same : IsCanonical text) : asciiLower text = text := by
  have lowered := asciiLower_asciiLower (trim text)
  change asciiLower (canonical text) = canonical text at lowered
  rwa [same] at lowered

theorem IsCanonical.trim_eq (same : IsCanonical text) : trim text = text := by
  have trimmed := (asciiLower_trimmed (trim_trimmed text)).trim_eq
  change trim (canonical text) = canonical text at trimmed
  rwa [same] at trimmed

/-- Trimming and lower-casing may be done in either order. -/
theorem trim_asciiLower (text : Text) : trim (asciiLower text) = canonical text := by
  have same : isWhitespace ∘ Char.toLower = isWhitespace := funext isWhitespace_toLower
  rw [canonical, trim, trim, asciiLower, asciiLower, dropWhile_map, rdropWhile, rdropWhile,
    <- map_reverse, dropWhile_map, same, map_reverse]

end Text

end ControlVault.Foundation
