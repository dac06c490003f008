import ControlVault.Foundation.Bytes
import ControlVault.Foundation.Text

namespace ControlVault.Foundation

/-!
# CBOR and its decoders

A decoder reads the first item of a byte string.  None is defined here;
`Conforming` says what can be expected of one.  It reads items, in any of their
encodings: integers and lengths of every width, strings in one piece or in chunks,
containers with a count or with a break, with or without tags.  Where it returns a
map, it has read pairs of keys and values, and a later pair has replaced an
earlier one with an equal key.
-/

/-- A decoded item.  Values are equal if a map of the decoder takes them for the same key. -/
inductive CborValue
  | integer (value : Int)
  | byteString (data : Bytes)
  | text (value : Text)
  | array (items : List CborValue)
  /-- The pairs in the order of the decoder's map. -/
  | map (pairs : List (CborValue × CborValue))
  | bool (value : Bool)
  /-- A value of another kind, by a number for it. -/
  | other (code : Nat)

namespace CborValue

/-! ## Heads -/

/-- The first byte of an item, split, and the number that goes with it. -/
structure Head where
  (major info argument : Nat)

/-- How many bytes of argument follow the first byte. -/
def argumentWidth (info : Nat) : Option Nat :=
  if info <= 23 then some 0
  else if info = 24 then some 1
  else if info = 25 then some 2
  else if info = 26 then some 4
  else if info = 27 then some 8
  else if info = 31 then some 0
  else none

def readHead : Bytes -> Option (Head × Bytes)
  | [] => none
  | initial :: rest =>
    let info := initial.toNat % 32
    match argumentWidth info with
    | none => none
    | some width =>
      if rest.length < width then none
      else
        some (⟨initial.toNat / 32, info,
          if info <= 23 then info else ofLittleEndian (rest.take width).reverse⟩,
          rest.drop width)

/-- A head is read from the bytes in front, whatever is behind them. -/
theorem readHead_split {bytes rest : Bytes} {head : Head}
    (read : readHead bytes = some (head, rest)) :
    ∃ initial tail, bytes = initial :: tail ++ rest /\ head.major = initial.toNat / 32 /\
      head.info = initial.toNat % 32 /\
      ∀ other, readHead (initial :: tail ++ other) = some (head, other) := by
  cases bytes with
  | nil => cases read
  | cons initial body =>
    simp only [readHead] at read
    cases wide : argumentWidth (initial.toNat % 32) with
    | none => simp [wide] at read
    | some width =>
      simp only [wide, Option.ite_none_left_eq_some, Option.some.injEq, Prod.mk.injEq] at read
      rcases read with ⟨long, rfl, rfl⟩
      have size : (body.take width).length = width := List.length_take_of_le (by omega)
      refine ⟨initial, body.take width, by simp, rfl, rfl, fun other => ?_⟩
      simp [readHead, wide, size]

/-! ## Sequences -/

section Sequences

variable {α : Type} (item : Bytes -> Option (α × Bytes))

def repeatItems : Nat -> Bytes -> Option (List α × Bytes)
  | 0, bytes => some ([], bytes)
  | count + 1, bytes =>
    match item bytes with
    | none => none
    | some (value, rest) =>
      (repeatItems count rest).map (fun result => (value :: result.1, result.2))

/-- Items up to a break.  Every item takes a byte, so the length of the input is enough fuel. -/
def untilBreak : Nat -> Bytes -> Option (List α × Bytes)
  | 0, _ => none
  | fuel + 1, bytes =>
    if bytes.head? = some 0xff then some ([], bytes.tail)
    else
      match item bytes with
      | none => none
      | some (value, rest) =>
        (untilBreak fuel rest).map (fun result => (value :: result.1, result.2))

/-- The items that a head announces. -/
def readSequence (head : Head) (bytes : Bytes) : Option (List α × Bytes) :=
  if head.info = 31 then untilBreak item bytes.length bytes
  else repeatItems item head.argument bytes

end Sequences

/-! ## Items -/

/-- The bytes of a head with an argument, which counts what follows. -/
def Announces (front : Bytes) (major argument : Nat) : Prop :=
  ∃ info, info ≠ 31 /\ readHead front = some (⟨major, info, argument⟩, [])

/-- The bytes of a head of something that goes on until a break. -/
def Opens (front : Bytes) (major : Nat) : Prop :=
  ∃ argument, readHead front = some (⟨major, 31, argument⟩, [])

/-- The bytes of one item.  The grammar is generous: it does not say which simple values there are
or what the chunks of a string may be.  The items of a map are keys and values in turn. -/
inductive Item : Bytes -> Prop
  | leaf {front : Bytes} {major argument : Nat} (head : Announces front major argument)
      (plain : major = 0 ∨ major = 1 ∨ major = 7) : Item front
  | string {front payload : Bytes} {major : Nat} (head : Announces front major payload.length)
      (isString : major = 2 ∨ major = 3) : Item (front ++ payload)
  | counted {front : Bytes} {major count : Nat} {items : List Bytes}
      (head : Announces front major count)
      (size : major = 4 /\ items.length = count ∨ major = 5 /\ items.length = 2 * count ∨
        major = 6 /\ items.length = 1)
      (inside : ∀ item ∈ items, Item item) : Item (front ++ items.flatten)
  | opened {front : Bytes} {major count : Nat} {items : List Bytes} (head : Opens front major)
      (isList : major = 2 ∨ major = 3 ∨ major = 4 ∨ major = 5 /\ items.length = 2 * count)
      (inside : ∀ item ∈ items, Item item) : Item (front ++ (items.flatten ++ [0xff]))

/-! ## Decoders -/

section Decoders

variable (item : Bytes -> Option (CborValue × Bytes))

/-- The bytes of a key and of its value. -/
def readEntry (bytes : Bytes) : Option ((Bytes × Bytes) × Bytes) :=
  match item bytes with
  | none => none
  | some (_, rest) =>
    match item rest with
    | none => none
    | some (_, remaining) =>
      some ((bytes.take (bytes.length - rest.length), rest.take (rest.length - remaining.length)),
        remaining)

/-- The entries of a map, with or without tags in front of it. -/
def readEntries : Nat -> Bytes -> Option (List (Bytes × Bytes) × Bytes)
  | 0, _ => none
  | fuel + 1, bytes =>
    match readHead bytes with
    | none => none
    | some (head, rest) =>
      if head.major = 5 then readSequence (readEntry item) head rest
      else if head.major = 6 then readEntries fuel rest
      else none

/-- The value of a byte string that is one item and nothing else. -/
def decode (bytes : Bytes) : Option CborValue :=
  match item bytes with
  | some (value, []) => some value
  | _ => none

/-- The last entry with a key has this value. -/
def Last : List (Bytes × Bytes) -> CborValue -> CborValue -> Prop
  | [], _, _ => False
  | entry :: rest, key, value =>
    decode item entry.1 = some key /\ decode item entry.2 = some value /\
      (∀ later ∈ rest, decode item later.1 ≠ some key) ∨ Last rest key value

/-- A decoder reads items, each for itself.  Any encoding of a map becomes its pairs, and a later
pair overrides an earlier one with an equal key. -/
structure Conforming : Prop where
  reads : ∀ {data value rest}, item data = some (value, rest) -> ∃ consumed,
    data = consumed ++ rest /\ Item consumed /\
      ∀ other, item (consumed ++ other) = some (value, other)
  entries : ∀ {data pairs}, decode item data = some (.map pairs) -> ∃ entries,
    readEntries item data.length data = some (entries, []) /\
      ∀ key value, (key, value) ∈ pairs <-> Last item entries key value

end Decoders

/-- The value of a map for the key that a test recognises. -/
def find (test : CborValue -> Bool) (pairs : List (CborValue × CborValue)) : Option CborValue :=
  (pairs.find? (fun pair => test pair.1)).map Prod.snd

def isInteger (number : Int) : CborValue -> Bool
  | .integer value => value = number
  | _ => false

def isText (wanted : Text) : CborValue -> Bool
  | .text value => value = wanted
  | _ => false

end CborValue

end ControlVault.Foundation
