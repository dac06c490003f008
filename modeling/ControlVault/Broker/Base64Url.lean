import ControlVault.Foundation.Text

namespace ControlVault.Broker

open Foundation

/-!
# The base64url alphabet

Binary fields travel as unpadded base64url texts.  Three bytes become four
characters; one or two bytes at the end become two or three.  The decoder skips
padding anywhere and does not look at the bits that are left over at the end,
so it accepts more than the encoder produces, but it inverts the encoder.
-/

def b64uChars : Text :=
  "ABCDEFGHIJKLMNOPQRSTUVWXYZabcdefghijklmnopqrstuvwxyz0123456789-_"

/-- The character for the six low bits of a number. -/
def b64uChar (bits : Nat) : Char :=
  b64uChars.getD (bits % 64) 'A'

def b64uEncode : List UInt8 -> Text
  | first :: second :: third :: rest =>
    let n := first.toNat * 2 ^ 16 + second.toNat * 2 ^ 8 + third.toNat
    b64uChar (n / 2 ^ 18) :: b64uChar (n / 2 ^ 12) :: b64uChar (n / 2 ^ 6) :: b64uChar n ::
      b64uEncode rest
  | [first, second] =>
    let n := first.toNat * 2 ^ 16 + second.toNat * 2 ^ 8
    [b64uChar (n / 2 ^ 18), b64uChar (n / 2 ^ 12), b64uChar (n / 2 ^ 6)]
  | [first] =>
    let n := first.toNat * 2 ^ 16
    [b64uChar (n / 2 ^ 18), b64uChar (n / 2 ^ 12)]
  | [] => []

/-- The six bits a byte of the text stands for. -/
def b64uValue (byte : UInt8) : Option Nat :=
  if 0x41 <= byte /\ byte <= 0x5a then some (byte.toNat - 0x41)
  else if 0x61 <= byte /\ byte <= 0x7a then some (byte.toNat - 0x61 + 26)
  else if 0x30 <= byte /\ byte <= 0x39 then some (byte.toNat - 0x30 + 52)
  else if byte = 0x2d then some 62
  else if byte = 0x5f then some 63
  else none

/-- The decoding loop: `buf` holds the `bits` bits that are not yet a whole byte. -/
def b64uDecodeFrom (buf bits : Nat) : List UInt8 -> Except Text (List UInt8)
  | [] => .ok []
  | byte :: rest =>
    if byte = 0x3d then b64uDecodeFrom buf bits rest
    else
      match b64uValue byte with
      | none => .error ("invalid base64url byte: " ++ (toString byte.toNat).toList)
      | some value =>
        if 8 <= bits + 6 then
          (b64uDecodeFrom ((buf * 64 + value) % 2 ^ (bits - 2)) (bits - 2) rest).map
            (UInt8.ofNat ((buf * 64 + value) / 2 ^ (bits - 2)) :: ·)
        else b64uDecodeFrom (buf * 64 + value) (bits + 6) rest

def b64uDecode (text : Text) : Except Text (List UInt8) :=
  b64uDecodeFrom 0 0 text.utf8

/-- A character of the alphabet is one byte, and that byte gives its bits back. -/
theorem utf8_b64uChar (bits : Nat) :
    ∃ byte, String.utf8EncodeChar (b64uChar bits) = [byte] /\ byte ≠ 0x3d /\
      b64uValue byte = some (bits % 64) := by
  have small : ∀ index : Fin 64, ∃ byte, String.utf8EncodeChar (b64uChars.getD index.val 'A') =
      [byte] /\ byte ≠ 0x3d /\ b64uValue byte = some index.val := by
    intro index
    refine ⟨(String.utf8EncodeChar (b64uChars.getD index.val 'A')).headD 0, ?_⟩
    revert index
    decide +kernel
  exact small ⟨bits % 64, Nat.mod_lt _ (by decide)⟩

theorem b64uDecodeFrom_partial (bits : Nat) (rest : Text) :
    b64uDecodeFrom 0 0 (Text.utf8 (b64uChar bits :: rest)) =
      b64uDecodeFrom (bits % 64) 6 (Text.utf8 rest) := by
  rcases utf8_b64uChar bits with ⟨_, encoded, notPadding, value⟩
  rw [Text.utf8, List.flatMap_cons, encoded, List.singleton_append, b64uDecodeFrom,
    if_neg notPadding, value]
  simp only [Nat.zero_mul, Nat.zero_add]
  rfl

theorem b64uDecodeFrom_complete (buf left bits : Nat) (rest : Text) :
    b64uDecodeFrom buf (left + 2) (Text.utf8 (b64uChar bits :: rest)) =
      (b64uDecodeFrom ((buf * 64 + bits % 64) % 2 ^ left) left (Text.utf8 rest)).map
        (UInt8.ofNat ((buf * 64 + bits % 64) / 2 ^ left) :: ·) := by
  rcases utf8_b64uChar bits with ⟨_, encoded, notPadding, value⟩
  rw [Text.utf8, List.flatMap_cons, encoded, List.singleton_append, b64uDecodeFrom,
    if_neg notPadding, value]
  rfl

private theorem ofNat_eq_of_eq (byte : UInt8) (same : number = byte.toNat) :
    UInt8.ofNat number = byte := by
  rw [same, UInt8.ofNat_toNat]

theorem b64uDecode_b64uEncode (data : List UInt8) : b64uDecode (b64uEncode data) = .ok data := by
  unfold b64uDecode
  induction data using b64uEncode.induct with
  | case1 first second third rest ih =>
    have firstBound := first.toNat_lt
    have secondBound := second.toNat_lt
    have thirdBound := third.toNat_lt
    rw [b64uEncode, b64uDecodeFrom_partial, b64uDecodeFrom_complete, b64uDecodeFrom_complete,
      b64uDecodeFrom_complete]
    rw [ofNat_eq_of_eq first (by omega), ofNat_eq_of_eq second (by omega),
      ofNat_eq_of_eq third (by omega), Nat.pow_zero, Nat.mod_one, ih]
    rfl
  | case2 first second =>
    have firstBound := first.toNat_lt
    have secondBound := second.toNat_lt
    rw [b64uEncode, b64uDecodeFrom_partial, b64uDecodeFrom_complete, b64uDecodeFrom_complete]
    rw [ofNat_eq_of_eq first (by omega), ofNat_eq_of_eq second (by omega)]
    rfl
  | case3 first =>
    have firstBound := first.toNat_lt
    rw [b64uEncode, b64uDecodeFrom_partial, b64uDecodeFrom_complete]
    rw [ofNat_eq_of_eq first (by omega)]
    rfl
  | case4 => rfl

/-! ## Both directions -/

@[simp] theorem b64uChar_mem (bits : Nat) : b64uChar bits ∈ b64uChars := by
  have every : ∀ index : Fin 64, b64uChars.getD index.val 'A' ∈ b64uChars := by
    decide +kernel
  exact every ⟨bits % 64, Nat.mod_lt _ (by decide)⟩

theorem b64uEncode_alphabet (data : List UInt8) :
    ∀ char ∈ b64uEncode data, char ∈ b64uChars := by
  induction data using b64uEncode.induct with
  | case1 _ _ _ _ ih => simpa [b64uEncode] using ih
  | _ => simp [b64uEncode]

theorem length_b64uEncode (data : List UInt8) :
    (b64uEncode data).length = (4 * data.length + 2) / 3 := by
  induction data using b64uEncode.induct with
  | case1 _ _ _ _ ih =>
    simp only [b64uEncode, List.length_cons]
    omega
  | _ => simp [b64uEncode]

/-- The sextets that a text spells. -/
def b64uSextets (text : Text) : List Nat :=
  text.utf8.filterMap b64uValue

/-- The sextets as far as they are decoded: a single one at the end is dropped, and the bits
behind the last whole byte are cleared. -/
def b64uCleared : List Nat -> List Nat
  | first :: second :: third :: fourth :: rest =>
    first :: second :: third :: fourth :: b64uCleared rest
  | [first, second, third] => [first, second, third / 4 * 4]
  | [first, second] => [first, second / 16 * 16]
  | [_] => []
  | [] => []

theorem utf8_of_value {byte : UInt8} {value : Nat} (found : b64uValue byte = some value) :
    String.utf8EncodeChar (b64uChar value) = [byte] := by
  have every : ∀ index : Fin 256, ∀ value ∈ b64uValue (UInt8.ofNat index),
      String.utf8EncodeChar (b64uChar value) = [UInt8.ofNat index] := by
    decide +kernel
  have this := every ⟨byte.toNat, byte.toNat_lt⟩ value
  rw [UInt8.ofNat_toNat] at this
  exact this found

theorem b64uDecodeFrom_filter (bytes : List UInt8) (buf bits : Nat) :
    b64uDecodeFrom buf bits (bytes.filter (fun byte => byte != 0x3d)) =
      b64uDecodeFrom buf bits bytes := by
  induction bytes generalizing buf bits with
  | nil => rfl
  | cons byte rest ih => by_cases padding : byte = 0x3d <;> simp [b64uDecodeFrom, padding, ih]

/-- The bytes of an accepted text are padding or characters of the alphabet. -/
theorem filter_of_accepted {bytes decoded : List UInt8} {buf bits : Nat}
    (accepted : b64uDecodeFrom buf bits bytes = .ok decoded) :
    bytes.filter (fun byte => byte != 0x3d) =
      Text.utf8 ((bytes.filterMap b64uValue).map b64uChar) := by
  induction bytes generalizing buf bits decoded with
  | nil => rfl
  | cons byte rest ih =>
    by_cases padding : byte = 0x3d
    · subst padding
      exact ih accepted
    · rw [b64uDecodeFrom, if_neg padding] at accepted
      cases found : b64uValue byte with
      | none =>
        rw [found] at accepted
        cases accepted
      | some value =>
        have later : ∃ buf bits decoded, b64uDecodeFrom buf bits rest = .ok decoded := by
          simp only [found] at accepted
          split_ifs at accepted
          · cases inner : b64uDecodeFrom _ _ rest with
            | error =>
              rw [inner] at accepted
              cases accepted
            | ok => exact ⟨_, _, _, inner⟩
          · exact ⟨_, _, _, accepted⟩
        rcases later with ⟨_, _, _, later⟩
        rw [List.filter_cons_of_pos (by simpa using padding), ih later,
          List.filterMap_cons_some found, List.map_cons, Text.utf8, Text.utf8, List.flatMap_cons,
          utf8_of_value found]
        rfl

theorem b64uChar_congr {first second : Nat} (same : first % 64 = second % 64) :
    b64uChar first = b64uChar second := by
  rw [b64uChar, same, b64uChar]

theorem b64uEncode_of_sextets (values : List Nat) : ∀ {decoded : List UInt8},
    b64uDecode (values.map b64uChar) = .ok decoded ->
      b64uEncode decoded = (b64uCleared values).map b64uChar := by
  unfold b64uDecode
  induction values using b64uCleared.induct with
  | case1 first second third fourth rest ih =>
    intro decoded accepted
    simp only [List.map_cons, b64uDecodeFrom_partial, b64uDecodeFrom_complete, Nat.pow_zero,
      Nat.mod_one] at accepted
    cases later : b64uDecodeFrom 0 0 (Text.utf8 (rest.map b64uChar)) with
    | error =>
      rw [later] at accepted
      cases accepted
    | ok =>
      rw [later] at accepted
      cases accepted
      simp only [b64uEncode, ih later, UInt8.toNat_ofNat', b64uCleared, List.map_cons,
        List.cons.injEq]
      exact ⟨b64uChar_congr (by omega), b64uChar_congr (by omega), b64uChar_congr (by omega),
        b64uChar_congr (by omega), trivial⟩
  | case2 first second third =>
    intro decoded accepted
    simp only [List.map_cons, b64uDecodeFrom_partial, b64uDecodeFrom_complete] at accepted
    cases accepted
    simp only [b64uEncode, UInt8.toNat_ofNat', b64uCleared, List.map_cons, List.cons.injEq]
    exact ⟨b64uChar_congr (by omega), b64uChar_congr (by omega), b64uChar_congr (by omega), rfl⟩
  | case3 first second =>
    intro decoded accepted
    simp only [List.map_cons, b64uDecodeFrom_partial, b64uDecodeFrom_complete] at accepted
    cases accepted
    simp only [b64uEncode, UInt8.toNat_ofNat', b64uCleared, List.map_cons, List.cons.injEq]
    exact ⟨b64uChar_congr (by omega), b64uChar_congr (by omega), rfl⟩
  | case4 =>
    intro decoded accepted
    simp only [List.map_cons, b64uDecodeFrom_partial] at accepted
    cases accepted
    rfl
  | case5 =>
    intro decoded accepted
    cases accepted
    rfl

/-- The codec in both directions.  The decoder accepts more than the encoder produces: padding
anywhere, and bits at the end that it does not use. -/
theorem b64u_codec (data : List UInt8) (text : Text) :
    ((∀ char ∈ b64uEncode data, char ∈ b64uChars) /\
        (b64uEncode data).length = (4 * data.length + 2) / 3 /\
        b64uDecode (b64uEncode data) = .ok data) /\
      ∀ decoded, b64uDecode text = .ok decoded ->
        text.utf8.filter (fun byte => byte != 0x3d) = Text.utf8 ((b64uSextets text).map b64uChar) /\
        b64uEncode decoded = (b64uCleared (b64uSextets text)).map b64uChar := by
  refine ⟨⟨b64uEncode_alphabet data, length_b64uEncode data, b64uDecode_b64uEncode data⟩, ?_⟩
  intro decoded accepted
  have spelled := filter_of_accepted accepted
  refine ⟨spelled, b64uEncode_of_sextets _ ?_⟩
  rw [b64uDecode, b64uSextets, <- spelled, b64uDecodeFrom_filter]
  exact accepted

theorem b64uEncode_injective (same : b64uEncode first = b64uEncode second) : first = second := by
  have decoded := b64uDecode_b64uEncode first
  rw [same, b64uDecode_b64uEncode second] at decoded
  cases decoded
  rfl

end ControlVault.Broker
