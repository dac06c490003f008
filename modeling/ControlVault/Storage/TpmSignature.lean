import ControlVault.Foundation.Sha256
import ControlVault.Foundation.Text

namespace ControlVault.Storage.Tpm

open Foundation List
open Sha256 (bigEndian)

/-!
# Signatures of the TPM

The TPM answers with the two numbers of a signature, and relying parties read
them in the distinguished encoding.  `readSignature` accepts one SEQUENCE of two
INTEGERs and nothing else: definite lengths in their shortest form, and contents
in two's complement without a redundant first byte.
-/

inductive Signature
  | ecDsa (r s : Bytes)
  | other

inductive CredentialKeyError
  | transientFailure (message : Text)

/-- What is left of the number when the loop stops: it skips a zero while a byte follows. -/
def skipZeros : Bytes -> Bytes
  | 0 :: next :: rest => skipZeros (next :: rest)
  | value => value

/-- There is no first byte of an empty number, where the code panics. -/
def encodeDerInteger (value : Bytes) : Option Bytes :=
  match skipZeros value with
  | [] => none
  | first :: rest =>
    let needsPadding := first &&& 0x80 != 0
    let len := (first :: rest).length + if needsPadding then 1 else 0
    some (0x02 :: UInt8.ofNat len :: ((if needsPadding then [0x00] else []) ++ first :: rest))

def signatureToDer : Signature -> Option (Except CredentialKeyError Bytes)
  | .ecDsa r s => do
    let rDer <- encodeDerInteger r
    let sDer <- encodeDerInteger s
    let seqLen := rDer.length + sDer.length
    some (.ok (0x30 :: UInt8.ofNat seqLen :: (rDer ++ sDer)))
  | .other => some (.error (.transientFailure "Invalid signature type"))

/-! ## Reading the distinguished encoding -/

def readLength : Bytes -> Option (Nat × Bytes)
  | [] => none
  | first :: rest =>
    if first < 0x80 then some (first.toNat, rest)
    else
      let digits := rest.take (first.toNat - 0x80)
      if first = 0xff ∨ digits.length ≠ first.toNat - 0x80 ∨ digits.head? = some 0 ∨
          bigEndian digits < 0x80 then none
      else some (bigEndian digits, rest.drop digits.length)

/-- The content of an element and the bytes behind it. -/
def readElement (tag : UInt8) : Bytes -> Option (Bytes × Bytes)
  | [] => none
  | first :: rest => do
    let (length, rest) <- readLength rest
    if first = tag /\ length <= rest.length then some (rest.take length, rest.drop length) else none

/-- The first nine bits of a longer content are not all equal. -/
def isMinimal : Bytes -> Bool
  | [] => false
  | [_] => true
  | first :: second :: _ =>
    !(first == 0x00 && second < 0x80) && !(first == 0xff && second >= 0x80)

def twosComplement (content : Bytes) : Int :=
  if content.head?.any (fun first => first >= 0x80) then
    (bigEndian content : Int) - 256 ^ content.length
  else bigEndian content

def readInteger (bytes : Bytes) : Option (Int × Bytes) := do
  let (content, rest) <- readElement 0x02 bytes
  if isMinimal content then some (twosComplement content, rest) else none

def readSignature (bytes : Bytes) : Option (Int × Int) := do
  let (content, behind) <- readElement 0x30 bytes
  let (r, rest) <- readInteger content
  let (s, rest) <- readInteger rest
  if behind = [] /\ rest = [] then some (r, s) else none

theorem readElement_of_short (tag : UInt8) (content rest : Bytes) (short : content.length < 0x80) :
    readElement tag (tag :: UInt8.ofNat content.length :: (content ++ rest)) =
      some (content, rest) := by
  have length : (UInt8.ofNat content.length).toNat = content.length := by
    rw [UInt8.toNat_ofNat']
    omega
  have below : UInt8.ofNat content.length < 0x80 := by
    rw [UInt8.lt_iff_toNat_lt, length]
    exact short
  simp [readElement, readLength, below, length]

/-! ## The two numbers -/

theorem bigEndian_zero (rest : Bytes) : bigEndian (0 :: rest) = bigEndian rest := by
  have zero : ∀ bytes, ofLittleEndian (bytes ++ [0]) = ofLittleEndian bytes := by
    intro bytes
    induction bytes with
    | nil => rfl
    | cons byte rest ih => rw [cons_append, ofLittleEndian, ofLittleEndian, ih]
  rw [bigEndian, reverse_cons, zero, bigEndian]

/-- The loop keeps the number and stops at a byte that is not zero or at the last one. -/
theorem skipZeros_spec (present : 0 < value.length) :
    ∃ first rest, skipZeros value = first :: rest /\ (first :: rest).length <= value.length /\
      bigEndian (first :: rest) = bigEndian value /\ (first = 0 -> rest = []) := by
  fun_induction skipZeros value with
  | case1 next rest ih =>
    rcases ih (by simp) with ⟨first, kept, skipped, shorter, same, last⟩
    exact ⟨first, kept, skipped, Nat.le_succ_of_le shorter, by rw [same, bigEndian_zero], last⟩
  | case2 value other =>
    cases value with
    | nil => cases present
    | cons first rest =>
      refine ⟨first, rest, rfl, le_rfl, rfl, ?_⟩
      rintro rfl
      cases rest with
      | nil => rfl
      | cons next rest => exact absurd rfl (other next rest)

theorem topBit_iff (byte : UInt8) : (byte &&& 0x80 != 0) = true <-> 0x80 <= byte := by
  cases byte with
  | ofBitVec bits =>
    revert bits
    decide

theorem readInteger_of_minimal (content rest : Bytes) (short : content.length < 0x80)
    (minimal : isMinimal content = true)
    (positive : content.head?.any (fun first => first >= 0x80) = false) :
    readInteger (0x02 :: UInt8.ofNat content.length :: (content ++ rest)) =
      some ((bigEndian content : Int), rest) := by
  simp [readInteger, readElement_of_short 0x02 _ _ short, minimal, twosComplement, positive]

def Sized (value : Bytes) : Prop :=
  0 < value.length /\ value.length <= 48

theorem readInteger_encodeDerInteger (sized : Sized value) :
    ∃ der, encodeDerInteger value = some der /\ der.length <= 51 /\
      ∀ rest, readInteger (der ++ rest) = some ((bigEndian value : Int), rest) := by
  rcases sized with ⟨present, bounded⟩
  rcases skipZeros_spec present with ⟨first, kept, skipped, shorter, same, last⟩
  have short := shorter.trans bounded
  rw [encodeDerInteger, skipped, <- same]
  dsimp only
  by_cases top : 0x80 <= first
  · -- The padding keeps a number with its top bit set from being read as a negative one.
    have padded := (topBit_iff first).mpr top
    rw [if_pos padded, if_pos padded, <- bigEndian_zero]
    refine ⟨_, rfl, by simp at short ⊢; omega, fun rest => ?_⟩
    apply readInteger_of_minimal (0 :: first :: kept)
    · simp at short ⊢
      omega
    · simp [isMinimal, top]
    · rfl
  · have unpadded := mt (topBit_iff first).mp top
    rw [if_neg unpadded, if_neg unpadded]
    refine ⟨_, rfl, by simp at short ⊢; omega, fun rest => ?_⟩
    apply readInteger_of_minimal (first :: kept)
    · omega
    · cases kept with
      | nil => rfl
      | cons =>
        simp [isMinimal]
        grind
    · simpa using top

/-- The signature is read back as the two numbers, so that other numbers have another encoding. -/
theorem signatureToDer_strict {r s : Bytes} (rSized : Sized r) (sSized : Sized s) :
    ∃ der, signatureToDer (.ecDsa r s) = some (.ok der) /\
      readSignature der = some ((bigEndian r : Int), (bigEndian s : Int)) /\
      ∀ otherR otherS, Sized otherR -> Sized otherS ->
        signatureToDer (.ecDsa otherR otherS) = some (.ok der) ->
          bigEndian otherR = bigEndian r /\ bigEndian otherS = bigEndian s := by
  have read : ∀ {r s}, Sized r -> Sized s -> ∃ der, signatureToDer (.ecDsa r s) = some (.ok der) /\
      readSignature der = some ((bigEndian r : Int), (bigEndian s : Int)) := by
    intro r s rSized sSized
    rcases readInteger_encodeDerInteger rSized with ⟨rDer, rEncoded, rShort, rRead⟩
    rcases readInteger_encodeDerInteger sSized with ⟨sDer, sEncoded, sShort, sRead⟩
    refine ⟨_, by rw [signatureToDer, rEncoded, sEncoded]; rfl, ?_⟩
    have whole := readElement_of_short 0x30 (rDer ++ sDer) [] (by simp; omega)
    have last := sRead []
    rw [append_nil] at last whole
    rw [length_append] at whole
    rw [readSignature, whole]
    simp [rRead, last]
  rcases read rSized sSized with ⟨der, encoded, decoded⟩
  refine ⟨der, encoded, decoded, ?_⟩
  intro otherR otherS otherRSized otherSSized otherEncoded
  rcases read otherRSized otherSSized with ⟨_, same, otherDecoded⟩
  cases otherEncoded.symm.trans same
  rw [decoded] at otherDecoded
  simpa [eq_comm] using otherDecoded

/-- Leading zeros, a set top bit and the number zero. -/
theorem padded_zero_strict : ∃ der, signatureToDer (.ecDsa [0, 0x80] [0, 0]) = some (.ok der) /\
    readSignature der = some (128, 0) := by
  have first : Sized [0, 0x80] := ⟨by decide, by decide⟩
  have second : Sized [0, 0] := ⟨by decide, by decide⟩
  rcases signatureToDer_strict first second with ⟨der, encoded, decoded, -⟩
  exact ⟨der, encoded, decoded⟩

end ControlVault.Storage.Tpm
