import ControlVault.Authenticator.Service
import ControlVault.Foundation.Decimal
import ControlVault.Foundation.Json

namespace ControlVault.Authenticator

open Foundation

/-!
# The file of the PIN state

The state of the PIN is kept in one file.  A save empties the file when it opens
it and then writes the new text.  A crash in between leaves a part of the text,
which no longer parses, so that the next load reports an error.
-/

/-- The hash of a PIN always has 32 bytes. -/
structure SecPinHash where
  bytes : Bytes
  size : bytes.length = 32
  deriving DecidableEq

/-- A slice of another length becomes a hash of zeros. -/
def SecPinHash.ofSlice (bytes : Bytes) : SecPinHash :=
  if size : bytes.length = 32 then ⟨bytes, size⟩ else ⟨List.replicate 32 0, List.length_replicate⟩

/-- The state of the PIN, with either kind of hash. -/
structure PinRecord (Hash : Type) where
  pinHash : Option Hash
  (retries uvRetries minPinLength : UInt8)
  version : UInt64
  forcePinChange : Bool
  credentialWrappingGeneration : UInt64
  lockedUntil : Option UInt64
  deriving DecidableEq

abbrev PinState := PinRecord SecPinHash

/-- What the file spells out; nothing is said about the length of a hash. -/
abbrev SerializablePinState := PinRecord Bytes

namespace PinState

def isPinSet (state : PinState) : Bool :=
  state.pinHash.isSome

def toSerializable (state : PinState) : SerializablePinState :=
  { state with pinHash := state.pinHash.map SecPinHash.bytes }

def ofSerializable (stored : SerializablePinState) : PinState :=
  { stored with pinHash := stored.pinHash.map SecPinHash.ofSlice }

theorem ofSerializable_toSerializable (state : PinState) :
    ofSerializable state.toSerializable = state := by
  have back : SecPinHash.ofSlice ∘ SecPinHash.bytes = id := by
    funext hash
    exact dif_pos hash.size
  unfold ofSerializable toSerializable
  rw [Option.map_map, back, Option.map_id_fun]
  rfl

end PinState

/-- What a missing file stands for. -/
def SerializablePinState.default : SerializablePinState where
  pinHash := none
  retries := 8
  uvRetries := 8
  minPinLength := 4
  version := 0
  forcePinChange := false
  credentialWrappingGeneration := 0
  lockedUntil := none

/-- The functions of the JSON library at the type of the stored states. -/
structure PinCodec where
  toJsonBytes : SerializablePinState -> Bytes
  fromJsonBytes : Bytes -> Option SerializablePinState

namespace PinCodec

/-- The text of a state can be read back, and a part of it is not the text of anything. -/
structure Reliable (codec : PinCodec) (state : SerializablePinState) : Prop where
  reads : codec.fromJsonBytes (codec.toJsonBytes state) = some state
  incomplete : ∀ count < (codec.toJsonBytes state).length,
    codec.fromJsonBytes ((codec.toJsonBytes state).take count) = none

/-- Where a save stops: before the file is opened, or after some of the bytes are written. -/
inductive CrashPoint
  | unopened
  | written (count : Nat)

section

variable (codec : PinCodec)

/-- The state in a file, which may be missing. -/
def loadState : Option Bytes -> Except StatusCode SerializablePinState
  | none => .ok .default
  | some contents =>
    match codec.fromJsonBytes contents with
    | none => .error .invalidParameter
    | some state => .ok state

def loadPinState (file : Option Bytes) : Except StatusCode PinState :=
  (codec.loadState file).map PinState.ofSerializable

def isPinConfigured (file : Option Bytes) : Except StatusCode Bool :=
  (codec.loadPinState file).map PinState.isPinSet

/-- The file behind a save that stops. -/
def saveState (file : Option Bytes) (state : SerializablePinState) : CrashPoint -> Option Bytes
  | .unopened => file
  | .written count => some ((codec.toJsonBytes state).take count)

def savePinState (file : Option Bytes) (state : PinState) (crash : CrashPoint) : Option Bytes :=
  codec.saveState file state.toSerializable crash

/-- The next load finds one of the two states. -/
structure Survives (old new : PinState) (file : Option Bytes) : Prop where
  loads : codec.loadPinState file = .ok old ∨ codec.loadPinState file = .ok new
  configured : old.isPinSet = true -> new.isPinSet = true ->
    codec.isPinConfigured file = .ok true
  retries : ∀ state, codec.loadPinState file = .ok state ->
    state.retries.toNat <= max old.retries.toNat new.retries.toNat

end

variable {codec : PinCodec} {file : Option Bytes} {old new : PinState}

theorem Survives.of_loads
    (loads : codec.loadPinState file = .ok old ∨ codec.loadPinState file = .ok new) :
    codec.Survives old new file := by
  refine ⟨loads, ?_, ?_⟩
  · intro oldSet newSet
    unfold isPinConfigured
    rcases loads with loaded | loaded
    · rw [loaded, Except.map, oldSet]
    · rw [loaded, Except.map, newSet]
  · intro state found
    rcases loads with loaded | loaded
    · cases loaded.symm.trans found
      exact le_max_left _ _
    · cases loaded.symm.trans found
      exact le_max_right _ _

/-- A save survives a crash exactly before it opens the file and after its last byte. -/
theorem save_survives_iff (codec : PinCodec) (file : Option Bytes) (old new : PinState)
    (reliable : codec.Reliable new.toSerializable) (stored : codec.loadPinState file = .ok old)
    (crash : CrashPoint) :
    codec.Survives old new (codec.savePinState file new crash) <->
      ∀ count, crash = .written count -> (codec.toJsonBytes new.toSerializable).length <= count := by
  cases crash with
  | unopened => exact iff_of_true (.of_loads (.inl stored)) nofun
  | written count =>
    constructor
    · rintro ⟨loads, -, -⟩ _ ⟨⟩
      by_contra early
      have failed : codec.loadPinState (codec.savePinState file new (.written count)) =
          .error .invalidParameter := by
        rw [savePinState, saveState, loadPinState, loadState,
          reliable.incomplete count (Nat.lt_of_not_le early)]
        rfl
      rw [failed] at loads
      rcases loads with loaded | loaded <;> cases loaded
    · intro complete
      refine .of_loads (.inr ?_)
      calc codec.loadPinState (codec.savePinState file new (.written count))
          = codec.loadPinState (some (codec.toJsonBytes new.toSerializable)) := by
            rw [savePinState, saveState, List.take_of_length_le (complete count rfl)]
        _ = .ok (PinState.ofSerializable new.toSerializable) := by
            rw [loadPinState, loadState, reliable.reads]
            rfl
        _ = .ok new := by rw [new.ofSerializable_toSerializable]

end PinCodec

/-! ## The texts of the JSON library -/

namespace PinCodec.Sample

/-- A member of an object. -/
def mem (key value : Text) : Text :=
  '"' :: key ++ '"' :: ':' :: value

/-- The text of a state, without blanks and with the members in the order of the fields. -/
def toJson (state : SerializablePinState) : Text :=
  let list := fun bytes : Bytes =>
    '[' :: [','].intercalate (bytes.map fun byte => decimal byte.toNat) ++ [']']
  let members :=
    (state.pinHash.map fun hash => mem "pin_hash" (list hash)).toList ++
    [mem "retries" (decimal state.retries.toNat),
      mem "uv_retries" (decimal state.uvRetries.toNat),
      mem "min_pin_length" (decimal state.minPinLength.toNat),
      mem "version" (decimal state.version.toNat),
      mem "force_pin_change" (if state.forcePinChange then "true" else "false"),
      mem "credential_wrapping_generation"
        (decimal state.credentialWrappingGeneration.toNat)] ++
    (state.lockedUntil.map fun time => mem "locked_until" (decimal time.toNat)).toList
  '\x7b' :: [','].intercalate members ++ ['\x7d']

def number (bits : Nat) : Json -> Option Nat
  | .number literal => parseUnsigned bits literal
  | _ => none

def flag : Json -> Option Bool
  | .bool value => some value
  | _ => none

def hash : Json -> Option Bytes
  | .array items => items.mapM fun item => (number 8 item).map UInt8.ofNat
  | _ => none

/-- A field that may be missing or null. -/
def optional {A : Type} (read : Json -> Option A) : Option Json -> Option (Option A)
  | none | some .null => some none
  | some value => (read value).map some

/-- The state that an object describes: a field may have a default, and none may be repeated. -/
def ofMembers (members : List (Text × Json)) : Option SerializablePinState := do
  let known : List Text := ["pin_hash", "retries", "uv_retries", "min_pin_length", "version",
    "force_pin_change", "credential_wrapping_generation", "locked_until"]
  if known.any fun key => 1 < members.countP (·.1 = key) then none
  else
    let field := fun key : Text => (members.find? (·.1 = key)).map Prod.snd
    let pinHash ← optional hash (field "pin_hash")
    let retries ← (field "retries").bind (number 8)
    let uvRetries ← (field "uv_retries").elim (some 3) (number 8)
    let minPinLength ← (field "min_pin_length").bind (number 8)
    let version ← (field "version").bind (number 64)
    let forcePinChange ← (field "force_pin_change").elim (some false) flag
    let gen ← (field "credential_wrapping_generation").elim (some 0) (number 64)
    let lockedUntil ← optional (number 64) (field "locked_until")
    return {
      pinHash
      retries := .ofNat retries
      uvRetries := .ofNat uvRetries
      minPinLength := .ofNat minPinLength
      version := .ofNat version
      forcePinChange
      credentialWrappingGeneration := .ofNat gen
      lockedUntil := lockedUntil.map UInt64.ofNat }

/-- Texts of plain characters, as all texts of states are. -/
def codec : PinCodec where
  toJsonBytes state := (toJson state).utf8
  fromJsonBytes contents :=
    if contents.any (0x80 <= ·) then none
    else
      match Json.parse (contents.map fun byte => Char.ofNat byte.toNat) with
      | some (.object members) => ofMembers members
      | _ => none

def guarded : PinState where
  pinHash := some ⟨List.replicate 32 7, rfl⟩
  retries := 8
  uvRetries := 8
  minPinLength := 4
  version := 3
  forcePinChange := false
  credentialWrappingGeneration := 0
  lockedUntil := none

/-- The state after a wrong PIN. -/
def attempted : PinState :=
  { guarded with retries := 7 }

def stored : Option Bytes :=
  some (codec.toJsonBytes guarded.toSerializable)

theorem attempted_reliable : codec.Reliable attempted.toSerializable := by
  constructor
  · decide +kernel
  · decide +kernel

/-- A PIN that is set before and after the change cannot be found any more. -/
theorem emptied_file_fails :
    guarded.isPinSet = true /\ attempted.isPinSet = true /\
      codec.loadPinState stored = .ok guarded /\
      codec.isPinConfigured (codec.savePinState stored attempted (.written 0)) =
        .error .invalidParameter := by
  decide +kernel

/-- A save that writes all of its text is read back. -/
theorem written_file_survives :
    codec.Survives guarded attempted (codec.savePinState stored attempted
      (.written (codec.toJsonBytes attempted.toSerializable).length)) := by
  refine (save_survives_iff codec stored guarded attempted attempted_reliable ?_ _).mpr ?_
  · decide +kernel
  · rintro count ⟨⟩
    exact le_rfl

end PinCodec.Sample

end ControlVault.Authenticator
