import ControlVault.Ceremony.Handler

namespace ControlVault.Ceremony

open Foundation Core CborValue

/-!
# The parser of ceremony commands

A command is a byte and a CBOR map.  The map is decoded by a library; a second walk
over the bytes, which is part of the program, looks for keys that occur twice.  The
walk skips items without decoding them, and it compares keys by their bytes.
-/

/-! ## Commands -/

inductive Command
  | makeCredential
  | getAssertion
  | getNextAssertion
  | getInfo
  | clientPin
  | reset
  | credentialMgmt
  | selection
  | vendor (byte : UInt8)
  | unknown (byte : UInt8)

def decodeCommand (byte : UInt8) : Command :=
  if byte = 0x01 then .makeCredential
  else if byte = 0x02 then .getAssertion
  else if byte = 0x04 then .getInfo
  else if byte = 0x06 then .clientPin
  else if byte = 0x07 then .reset
  else if byte = 0x0a then .credentialMgmt
  else if byte = 0x0b then .selection
  else if byte = 0x08 then .getNextAssertion
  else if 0x40 <= byte /\ byte <= 0xbf then .vendor byte
  else .unknown byte

inductive CommandClass
  | ceremony
  | safeNonCeremony
  | denied
  | unknown

def classifyCommand (byte : UInt8) : CommandClass :=
  match decodeCommand byte with
  | .makeCredential | .getAssertion => .ceremony
  | .getInfo | .clientPin | .selection => .safeNonCeremony
  | .credentialMgmt | .reset | .getNextAssertion => .denied
  | .vendor _ => .denied
  | .unknown _ => .unknown

/-! ## Looking for repeated keys -/

section Skip

variable (skip : Bytes -> Option Bytes)

def skipTimes : Nat -> Bytes -> Option Bytes
  | 0, data => some data
  | count + 1, data => (skip data).bind (skipTimes count)

/-- Skip up to a break.  Every item takes a byte, so the length of the input is enough fuel. -/
def skipUntilBreak : Nat -> Bytes -> Option Bytes
  | 0, _ => none
  | fuel + 1, data =>
    if data.head? = some 0xff then some data.tail
    else (skip data).bind (skipUntilBreak fuel)

/-- A key and its value. -/
def skipPair (data : Bytes) : Option Bytes :=
  (skip data).bind skip

/-- What follows a head, with a function for the items inside. -/
def skipBody (head : Head) (rest : Bytes) : Option Bytes :=
  match head.major with
  | 0 | 1 => some rest
  | 2 | 3 =>
    if head.info = 31 then skipUntilBreak skip rest.length rest
    else if rest.length < head.argument then none
    else some (rest.drop head.argument)
  | 4 =>
    if head.info = 31 then skipUntilBreak skip rest.length rest
    else skipTimes skip head.argument rest
  | 5 =>
    if head.info = 31 then skipUntilBreak (skipPair skip) rest.length rest
    else skipTimes (skipPair skip) head.argument rest
  | 6 => skip rest
  | _ => some rest

end Skip

/-- The rest of the data after one item.  The fuel bounds the nesting of items. -/
def skipCborValue : Nat -> Bytes -> Option Bytes
  | 0, _ => none
  | fuel + 1, data =>
    match readHead data with
    | none => none
    | some (head, rest) => skipBody (skipCborValue fuel) head rest

/-- Whether one of the next keys has the bytes of an earlier one. -/
def duplicateAmong (fuel : Nat) (seen : List Bytes) : Nat -> Bytes -> Except CeremonyError Bool
  | 0, _ => .ok false
  | count + 1, data =>
    if data.isEmpty then .error .invalidCbor
    else
      match skipCborValue fuel data with
      | none => .error .invalidCbor
      | some afterKey =>
        let keyBytes := data.take (data.length - afterKey.length)
        if keyBytes ∈ seen then .ok true
        else if afterKey.isEmpty then .error .invalidCbor
        else
          match skipCborValue fuel afterKey with
          | none => .error .invalidCbor
          | some rest => duplicateAmong fuel (keyBytes :: seen) count rest

def hasDuplicateKeys (data : Bytes) : Except CeremonyError Bool :=
  match data with
  | [] => .ok false
  | initial :: rest =>
    if initial.toNat / 32 ≠ 5 then .ok false
    else if initial.toNat % 32 <= 23 then
      duplicateAmong data.length [] (initial.toNat % 32) rest
    else if initial.toNat % 32 = 24 then
      match rest with
      | count :: body => duplicateAmong data.length [] count.toNat body
      | [] => .error .invalidCbor
    else if initial.toNat % 32 = 25 then
      match rest with
      | high :: low :: body =>
        duplicateAmong data.length [] (high.toNat * 256 + low.toNat) body
      | _ => .error .invalidCbor
    else .error .invalidCbor

/-! ## Fields -/

def maxCredentialIdSize : Nat := 256
def maxDescriptorCount : Nat := 16
def maxRpIdLength : Nat := 253

def isLabel (label : Text) : Bool :=
  !label.isEmpty && decide (label.utf8Length <= 63) &&
    label.all (fun char => char.isAlphanum || char == '-') &&
    label.head? != some '-' && label.getLast? != some '-'

/-- The relying party of a command, trimmed and in lower case. -/
def validateRpId (raw : Text) : Except CeremonyError Text :=
  if raw.trim.isEmpty then .error .rpIdEmpty
  else if maxRpIdLength < raw.trim.utf8Length then .error .rpIdTooLong
  else
    let normalized := raw.trim.asciiLower
    if normalized.contains "://" || normalized.elem '/' || normalized.elem ':' ||
        normalized.head? == some '*' || normalized.getLast? == some '.' then .error .rpIdInvalid
    else if !normalized.elem '.' then .error .rpIdInvalid
    else if (normalized.split '.').all isLabel then .ok normalized
    else .error .rpIdInvalid

section Fields

variable (env : Env) (entries : List (CborValue × CborValue)) (key : Nat)

/-- The value under a number. -/
def fieldAt : Option CborValue :=
  find (isInteger key) entries

def requireField (field : String) : Except CeremonyError CborValue :=
  match fieldAt entries key with
  | some value => .ok value
  | none => .error (.missingField field.toList)

/-- A field that may be absent has a given shape if it is there. -/
def checkField (field : String) (shape : CborValue -> Bool) :
    Except CeremonyError Unit :=
  match fieldAt entries key with
  | some value => if shape value then .ok () else .error (.invalidFieldType field.toList)
  | none => .ok ()

def isMap : CborValue -> Bool
  | .map _ => true
  | _ => false

def isBytes : CborValue -> Bool
  | .byteString _ => true
  | _ => false

def isNumber : CborValue -> Bool
  | .integer _ => true
  | _ => false

def parseRpEntity : CborValue -> Except CeremonyError Text
  | .map entries =>
    match find (isText "id") entries with
    | none => .error (.missingField "rp.id")
    | some (.text id) => validateRpId id
    | some _ => .error (.invalidFieldType "rp.id")
  | _ => .error (.invalidFieldType "rp")

def parseOptionsUv : CborValue -> Except CeremonyError Bool
  | .map entries =>
    match find (isText "uv") entries with
    | some (.bool value) => .ok value
    | _ => .ok false
  | _ => .error (.invalidFieldType "options")

def parseOptions : Except CeremonyError Bool :=
  match fieldAt entries key with
  | some value => parseOptionsUv value
  | none => .ok false

def parseCredentialId (id : Bytes) : Except CeremonyError CredentialRef :=
  if id.isEmpty || decide (maxCredentialIdSize < id.length) then .error .credentialIdTooLarge
  else .ok (.withDefaultDomain env id)

def parseDescriptor : CborValue -> Except CeremonyError CredentialRef
  | .map entries =>
    match find (isText "id") entries with
    | none => .error (.missingField "descriptor.id")
    | some (.byteString id) => parseCredentialId env id
    | some _ => .error (.invalidFieldType "descriptor.id")
  | _ => .error (.invalidFieldType "descriptor")

/-- A list of credentials, which may be absent. -/
def parseDescriptors (field : String) : Except CeremonyError (List CredentialRef) :=
  match fieldAt entries key with
  | none => .ok []
  | some (.array descriptors) =>
    if maxDescriptorCount < descriptors.length then .error .tooManyDescriptors
    else descriptors.mapM (parseDescriptor env)
  | some _ => .error (.invalidFieldType field.toList)

end Fields

/-! ## Requests -/

structure ParsedMakeCredential where
  rpId : Text
  requireUv : Bool
  excludeRefs : List CredentialRef

structure ParsedGetAssertion where
  rpId : Text
  requireUv : Bool
  allowRefs : List CredentialRef
  deriving DecidableEq

/-- The pairs of the map, if its bytes repeat no key. -/
def parseEntries (env : Env) (data : Bytes) :
    Except CeremonyError (List (CborValue × CborValue)) :=
  match decode env.readCbor data with
  | none => .error .invalidCbor
  | some (.map entries) =>
    match hasDuplicateKeys data with
    | .error error => .error error
    | .ok true => .error .duplicateKey
    | .ok false => .ok entries
  | some _ => .error .notAMap

def parseMakeCredential (env : Env) (data : Bytes) :
    Except CeremonyError ParsedMakeCredential := do
  let entries <- parseEntries env data
  let rpEntry <- requireField entries 0x02 "rp"
  let rpId <- parseRpEntity rpEntry
  let _ <- requireField entries 0x01 "clientDataHash"
  let optionsUv <- parseOptions entries 0x07
  let _ <- requireField entries 0x04 "pubKeyCredParams"
  let excludeRefs <- parseDescriptors env entries 0x05 "excludeList"
  checkField entries 0x06 "extensions" isMap
  checkField entries 0x03 "user" isMap
  checkField entries 0x08 "pinUvAuthParam" isBytes
  checkField entries 0x09 "enterpriseAttestation" isNumber
  return ⟨rpId, optionsUv, excludeRefs⟩

def parseGetAssertion (env : Env) (data : Bytes) :
    Except CeremonyError ParsedGetAssertion := do
  let entries <- parseEntries env data
  let rpId <-
    match fieldAt entries 0x01 with
    | some (.text id) => validateRpId id
    | some _ => .error (.invalidFieldType "rpId")
    | none => .error (.missingField "rpId")
  let _ <- requireField entries 0x02 "clientDataHash"
  let optionsUv <- parseOptions entries 0x05
  let allowRefs <- parseDescriptors env entries 0x03 "allowList"
  checkField entries 0x04 "extensions" isMap
  checkField entries 0x06 "pinUvAuthParam" isBytes
  checkField entries 0x07 "pinUvAuthProtocol" isNumber
  return ⟨rpId, optionsUv, allowRefs⟩

/-- A command with its map, as the handler sees it. -/
def parseCeremonyRequest (env : Env) (raw : Bytes) :
    Except CeremonyError ParsedCeremonyRequest :=
  match raw with
  | [] => .error .emptyInput
  | [_] => .error .commandTooShort
  | byte :: data =>
    match decodeCommand byte with
    | .makeCredential =>
      (parseMakeCredential env data).map (fun parsed => .makeCredential parsed.rpId)
    | .getAssertion =>
      (parseGetAssertion env data).map (fun parsed =>
        .getAssertion parsed.rpId parsed.allowRefs)
    | _ => .error .wrongCommand

end ControlVault.Ceremony
