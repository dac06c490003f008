import ControlVault.Core.Ids
import Mathlib.Data.List.Infix

namespace ControlVault.Core

open Foundation List

/-!
# Relying party identifiers

A relying party is named by a DNS name.  Configuration and policy accept a name
only after the checks below, and compare names in canonical form: trimmed and
ASCII lower-cased.  The single text `*` is not a name; a rule that carries it
applies to every relying party.
-/

/-- The crate's configuration error with its message. -/
structure ConfigError where
  message : Text
  deriving DecidableEq

/-- The rule name that stands for every relying party. -/
def anyRpId : Text := "*"

def normalizeRpId (raw : Text) : Text :=
  raw.canonical

/-- One decimal octet as the standard library reads it: no sign, no leading zero. -/
def isDecimalOctet (part : Text) : Bool :=
  !part.isEmpty && part.length <= 3 && part.all Char.isDigit &&
    (part.length == 1 || part.head? != some '0') &&
    part.foldl (fun value digit => 10 * value + (digit.toNat - '0'.toNat)) 0 <= 255

def isIpv4 (text : Text) : Bool :=
  let parts := text.split '.'
  parts.length == 4 && parts.all isDecimalOctet

/-- An IPv6 literal, with or without the brackets of a URL. -/
def isIpv6 (env : Env) (text : Text) : Bool :=
  let stripped :=
    if 2 <= text.length && text.head? == some '[' && text.getLast? == some ']'
    then text.tail.dropLast else text
  env.isIpv6Address stripped

def isIpAddress (env : Env) (text : Text) : Bool :=
  isIpv4 text || env.isIpv6Address text || isIpv6 env text

def isValidDnsLabel (label : Text) : Bool :=
  !label.isEmpty && label.utf8Length <= 63 &&
    label.all (fun char => char.isAlphanum || char == '-') &&
    label.head? != some '-' && label.getLast? != some '-'

def isValidDnsName (text : Text) : Bool :=
  !text.isEmpty && (text.split '.').all isValidDnsLabel

/-- What follows the last colon, if there is a colon. -/
def afterLastColon (text : Text) : Option Text :=
  if text.elem ':' then some (text.rtakeWhile (fun char => char != ':')) else none

def hasPort (text : Text) : Bool :=
  match afterLastColon text with
  | none => false
  | some port => !port.isEmpty && port.all Char.isDigit

private def rejected (reason : String) (value : Text) : Except ConfigError Text :=
  .error ⟨reason.toList ++ ": '" ++ value ++ "'"⟩

/-- The exact check that configuration and policy apply to a relying party name. -/
def validateRpId (env : Env) (raw : Text) : Except ConfigError Text :=
  let trimmed := raw.trim
  let normalized := normalizeRpId trimmed
  if trimmed.isEmpty then .error ⟨"RP ID must not be empty"⟩
  else if trimmed.contains "://" then rejected "RP ID must not contain a scheme" trimmed
  else if trimmed.elem '/' then rejected "RP ID must not contain a path" trimmed
  else if hasPort trimmed then rejected "RP ID must not contain a port" trimmed
  else if trimmed.head? == some '*' then rejected "RP ID must not be a wildcard" trimmed
  else if trimmed.getLast? == some '.' then rejected "RP ID must not have a trailing dot" trimmed
  else if isIpAddress env normalized then rejected "RP ID must not be an IP address" normalized
  else if !isValidDnsName normalized then rejected "RP ID is not a valid DNS name" normalized
  else if !normalized.elem '.' then rejected "RP ID must have at least two labels" normalized
  else if env.isPublicSuffix normalized then
    rejected "RP ID must not be a public suffix" normalized
  else .ok normalized

private theorem guarded_ok_iff (guard : Bool) (error : ConfigError) (next : Except ConfigError Text)
    (value : Text) :
    (if guard = true then .error error else next) = .ok value <->
      guard = false /\ next = .ok value := by
  cases guard <;> simp

/-- The checks in the order of the source, as one conjunction. -/
theorem validateRpId_ok_iff (env : Env) (raw normalized : Text) :
    validateRpId env raw = .ok normalized <->
      raw.trim.isEmpty = false /\ raw.trim.contains "://" = false /\
      raw.trim.elem '/' = false /\ hasPort raw.trim = false /\
      (raw.trim.head? == some '*') = false /\ (raw.trim.getLast? == some '.') = false /\
      isIpAddress env raw.canonical = false /\
      isValidDnsName raw.canonical = true /\ raw.canonical.elem '.' = true /\
      env.isPublicSuffix raw.canonical = false /\ normalized = raw.canonical := by
  have canonicalTrim : normalizeRpId raw.trim = raw.canonical :=
    congrArg Text.asciiLower (Text.trim_trim raw)
  simp only [validateRpId, canonicalTrim, rejected, guarded_ok_iff]
  simp only [Bool.not_eq_eq_eq_not, Bool.not_false, Except.ok.injEq, eq_comm (a := normalized)]

variable {raw text : Text} {char : Char}

/-- An accepted name is returned in canonical form. -/
theorem validateRpId_ok (accepted : validateRpId env raw = .ok normalized) :
    normalized = raw.canonical :=
  ((validateRpId_ok_iff env raw normalized).mp accepted).2.2.2.2.2.2.2.2.2.2

/-- A DNS name is made of letters, digits, hyphens and the dots between labels. -/
theorem mem_of_isValidDnsName (valid : isValidDnsName text = true) (mem : char ∈ text) :
    char = '.' ∨ char = '-' ∨ char.isAlphanum = true := by
  rw [isValidDnsName, Bool.and_eq_true, all_eq_true] at valid
  have located : char = '.' ∨ ∃ label ∈ text.split '.', char ∈ label :=
    Text.mem_split mem
  rcases located with dot | ⟨label, labelMember, inside⟩
  · exact .inl dot
  · have labelValid := valid.2 label labelMember
    simp only [isValidDnsLabel, Bool.and_eq_true, all_eq_true] at labelValid
    have allowed := labelValid.1.1.2 char inside
    rw [Bool.or_eq_true, beq_iff_eq] at allowed
    exact .inr allowed.symm

theorem not_mem_of_foreign (allowed : ∀ char ∈ text,
      char = '.' ∨ char = '-' ∨ char.isAlphanum = true)
    (foreign : (char == '.' || char == '-' || char.isAlphanum) = false) :
    char ∉ text := by
  intro mem
  rcases allowed char mem with rfl | rfl | alphanumeric
  · exact absurd foreign (by decide)
  · exact absurd foreign (by decide)
  · rw [alphanumeric, Bool.or_true] at foreign
    exact absurd foreign (by decide)

theorem not_mem_of_isValidDnsName (valid : isValidDnsName text = true)
    (foreign : (char == '.' || char == '-' || char.isAlphanum) = false) :
    char ∉ text :=
  not_mem_of_foreign (fun _ => mem_of_isValidDnsName valid) foreign

theorem getLast?_ne_dot_of_isValidDnsName (valid : isValidDnsName text = true) :
    text.getLast? ≠ some '.' := by
  intro trailing
  rcases getLast?_eq_some_iff.mp trailing with ⟨front, rfl⟩
  rw [isValidDnsName, Bool.and_eq_true, all_eq_true] at valid
  have emptyLabel : [] ∈ Text.split '.' (front ++ ['.']) := by
    rw [Text.split_append_separator]
    exact mem_append_right _ mem_cons_self
  exact absurd (valid.2 [] emptyLabel) (by decide)

/-- Names with one canonical form are accepted together. -/
theorem validateRpId_congr {other : Text} (same : other.canonical = raw.canonical)
    (accepted : validateRpId env raw = .ok normalized) :
    validateRpId env other = .ok normalized := by
  rcases (validateRpId_ok_iff env raw normalized).mp accepted with
    ⟨-, -, -, -, -, -, noAddress, validName, dotted, noSuffix, rfl⟩
  rw [<- same] at noAddress validName dotted noSuffix ⊢
  -- A character without an upper case stands in the canonical form as it does in the name.
  have absent {char : Char} (kept : char.toLower = char)
      (foreign : (char == '.' || char == '-' || char.isAlphanum) = false) :
      char ∉ other.trim := by
    intro mem
    have lowered := mem_map_of_mem (f := Char.toLower) mem
    rw [kept] at lowered
    exact not_mem_of_isValidDnsName validName foreign lowered
  have noColon : ':' ∉ other.trim := absent (by decide) (by decide)
  have noSlash : '/' ∉ other.trim := absent (by decide) (by decide)
  have noStar : '*' ∉ other.trim := absent (by decide) (by decide)
  rw [validateRpId_ok_iff]
  refine ⟨?_, ?_, ?_, ?_, ?_, ?_, noAddress, validName, dotted, noSuffix, rfl⟩
  · cases empty : other.trim with
    | nil =>
      rw [Text.canonical, empty] at dotted
      exact absurd dotted (by decide)
    | cons => rfl
  · apply Bool.eq_false_iff.mpr
    intro scheme
    rcases any_eq_true.mp scheme with ⟨tail, tailMember, starts⟩
    have begins := isPrefixOf_iff_prefix.mp starts
    have inside : ':' ∈ tail := begins.subset (by decide)
    exact noColon (((mem_tails _ _).mp tailMember).subset inside)
  · exact Bool.eq_false_iff.mpr (fun slash => noSlash (elem_iff.mp slash))
  · rw [hasPort, afterLastColon, if_neg (fun colon => noColon (elem_iff.mp colon))]
  · exact beq_eq_false_iff_ne.mpr (fun star => noStar (mem_of_head? star))
  · apply beq_eq_false_iff_ne.mpr
    intro trailing
    apply getLast?_ne_dot_of_isValidDnsName validName
    rw [Text.canonical, Text.asciiLower, getLast?_map, trailing]
    rfl

/-- The canonical form of an accepted name is itself accepted. -/
theorem validateRpId_canonical (accepted : validateRpId env raw = .ok normalized) :
    validateRpId env normalized = .ok normalized := by
  apply validateRpId_congr ?_ accepted
  rw [validateRpId_ok accepted, Text.canonical_canonical]

end ControlVault.Core
