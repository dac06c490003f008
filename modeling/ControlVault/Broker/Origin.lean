import ControlVault.Foundation.Decimal

namespace ControlVault.Broker

open Foundation

/-!
# Web origins

A page may only use a relying party identifier that is the host of its origin
or a parent domain of it.  Only `https` origins are accepted.
-/

structure ParsedOrigin where
  host : Text
  port : Option Nat

def stripPrefix (start text : Text) : Option Text :=
  if start.isPrefixOf text then some (text.drop start.length) else none

def trimEndMatches (char : Char) (text : Text) : Text :=
  text.rdropWhile (fun other => other = char)

/-- The texts before and after the last occurrence of a character. -/
def rsplitOnce (separator : Char) (text : Text) : Option (Text × Text) :=
  let tail := text.rtakeWhile (fun char => char ≠ separator)
  if separator ∈ text then some (text.take (text.length - tail.length - 1), tail) else none

def parsePort (text : Text) : Option Nat :=
  parseUnsigned 16 text

def parseOrigin (origin : Text) : Option ParsedOrigin :=
  match stripPrefix "https://" origin with
  | none => none
  | some rest =>
    let hostPart := trimEndMatches '/' rest
    if rest.isEmpty || ('/' ∈ rest && rest.getLast? != some '/') || hostPart.isEmpty then none
    else if '?' ∈ hostPart || '#' ∈ hostPart || '@' ∈ hostPart then none
    else
      match rsplitOnce ':' hostPart with
      | none => some ⟨hostPart.asciiLower, none⟩
      | some (host, port) =>
        if host.isEmpty then none
        else (parsePort port).map (fun number => ⟨host.asciiLower, some number⟩)

def verifyOriginStructural (origin rpId : Text) : Bool :=
  match parseOrigin origin with
  | none => false
  | some parsed =>
    let normalizedRp := (trimEndMatches '.' rpId.trim).asciiLower
    !normalizedRp.isEmpty &&
      (parsed.host = normalizedRp || ('.' :: normalizedRp).isSuffixOf parsed.host)

/-- The top origin must parse; unless the frame is a foreign one it must be the frame's own. -/
def verifyOriginContext (origin : Text) (topOrigin : Option Text) (crossOrigin : Bool)
    (rpId : Text) : Bool :=
  verifyOriginStructural origin rpId && if crossOrigin then (topOrigin.bind parseOrigin).isSome
    else
      topOrigin.all (fun top =>
        match parseOrigin top, parseOrigin origin with
        | some parsed, some frame => parsed.host = frame.host && parsed.port = frame.port
        | _, _ => false)

end ControlVault.Broker
