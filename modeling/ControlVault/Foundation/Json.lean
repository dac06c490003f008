import ControlVault.Foundation.Text

namespace ControlVault.Foundation

/-!
# Reading JSON

A parser for the whole of RFC 8259, as a specification of what a reader finds in
a text.  Strings are scanned one character at a time; an escape that spells half
of a surrogate pair must be followed by the other half.  Objects keep their
members in order, with repetitions, so that a statement can say how often a key
occurs.

The nesting of values is bounded by a number that the length of the text
exceeds.
-/

inductive Json
  | null
  | bool (value : Bool)
  | number (literal : Text)
  | string (value : Text)
  | array (items : List Json)
  | object (members : List (Text × Json))

namespace Json

/-! ## Strings -/

/-- Where a scan inside a string stands. -/
inductive ScanMode
  | plain
  | escaped
  /-- Inside a numeric escape, with the number of digits that are missing and the value so far. -/
  | unit (missing value : Nat)

def hexDigit (char : Char) : Option Nat :=
  if char.isDigit then some (char.toNat - '0'.toNat)
  else if 'a' <= char /\ char <= 'f' then some (char.toNat - 'a'.toNat + 10)
  else if 'A' <= char /\ char <= 'F' then some (char.toNat - 'A'.toNat + 10)
  else none

def simpleEscape : Char -> Option Char
  | '"' => some '"'
  | '\\' => some '\\'
  | '/' => some '/'
  | 'b' => some '\x08'
  | 'f' => some '\x0c'
  | 'n' => some '\n'
  | 'r' => some '\r'
  | 't' => some '\t'
  | _ => none

/-- A code unit of an escape: a character, the first half of one, or an error. -/
def codeUnit (high : Option Nat) (value : Nat) : Option (Char ⊕ Nat) :=
  match high with
  | none =>
    if 0xD800 <= value /\ value < 0xDC00 then some (.inr value)
    else if 0xDC00 <= value /\ value < 0xE000 then none
    else some (.inl (Char.ofNat value))
  | some first =>
    if 0xDC00 <= value /\ value < 0xE000 then
      some (.inl (Char.ofNat (0x10000 + (first - 0xD800) * 0x400 + (value - 0xDC00))))
    else none

/-- The rest of a string up to its quote, and the text after it.  The first argument is the
first half of a surrogate pair, if the last escape spelled one. -/
def scanString : Option Nat -> ScanMode -> Text -> Option (Text × Text)
  | _, _, [] => none
  | high, .plain, char :: rest =>
    if char = '\\' then scanString high .escaped rest
    else if high.isSome then none
    else if char = '"' then some ([], rest)
    else if char.toNat < 0x20 then none
    else (scanString none .plain rest).map (fun result => (char :: result.1, result.2))
  | high, .escaped, char :: rest =>
    if char = 'u' then scanString high (.unit 4 0) rest
    else if high.isSome then none
    else
      match simpleEscape char with
      | none => none
      | some decoded =>
        (scanString none .plain rest).map (fun result => (decoded :: result.1, result.2))
  | high, .unit missing value, char :: rest =>
    match hexDigit char with
    | none => none
    | some digit =>
      if 1 < missing then scanString high (.unit (missing - 1) (value * 16 + digit)) rest
      else
        match codeUnit high (value * 16 + digit) with
        | none => none
        | some (.inl decoded) =>
          (scanString none .plain rest).map (fun result => (decoded :: result.1, result.2))
        | some (.inr half) => scanString (some half) .plain rest

/-! ## Numbers -/

def afterDigits (text : Text) : Option Text :=
  if (text.takeWhile Char.isDigit).isEmpty then none else some (text.dropWhile Char.isDigit)

def afterInteger : Text -> Option Text
  | '-' :: '0' :: rest => some rest
  | '-' :: rest => afterDigits rest
  | '0' :: rest => some rest
  | text => afterDigits text

def afterFraction : Text -> Option Text
  | '.' :: rest => afterDigits rest
  | text => some text

def isSign (char : Char) : Bool :=
  char = '+' || char = '-'

def afterExponent : Text -> Option Text
  | char :: rest =>
    if char = 'e' ∨ char = 'E' then
      match rest with
      | sign :: digits => if isSign sign then afterDigits digits else afterDigits rest
      | [] => none
    else some (char :: rest)
  | [] => some []

def parseNumber (text : Text) : Option (Json × Text) :=
  (((afterInteger text).bind afterFraction).bind afterExponent).map (fun rest =>
    (.number (text.take (text.length - rest.length)), rest))

/-! ## Values -/

def isSpace (char : Char) : Bool :=
  char = ' ' || char = '\t' || char = '\n' || char = '\r'

def skipSpace (text : Text) : Text :=
  text.dropWhile isSpace

mutual

def parseValue : Nat -> Text -> Option (Json × Text)
  | 0, _ => none
  | depth + 1, text =>
    match skipSpace text with
    | '"' :: rest =>
      (scanString none .plain rest).map (fun result => (.string result.1, result.2))
    | '\x7b' :: rest =>
      match skipSpace rest with
      | '\x7d' :: after => some (.object [], after)
      | _ => (parseMembers depth rest).map (fun result => (.object result.1, result.2))
    | '[' :: rest =>
      match skipSpace rest with
      | ']' :: after => some (.array [], after)
      | _ => (parseItems depth rest).map (fun result => (.array result.1, result.2))
    | 't' :: 'r' :: 'u' :: 'e' :: rest => some (.bool true, rest)
    | 'f' :: 'a' :: 'l' :: 's' :: 'e' :: rest => some (.bool false, rest)
    | 'n' :: 'u' :: 'l' :: 'l' :: rest => some (.null, rest)
    | other => parseNumber other

def parseMembers : Nat -> Text -> Option (List (Text × Json) × Text)
  | 0, _ => none
  | depth + 1, text =>
    match skipSpace text with
    | '"' :: rest =>
      match scanString none .plain rest with
      | none => none
      | some (key, named) =>
        match skipSpace named with
        | ':' :: rest =>
          match parseValue depth rest with
          | none => none
          | some (value, after) =>
            match skipSpace after with
            | ',' :: more =>
              (parseMembers depth more).map (fun result =>
                ((key, value) :: result.1, result.2))
            | '\x7d' :: rest => some ([(key, value)], rest)
            | _ => none
        | _ => none
    | _ => none

def parseItems : Nat -> Text -> Option (List Json × Text)
  | 0, _ => none
  | depth + 1, text =>
    match parseValue depth text with
    | none => none
    | some (value, after) =>
      match skipSpace after with
      | ',' :: more =>
        (parseItems depth more).map (fun result => (value :: result.1, result.2))
      | ']' :: rest => some ([value], rest)
      | _ => none

end

/-- A text that is one value and nothing else. -/
def parse (text : Text) : Option Json :=
  match parseValue (text.length + 1) text with
  | none => none
  | some (value, rest) => if (skipSpace rest).isEmpty then some value else none

/-- The value that the bytes of a text spell. -/
def Reads (bytes : List UInt8) (value : Json) : Prop :=
  ∃ text : Text, text.utf8 = bytes /\ parse text = some value

/-! ## Characters that stand for themselves -/

def isPlain (char : Char) : Bool :=
  char ≠ '"' && char ≠ '\\' && 0x20 <= char.toNat

theorem scanString_cons_of_plain (plain : isPlain char = true) (rest : Text) :
    scanString none .plain (char :: rest) =
      (scanString none .plain rest).map (fun result => (char :: result.1, result.2)) := by
  simp only [isPlain, Bool.and_eq_true, decide_eq_true_eq] at plain
  rw [scanString, if_neg plain.1.2, if_neg (by simp), if_neg plain.1.1, if_neg (not_lt.mpr plain.2)]

theorem scanString_of_plain (plain : ∀ char ∈ text, isPlain char = true)
    (rest : Text) : scanString none .plain (text ++ '"' :: rest) = some (text, rest) := by
  induction text with
  | nil => rfl
  | cons head tail ih =>
    rw [List.cons_append, scanString_cons_of_plain (plain head List.mem_cons_self),
      ih (fun char mem => plain char (List.mem_cons_of_mem _ mem))]
    rfl

/-- What a scan over a text can find: at most as many characters as the text has, and as many only
if each stands for itself; or the scan ran over a quote that the text escaped. -/
def Bounded (mode : ScanMode) (text out : Text) : Prop :=
  (out.length <= text.length /\ (mode = .plain -> out.length = text.length ->
      ∀ char ∈ text, isPlain char = true)) ∨
    (out.getLast? = some ',' /\ (mode = .escaped /\ text = [] ∨ text.getLast? = some '\\'))

theorem getLast?_cons_of_some {text : Text}
    (found : text.getLast? = some last) : (head :: text).getLast? = some last := by
  rw [List.getLast?_cons, found]
  rfl

section

theorem Bounded.skip (bounded : Bounded next text out) (inside : mode ≠ .plain)
    (past : next ≠ .escaped) : Bounded mode (head :: text) out := by
  rcases bounded with ⟨short, -⟩ | ⟨comma, beyond⟩
  · exact .inl ⟨Nat.le_succ_of_le short, fun plain => absurd plain inside⟩
  · have last := beyond.resolve_left (fun escaped => past escaped.1)
    exact .inr ⟨comma, .inr (getLast?_cons_of_some last)⟩

/-- One more character was found, by an escape or as it stands. -/
theorem Bounded.found (bounded : Bounded .plain text out)
    (itself : mode = .plain -> isPlain head = true) :
    Bounded mode (head :: text) (decoded :: out) := by
  rcases bounded with ⟨short, plain⟩ | ⟨comma, ⟨never, _⟩ | last⟩
  · refine .inl ⟨Nat.succ_le_succ short, fun here same char mem => ?_⟩
    rcases List.mem_cons.mp mem with rfl | later
    · exact itself here
    · exact plain rfl (Nat.succ.inj same) char later
  · cases never
  · exact .inr ⟨getLast?_cons_of_some comma, .inr (getLast?_cons_of_some last)⟩

end

theorem scanString_bound (tail : Text) (text : Text) : ∀ {high mode out rest},
    scanString high mode (text ++ '"' :: ',' :: '"' :: tail) = some (out, rest) ->
      Bounded mode text out := by
  induction text with
  | nil =>
    intro high mode out rest scan
    cases mode with
    | plain =>
      rw [List.nil_append, scanString, if_neg (by decide)] at scan
      split_ifs at scan with half quote
      · cases scan
        exact .inl ⟨le_refl _, fun _ _ char mem => by cases mem⟩
      · exact absurd rfl quote
    | escaped =>
      rw [List.nil_append, scanString, if_neg (by decide)] at scan
      split_ifs at scan
      cases scan
      exact .inr ⟨rfl, .inl ⟨rfl, rfl⟩⟩
    | unit =>
      cases scan
  | cons head remaining ih =>
    have extended : ∀ {decoded mode out rest},
        (scanString none .plain (remaining ++ '"' :: ',' :: '"' :: tail)).map (fun result =>
          (decoded :: result.1, result.2)) = some (out, rest) ->
        (mode = .plain -> isPlain head = true) -> Bounded mode (head :: remaining) out := by
      intro decoded mode out rest scan itself
      rcases Option.map_eq_some_iff.mp scan with ⟨⟨found, left⟩, inner, same⟩
      cases same
      exact (ih inner).found itself
    intro high mode out rest scan
    rw [List.cons_append] at scan
    cases mode with
    | plain =>
      rw [scanString] at scan
      split_ifs at scan with backslash half quote control
      · rcases ih scan with ⟨short, -⟩ | ⟨comma, beyond⟩
        · refine .inl ⟨Nat.le_succ_of_le short, fun _ same => ?_⟩
          rw [List.length_cons] at same
          omega
        · refine .inr ⟨comma, .inr ?_⟩
          rcases beyond with ⟨-, rfl⟩ | last
          · rw [backslash]
            rfl
          · exact getLast?_cons_of_some last
      · cases scan
        exact .inl ⟨Nat.zero_le _, nofun⟩
      · exact extended scan (fun _ => by simp [isPlain, backslash, quote, not_lt.mp control])
    | escaped =>
      rw [scanString] at scan
      split_ifs at scan
      · exact (ih scan).skip nofun nofun
      · split at scan
        · cases scan
        · exact extended scan nofun
    | unit =>
      rw [scanString] at scan
      split at scan
      · cases scan
      · split_ifs at scan
        · exact (ih scan).skip nofun nofun
        · split at scan
          · cases scan
          · exact extended scan nofun
          · exact (ih scan).skip nofun nofun

/-- A text that is followed by a quote, a comma and a quote is found as it stands only if all
its characters stand for themselves. -/
theorem plain_of_scanString {text tail rest : Text}
    (scan : scanString none .plain (text ++ '"' :: ',' :: '"' :: tail) = some (text, rest)) :
    ∀ char ∈ text, isPlain char = true := by
  rcases scanString_bound tail text scan with ⟨-, plain⟩ | ⟨comma, beyond⟩
  · exact plain rfl rfl
  · rcases beyond with ⟨never, -⟩ | last
    · cases never
    · rw [comma] at last
      cases last

/-! ## Members with strings -/

theorem skipSpace_quote (rest : Text) : skipSpace ('"' :: rest) = '"' :: rest :=
  rfl

theorem parseValue_string (depth : Nat) (body : Text) :
    parseValue (depth + 1) ('"' :: body) =
      (scanString none .plain body).map (fun result => (.string result.1, result.2)) :=
  rfl

theorem parseMembers_string (depth : Nat) {key : Text}
    (plain : ∀ char ∈ key, isPlain char = true) (body : Text) :
    parseMembers (depth + 2) ('"' :: (key ++ '"' :: ':' :: '"' :: body)) =
      match scanString none .plain body with
      | none => none
      | some (value, after) =>
        match skipSpace after with
        | ',' :: more =>
          (parseMembers (depth + 1) more).map (fun result =>
            ((key, .string value) :: result.1, result.2))
        | '\x7d' :: rest => some ([(key, .string value)], rest)
        | _ => none := by
  rw [parseMembers, skipSpace_quote]
  simp only [scanString_of_plain plain]
  change (match parseValue (depth + 1) ('"' :: body) with
    | none => none
    | some (value, after) => _) = _
  rw [parseValue_string]
  cases scanString none .plain body <;> rfl

end Json

end ControlVault.Foundation
