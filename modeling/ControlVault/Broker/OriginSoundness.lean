import ControlVault.Broker.Origin

namespace ControlVault.Broker

open Foundation List

/-!
# Which origins are accepted

An origin is sound for a relying party when it is an `https` address that
consists of a host, perhaps a port and perhaps one slash, and the host is the
relying party's domain or below it.  The host is what every reader of web
addresses takes for it: the text up to the first character that can end one.

The parser removes slashes from the end and then takes the text up to the last
colon for the host, so it does not see that a slash, a backslash or an earlier
colon ended the host before.  `Plain` excludes those spellings; on plain origins
acceptance is sound.
-/

/-- The characters that end a host. -/
def endsHost (char : Char) : Bool :=
  char ∈ ['/', ':', '?', '#', '@', '\\']

def hostOf (rest : Text) : Text :=
  rest.takeWhile (fun char => !endsHost char)

/-- Nothing, or a colon and a decimal number of 16 bits. -/
def IsPort (text : Text) : Prop :=
  text = [] ∨ ∃ digits, text = ':' :: digits /\ digits ≠ [] /\ digits.all Char.isDigit = true /\
    Nat.ofDigitChars 10 digits 0 < 2 ^ 16

def InDomain (host rpId : Text) : Prop :=
  host.asciiLower = rpId ∨ '.' :: rpId <:+ host.asciiLower

/-- The form in which a relying party is compared with a host. -/
def normalizedRp (rpId : Text) : Text :=
  (trimEndMatches '.' rpId.trim).asciiLower

def scheme : Text :=
  "https://"

structure WellFormed (origin rpId : Text) : Prop where
  spelled : ∃ rest port slash, origin = scheme ++ rest /\ rest = hostOf rest ++ port ++ slash /\
    IsPort port /\ (slash = [] ∨ slash = ['/']) /\ InDomain (hostOf rest) rpId

/-- The origin, and the top origin if there is one, are well formed and belong to the relying
party. -/
def Sound (origin : Text) (topOrigin : Option Text) (rpId : Text) : Prop :=
  WellFormed origin (normalizedRp rpId) /\
    ∀ top, topOrigin = some top -> WellFormed top (normalizedRp rpId)

/-! ## Plain origins -/

/-- The text without one slash at its end. -/
def withoutSlash (rest : Text) : Text :=
  if rest.getLast? = some '/' then rest.dropLast else rest

/-- No character ends the host before its port, and the port has no sign. -/
structure PlainRest (rest : Text) : Prop where
  slash : '/' ∉ withoutSlash rest
  backslash : '\\' ∉ withoutSlash rest
  colon : (withoutSlash rest).count ':' <= 1
  sign : ¬[':', '+'] <:+: withoutSlash rest

def Plain (origin : Text) : Prop :=
  ∀ rest, origin = scheme ++ rest -> PlainRest rest

/-- Both origins are plain, and the top origin of a foreign frame belongs to the relying party
as well. -/
structure PlainContext (origin : Text) (topOrigin : Option Text) (crossOrigin : Bool)
    (rpId : Text) : Prop where
  origin : Plain origin
  top : ∀ top, topOrigin = some top -> Plain top
  foreign : crossOrigin = true -> ∀ top rest, topOrigin = some top -> top = scheme ++ rest ->
    InDomain (hostOf rest) (normalizedRp rpId)

/-! ## The parser -/

variable {rest origin rpId : Text}

theorem stripPrefix_some (stripped : stripPrefix start text = some rest) :
    text = start ++ rest := by
  unfold stripPrefix at stripped
  split_ifs at stripped with found
  cases stripped
  have starts := isPrefixOf_iff_prefix.mp found
  exact (prefix_iff_eq_append.mp starts).symm

theorem rsplitOnce_none (missing : rsplitOnce separator text = none) : separator ∉ text := by
  unfold rsplitOnce at missing
  split_ifs at missing with mem
  exact mem

theorem rsplitOnce_some (split : rsplitOnce separator text = some (first, last)) :
    text = first ++ separator :: last /\ separator ∉ last := by
  unfold rsplitOnce at split
  split_ifs at split with mem
  cases split
  have parts : text.rdropWhile (fun char => decide (char ≠ separator)) ++
      text.rtakeWhile (fun char => decide (char ≠ separator)) = text :=
    rdropWhile_append_rtakeWhile
  generalize taken : text.rtakeWhile (fun char => decide (char ≠ separator)) = last at parts
  have clean : separator ∉ last := by
    intro inside
    rw [<- taken] at inside
    have different := mem_rtakeWhile_imp inside
    exact absurd different (by simp)
  have nonempty : text.rdropWhile (fun char => decide (char ≠ separator)) ≠ [] := by
    intro empty
    have different := rdropWhile_eq_nil_iff.mp empty separator mem
    exact absurd different (by simp)
  have final := rdropWhile_last_not (fun char => decide (char ≠ separator)) text nonempty
  rw [decide_eq_true_eq, not_not] at final
  have ends := dropLast_append_getLast nonempty
  rw [final] at ends
  generalize (text.rdropWhile _).dropLast = first at ends
  rw [<- ends, append_assoc, singleton_append] at parts
  refine ⟨?_, clean⟩
  have start : text.take (text.length - last.length - 1) = first := by
    rw [<- parts, length_append, length_cons]
    have length : first.length + (last.length + 1) - last.length - 1 = first.length := by omega
    rw [length, take_left]
  rw [start, parts]

theorem parseOrigin_some (parsed : parseOrigin origin = some result) :
    ∃ rest, origin = scheme ++ rest /\ '?' ∉ trimEndMatches '/' rest /\
      '#' ∉ trimEndMatches '/' rest /\ '@' ∉ trimEndMatches '/' rest /\
      (':' ∉ trimEndMatches '/' rest /\ result = ⟨(trimEndMatches '/' rest).asciiLower, none⟩ ∨
        ∃ host port number, trimEndMatches '/' rest = host ++ ':' :: port /\ ':' ∉ port /\
          parsePort port = some number /\ result = ⟨host.asciiLower, some number⟩) := by
  unfold parseOrigin at parsed
  split at parsed
  · cases parsed
  · rename_i rest stripped
    refine ⟨rest, stripPrefix_some stripped, ?_⟩
    dsimp only at parsed
    split_ifs at parsed with empty marked
    simp only [Bool.or_eq_true, decide_eq_true_eq, not_or] at marked
    refine ⟨marked.1.1, marked.1.2, marked.2, ?_⟩
    split at parsed
    · rename_i missing
      cases parsed
      exact .inl ⟨rsplitOnce_none missing, rfl⟩
    · rename_i host port found
      split_ifs at parsed
      rcases Option.map_eq_some_iff.mp parsed with ⟨number, accepted, rfl⟩
      rcases rsplitOnce_some found with ⟨spelled, clean⟩
      exact .inr ⟨host, port, number, spelled, clean, accepted, rfl⟩

theorem parsePort_some (accepted : parsePort port = some number)
    (unsigned : port.head? ≠ some '+') : IsPort (':' :: port) := by
  unfold parsePort parseUnsigned at accepted
  split at accepted
  · exact absurd rfl unsigned
  dsimp only at accepted
  split_ifs at accepted with bad small
  rw [Bool.or_eq_true, not_or, Bool.not_eq_true', Bool.not_eq_false] at bad
  exact .inr ⟨port, rfl, by simpa using bad.1, bad.2, small⟩

/-! ## Reading a plain origin -/

theorem hostOf_append (clean : ∀ char ∈ host, endsHost char = false)
    (ended : ∀ char, rest.head? = some char -> endsHost char = true) :
    hostOf (host ++ rest) = host := by
  unfold hostOf
  rw [takeWhile_append_of_pos (fun char mem => by simp [clean char mem])]
  cases rest with
  | nil => simp
  | cons head => simp [ended head rfl]

theorem withoutSlash_append {body slash : Text} (clean : '/' ∉ body)
    (few : slash = [] ∨ slash = ['/']) : withoutSlash (body ++ slash) = body := by
  unfold withoutSlash
  rcases few with rfl | rfl
  · rw [append_nil, if_neg]
    intro ends
    exact clean (mem_of_getLast? ends)
  · rw [getLast?_concat, if_pos rfl, dropLast_concat]

/-- A text is its beginning and at most one slash. -/
theorem withoutSlash_spelled (rest : Text) :
    ∃ slash, rest = withoutSlash rest ++ slash /\ (slash = [] ∨ slash = ['/']) := by
  unfold withoutSlash
  split_ifs with ends
  · refine ⟨['/'], ?_, .inr rfl⟩
    exact (dropLast_append_getLast? '/' ends).symm
  · exact ⟨[], (append_nil _).symm, .inl rfl⟩

theorem trimEndMatches_of_plain (clean : '/' ∉ withoutSlash rest) :
    trimEndMatches '/' rest = withoutSlash rest := by
  rcases withoutSlash_spelled rest with ⟨_, spelled, few⟩
  have kept : trimEndMatches '/' (withoutSlash rest) = withoutSlash rest := by
    refine (rdropWhile_eq_self_iff).mpr (fun nonempty ends => clean ?_)
    rw [<- of_decide_eq_true ends]
    exact getLast_mem nonempty
  rcases few with rfl | rfl
  · rw [append_nil] at spelled
    rw [<- spelled] at kept
    rw [kept, <- spelled]
  · conv_lhs => rw [spelled]
    unfold trimEndMatches
    rw [rdropWhile_concat_pos _ _ _ (by simp)]
    exact kept

/-- On a plain origin the parser finds the host. -/
theorem parseOrigin_of_plain (parsed : parseOrigin origin = some result) (plain : Plain origin) :
    ∃ rest port slash, origin = scheme ++ rest /\ rest = hostOf rest ++ port ++ slash /\
      IsPort port /\ (slash = [] ∨ slash = ['/']) /\ result.host = (hostOf rest).asciiLower := by
  rcases parseOrigin_some parsed with ⟨rest, spelled, query, fragment, user, read⟩
  have plainRest := plain rest spelled
  rw [trimEndMatches_of_plain plainRest.slash] at query fragment user read
  rcases withoutSlash_spelled rest with ⟨slash, parts, few⟩
  have slashed : ∀ char, slash.head? = some char -> endsHost char = true := by
    rcases few with rfl | rfl
    · intro char never
      cases never
    · intro char same
      cases same
      rfl
  have clean : ∀ host : Text, (∀ char ∈ host, char ∈ withoutSlash rest) ->
      ':' ∉ host -> ∀ char ∈ host, endsHost char = false := by
    intro host inside noColon char mem
    have here := inside char mem
    rw [endsHost, decide_eq_false_iff_not]
    simp only [mem_cons, not_mem_nil, or_false, not_or]
    refine ⟨?_, ?_, ?_, ?_, ?_, ?_⟩ <;> rintro rfl
    · exact plainRest.slash here
    · exact noColon mem
    · exact query here
    · exact fragment here
    · exact user here
    · exact plainRest.backslash here
  rcases read with ⟨noColon, rfl⟩ | ⟨host, port, _, split, noColon, accepted, rfl⟩
  · have host : hostOf rest = withoutSlash rest := by
      conv_lhs => rw [parts]
      exact hostOf_append (clean _ (fun _ => id) noColon) slashed
    refine ⟨rest, [], slash, spelled, ?_, .inl rfl, few, ?_⟩
    · rw [host, append_nil]
      exact parts
    · rw [host]
  · have single : ':' ∉ host := by
      have count := plainRest.colon
      rw [split, count_append, count_cons_self] at count
      exact count_eq_zero.mp (by omega)
    have inside : ∀ char ∈ host, char ∈ withoutSlash rest := by
      intro char mem
      rw [split]
      exact mem_append_left _ mem
    have whole : rest = host ++ (':' :: port ++ slash) := by
      rw [<- append_assoc, <- split]
      exact parts
    have found : hostOf rest = host := by
      rw [whole]
      refine hostOf_append (clean host inside single) ?_
      intro char same
      cases same
      rfl
    refine ⟨rest, ':' :: port, slash, spelled, ?_, parsePort_some accepted ?_, few, ?_⟩
    · rw [found, append_assoc]
      exact whole
    · intro signed
      refine plainRest.sign ?_
      rw [split]
      cases port with
      | nil => cases signed
      | cons head tail =>
        cases signed
        exact ⟨host, tail, by simp⟩
    · rw [found]

theorem WellFormed.plain (wellFormed : WellFormed origin rpId) : Plain origin := by
  rcases wellFormed.spelled with ⟨rest, port, _, spelled, parts, isPort, few, -⟩
  intro other again
  rw [spelled] at again
  cases append_cancel_left again
  have host : ∀ char ∈ hostOf rest, endsHost char = false := by
    intro char mem
    have passes := mem_takeWhile_imp mem
    simpa using passes
  have digits : ∀ char ∈ port, char = ':' ∨ char.isDigit = true := by
    intro char mem
    rcases isPort with rfl | ⟨digits, rfl, -, all, -⟩
    · cases mem
    · rcases mem_cons.mp mem with rfl | later
      · exact .inl rfl
      · exact .inr (all_eq_true.mp all char later)
  have clean : '/' ∉ hostOf rest ++ port := by
    intro mem
    rcases mem_append.mp mem with inside | inside
    · cases host _ inside
    · rcases digits _ inside with never | never <;> cases never
  have body : withoutSlash rest = hostOf rest ++ port := by
    conv_lhs => rw [parts]
    exact withoutSlash_append clean few
  constructor
  · rw [body]
    exact clean
  · rw [body]
    intro mem
    rcases mem_append.mp mem with inside | inside
    · cases host _ inside
    · rcases digits _ inside with never | never <;> cases never
  · have none : (hostOf rest).count ':' = 0 :=
      count_eq_zero.mpr (fun inside => by cases host _ inside)
    rw [body, count_append, none]
    rcases isPort with rfl | ⟨digits, rfl, -, all, -⟩
    · exact Nat.zero_le _
    · rw [count_cons_self, count_eq_zero.mpr]
      intro inside
      cases all_eq_true.mp all _ inside
  · rw [body]
    rintro ⟨before, after, same⟩
    have noSign : '+' ∉ port := by
      intro inside
      rcases digits _ inside with never | never <;> cases never
    rw [append_assoc] at same
    rcases append_eq_append_iff.mp same with ⟨middle, inHost, later⟩ | ⟨middle, -, inPort⟩
    · cases middle with
      | nil =>
        refine noSign ?_
        rw [nil_append] at later
        rw [<- later]
        simp
      | cons head =>
        have first : ':' = head := (cons.inj later).1
        have colon : ':' ∈ hostOf rest := by
          rw [inHost, first]
          simp
        cases host _ colon
    · refine noSign ?_
      rw [inPort]
      simp

/-! ## Acceptance -/

theorem verifyOriginStructural_accepts (accepted : verifyOriginStructural origin rpId = true) :
    ∃ result, parseOrigin origin = some result /\
      (result.host = normalizedRp rpId ∨ '.' :: normalizedRp rpId <:+ result.host) := by
  unfold verifyOriginStructural at accepted
  split at accepted
  · cases accepted
  · rename_i result parsed
    simp only [Bool.and_eq_true, Bool.or_eq_true, decide_eq_true_eq, isSuffixOf_iff_suffix]
      at accepted
    exact ⟨result, parsed, accepted.2⟩

/-- A plain origin with a host in the domain is well formed. -/
theorem wellFormed_of_plain (parsed : parseOrigin origin = some result) (plain : Plain origin)
    (domain : ∀ rest, origin = scheme ++ rest -> result.host = (hostOf rest).asciiLower ->
      InDomain (hostOf rest) rpId) : WellFormed origin rpId := by
  rcases parseOrigin_of_plain parsed plain with ⟨rest, port, slash, spelled, parts, isPort, few, host⟩
  exact ⟨rest, port, slash, spelled, parts, isPort, few, domain rest spelled host⟩

/-- An accepted context is sound exactly if it is plain. -/
theorem verifyOriginContext_sound_iff (origin : Text) (topOrigin : Option Text) (crossOrigin : Bool)
    (rpId : Text) (accepted : verifyOriginContext origin topOrigin crossOrigin rpId = true) :
    Sound origin topOrigin rpId <-> PlainContext origin topOrigin crossOrigin rpId := by
  unfold verifyOriginContext at accepted
  rw [Bool.and_eq_true] at accepted
  rcases accepted with ⟨structural, ctx⟩
  rcases verifyOriginStructural_accepts structural with ⟨frame, frameParsed, inside⟩
  constructor
  · rintro ⟨ownSound, topSound⟩
    refine ⟨ownSound.plain, fun top given => (topSound top given).plain, ?_⟩
    intro _ top rest given spelled
    rcases (topSound top given).spelled with ⟨other, -, -, again, -, -, -, domain⟩
    rw [spelled] at again
    cases append_cancel_left again
    exact domain
  · intro plain
    have own : ∀ rest, frame.host = (hostOf rest).asciiLower ->
        InDomain (hostOf rest) (normalizedRp rpId) := by
      intro rest host
      rw [host] at inside
      exact inside
    refine ⟨wellFormed_of_plain frameParsed plain.origin (fun rest _ => own rest), ?_⟩
    intro top given
    subst given
    cases crossOrigin with
    | true =>
      rcases Option.isSome_iff_exists.mp ctx with ⟨result, parsed⟩
      exact wellFormed_of_plain parsed (plain.top top rfl)
        (fun rest spelled _ => plain.foreign rfl top rest rfl spelled)
    | false =>
      simp only [Bool.false_eq_true, if_false, Option.all_some, frameParsed] at ctx
      split at ctx
      · rename_i result other parsed same
        cases same
        rw [Bool.and_eq_true, decide_eq_true_eq] at ctx
        refine wellFormed_of_plain parsed (plain.top top rfl) (fun rest _ host => own rest ?_)
        rw [<- ctx.1, host]
      · cases ctx

/-- The login page of the relying party, with a port and a slash. -/
theorem login_page_sound :
    verifyOriginContext "https://Login.example.com:8443/" none false "example.com" = true /\
      Sound "https://Login.example.com:8443/" none "example.com" := by
  refine ⟨by decide +kernel, (verifyOriginContext_sound_iff _ _ false _ (by decide +kernel)).mpr ?_⟩
  refine ⟨?_, ?_, ?_⟩
  · intro rest spelled
    have parts : scheme ++ "Login.example.com:8443/" = scheme ++ rest := by
      rw [<- spelled]
      decide +kernel
    rw [<- append_cancel_left parts]
    exact ⟨by decide +kernel, by decide +kernel, by decide +kernel, by decide +kernel⟩
  · intro top never
    cases never
  · intro never
    cases never

/-- A page of `evil.com` is accepted for `example.com`, whether it spells a path, a backslash or
a second colon. -/
theorem foreign_host_accepted :
    (∀ origin ∈ ["https://evil.com/.example.com/".toList, "https://evil.com\\.example.com".toList,
        "https://evil.com:.example.com:443".toList],
      verifyOriginContext origin none false "example.com".toList = true /\
        hostOf (origin.drop scheme.length) = "evil.com".toList) /\
      ¬Sound "https://evil.com/.example.com/".toList none "example.com".toList := by
  refine ⟨by decide +kernel, ?_⟩
  rintro ⟨wellFormed, -⟩
  have plain := wellFormed.plain "evil.com/.example.com/".toList rfl
  exact plain.slash (by decide +kernel)

end ControlVault.Broker
