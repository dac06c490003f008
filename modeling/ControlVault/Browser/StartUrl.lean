import ControlVault.Broker.OriginSoundness
import ControlVault.Core.RpId

namespace ControlVault.Browser

open Foundation Core Broker List

/-!
# Where a browser starts

A browser is started on a page only if the host of its address belongs to one of
the relying parties of the profile.  The check takes for the host what stands in
front of the first slash, question mark or colon.

A reader of web addresses looks for a user name first: what stands in front of an
at sign is not the host.  If a colon follows the checked host and an at sign
follows later, the browser goes somewhere else.
-/

/-- What stands in front of the first separator. -/
def upTo (separator : Char) (text : Text) : Text :=
  text.takeWhile (fun char => char != separator)

def isIpAddress (env : Env) (text : Text) : Bool :=
  isIpv4 text || env.isIpv6Address text

def checkedHost (rest : Text) : Text :=
  upTo ':' (upTo '?' (upTo '/' rest))

/-- The host has the form of a name or an address. -/
def isHost (env : Env) (host : Text) : Bool :=
  isValidDnsName host || isIpAddress env host

def validateStartUrl (env : Env) (url : Text) (rpIds : List Text) : Bool :=
  match stripPrefix scheme url with
  | none => false
  | some rest =>
    if rest.isEmpty then false
    else if (checkedHost rest).isEmpty then false
    else if !isHost env (checkedHost rest) then false
    else
      let normalized := (checkedHost rest).asciiLower
      if rpIds.any (fun rpId => rpId.trim = anyRpId) then (validateRpId env normalized).isOk
      else
        (rpIds.filter (fun rpId =>
          normalized = rpId.canonical || ('.' :: rpId.canonical).isSuffixOf normalized)).length = 1

/-! ## Where the browser goes -/

def authority (rest : Text) : Text :=
  rest.takeWhile (fun char => !(['/', '?', '#', '\\'].elem char))

/-- The host of an authority without a user name; the colons of an address in brackets do not
begin a port. -/
def hostPart (text : Text) : Text :=
  if text.head? = some '[' then upTo ']' text ++ [']'] else upTo ':' text

def navigatedHost (rest : Text) : Text :=
  hostPart ((authority rest).rtakeWhile (fun char => char != '@'))

/-- The browser starts on a host of the profile. -/
def InScope (env : Env) (rpIds : List Text) (rest : Text) : Prop :=
  if rpIds.any (fun rpId => rpId.trim = anyRpId) then
    (navigatedHost rest).asciiLower = (checkedHost rest).asciiLower /\
      (validateRpId env (navigatedHost rest).asciiLower).isOk = true
  else ∃ rpId ∈ rpIds, InDomain (navigatedHost rest) rpId.canonical

/-- A user name hides the host: another one than the checked one, and if it lies below that one,
then one that the rule for every relying party would not have looked at. -/
structure Diverts (env : Env) (rest : Text) : Prop where
  userinfo : '@' ∈ authority rest
  other : (navigatedHost rest).asciiLower ≠ (checkedHost rest).asciiLower
  below : InDomain (navigatedHost rest) (checkedHost rest).asciiLower ->
    (validateRpId env (checkedHost rest).asciiLower).isOk = true

/-! ## The checked host -/

section Host

variable {env : Env} {rest : Text}

section

variable (addresses : ∀ text, env.isIpv6Address text = true -> ':' ∈ text)
  (valid : isHost env (checkedHost rest) = true)

include addresses valid

theorem mem_of_isHost (char : Char) (mem : char ∈ checkedHost rest) :
    char = '.' ∨ char = '-' ∨ char.isAlphanum = true := by
  rw [isHost, Bool.or_eq_true, isIpAddress, Bool.or_eq_true] at valid
  rcases valid with name | octets | address
  · exact mem_of_isValidDnsName name mem
  · rw [isIpv4, Bool.and_eq_true, all_eq_true] at octets
    have located : char = '.' ∨ ∃ part ∈ (checkedHost rest).split '.', char ∈ part :=
      Text.mem_split mem
    rcases located with dot | ⟨part, partMember, inside⟩
    · exact .inl dot
    · have octet := octets.2 part partMember
      simp only [isDecimalOctet, Bool.and_eq_true, all_eq_true] at octet
      refine .inr (.inr ?_)
      rw [Char.isAlphanum, octet.1.1.2 char inside, Bool.or_true]
  · have colon := mem_takeWhile_imp (addresses _ address)
    exact absurd colon (by decide)

theorem filled_of_isHost : rest.isEmpty = false /\ (checkedHost rest).isEmpty = false := by
  have nonempty : checkedHost rest ≠ [] := by
    intro empty
    rw [empty, isHost, isIpAddress, Bool.or_eq_true, Bool.or_eq_true] at valid
    rcases valid with name | octets | address
    · cases name
    · cases octets
    · cases addresses [] address
  rw [isEmpty_eq_false_iff, isEmpty_eq_false_iff]
  exact ⟨fun empty => nonempty (by rw [empty]; rfl), nonempty⟩

end

section

variable
  (clean : ∀ char ∈ checkedHost rest, char = '.' ∨ char = '-' ∨ char.isAlphanum = true)

include clean

/-- In front of a port, the authority is the checked host. -/
theorem upTo_authority : upTo ':' (authority rest) = checkedHost rest := by
  have cut : upTo ':' (authority rest) =
      (checkedHost rest).takeWhile (fun char => !(['#', '\\'].elem char)) := by
    simp only [upTo, authority, checkedHost, takeWhile_takeWhile]
    refine congrFun (congrArg takeWhile (funext fun char => ?_)) rest
    simp only [elem_eq_mem, mem_cons, bne_iff_ne, Bool.not_eq_true', decide_eq_false_iff_not,
      not_or, decide_eq_true_eq]
    exact decide_eq_decide.mpr (by tauto)
  rw [cut, takeWhile_eq_self_iff]
  intro char mem
  rw [Bool.not_eq_true', Bool.eq_false_iff, ne_eq, elem_iff]
  rintro (_ | ⟨_, _ | ⟨_, never⟩⟩)
  · exact not_mem_of_foreign clean (by decide) mem
  · exact not_mem_of_foreign clean (by decide) mem
  · cases never

theorem navigatedHost_of_no_userinfo
    (bare : '@' ∉ authority rest) : navigatedHost rest = checkedHost rest := by
  have whole : (authority rest).rtakeWhile (fun char => char != '@') = authority rest := by
    refine rtakeWhile_eq_self_iff.mpr ?_
    intro char mem
    rw [bne_iff_ne]
    rintro rfl
    exact bare mem
  have unbracketed : (authority rest).head? ≠ some '[' := by
    intro bracket
    rcases head?_eq_some_iff.mp bracket with ⟨_, opened⟩
    refine not_mem_of_foreign clean (by decide : ('[' == '.' || '[' == '-' || '['.isAlphanum) =
      false) ?_
    rw [<- upTo_authority clean, opened]
    exact mem_cons_self
  rw [navigatedHost, whole, hostPart, if_neg unbracketed, upTo_authority clean]

end

/-- A host has no white space to trim. -/
theorem trim_of_clean {host : Text} (clean : ∀ char ∈ host,
      char = '.' ∨ char = '-' ∨ char.isAlphanum = true) :
    host.trim = host := by
  have visible : ∀ char ∈ host, Text.isWhitespace char = false := by
    intro char mem
    rcases clean char mem with rfl | rfl | alphanumeric
    · decide
    · decide
    · have range : 48 <= char.toNat /\ char.toNat <= 122 := by
        delta Char.isAlphanum Char.isAlpha Char.isUpper Char.isLower Char.isDigit at alphanumeric
        simp only [Bool.or_eq_true, Bool.and_eq_true, decide_eq_true_eq] at alphanumeric
        rcases alphanumeric with (⟨low, high⟩ | ⟨low, high⟩) | ⟨low, high⟩
        · exact ⟨le_trans (by decide) low, le_trans high (by decide)⟩
        · exact ⟨le_trans (by decide) low, le_trans high (by decide)⟩
        · exact ⟨le_trans (by decide) low, le_trans high (by decide)⟩
      simp [Text.isWhitespace]
      omega
  refine Text.Trimmed.trim_eq ⟨?_, ?_⟩
  · intro char head
    exact visible char (mem_of_mem_head? head)
  · intro char last
    exact visible char (mem_of_mem_getLast? last)

end Host

/-! ## Soundness -/

theorem inDomain_of_below (inner : InDomain host middle)
    (outer : middle = domain ∨ '.' :: domain <:+ middle) : InDomain host domain := by
  rcases inner with same | suffix
  · rcases outer with rfl | lower
    · exact .inl same
    · exact .inr (same ▸ lower)
  · rcases outer with rfl | lower
    · exact .inr suffix
    · exact .inr (lower.trans ((suffix_cons _ _).trans suffix))

/-- The browser goes to the checked host, or at least to one below it that the rule for every
relying party does not admit. -/
theorem near_of_not_diverts {env : Env}
    (addresses : ∀ text, env.isIpv6Address text = true -> ':' ∈ text)
    (valid : isHost env (checkedHost rest) = true)
    (stays : ¬Diverts env rest) :
    InDomain (navigatedHost rest) (checkedHost rest).asciiLower /\
      ((validateRpId env (checkedHost rest).asciiLower).isOk = true ->
        (navigatedHost rest).asciiLower = (checkedHost rest).asciiLower) := by
  by_cases same : (navigatedHost rest).asciiLower = (checkedHost rest).asciiLower
  · exact ⟨.inl same, fun _ => same⟩
  · have userinfo : '@' ∈ authority rest := by
      by_contra bare
      exact same (by rw [navigatedHost_of_no_userinfo (mem_of_isHost addresses valid) bare])
    constructor
    · by_contra elsewhere
      exact stays ⟨userinfo, same, fun below => absurd below elsewhere⟩
    · intro admitted
      exact absurd ⟨userinfo, same, fun _ => admitted⟩ stays

private theorem accepted_iff (refused next : Bool) :
    (if refused = true then false else next) = true <-> refused = false /\ next = true := by
  cases refused <;> simp

/-- The checks in the order of the source, as one conjunction. -/
theorem validateStartUrl_iff (env : Env) (rest : Text) (rpIds : List Text) :
    validateStartUrl env (scheme ++ rest) rpIds = true <->
      rest.isEmpty = false /\ (checkedHost rest).isEmpty = false /\
        isHost env (checkedHost rest) = true /\
        (if rpIds.any (fun rpId => rpId.trim = anyRpId) then
          (validateRpId env (checkedHost rest).asciiLower).isOk
        else decide ((rpIds.filter (fun rpId => (checkedHost rest).asciiLower = rpId.canonical ||
          ('.' :: rpId.canonical).isSuffixOf (checkedHost rest).asciiLower)).length = 1)) =
            true := by
  have stripped : stripPrefix scheme (scheme ++ rest) = some rest := by
    have starts := isPrefixOf_iff_prefix.mpr (prefix_append scheme rest)
    rw [stripPrefix, if_pos starts, drop_left]
  unfold validateStartUrl
  rw [stripped]
  rw [accepted_iff, accepted_iff, accepted_iff, Bool.not_eq_false']

/-- Every list of relying parties that accepts the address contains the host on which the browser
starts, exactly if no user name diverts it from a checked host. -/
theorem start_url_sound_iff (env : Env)
    (addresses : ∀ text, env.isIpv6Address text = true -> ':' ∈ text) (url : Text) :
    (∀ rpIds, validateStartUrl env url rpIds = true ->
        ∃ rest, url = scheme ++ rest /\ InScope env rpIds rest) <->
      ∀ rest, url = scheme ++ rest -> isHost env (checkedHost rest) = true ->
        ¬Diverts env rest := by
  constructor
  · rintro sound rest rfl valid diverts
    have clean := mem_of_isHost addresses valid
    have filled := filled_of_isHost addresses valid
    by_cases below : InDomain (navigatedHost rest) (checkedHost rest).asciiLower
    · have accepted := (validateStartUrl_iff env rest [anyRpId]).mpr ⟨filled.1, filled.2, valid, by
          exact diverts.below below⟩
      rcases sound _ accepted with ⟨other, same, scope⟩
      rw [<- append_cancel_left same] at scope
      exact diverts.other scope.1
    · have named : ¬[checkedHost rest].any (fun rpId => rpId.trim = anyRpId) = true := by
        rw [any_cons, any_nil, Bool.or_false, decide_eq_true_eq, trim_of_clean clean]
        intro star
        refine not_mem_of_foreign clean (by decide : ('*' == '.' || '*' == '-' || '*'.isAlphanum) =
          false) ?_
        rw [star]
        decide
      have canonical : (checkedHost rest).canonical = (checkedHost rest).asciiLower := by
        rw [Text.canonical, trim_of_clean clean]
      have accepted := (validateStartUrl_iff env rest [checkedHost rest]).mpr
        ⟨filled.1, filled.2, valid, by
          rw [if_neg named, filter_cons_of_pos]
          · rfl
          · rw [canonical, decide_eq_true rfl, Bool.true_or]⟩
      rcases sound _ accepted with ⟨_, same, scope⟩
      rw [<- append_cancel_left same, InScope, if_neg named] at scope
      rcases scope with ⟨rpId, mem, inside⟩
      rw [mem_singleton.mp mem, canonical] at inside
      exact below inside
  · intro stays rpIds accepted
    rcases prefixed : stripPrefix scheme url with _ | rest
    · unfold validateStartUrl at accepted
      rw [prefixed] at accepted
      cases accepted
    have split := stripPrefix_some prefixed
    subst split
    rcases (validateStartUrl_iff env rest rpIds).mp accepted with
      ⟨_, _, valid, permitted⟩
    have near := near_of_not_diverts addresses valid (stays rest rfl valid)
    refine ⟨rest, rfl, ?_⟩
    unfold InScope
    split_ifs at permitted ⊢ with any
    · have same := near.2 permitted
      exact ⟨same, same ▸ permitted⟩
    · rcases length_eq_one_iff.mp (of_decide_eq_true permitted) with ⟨rpId, found⟩
      rcases mem_filter.mp (found ▸ mem_singleton_self rpId) with ⟨mem, covers⟩
      rw [Bool.or_eq_true, decide_eq_true_eq, isSuffixOf_iff_suffix] at covers
      exact ⟨rpId, mem, inDomain_of_below near.1 covers⟩

namespace Sample

/-- What looks like the host and a port is a user name and a password. -/
def disguised : Text :=
  "example.com:443@evil.com/"

/-- The port hides a user name, and the browser goes to another host. -/
theorem hidden_host_accepted :
    validateStartUrl sampleEnv (scheme ++ disguised) ["example.com"] = true /\
      navigatedHost disguised = "evil.com" /\
      ¬InScope sampleEnv ["example.com"] disguised := by
  refine ⟨by decide +kernel, by decide +kernel, ?_⟩
  rintro ⟨rpId, mem, inside⟩
  cases mem_singleton.mp mem
  revert inside
  unfold InDomain
  decide +kernel

/-- An at sign behind the authority does no harm. -/
def login : Text :=
  "Login.example.com:8443/start?as=a@evil.com"

/-- A host below the relying party, with a port and an at sign in the query. -/
theorem login_in_scope :
    validateStartUrl sampleEnv (scheme ++ login) ["example.com"] = true /\
      ∃ rest, scheme ++ login = scheme ++ rest /\ InScope sampleEnv ["example.com"] rest := by
  have accepted : validateStartUrl sampleEnv (scheme ++ login) ["example.com"] = true := by
    decide +kernel
  refine ⟨accepted, (start_url_sound_iff sampleEnv (fun text colon => elem_iff.mp colon)
    (scheme ++ login)).mpr ?_ _ accepted⟩
  intro rest same _ diverts
  have userinfo := diverts.userinfo
  rw [<- append_cancel_left same] at userinfo
  revert userinfo
  decide +kernel

end Sample

end ControlVault.Browser
