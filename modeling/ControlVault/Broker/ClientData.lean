import ControlVault.Broker.Releases
import ControlVault.Broker.Scenario
import ControlVault.Foundation.Json

namespace ControlVault.Broker

open Foundation Core Storage Json

/-!
# What the client data says

The broker writes the client data itself, as a JSON text, and hands its bytes to
the relying party, which reads them as JSON.  `Faithful` says that a reader finds
the members of the request, each once and with the request's own texts.

Origins are escaped on the way in, the challenge is not.  So the client data is
faithful exactly if every character of the challenge stands for itself in JSON.
-/

section Layout

variable (ceremony origin challengeB64u : Text) (crossOrigin : Bool) (topOrigin : Option Text)

/-- The members a reader should find. -/
def clientDataMembers : List (Text × Json) :=
  [("type".toList, .string ceremony), ("challenge".toList, .string challengeB64u),
    ("origin".toList, .string origin)] ++
    if crossOrigin then
      ("crossOrigin".toList, .bool true) ::
        (topOrigin.map (fun top => ("topOrigin".toList, string top))).toList
    else []

def Faithful (clientData : List UInt8) : Prop :=
  Json.Reads clientData
    (.object (clientDataMembers ceremony origin challengeB64u crossOrigin topOrigin))

/-- The end of the text, from the quote that closes the origin. -/
def clientDataEnd : Text :=
  match crossOrigin, topOrigin with
  | false, _ => "\x7d"
  | true, none => ',' :: '"' :: ("crossOrigin" ++ '"' :: ':' :: "true\x7d")
  | true, some top =>
    ',' :: '"' :: ("crossOrigin" ++ '"' :: ':' :: ("true," ++
      '"' :: ("topOrigin" ++ '"' :: ':' :: '"' :: (jsonEscapeString top ++ '"' :: "\x7d"))))

/-- The text, from the quote that opens the challenge. -/
def clientDataRest : Text :=
  challengeB64u ++ '"' :: ',' :: '"' :: ("origin" ++ '"' :: ':' :: '"' ::
    (jsonEscapeString origin ++ '"' :: clientDataEnd crossOrigin topOrigin))

/-- The text with its punctuation in the places where a reader meets it. -/
def clientDataText : Text :=
  '\x7b' :: '"' :: ("type" ++ '"' :: ':' :: '"' :: (ceremony ++ '"' :: ',' :: '"' ::
    ("challenge" ++ '"' :: ':' :: '"' ::
      clientDataRest origin challengeB64u crossOrigin topOrigin)))

theorem clientDataJson_eq :
    clientDataJson ceremony origin challengeB64u crossOrigin topOrigin =
      (clientDataText ceremony origin challengeB64u crossOrigin topOrigin).utf8 := by
  unfold clientDataJson clientDataText clientDataRest clientDataEnd
  cases crossOrigin with
  | false => simp
  | true => cases topOrigin <;> simp

end Layout

/-! ## Escaped texts -/

theorem hexDigit_digitChar : ∀ digit < 16, hexDigit (Nat.digitChar digit) = some digit := by
  decide

theorem scanString_jsonEscapeChar (char : Char) (rest : Text) :
    scanString none .plain (jsonEscapeChar char ++ rest) =
      (scanString none .plain rest).map (fun result => (char :: result.1, result.2)) := by
  unfold jsonEscapeChar
  split_ifs with quote backslash newline carriage tab control
  · rw [quote]
    rfl
  · rw [backslash]
    rfl
  · rw [newline]
    rfl
  · rw [carriage]
    rfl
  · rw [tab]
    rfl
  · have zero : hexDigit '0' = some 0 := by decide
    have high := hexDigit_digitChar (char.toNat / 16) (by omega)
    have low := hexDigit_digitChar (char.toNat % 16) (by omega)
    have value : char.toNat / 16 * 16 + char.toNat % 16 = char.toNat := by omega
    have unit : codeUnit none char.toNat = some (.inl char) := by
      rw [codeUnit, if_neg (by omega), if_neg (by omega), Char.ofNat_toNat]
    simp [scanString, zero, high, low, value, unit]
  · refine scanString_cons_of_plain ?_ rest
    simp [isPlain, quote, backslash, not_lt.mp control]

theorem scanString_jsonEscapeString (text rest : Text) :
    scanString none .plain (jsonEscapeString text ++ '"' :: rest) = some (text, rest) := by
  induction text with
  | nil => rfl
  | cons head tail ih =>
    rw [jsonEscapeString, List.flatMap_cons, List.append_assoc, scanString_jsonEscapeChar]
    rw [jsonEscapeString] at ih
    rw [ih]
    rfl

/-! ## Reading the whole text -/

section Reading

variable {ceremony : Text} (depth : Nat)

theorem parseMembers_crossOrigin (rest : Text) :
    Json.parseMembers (depth + 2) ('"' :: ("crossOrigin" ++ '"' :: ':' :: ("true," ++ rest))) =
      (Json.parseMembers (depth + 1) rest).map (fun result =>
        (("crossOrigin".toList, .bool true) :: result.1, result.2)) :=
  rfl

theorem parseMembers_origin :
    Json.parseMembers (depth + 5) ('"' :: ("origin" ++ '"' :: ':' :: '"' ::
        (jsonEscapeString origin ++ '"' :: clientDataEnd crossOrigin topOrigin))) =
      some (("origin".toList, .string origin) :: if crossOrigin then
        ("crossOrigin", .bool true) ::
          (topOrigin.map (fun top => ("topOrigin".toList, Json.string top))).toList
      else [], []) := by
  rw [Json.parseMembers_string (depth + 3) (List.all_eq_true.mp (by decide)),
    scanString_jsonEscapeString]
  cases crossOrigin with
  | false => rfl
  | true =>
    cases topOrigin with
    | none => rfl
    | some top =>
      change (Json.parseMembers (depth + 4) _).map _ = _
      rw [parseMembers_crossOrigin,
        Json.parseMembers_string (depth + 1) (List.all_eq_true.mp (by decide)),
        scanString_jsonEscapeString]
      rfl

theorem parseMembers_challenge (plain : ∀ char ∈ challengeB64u, Json.isPlain char = true) :
    Json.parseMembers (depth + 6) ('"' :: ("challenge" ++ '"' :: ':' :: '"' ::
        clientDataRest origin challengeB64u crossOrigin topOrigin)) =
      some (("challenge".toList, .string challengeB64u) :: ("origin".toList, .string origin) ::
        if crossOrigin then
          ("crossOrigin", .bool true) ::
            (topOrigin.map (fun top => ("topOrigin".toList, string top))).toList
        else [], []) := by
  rw [parseMembers_string (depth + 4) (List.all_eq_true.mp (by decide)), clientDataRest,
    scanString_of_plain plain]
  change (parseMembers (depth + 5) _).map _ = _
  rw [parseMembers_origin]
  rfl

theorem parseMembers_type (plain : ∀ char ∈ ceremony, isPlain char = true) (rest : Text) :
    parseMembers (depth + 2)
        ('"' :: ("type" ++ '"' :: ':' :: '"' :: (ceremony ++ '"' :: ',' :: rest))) =
      (parseMembers (depth + 1) rest).map (fun result =>
        (("type".toList, .string ceremony) :: result.1, result.2)) := by
  rw [parseMembers_string depth (List.all_eq_true.mp (by decide)), scanString_of_plain plain]
  rfl

/-- What is read up to the challenge, and what depends on it. -/
theorem parse_clientDataText (plain : ∀ char ∈ ceremony, isPlain char = true) :
    ∃ depth, parse (clientDataText ceremony origin challengeB64u crossOrigin topOrigin) =
      match parseMembers (depth + 6) ('"' :: ("challenge" ++ '"' :: ':' :: '"' ::
          clientDataRest origin challengeB64u crossOrigin topOrigin)) with
      | none => none
      | some (members, rest) =>
        if (Json.skipSpace rest).isEmpty then
          some (.object (("type", .string ceremony) :: members))
        else none := by
  have long : 7 <= (clientDataText ceremony origin challengeB64u crossOrigin topOrigin).length := by
    unfold clientDataText
    simp
  refine ⟨(clientDataText ceremony origin challengeB64u crossOrigin topOrigin).length - 7, ?_⟩
  rw [Json.parse]
  generalize (clientDataText ceremony origin challengeB64u crossOrigin topOrigin).length = length
    at long ⊢
  have depth : length + 1 = length - 7 + 7 + 1 := by omega
  rw [depth]
  generalize length - 7 = left
  have value : Json.parseValue (left + 7 + 1)
      (clientDataText ceremony origin challengeB64u crossOrigin topOrigin) =
        (Json.parseMembers (left + 6) ('"' :: ("challenge" ++ '"' :: ':' :: '"' ::
          clientDataRest origin challengeB64u crossOrigin topOrigin))).map (fun result =>
            (.object (("type", .string ceremony) :: result.1), result.2)) := by
    change (parseMembers (left + 7) _).map _ = _
    rw [parseMembers_type (left + 5) plain, Option.map_map]
    rfl
  rw [value]
  cases parseMembers (left + 6) ('"' :: ("challenge" ++ '"' :: ':' :: '"' ::
    clientDataRest origin challengeB64u crossOrigin topOrigin)) <;> rfl

/-- The text is read as intended exactly if the challenge needs no escape. -/
theorem faithful_iff_plain (plain : ∀ char ∈ ceremony, Json.isPlain char = true) :
    Faithful ceremony origin challengeB64u crossOrigin topOrigin
        (clientDataJson ceremony origin challengeB64u crossOrigin topOrigin) <->
      ∀ char ∈ challengeB64u, Json.isPlain char = true := by
  rcases @parse_clientDataText ceremony origin challengeB64u crossOrigin topOrigin plain with
    ⟨depth, parsed⟩
  constructor
  · rintro ⟨text, same, read⟩
    rw [clientDataJson_eq] at same
    cases Text.utf8_injective same
    rw [read, Json.parseMembers_string (depth + 4) (List.all_eq_true.mp (by decide))] at parsed
    split at parsed
    · cases parsed
    · rename_i members rest found
      split at found
      · cases found
      · rename_i value after scan
        have first : ∃ more, members = ("challenge".toList, Json.string value) :: more := by
          split at found
          · rcases Option.map_eq_some_iff.mp found with ⟨_, -, spelled⟩
            cases spelled
            exact ⟨_, rfl⟩
          · cases found
            exact ⟨_, rfl⟩
          · cases found
        rcases first with ⟨_, rfl⟩
        split_ifs at parsed
        cases parsed
        exact Json.plain_of_scanString scan
  · intro challengePlain
    refine ⟨_, (clientDataJson_eq _ _ _ _ _).symm, ?_⟩
    rw [parseMembers_challenge depth challengePlain] at parsed
    exact parsed

end Reading

/-! ## Accepted requests -/

theorem serve_handled {Body Response : Type} {state after : BrokerState} {now : Nat}
    {req : BrokerRequest Body}
    {handler : Body -> BrokerState -> Except ProtocolError Response × BrokerState}
    {response : Response}
    (served : state.serve now req handler = (.handled (.ok response), after)) :
    ∃ body charged, req.body = some body /\ (handler body charged).1 = .ok response := by
  unfold BrokerState.serve at served
  split_ifs at served
  · cases served
  · cases served
  · dsimp only at served
    split at served
    · split at served
      · cases served
      · rename_i body given
        rw [Prod.mk.injEq, BrokerAnswer.handled.injEq] at served
        exact ⟨body, _, given, served.1⟩
    all_goals cases served

section Accepted

variable {occasion : Occasion}

/-- An assertion carries the client data whose hash was signed. -/
theorem assertWith_some
    (signed : assertWith env occasion.keys policy req cred signCount = some response) :
    ∃ key algorithm authenticatorData signature,
      occasion.keys.sign key algorithm (authenticatorData ++ bytesOf (env.sha256
        (buildClientDataJson req.origin req.challengeB64u req.crossOrigin
          req.topOrigin))) = some signature /\
      response.signatureB64u = b64uEncode signature /\
      response.clientDataJsonB64u = b64uEncode (buildClientDataJson req.origin
        req.challengeB64u req.crossOrigin req.topOrigin) := by
  rcases Option.map_eq_some_iff.mp signed with ⟨signature, made, rfl⟩
  exact ⟨_, _, _, signature, made, rfl, rfl⟩

end Accepted

/-- Every character of the challenge stands for itself in JSON. -/
def PlainChallenge (challengeB64u : Text) : Prop :=
  ∀ char ∈ challengeB64u, Json.isPlain char = true

/-- The client data of an accepted request says what the request said exactly if its challenge
is plain. -/
theorem accepted_clientData_faithful_iff (env : Env) (security : SecurityConfig)
    (state after : BrokerState) (now : Nat) (occasion : Occasion) :
    (∀ req response,
      state.handleSign env security now occasion req = (.handled (.ok response), after) ->
        ∃ body key algorithm authenticatorData signature clientData, req.body = some body /\
          response.clientDataJsonB64u = b64uEncode clientData /\
          occasion.keys.sign key algorithm
            (authenticatorData ++ bytesOf (env.sha256 clientData)) = some signature /\
          response.signatureB64u = b64uEncode signature /\
          (Faithful "webauthn.get".toList body.origin body.challengeB64u body.crossOrigin
            body.topOrigin clientData <-> PlainChallenge body.challengeB64u)) /\
      ∀ req response, state.handleRegister env security now occasion req =
          (.handled (.ok response), after) ->
          ∃ body clientData, req.body = some body /\
            response.clientDataJsonB64u = b64uEncode clientData /\
            (Faithful "webauthn.create".toList body.origin body.challengeB64u body.crossOrigin
              body.topOrigin clientData <-> PlainChallenge body.challengeB64u) := by
  constructor
  · intro req response handled
    unfold BrokerState.handleSign at handled
    split at handled
    · cases handled
    · rcases serve_handled handled with ⟨body, charged, given, signed⟩
      rcases sign_releases (Prod.ext signed rfl) with ⟨_, _, _, _, _, released⟩
      rcases assertWith_some released.asserted with
        ⟨key, algorithm, authenticatorData, signature, signed, same, data⟩
      exact ⟨body, key, algorithm, authenticatorData, signature, _, given, data, signed, same,
        faithful_iff_plain (List.all_eq_true.mp (by decide))⟩
  · intro req response handled
    unfold BrokerState.handleRegister at handled
    split at handled
    · cases handled
    · rcases serve_handled handled with ⟨body, _, given, registered⟩
      rcases register_registers (Prod.ext registered rfl) with ⟨_, _, _, _, stored⟩
      exact ⟨body, _, given, congrArg _ stored.answered,
        faithful_iff_plain (List.all_eq_true.mp (by decide))⟩

/-! ## A challenge that closes its own quotes -/

namespace Sample

/-- The sample state with one credential and one token for it. -/
def tokenState : BrokerState :=
  { state with
    registry :=
      { entries := Table.empty.insert ⟨1⟩ entry
        registrationEntries := .empty
        requestBudgets := Table.empty.insert ⟨1⟩ (.new 64) }
    credentialStorage := fun _ => ownStore }

/-- The page asks for an assertion with the given challenge. -/
def challenged (challengeB64u : Text) : BrokerRequest SignAssertionRequest where
  token := ⟨1⟩
  jsonContent := true
  withinLimit := true
  digest := 0
  body := some { signRequest with challengeB64u := challengeB64u }

def challengeAnswer (challengeB64u : Text) : BrokerAnswer SignAssertionResponse × BrokerState :=
  tokenState.handleSign sampleEnv security 0 occasion (challenged challengeB64u)

def isReleased : BrokerAnswer SignAssertionResponse -> Bool
  | .handled (.ok _) => true
  | _ => false

/-- The strings that an object has under a key. -/
def stringsAt (key : Text) : Json -> List Text
  | .object members =>
    members.filterMap (fun entry =>
      match entry with
      | (name, .string value) => if name = key then some value else none
      | _ => none)
  | _ => []

/-- A challenge of base64url characters is signed as it is. -/
theorem plain_challenge_faithful :
    ∃ response clientData, (challengeAnswer "AAAA".toList).1 = .handled (.ok response) /\
        response.clientDataJsonB64u = b64uEncode clientData /\
        Faithful "webauthn.get".toList signRequest.origin "AAAA".toList signRequest.crossOrigin
          signRequest.topOrigin clientData := by
  have released : isReleased (challengeAnswer "AAAA".toList).1 = true := by decide +kernel
  cases outcome : challengeAnswer "AAAA".toList with
  | mk answer after =>
    rw [outcome] at released
    match answer, released with
    | .handled (.ok response), _ =>
      rcases (accepted_clientData_faithful_iff sampleEnv security tokenState after 0
        occasion).1 (challenged "AAAA".toList) response outcome with
          ⟨_, _, _, _, _, clientData, given, data, -, -, faithful⟩
      cases given
      have plain : PlainChallenge "AAAA".toList := by
        exact List.all_eq_true.mp (by decide)
      exact ⟨response, clientData, rfl, data, faithful.mpr plain⟩

/-- A challenge with quotes: the broker checked one origin and signs client data with two. -/
def injected : Text :=
  "AAAA\",\"origin\":\"https://evil.com"

/-- A challenge that closes its quotes brings an origin of its own into the signed data. -/
theorem challenge_adds_origin :
    isReleased (challengeAnswer injected).1 = true /\
      buildClientDataJson signRequest.origin injected signRequest.crossOrigin
          signRequest.topOrigin =
        (clientDataText "webauthn.get" signRequest.origin injected signRequest.crossOrigin
          signRequest.topOrigin).utf8 /\
      (parse (clientDataText "webauthn.get" signRequest.origin injected
          signRequest.crossOrigin signRequest.topOrigin)).map (stringsAt "origin") =
        some ["https://evil.com".toList, "https://example.com".toList] := by
  decide +kernel

end Sample

end ControlVault.Broker
