import ControlVault.Ceremony.Request
import ControlVault.Foundation.Fallible

namespace ControlVault.Ceremony

open Foundation Core List CborValue

/-!
# Requests that can be read in two ways

A command is forwarded as it came, so the authenticator decodes the map again.  If
two entries have the same key, it may take another one than the parser took.

The walk for repeated keys skips every item of CBOR as a whole.  With a decoder that
conforms, it therefore finds every key that occurs twice in the same bytes.  A key in
two encodings, a map behind a tag and the map inside `rp` are not looked at.
-/

/-! ## The walk skips items -/

/-- The function skips the piece, whatever follows it, and does not take it for a break. -/
def Skips (skip : Bytes -> Option Bytes) (piece : Bytes) : Prop :=
  ∃ initial tail, piece = initial :: tail /\ initial ≠ 0xff /\
    ∀ rest, skip (piece ++ rest) = some rest

section Pieces

variable {skip : Bytes -> Option Bytes} {pieces : List Bytes}
  (each : ∀ piece ∈ pieces, Skips skip piece) (rest : Bytes)

include each

theorem skipTimes_flatten :
    skipTimes skip pieces.length (pieces.flatten ++ rest) = some rest := by
  induction pieces with
  | nil => rfl
  | cons piece pieces ih =>
    rw [forall_mem_cons] at each
    rcases each.1 with ⟨_, _, -, -, skipped⟩
    rw [length_cons, skipTimes, flatten_cons, append_assoc, skipped]
    exact ih each.2

theorem skipUntilBreak_flatten :
    let data := pieces.flatten ++ 0xff :: rest
    ∀ fuel, data.length <= fuel -> skipUntilBreak skip fuel data = some rest := by
  induction pieces with
  | nil =>
    rintro data (_ | fuel) enough
    · cases enough
    · rfl
  | cons piece pieces ih =>
    rw [forall_mem_cons] at each
    rcases each.1 with ⟨initial, tail, rfl, unbroken, skipped⟩
    rintro data (_ | fuel) enough
    · cases enough
    · simp only [data, flatten_cons, append_assoc] at enough ⊢
      rw [skipUntilBreak, if_neg (by simpa using unbroken), skipped]
      exact ih each.2 fuel (by simp at enough ⊢; omega)

end Pieces

theorem Skips.pair {skip : Bytes -> Option Bytes} {key value : Bytes} (first : Skips skip key)
    (second : Skips skip value) : Skips (skipPair skip) (key ++ value) := by
  rcases first with ⟨initial, tail, rfl, unbroken, keySkipped⟩
  rcases second with ⟨_, _, -, -, valueSkipped⟩
  refine ⟨initial, tail ++ value, rfl, unbroken, fun rest => ?_⟩
  rw [skipPair, append_assoc, keySkipped]
  exact valueSkipped rest

theorem Skips.pairs {skip : Bytes -> Option Bytes} {count : Nat} {items : List Bytes}
    (each : ∀ item ∈ items, Skips skip item) (even : items.length = 2 * count) :
    ∃ pairs : List Bytes, pairs.length = count /\ pairs.flatten = items.flatten /\
      ∀ pair ∈ pairs, Skips (skipPair skip) pair := by
  induction count generalizing items with
  | zero => exact ⟨[], rfl, by simp [eq_nil_of_length_eq_zero even], forall_mem_nil _⟩
  | succ count ih =>
    rcases items with _ | ⟨key, _ | ⟨value, items⟩⟩
    · cases even
    · simp at even
      omega
    · rw [forall_mem_cons, forall_mem_cons] at each
      rcases ih each.2.2 (by simp at even; omega) with ⟨pairs, rfl, same, skipped⟩
      refine ⟨(key ++ value) :: pairs, rfl, ?_, forall_mem_cons.mpr ⟨?_, skipped⟩⟩
      · simp [same]
      · exact each.1.pair each.2.1

theorem Skips.of_head {front body : Bytes} {head : Head}
    (read : readHead front = some (head, [])) (closed : head.major ≠ 7 ∨ head.info ≠ 31)
    {fuel : Nat} (short : (front ++ body).length <= fuel)
    (skipped : ∀ fuel, body.length <= fuel -> ∀ rest,
      skipBody (skipCborValue fuel) head (body ++ rest) = some rest) :
    Skips (skipCborValue fuel) (front ++ body) := by
  rcases readHead_split read with ⟨initial, tail, split, major, info, again⟩
  rw [append_nil] at split
  subst split
  refine ⟨initial, tail ++ body, rfl, ?_, fun rest => ?_⟩
  · rintro rfl
    rcases closed with other | definite
    · exact other major
    · exact definite info
  · cases fuel with
    | zero => cases short
    | succ fuel =>
      rw [skipCborValue, append_assoc, again]
      exact skipped fuel (by simp at short; omega) rest

/-- An item is skipped as a whole, whatever its encoding. -/
theorem Item.skips {data : Bytes} (item : Item data) :
    ∀ fuel, data.length <= fuel -> Skips (skipCborValue fuel) data := by
  have within {items : List Bytes} {fuel : Nat} (short : items.flatten.length <= fuel)
      {item : Bytes} (mem : item ∈ items) : item.length <= fuel :=
    (sublist_flatten_of_mem mem).length_le.trans short
  induction item with
  | @leaf front _ _ head plain =>
    intro fuel short
    rcases head with ⟨info, definite, read⟩
    rw [<- append_nil front] at short ⊢
    refine .of_head read (.inr definite) short fun _ _ _ => ?_
    rcases plain with rfl | rfl | rfl <;> rfl
  | string head isString =>
    intro fuel short
    rcases head with ⟨info, definite, read⟩
    refine .of_head read (.inr definite) short fun _ _ rest => ?_
    rcases isString with rfl | rfl <;> simp [skipBody, definite]
  | @counted _ _ _ items head size _ ih =>
    intro fuel short
    rcases head with ⟨info, definite, read⟩
    refine .of_head read (.inr definite) short fun fuel short rest => ?_
    have each : ∀ item ∈ items, Skips (skipCborValue fuel) item :=
      fun item mem => ih item mem fuel (within short mem)
    rcases size with ⟨rfl, rfl⟩ | ⟨rfl, even⟩ | ⟨rfl, one⟩
    · simp only [skipBody, if_neg definite]
      exact skipTimes_flatten each rest
    · rcases Skips.pairs each even with ⟨pairs, rfl, same, skipped⟩
      simp only [skipBody, if_neg definite, <- same]
      exact skipTimes_flatten skipped rest
    · rcases length_eq_one_iff.mp one with ⟨item, rfl⟩
      rcases each item mem_cons_self with ⟨_, _, -, -, skipped⟩
      rw [flatten_singleton]
      exact skipped rest
  | @opened _ _ _ items head isList _ ih =>
    intro fuel short
    rcases head with ⟨argument, read⟩
    refine .of_head read (.inl (by dsimp only; omega)) short fun fuel short rest => ?_
    rw [length_append] at short
    rw [append_assoc]
    have each : ∀ item ∈ items, Skips (skipCborValue fuel) item :=
      fun item mem => ih item mem fuel (within (by omega) mem)
    rcases isList with rfl | rfl | rfl | ⟨rfl, even⟩
    iterate 3 exact skipUntilBreak_flatten each rest _ le_rfl
    rcases Skips.pairs each even with ⟨pairs, -, same, skipped⟩
    rw [<- same]
    exact skipUntilBreak_flatten skipped rest _ le_rfl

/-- What a decoder reads, the walk skips. -/
theorem skipCborValue_of_read {item : Bytes -> Option (CborValue × Bytes)}
    (conforming : Conforming item) {data rest : Bytes} {value : CborValue} {fuel : Nat}
    (read : item data = some (value, rest)) (short : data.length <= fuel) :
    skipCborValue fuel data = some rest /\ rest.length < data.length := by
  rcases conforming.reads read with ⟨consumed, rfl, isItem, -⟩
  rw [length_append] at short ⊢
  rcases Item.skips isItem fuel (by omega) with ⟨_, _, rfl, -, skipped⟩
  exact ⟨skipped rest, by simp⟩

/-! ## What the walk finds -/

/-- The keys of the entries have bytes that are all different, also from earlier ones. -/
def Distinct (seen : List Bytes) (entries : List (Bytes × Bytes)) : Prop :=
  (entries.map Prod.fst).Nodup /\ ∀ entry ∈ entries, entry.1 ∉ seen

theorem distinct_cons :
    Distinct seen (entry :: entries) <->
      entry.1 ∉ seen /\ Distinct (entry.1 :: seen) entries := by
  unfold Distinct
  rw [map_cons, nodup_cons, forall_mem_cons]
  constructor
  · rintro ⟨⟨new, once⟩, unseen, others⟩
    refine ⟨unseen, once, ?_⟩
    intro other mem inside
    rcases mem_cons.mp inside with same | earlier
    · exact new (same ▸ mem_map_of_mem mem)
    · exact others other mem earlier
  · rintro ⟨unseen, once, others⟩
    refine ⟨⟨?_, once⟩, unseen, ?_⟩
    · intro mem
      rcases mem_map.mp mem with ⟨other, inside, same⟩
      exact others other inside (same ▸ mem_cons_self)
    · intro other mem earlier
      exact others other mem (mem_cons_of_mem _ earlier)

/-- On a map that the decoder reads, the walk says whether the bytes of a key repeat. -/
theorem duplicateAmong_false_iff {item : Bytes -> Option (CborValue × Bytes)}
    (conforming : Conforming item) {fuel count : Nat} {seen : List Bytes} {data rest : Bytes}
    {entries : List (Bytes × Bytes)} (short : data.length <= fuel)
    (read : repeatItems (readEntry item) count data = some (entries, rest)) :
    duplicateAmong fuel seen count data = .ok false <-> Distinct seen entries := by
  induction count generalizing data entries seen with
  | zero =>
    cases read
    exact iff_of_true rfl ⟨nodup_nil, fun _ never => absurd never not_mem_nil⟩
  | succ count ih =>
    rw [repeatItems] at read
    split at read
    · cases read
    next entry remaining first =>
      rcases Option.map_eq_some_iff.mp read with ⟨result, later, same⟩
      cases same
      unfold readEntry at first
      split at first
      · cases first
      next key afterKey keyRead =>
        split at first
        · cases first
        next value afterValue valueRead =>
          cases first
          rcases skipCborValue_of_read conforming keyRead short with ⟨keySkipped, shorter⟩
          rcases skipCborValue_of_read conforming valueRead (by omega : _ <= fuel) with
            ⟨valueSkipped, shorterStill⟩
          have nonempty : data.isEmpty = false := by
            cases data with
            | nil => simp at shorter
            | cons => rfl
          have valueNonempty : afterKey.isEmpty = false := by
            cases afterKey with
            | nil => simp at shorterStill
            | cons => rfl
          have next := @ih
            (data.take (data.length - afterKey.length) :: seen) remaining result.1 (by omega) later
          rw [duplicateAmong, nonempty, keySkipped, distinct_cons, <- next]
          dsimp only
          rw [valueNonempty, valueSkipped]
          by_cases repeated : data.take (data.length - afterKey.length) ∈ seen
          · simp [repeated]
          · simp [repeated]

/-! ## Requests -/

section Requests

variable (env : Env) (data : Bytes)

/-- The entries of a map, each as the bytes of its key and of its value. -/
def entriesOf : List (Bytes × Bytes) :=
  ((readEntries env.readCbor data.length data).map Prod.fst).getD []

/-- The data begins with the head of a map, not with a tag. -/
def startsWithMap : Bool :=
  data.head?.any (fun initial => initial.toNat / 32 = 5)

/-- No two entries of the map have keys that decode to the same value. -/
def KeysOnce : Prop :=
  (entriesOf env data).Pairwise (fun first second =>
    decode env.readCbor first.1 ≠ decode env.readCbor second.1)

/-- No key of the map occurs in two encodings, and behind a tag no key occurs twice. -/
def NoDisguisedKey : Prop :=
  (entriesOf env data).Pairwise (fun first second =>
    first.1 ≠ second.1 ∨ startsWithMap data = false ->
      decode env.readCbor first.1 ≠ decode env.readCbor second.1)

/-- Whatever entry with a key a reader takes, its value is a good one. -/
def Only (key : CborValue) (good : Bytes -> Prop) : Prop :=
  ∀ entry ∈ entriesOf env data, decode env.readCbor entry.1 = some key -> good entry.2

/-- No two entries of a request's `rp` map have equal keys. -/
def RpKeysOnce : Prop :=
  Only env data (.integer 2) (KeysOnce env)

/-- The data names the relying party. -/
def Names (rpId : Text) : Prop :=
  ∃ raw, decode env.readCbor data = some (.text raw) /\ validateRpId raw = .ok rpId

/-- Whatever entries of a registration and of its `rp` map a reader takes, it finds the same
relying party. -/
def OnlyRpEntity (rpId : Text) : Prop :=
  Only env data (.integer 2) (fun rp => (∃ pairs, decode env.readCbor rp = some (.map pairs)) /\
    Only env rp (.text "id") (fun name => Names env name rpId))

end Requests

variable {env : Env}

theorem entriesOf_spec (conforming : Conforming env.readCbor) {data : Bytes}
    {pairs : List (CborValue × CborValue)} (read : decode env.readCbor data = some (.map pairs)) :
    readEntries env.readCbor data.length data = some (entriesOf env data, []) /\
      ∀ key value, (key, value) ∈ pairs <-> Last env.readCbor (entriesOf env data) key value := by
  rcases conforming.entries read with ⟨entries, found, last⟩
  have same : entriesOf env data = entries := by
    rw [entriesOf, found]
    rfl
  rw [same]
  exact ⟨found, last⟩

theorem parseEntries_ok {data : Bytes} {pairs : List (CborValue × CborValue)}
    (parsed : parseEntries env data = .ok pairs) :
    decode env.readCbor data = some (.map pairs) /\ hasDuplicateKeys data = .ok false := by
  unfold parseEntries at parsed
  split at parsed
  · cases parsed
  next decoded =>
    split at parsed
    · cases parsed
    · cases parsed
    next unique =>
      cases parsed
      exact ⟨decoded, unique⟩
  · cases parsed

/-- The count in the head of a map is the one the walk uses. -/
theorem hasDuplicateKeys_map {initial : UInt8} {tail body : Bytes} {head : Head}
    (major : initial.toNat / 32 = 5)
    (read : readHead (initial :: tail) = some (head, body))
    (unique : hasDuplicateKeys (initial :: tail) = .ok false) :
    head.info ≠ 31 /\
      duplicateAmong (initial :: tail).length [] head.argument body = .ok false := by
  unfold hasDuplicateKeys at unique
  dsimp only at unique
  rw [if_neg (not_not.mpr major)] at unique
  unfold readHead argumentWidth at read
  dsimp only at read
  by_cases small : initial.toNat % 32 <= 23
  · rw [if_pos small] at unique read
    simp only [if_pos small] at read
    cases read
    exact ⟨by dsimp only; omega, unique⟩
  · rw [if_neg small] at unique read
    by_cases one : initial.toNat % 32 = 24
    · rw [if_pos one] at unique read
      cases tail with
      | nil => cases unique
      | cons =>
        simp only [if_neg small] at read
        cases read
        refine ⟨by dsimp only; omega, ?_⟩
        simpa [ofLittleEndian] using unique
    · rw [if_neg one] at unique read
      by_cases two : initial.toNat % 32 = 25
      · rw [if_pos two] at unique read
        split at unique
        next high low rest =>
          simp only [if_neg small, take_succ_cons, take_zero] at read
          cases read
          refine ⟨by dsimp only; omega, ?_⟩
          have number : ofLittleEndian [high, low].reverse = high.toNat * 256 + low.toNat := by
            change low.toNat + 256 * (high.toNat + 256 * 0) = _
            omega
          rw [number]
          exact unique
        · cases unique
      · rw [if_neg two] at unique
        cases unique

/-- Untagged requests that are accepted repeat no key in the same bytes. -/
theorem distinct_of_accepted (conforming : Conforming env.readCbor) {data : Bytes}
    {pairs : List (CborValue × CborValue)} (parsed : parseEntries env data = .ok pairs)
    (map : startsWithMap data = true) : Distinct [] (entriesOf env data) := by
  rcases parseEntries_ok parsed with ⟨read, unique⟩
  have entriesRead := (entriesOf_spec conforming read).1
  cases data with
  | nil => cases map
  | cons initial tail =>
    have major : initial.toNat / 32 = 5 := of_decide_eq_true map
    rw [length_cons, readEntries] at entriesRead
    split at entriesRead
    · cases entriesRead
    next head body first =>
      rcases readHead_split first with ⟨_, front, split, headMajor, -⟩
      cases split
      rcases hasDuplicateKeys_map major first unique with ⟨definite, walked⟩
      rw [if_pos (headMajor.trans major), readSequence, if_neg definite] at entriesRead
      exact (duplicateAmong_false_iff conforming (by simp; omega) entriesRead).mp walked

theorem keysOnce_iff (conforming : Conforming env.readCbor) {data : Bytes}
    {pairs : List (CborValue × CborValue)} (parsed : parseEntries env data = .ok pairs) :
    KeysOnce env data <-> NoDisguisedKey env data := by
  constructor
  · intro once
    refine List.Pairwise.imp ?_ once
    intro first second different _
    exact different
  · intro undisguised
    cases map : startsWithMap data with
    | false => exact undisguised.imp (fun keys => keys (.inr map))
    | true =>
      have distinct := (distinct_of_accepted conforming parsed map).1
      rw [List.Nodup, pairwise_map] at distinct
      exact distinct.imp₂ (fun _ _ encodings keys => keys (.inl encodings)) undisguised

/-! ## The one name of the relying party -/

theorem exists_of_last {item : Bytes -> Option (CborValue × Bytes)}
    {entries : List (Bytes × Bytes)} {key value : CborValue} (last : Last item entries key value) :
    ∃ entry ∈ entries, decode item entry.1 = some key /\ decode item entry.2 = some value := by
  induction entries with
  | nil => cases last
  | cons entry rest ih =>
    rcases last with ⟨named, valued, -⟩ | later
    · exact ⟨entry, mem_cons_self, named, valued⟩
    · rcases ih later with ⟨other, mem, same⟩
      exact ⟨other, mem_cons_of_mem _ mem, same⟩

/-- In a map without repeated keys every entry of a key has the value that is found. -/
theorem Only.of_once (conforming : Conforming env.readCbor) {data : Bytes}
    {pairs : List (CborValue × CborValue)} (read : decode env.readCbor data = some (.map pairs))
    (once : KeysOnce env data) {test : CborValue -> Bool} {key value : CborValue}
    (recognises : ∀ other, test other = true -> other = key)
    (found : find test pairs = some value) :
    Only env data key (fun bytes => decode env.readCbor bytes = some value) := by
  intro entry mem named
  rcases Option.map_eq_some_iff.mp found with ⟨pair, located, rfl⟩
  have tested := recognises pair.1 (by simpa using find?_some located)
  have last := ((entriesOf_spec conforming read).2 pair.1 pair.2).mp (mem_of_find?_eq_some located)
  rcases exists_of_last last with ⟨other, otherMember, otherNamed, valued⟩
  have keys : ((entriesOf env data).map fun entry => decode env.readCbor entry.1).Nodup :=
    pairwise_map.mpr once
  rw [inj_on_of_nodup_map keys mem otherMember (by rw [named, otherNamed, tested])]
  exact valued

theorem isInteger_eq {number : Int} {value : CborValue} (test : isInteger number value = true) :
    value = .integer number := by
  cases value with
  | integer other => exact congrArg integer (of_decide_eq_true test)
  | _ => cases test

theorem isText_eq {wanted : Text} {value : CborValue} (test : isText wanted value = true) :
    value = .text wanted := by
  cases value with
  | text other => exact congrArg text (of_decide_eq_true test)
  | _ => cases test

theorem parseRpEntity_ok {value : CborValue} {rpId : Text} (parsed : parseRpEntity value = .ok rpId) :
    ∃ pairs raw, value = .map pairs /\ find (isText "id") pairs = some (.text raw) /\
      validateRpId raw = .ok rpId := by
  unfold parseRpEntity at parsed
  split at parsed
  next pairs =>
    split at parsed
    · cases parsed
    next raw found => exact ⟨pairs, raw, rfl, found, parsed⟩
    · cases parsed
  · cases parsed

theorem parseMakeCredential_ok {data : Bytes} {parsed : ParsedMakeCredential}
    (accepted : parseMakeCredential env data = .ok parsed) :
    ∃ pairs rpEntry, parseEntries env data = .ok pairs /\ fieldAt pairs 0x02 = some rpEntry /\
      parseRpEntity rpEntry = .ok parsed.rpId := by
  unfold parseMakeCredential at accepted
  simp only [bind_eq_ok] at accepted
  rcases accepted with ⟨pairs, entries, rpEntry, required, _, entity, _, _, _, _, _, _, _, _, _, _,
    _, _, _, _, _, _, _, _, rfl⟩
  refine ⟨pairs, rpEntry, entries, ?_, entity⟩
  unfold requireField at required
  split at required
  next value found =>
    cases required
    exact found
  · cases required

theorem parseGetAssertion_ok {data : Bytes} {parsed : ParsedGetAssertion}
    (accepted : parseGetAssertion env data = .ok parsed) :
    ∃ pairs raw, parseEntries env data = .ok pairs /\ fieldAt pairs 0x01 = some (.text raw) /\
      validateRpId raw = .ok parsed.rpId := by
  unfold parseGetAssertion at accepted
  rw [bind_eq_ok] at accepted
  rcases accepted with ⟨pairs, entries, accepted⟩
  split at accepted
  next raw found =>
    simp only [bind_eq_ok] at accepted
    rcases accepted with ⟨_, valid, _, _, _, _, _, _, _, _, _, _, _, _, ⟨⟩⟩
    exact ⟨pairs, raw, entries, found, valid⟩
  · cases accepted
  · cases accepted

theorem onlyRpEntity_of_once (conforming : Conforming env.readCbor) {data : Bytes}
    {parsed : ParsedMakeCredential} (accepted : parseMakeCredential env data = .ok parsed)
    (once : KeysOnce env data) (rpOnce : RpKeysOnce env data) :
    OnlyRpEntity env data parsed.rpId := by
  rcases parseMakeCredential_ok accepted with ⟨_, _, entries, located, entity⟩
  rcases parseRpEntity_ok entity with ⟨rpPairs, raw, rfl, idFound, valid⟩
  have located := Only.of_once conforming (parseEntries_ok entries).1 once
    (fun _ => isInteger_eq) located
  intro rp mem key
  have read := located rp mem key
  refine ⟨⟨rpPairs, read⟩, fun entry inside named => ⟨raw, ?_, valid⟩⟩
  exact Only.of_once conforming read (rpOnce rp mem key) (fun _ => isText_eq) idFound entry
    inside named

/-- With a decoder that conforms, an accepted request repeats no key exactly if no key is disguised
and its `rp` map repeats none; and then there is only one relying party to be read. -/
theorem accepted_keysOnce_iff (env : Env) (conforming : Conforming env.readCbor)
    (data : Bytes) :
    (∀ parsed, parseMakeCredential env data = .ok parsed ->
      (KeysOnce env data /\ RpKeysOnce env data <->
        NoDisguisedKey env data /\ RpKeysOnce env data) /\
        (NoDisguisedKey env data /\ RpKeysOnce env data -> OnlyRpEntity env data parsed.rpId)) /\
      ∀ parsed, parseGetAssertion env data = .ok parsed ->
        (KeysOnce env data <-> NoDisguisedKey env data) /\
          (NoDisguisedKey env data ->
            Only env data (.integer 1) (fun name => Names env name parsed.rpId)) := by
  constructor
  · intro parsed accepted
    rcases parseMakeCredential_ok accepted with ⟨pairs, _, entries, _, _⟩
    have once := keysOnce_iff conforming entries
    refine ⟨and_congr_left (fun _ => once), ?_⟩
    rintro ⟨undisguised, rpOnce⟩
    exact onlyRpEntity_of_once conforming accepted (once.mpr undisguised) rpOnce
  · intro parsed accepted
    rcases parseGetAssertion_ok accepted with ⟨_, raw, entries, located, valid⟩
    have once := keysOnce_iff conforming entries
    refine ⟨once, fun undisguised entry mem key => ⟨raw, ?_, valid⟩⟩
    exact Only.of_once conforming (parseEntries_ok entries).1 (once.mpr undisguised)
      (fun _ => isInteger_eq) located entry mem key

/-! ## Two relying parties in one request -/

namespace Sample

/-- The bytes of an item and its value. -/
abbrev Row := Bytes × CborValue

/-- A decoder that knows the items of a table. -/
def table (rows : List Row) (data : Bytes) : Option (CborValue × Bytes) :=
  (skipCborValue data.length data).bind (fun rest =>
    (rows.find? (fun row => row.1 = data.take (data.length - rest.length))).map (fun row =>
      (row.2, rest)))

section Table

variable {rows : List Row} (items : ∀ row ∈ rows, Item row.1)

include items

theorem table_row {row : Row} (mem : row ∈ rows)
    (known : rows.find? (fun other => other.1 = row.1) = some row) (rest : Bytes) :
    table rows (row.1 ++ rest) = some (row.2, rest) := by
  rcases Item.skips (items row mem) (row.1 ++ rest).length (by simp) with ⟨_, _, -, -, skipped⟩
  rw [table, skipped]
  simp [known]

theorem table_reads {data rest : Bytes} {value : CborValue}
    (read : table rows data = some (value, rest)) : ∃ row ∈ rows, value = row.2 /\
      data = row.1 ++ rest /\ ∀ other, table rows (row.1 ++ other) = some (row.2, other) := by
  rcases Option.bind_eq_some_iff.mp read with ⟨_, skipped, found⟩
  rcases Option.map_eq_some_iff.mp found with ⟨row, located, ⟨⟩⟩
  have bytes : row.1 = data.take (data.length - rest.length) := by simpa using find?_some located
  have mem := mem_of_find?_eq_some located
  rw [<- bytes] at located
  have split : row.1 ++ data.drop (data.length - rest.length) = data := by
    rw [bytes, take_append_drop]
  rcases Item.skips (items row mem) data.length (by rw [bytes]; simp) with ⟨_, _, -, -, again⟩
  have same := again (data.drop (data.length - rest.length))
  rw [split, skipped, Option.some_inj] at same
  rw [<- same] at split
  exact ⟨row, mem, rfl, split.symm, table_row items mem located⟩

end Table

def one : Row := ([0x01], .integer 1)

/-- The same key in two bytes. -/
def wideOne : Row := ([0x18, 0x01], .integer 1)

def two : Row := ([0x02], .integer 2)

def hash : Row := ([0x41, 0x07], .byteString [0x07])

def shortText (value : String) : Row :=
  (UInt8.ofNat (0x60 + (Text.utf8 value.toList).length) :: Text.utf8 value.toList,
    .text value.toList)

def bytesOf (entries : List (Row × Row)) : List (Bytes × Bytes) :=
  entries.map (fun entry => (entry.1.1, entry.2.1))

/-- A map, of whose entries the decoder keeps some. -/
def mapOf (entries kept : List (Row × Row)) : Row :=
  (UInt8.ofNat (0xa0 + entries.length) ::
      (entries.flatMap fun entry => [entry.1.1, entry.2.1]).flatten,
    .map (kept.map fun entry => (entry.1.2, entry.2.2)))

/-- The fields that an assertion has to have. -/
def fields (rpId : String) : List (Row × Row) :=
  [(one, shortText rpId), (two, hash)]

def plain : Row := mapOf (fields "example.com") (fields "example.com")

/-- The entries of a map that has its first key in two encodings. -/
def twice : List (Row × Row) :=
  fields "example.com" ++ [(wideOne, shortText "evil.com")]

/-- The decoder keeps the later one of two equal keys. -/
def disguised : Row := mapOf twice (fields "evil.com")

def rows : List Row :=
  [one, wideOne, two, hash, shortText "example.com", shortText "evil.com", plain, disguised]

theorem rows_items : ∀ row ∈ rows, Item row.1 := by
  have text (value : String) (head : Announces
      [UInt8.ofNat (0x60 + (Text.utf8 value.toList).length)] 3 (Text.utf8 value.toList).length) :
      Item (shortText value).1 :=
    .string head (.inr rfl)
  have map {entries kept : List (Row × Row)}
      (head : Announces [UInt8.ofNat (0xa0 + entries.length)] 5 entries.length)
      (items : ∀ entry ∈ entries, Item entry.1.1 /\ Item entry.2.1) :
      Item (mapOf entries kept).1 := by
    refine .counted head (.inr (.inl ⟨rfl, by simp [Nat.mul_comm]⟩)) ?_
    intro item mem
    rcases mem_flatMap.mp mem with ⟨entry, inside, either⟩
    rcases mem_pair.mp either with rfl | rfl
    · exact (items entry inside).1
    · exact (items entry inside).2
  have first : Item one.1 := .leaf ⟨_, by decide, rfl⟩ (.inl rfl)
  have wide : Item wideOne.1 := .leaf ⟨_, by decide, rfl⟩ (.inl rfl)
  have second : Item two.1 := .leaf ⟨_, by decide, rfl⟩ (.inl rfl)
  have hash : Item hash.1 := @Item.string [0x41] [0x07] 2 ⟨_, by decide, rfl⟩ (.inl rfl)
  have good := text "example.com" ⟨_, by decide, rfl⟩
  have evil := text "evil.com" ⟨_, by decide, rfl⟩
  simp only [rows, forall_mem_cons]
  refine ⟨first, wide, second, hash, good, evil, ?_, ?_, nofun⟩
  · exact map ⟨_, by decide, rfl⟩ (by simp [fields, *])
  · exact map ⟨_, by decide, rfl⟩ (by simp [twice, fields, *])

theorem decode_row : ∀ row ∈ rows, decode (table rows) row.1 = some row.2 := by
  intro row mem
  have apart : rows.Pairwise (fun first second => first.1 ≠ second.1) := by decide +kernel
  rcases append_of_mem mem with ⟨before, after, split⟩
  rw [split, pairwise_append] at apart
  have known : rows.find? (fun other => other.1 = row.1) = some row := by
    refine find?_eq_some_iff_append.mpr ⟨by simp, before, after, split, fun other earlier => ?_⟩
    simpa using apart.2.2 other earlier row mem_cons_self
  have read := table_row rows_items mem known []
  rw [append_nil] at read
  rw [decode, read]

theorem rows_entries : ∀ row ∈ rows, ∀ pairs, row.2 = .map pairs -> ∃ entries,
    readEntries (table rows) row.1.length row.1 = some (entries, []) /\
      ∀ key value, (key, value) ∈ pairs <-> Last (table rows) entries key value := by
  have values := decode_row
  have reads : readEntries (table rows) plain.1.length plain.1 =
        some (bytesOf (fields "example.com"), []) /\
      readEntries (table rows) disguised.1.length disguised.1 = some (bytesOf twice, []) := by
    decide +kernel
  generalize table rows = table at values reads ⊢
  simp only [rows, forall_mem_cons] at values ⊢
  refine ⟨nofun, nofun, nofun, nofun, nofun, nofun, fun _ same => ⟨_, reads.1, ?_⟩,
    fun _ same => ⟨_, reads.2, ?_⟩, nofun⟩
  all_goals
    cases same
    simp [Last, values, twice, fields, bytesOf]
    grind [one, wideOne, two]

theorem rows_conforming : Conforming (table rows) where
  reads := by
    intro data value rest read
    rcases table_reads rows_items read with ⟨row, mem, rfl, split, again⟩
    exact ⟨row.1, split, rows_items row mem, again⟩
  entries := by
    intro data pairs read
    unfold decode at read
    split at read
    next value found =>
      rcases table_reads rows_items found with ⟨row, mem, rfl, rfl, -⟩
      rw [append_nil]
      exact rows_entries row mem pairs (Option.some_inj.mp read)
    · cases read

def rowsEnv : Env :=
  { sampleEnv with readCbor := table rows }

def acceptedRpId (data : Bytes) : Option Text :=
  (parseGetAssertion rowsEnv data).toOption.map ParsedGetAssertion.rpId

/-- The request without a second key names one relying party. -/
theorem plain_request_unambiguous : KeysOnce rowsEnv plain.1 /\
    Only rowsEnv plain.1 (.integer 1) (fun name => Names rowsEnv name "example.com") := by
  have accepted : parseGetAssertion rowsEnv plain.1 = .ok ⟨"example.com", false, []⟩ := by
    decide +kernel
  have entries : entriesOf rowsEnv plain.1 = bytesOf (fields "example.com") := by decide +kernel
  have values : ∀ row ∈ rows, decode rowsEnv.readCbor row.1 = some row.2 := decode_row
  have undisguised : NoDisguisedKey rowsEnv plain.1 := by
    simp [rows, one, two] at values
    simp [NoDisguisedKey, entries, bytesOf, fields, values, one, two]
  rcases (accepted_keysOnce_iff rowsEnv rows_conforming _).2 _ accepted with ⟨once, only⟩
  exact ⟨once.mpr undisguised, only undisguised⟩

/-- Two relying parties under one key, in two encodings. -/
theorem second_rp_accepted : Conforming rowsEnv.readCbor /\
    acceptedRpId disguised.1 = some "evil.com".toList /\ ¬KeysOnce rowsEnv disguised.1 := by
  have entries : entriesOf rowsEnv disguised.1 = bytesOf twice := by decide +kernel
  have values : ∀ row ∈ rows, decode rowsEnv.readCbor row.1 = some row.2 := decode_row
  simp [rows, one, wideOne] at values
  refine ⟨rows_conforming, by decide +kernel, ?_⟩
  simp [KeysOnce, entries, bytesOf, twice, fields, values, one, wideOne]

end Sample

end ControlVault.Ceremony
