import ControlVault.Broker.Scenario
import ControlVault.Broker.SignStages

namespace ControlVault.Broker

open Foundation Core Engine Browser Storage List

/-!
# Counters of released assertions

A relying party takes a counter that does not rise for the sign of a copied key.
A call reads the counter, raises it, writes it and only then signs; each of these
steps may fail, and other calls for the same credential run at the same time.
The storage mutex is held over all of them, so the argument is about the one call
that holds it: the counter it is about to release is the one in the store, and
every counter released before is smaller.

The counter of an assertion is read from its authenticator data, as a relying
party reads it.
-/

variable {cred : Credential}

/-- The counter in the authenticator data of an assertion. -/
def carriedCount (response : SignAssertionResponse) : Option Nat :=
  match b64uDecode response.authenticatorDataB64u with
  | .error _ => none
  | .ok data => some (ofLittleEndian ((data.drop 33).take 4).reverse)

/-- The counter that an act released for a credential. -/
def SignAct.releasedCount (id : CredentialId) : SignAct -> Option Nat
  | .released other response => if other = id then carriedCount response else none
  | _ => none

/-- The counters that were released for a credential, in order. -/
def releasedCounts (id : CredentialId) (journal : List SignAct) : List Nat :=
  journal.filterMap (SignAct.releasedCount id)

/-- Counters rise until they reach the last one. -/
def Rises (earlier later : Nat) : Prop :=
  earlier < later ∨ earlier = maxSignCount /\ later = maxSignCount

/-- The counter of the assertion was written, then the assertion was signed. -/
def WrittenFirst (id : CredentialId) (before : List SignAct) (response : SignAssertionResponse) :
    Prop :=
  ∃ count earlier written signed data clientDataHash, carriedCount response = some count /\
    before = earlier ++ [.wrote written, .signed signed (data ++ clientDataHash)] /\
    written.id = id /\ written.signCount = count /\ response.authenticatorDataB64u = b64uEncode data

/-- Calls in counting mode begin, and the rest of the daemon works. -/
def CountingBegins (stage : SignStage) : Prop :=
  (∃ call : SignCall, call.security.constantSignatureCounter = false /\ stage = .checking call) ∨
    ∃ policyRuntime browserManager, stage = .tending policyRuntime browserManager

/-! ## The counter in the bytes -/

variable {response : SignAssertionResponse} {signCount : Nat} {rpId : ValidatedRpId} {act : SignAct}

theorem assertWith_count {env : Env} {keys : KeyBackend} {policy : AgentCeremonyPolicy}
    {req : SignAssertionRequest}
    (asserted : assertWith env keys policy req cred signCount = some response)
    (bounded : signCount <= maxSignCount) :
    carriedCount response = some signCount /\
      ∃ data clientDataHash, signatureInput env keys policy req cred signCount =
        data ++ clientDataHash /\ response.authenticatorDataB64u = b64uEncode data := by
  rcases Option.map_eq_some_iff.mp asserted with ⟨_, _, rfl⟩
  refine ⟨?_, _, _, rfl, rfl⟩
  have small : signCount < 256 ^ 4 := by
    rw [maxSignCount] at bounded
    omega
  rw [carriedCount, b64uDecode_b64uEncode, buildAuthenticatorData, toBeBytes_eq]
  dsimp only
  rw [drop_left' (by simp), take_of_length_le (by simp), reverse_reverse,
    ofLittleEndian_littleEndian small]

/-! ## What a use of a credential does to the store -/

section Store

variable {store : LocalStorageAdapter} {security : SecurityConfig}

theorem countUse_cases (counts : security.constantSignatureCounter = false)
    (result : Except StorageError Nat × LocalStorageAdapter)
    (counted : countUse security store cred saved = result) :
    (cred.discoverable = false /\ result = (.ok 0, store)) ∨
      (∃ error, result = (.error error, store)) ∨
      ∃ rpId : ValidatedRpId, cred.discoverable = true /\ rpId.value = cred.rpId.trim /\
        result = (.ok (min (cred.signCount + 1) maxSignCount),
          store.stored rpId { cred with
            signCount := min (cred.signCount + 1) maxSignCount }) := by
  subst counted
  unfold countUse
  by_cases shown : cred.discoverable = true
  · rw [if_neg (by simp [counts, shown])]
    dsimp only
    have written := store.write_written
      { cred with signCount := min (cred.signCount + 1) maxSignCount } saved
    generalize store.write
      { cred with signCount := min (cred.signCount + 1) maxSignCount } saved =
        outcome at written
    cases written with
    | refused => exact .inr (.inl ⟨_, rfl⟩)
    | stored rpId place => exact .inr (.inr ⟨rpId, shown, place, rfl⟩)
  · rw [if_pos (by simp [shown])]
    exact .inl ⟨Bool.eq_false_of_not_eq_true shown, rfl⟩

theorem truthful_recounted (truthful : store.Truthful)
    (read : store.read cred.id = .ok cred) (place : rpId.value = cred.rpId.trim)
    (signCount : Nat) :
    (store.stored rpId { cred with signCount }).Truthful := by
  refine truthful.stored place ?_
  intro path located
  rcases LocalStorageAdapter.read_eq_ok_iff.mp read with ⟨_, indexed, content⟩
  rw [indexed] at located
  cases located
  exact ValidatedRpId.ext_value ((truthful.named indexed content).2.symm.trans place.symm)

end Store

/-! ## The invariant -/

variable {env : Env} {id : CredentialId} {store : LocalStorageAdapter}
  {journal : List SignAct}

section

variable (id : CredentialId) (store : LocalStorageAdapter) (journal : List SignAct)

/-- The journal of a store that no call is working on. -/
structure Orderly :
    Prop where
  truthful : store.Truthful
  current : ∃ cred, store.read id = .ok cred /\ cred.discoverable = true /\
    ∀ count ∈ releasedCounts id journal, count <= cred.signCount
  capped : ∀ count ∈ releasedCounts id journal, count <= maxSignCount
  rising : (releasedCounts id journal).Pairwise Rises
  written : ∀ before after response, journal = before ++ .released id response :: after ->
    WrittenFirst id before response

/-- The counter that the call at the store is about to release. -/
structure Due (signCount : Nat) : Prop where
  current : ∃ cred, store.read id = .ok cred /\ cred.signCount = signCount
  capped : signCount <= maxSignCount
  largest : ∀ count ∈ releasedCounts id journal, Rises count signCount

end

section

variable (id : CredentialId) (store : LocalStorageAdapter) (journal : List SignAct)

/-- What is known of the call at the store, by its stage. -/
inductive AtStore : Worker SignLock SignStage -> Prop
  | choosing (counts : call.security.constantSignatureCounter = false)
      (orderly : Orderly id store journal) :
      AtStore ⟨[], .choosing call grant policy, [.storage, .operation call.handler]⟩
  | reading (counts : call.security.constantSignatureCounter = false)
      (orderly : Orderly id store journal) :
      AtStore ⟨[], .reading call policy chosen, [.storage, .operation call.handler]⟩
  | counting {cred : Credential} (counts : call.security.constantSignatureCounter = false)
      (orderly : Orderly id store journal) (read : store.read cred.id = .ok cred) :
      AtStore ⟨[], .counting call policy cred, [.storage, .operation call.handler]⟩
  | signing {cred : Credential} {signCount : Nat} (orderly : Orderly id store journal)
      (due : cred.id = id -> Due id store journal signCount /\
        ∃ earlier written, journal = earlier ++ [.wrote written] /\ written.id = id /\
          written.signCount = signCount) :
      AtStore ⟨[], .signing call policy cred signCount, [.storage, .operation call.handler]⟩
  | activating {cred : Credential} {response : SignAssertionResponse}
      (orderly : Orderly id store journal)
      (due : cred.id = id -> WrittenFirst id journal response /\
        ∃ signCount, carriedCount response = some signCount /\ Due id store journal signCount) :
      AtStore ⟨[], .activating call cred response, [.storage, .operation call.handler]⟩
  | leaving {call : SignCall} (orderly : Orderly id store journal) :
      AtStore ⟨call.dropBoth, .finished result, [.storage, .operation call.handler]⟩

end

/-- Threads that do not hold the storage mutex. -/
inductive AwayFromStore : Worker SignLock SignStage -> Prop
  | checking (counts : call.security.constantSignatureCounter = false) :
      AwayFromStore ⟨[], .checking call, []⟩
  | starting (counts : call.security.constantSignatureCounter = false) :
      AwayFromStore ⟨[.acquire (.operation call.handler)], .resolving call, []⟩
  | resolving (counts : call.security.constantSignatureCounter = false) :
      AwayFromStore ⟨[], .resolving call, [.operation call.handler]⟩
  | waiting (counts : call.security.constantSignatureCounter = false) :
      AwayFromStore ⟨[.acquire .storage], .choosing call grant policy, [.operation call.handler]⟩
  | leaving {call : SignCall} :
      AwayFromStore ⟨[.release (.operation call.handler)], .finished result,
        [.operation call.handler]⟩
  | finished :
      AwayFromStore ⟨[], .finished result, []⟩
  | tending :
      AwayFromStore ⟨[], .tending policyRuntime browserManager, []⟩
  | tended : AwayFromStore ⟨[], .tended, []⟩

section

variable (orderly : Orderly id store journal)

include orderly

/-- An act that releases nothing for the credential keeps the journal in order. -/
theorem Orderly.note
    (quiet : ∀ response, act ≠ .released id response) : Orderly id store (journal ++ [act]) := by
  have silent : act.releasedCount id = none := by
    cases act with
    | released other response =>
      rw [SignAct.releasedCount, if_neg]
      rintro rfl
      exact quiet response rfl
    | _ => rfl
  have same : releasedCounts id (journal ++ [act]) = releasedCounts id journal := by
    rw [releasedCounts, filterMap_append, filterMap_cons_none silent, filterMap_nil, append_nil]
    rfl
  refine ⟨orderly.truthful, ?_, ?_, ?_, ?_⟩
  · rw [same]
    exact orderly.current
  · rw [same]
    exact orderly.capped
  · rw [same]
    exact orderly.rising
  · intro before after response split
    rcases eq_nil_or_concat after with rfl | ⟨front, _, rfl⟩
    · exact absurd (append_inj' split rfl).2 (by simpa using quiet response)
    · rw [concat_eq_append, <- cons_append, <- append_assoc] at split
      exact orderly.written before front response (append_inj' split rfl).1

/-- The call releases the counter it has written. -/
theorem Orderly.release
    (written : WrittenFirst id journal response) (carried : carriedCount response = some signCount)
    (due : Due id store journal signCount) :
    Orderly id store (journal ++ [.released id response]) := by
  have extended : releasedCounts id (journal ++ [.released id response]) =
      releasedCounts id journal ++ [signCount] := by
    have shown : SignAct.releasedCount id (.released id response) = some signCount := by
      rw [SignAct.releasedCount, if_pos rfl, carried]
    rw [releasedCounts, filterMap_append, filterMap_cons_some shown]
    rfl
  rcases orderly.current with ⟨cred, read, discoverable, below⟩
  refine ⟨orderly.truthful, ⟨cred, read, discoverable, ?_⟩, ?_, ?_, ?_⟩
  · rcases due.current with ⟨other, found, last⟩
    rw [read] at found
    cases found
    rw [extended, forall_mem_append]
    exact ⟨below, forall_mem_singleton.mpr (Nat.le_of_eq last.symm)⟩
  · rw [extended, forall_mem_append]
    exact ⟨orderly.capped, forall_mem_singleton.mpr due.capped⟩
  · rw [extended, pairwise_append]
    refine ⟨orderly.rising, pairwise_singleton _ _, ?_⟩
    intro earlier mem later last
    rw [mem_singleton.mp last]
    exact due.largest earlier mem
  · intro before after other split
    rcases eq_nil_or_concat after with rfl | ⟨front, _, rfl⟩
    · rcases append_inj' split rfl with ⟨rfl, same⟩
      cases same
      exact written
    · rw [concat_eq_append, <- cons_append, <- append_assoc] at split
      exact orderly.written before front other (append_inj' split rfl).1

/-- Counting a use of some credential keeps the journal in order, and if it is the one in question
then its new counter is due. -/
theorem Orderly.recount
    (read : store.read cred.id = .ok cred) (place : rpId.value = cred.rpId.trim) :
    Orderly id (store.stored rpId { cred with
        signCount := min (cred.signCount + 1) maxSignCount }) journal /\
      (cred.id = id -> Due id (store.stored rpId { cred with
        signCount := min (cred.signCount + 1) maxSignCount }) journal
        (min (cred.signCount + 1) maxSignCount)) := by
  rcases orderly.current with ⟨current, found, discoverable, below⟩
  have reads := @LocalStorageAdapter.read_stored { cred with
    signCount := min (cred.signCount + 1) maxSignCount } store orderly.truthful.coherent.named rpId id
  have truthful := truthful_recounted orderly.truthful read place
    (min (cred.signCount + 1) maxSignCount)
  by_cases same : id = cred.id
  · rw [if_pos same] at reads
    rw [<- same, found] at read
    cases read
    refine ⟨⟨truthful, ⟨_, reads, discoverable, ?_⟩, orderly.capped, orderly.rising,
      orderly.written⟩, ?_⟩
    · intro count mem
      exact le_min (Nat.le_succ_of_le (below count mem)) (orderly.capped count mem)
    · intro _
      refine ⟨⟨_, reads, rfl⟩, min_le_right _ _, ?_⟩
      intro count mem
      have smaller := below count mem
      have capped := orderly.capped count mem
      unfold Rises
      omega
  · rw [if_neg same] at reads
    exact ⟨⟨truthful, ⟨current, reads.trans found, discoverable, below⟩, orderly.capped,
      orderly.rising, orderly.written⟩, fun other => absurd other.symm same⟩

/-- The one discoverable credential in question is counted whenever it is used. -/
theorem Orderly.discoverable_of_read (read : store.read cred.id = .ok cred) (same : cred.id = id) :
    cred.discoverable = true := by
  rcases orderly.current with ⟨_, found, discoverable, _⟩
  rw [same, found] at read
  cases read
  exact discoverable

end

theorem Due.note (due : Due id store journal signCount) (silent : act.releasedCount id = none) :
    Due id store (journal ++ [act]) signCount := by
  refine ⟨due.current, due.capped, ?_⟩
  rw [releasedCounts, filterMap_append, filterMap_cons_none silent, filterMap_nil, append_nil]
  exact due.largest

/-! ## Steps -/

section Steps

variable {shared next : SignShared} {worker moved : Worker SignLock SignStage}

/-- A thread away from the store touches neither the store nor the journal. -/
theorem AwayFromStore.step (away : AwayFromStore worker)
    (step : WorkerStep (signProgram env) shared worker next moved) :
    next.store = shared.store /\ next.journal = shared.journal /\ (AwayFromStore moved ∨
        (∃ rest, worker.todo = .acquire .storage :: rest) /\ next = shared /\
          (Orderly id shared.store shared.journal ->
            AtStore id shared.store shared.journal moved)) := by
  cases away with
  | @checking call counts =>
    rcases step with _ | _ | ⟨_, ⟨⟩⟩
    unfold SignCall.check
    split
    · exact ⟨rfl, rfl, .inl .finished⟩
    · exact ⟨rfl, rfl, .inl (.starting counts)⟩
  | starting counts =>
    cases step
    exact ⟨rfl, rfl, .inl (.resolving counts)⟩
  | @resolving call counts =>
    rcases step with _ | _ | ⟨_, ⟨⟩⟩
    unfold SignCall.resolve
    dsimp only
    split
    · exact ⟨rfl, rfl, .inl .leaving⟩
    · exact ⟨rfl, rfl, .inl (.waiting counts)⟩
  | waiting counts =>
    cases step
    exact ⟨rfl, rfl, .inr ⟨⟨_, rfl⟩, rfl, fun orderly => .choosing counts orderly⟩⟩
  | @leaving call result =>
    cases step
    rw [erase_cons_head]
    exact ⟨rfl, rfl, .inl .finished⟩
  | finished | tended =>
    cases step with
    | act _ performed => cases performed
  | tending =>
    rcases step with _ | _ | ⟨_, ⟨⟩⟩
    exact ⟨rfl, rfl, .inl .tended⟩

/-- The call at the store goes on there, or leaves everything in order. -/
theorem AtStore.step (present : AtStore id shared.store shared.journal worker)
    (step : WorkerStep (signProgram env) shared worker next moved) :
    AtStore id next.store next.journal moved ∨
      Orderly id next.store next.journal /\ AwayFromStore moved := by
  cases present with
  | @choosing call grant policy counts orderly =>
    rcases step with _ | _ | ⟨_, ⟨⟩⟩
    unfold SignCall.choose
    split
    · exact .inl (.leaving orderly)
    · split
      · exact .inl (.leaving orderly)
      · exact .inl (.reading counts (orderly.note (fun _ => SignAct.noConfusion)))
  | @reading call policy chosen counts orderly =>
    rcases step with _ | _ | ⟨_, ⟨⟩⟩
    unfold SignCall.read
    split
    · exact .inl (.leaving orderly)
    · rename_i cred found
      split
      · exact .inl (.leaving orderly)
      · refine .inl (.counting counts orderly ?_)
        rw [orderly.truthful.read_id found]
        exact found
  | @counting call policy cred counts orderly read =>
    rcases step with _ | _ | ⟨_, ⟨⟩⟩
    unfold SignCall.count
    rcases countUse_cases counts _ rfl with
      ⟨hidden, counted⟩ | ⟨_, counted⟩ | ⟨_, discoverable, place, counted⟩
    · rw [counted]
      dsimp only [SignShared.note]
      rw [countActs, if_pos (by simp [hidden]), append_nil]
      refine .inl (.signing orderly ?_)
      intro same
      rw [orderly.discoverable_of_read read same] at hidden
      cases hidden
    · rw [counted]
      exact .inl (.leaving orderly)
    · rw [counted]
      dsimp only [SignShared.note]
      rw [countActs, if_neg (by simp [counts, discoverable])]
      rcases orderly.recount read place with ⟨kept, due⟩
      refine .inl (.signing (kept.note (fun _ => SignAct.noConfusion)) ?_)
      intro same
      exact ⟨(due same).note rfl, shared.journal, _, rfl, same, rfl⟩
  | @signing call policy cred signCount orderly due =>
    rcases step with _ | _ | ⟨_, ⟨⟩⟩
    unfold SignCall.sign
    split
    · exact .inl (.leaving orderly)
    · rename_i response asserted
      refine .inl (.activating (orderly.note (fun _ => SignAct.noConfusion)) ?_)
      intro same
      rcases due same with ⟨pending, earlier, written, split, named, counted⟩
      rcases assertWith_count asserted pending.capped with ⟨carried, data, hash, input, shown⟩
      refine ⟨⟨signCount, earlier, written, cred, data, hash, carried, ?_, named, counted,
        shown⟩, signCount, carried, pending.note rfl⟩
      dsimp only [SignShared.note]
      rw [split, input, append_assoc]
      rfl
  | @activating call cred response orderly due =>
    rcases step with _ | _ | ⟨_, ⟨⟩⟩
    unfold SignCall.release
    split
    · exact .inl (.leaving orderly)
    · by_cases same : cred.id = id
      · rcases due same with ⟨written, _, carried, pending⟩
        rw [same]
        exact .inl (.leaving (orderly.release written carried pending))
      · refine .inl (.leaving (orderly.note ?_))
        rintro response ⟨⟩
        exact same rfl
  | @leaving call result orderly =>
    cases step
    exact .inr ⟨orderly, .leaving⟩

end Steps

theorem store_guarded (env : Env) (id : CredentialId) :
    Guarded (signProgram env) CountingBegins SignLock.storage
      (fun shared => Orderly id shared.store shared.journal) AwayFromStore
      (fun shared worker => AtStore id shared.store shared.journal worker) where
  starts := by
    rintro stage (⟨call, counts, rfl⟩ | ⟨policyRuntime, browserManager, rfl⟩)
    · exact .checking counts
    · exact .tending
  holds := by
    intro shared worker present
    cases present <;> exact mem_cons_self
  approaching := by
    intro shared worker next moved away step
    rcases away.step step with ⟨sameStore, sameJournal, left | entered⟩
    · rw [sameStore, sameJournal]
      exact .inl ⟨left, fun orderly => orderly, fun _ present => present⟩
    · exact .inr entered
  working := fun shared worker next moved present step => present.step step

/-- What the invariant says about every state, whether or not a call is at the store. -/
theorem orderly_of_alone {workshop : Workshop SignShared SignLock SignStage}
    (alone : Alone (fun shared => Orderly id shared.store shared.journal) AwayFromStore
      (fun shared worker => AtStore id shared.store shared.journal worker) workshop) :
    Orderly id workshop.shared.store workshop.shared.journal := by
  cases alone with
  | nobody resting _ => exact resting
  | somebody present _ _ => cases present <;> assumption

/-- However calls on a store interleave and fail, the counters released for a discoverable
credential rise, each was written before it was signed, and the store never falls behind them. -/
theorem released_counters_rise (env : Env) {policyRuntime : PolicyRuntime}
    {browserManager : BrowserProcessManager} {store : LocalStorageAdapter} {id : CredentialId}
    {cred : Credential} {events : List (Option (Worker SignLock SignStage))}
    {finish : Workshop SignShared SignLock SignStage} (truthful : store.Truthful)
    (stored : store.read id = .ok cred) (discoverable : cred.discoverable = true)
    (run : Run (Workshop.Step (signProgram env) CountingBegins)
      ⟨⟨policyRuntime, browserManager, store, []⟩, []⟩ events finish) :
    (releasedCounts id finish.shared.journal).Pairwise Rises /\
      (∀ before after response, finish.shared.journal = before ++ .released id response :: after ->
          WrittenFirst id before response) /\
      ∃ current, finish.shared.store.read id = .ok current /\
        ∀ count ∈ releasedCounts id finish.shared.journal, count <= current.signCount := by
  have fresh : Orderly id store [] := by
    refine ⟨truthful, ⟨cred, stored, discoverable, ?_⟩, ?_, List.Pairwise.nil, ?_⟩
    · exact fun count never => absurd never not_mem_nil
    · exact fun count never => absurd never not_mem_nil
    · exact fun before after response never => absurd never (by simp)
  have orderly := orderly_of_alone ((store_guarded env id).run
    (.nobody fresh (fun worker never => absurd never not_mem_nil)) run)
  rcases orderly.current with ⟨current, read, _, below⟩
  exact ⟨orderly.rising, orderly.written, current, read, below⟩

namespace Sample

/-- The same request through one of two handlers, at a moment at which the key provider may fail. -/
def countedCall (handler : Nat) (signs : Bool) : SignCall where
  handler
  security
  occasion :=
    { occasion with
      keys := { keys with
        sign := fun key algorithm message => if signs then keys.sign key algorithm message else none } }
  now := 10
  entry
  request := signRequest

/-- Three calls, of which the second writes its counter and fails to sign. -/
def threeCalls : Workshop SignShared SignLock SignStage where
  shared := ⟨runtime, .empty, ownStore, []⟩
  workers :=
    [⟨[], .checking (countedCall 0 true), []⟩, ⟨[], .checking (countedCall 1 false), []⟩,
      ⟨[], .checking (countedCall 0 true), []⟩]

/-- The first two calls meet at the storage mutex; the third waits for the operation mutex. -/
def meetingSchedule : List Nat :=
  [0, 1, 2, 0, 1, 0, 1, 0, 0, 0, 0, 0, 0, 0, 1, 1, 1, 1, 1, 1, 1, 0] ++ replicate 10 2

/-- The calls that sign release 1 and 3; the counter of the failed call is not used again. -/
theorem three_calls_rise :
    ∃ finish : Workshop SignShared SignLock SignStage,
      releasedCounts [1] finish.shared.journal = [1, 3] /\
        (releasedCounts [1] finish.shared.journal).Pairwise Rises := by
  have evaluated : (threeCalls.follow (signProgram sampleEnv) (fun _ _ => true)
      meetingSchedule).map (fun finish => releasedCounts [1] finish.shared.journal) =
        some [1, 3] := by
    decide +kernel
  rcases Option.map_eq_some_iff.mp evaluated with ⟨finish, followed, counts⟩
  rcases Workshop.follow_run followed with ⟨_, run⟩
  have begins : ∀ handler signs, CountingBegins (.checking (countedCall handler signs)) :=
    fun handler signs => .inl ⟨_, rfl, rfl⟩
  have started : Run (Workshop.Step (signProgram sampleEnv) CountingBegins)
      ⟨⟨runtime, .empty, ownStore, []⟩, []⟩ [none, none, none] threeCalls :=
    .snoc (.snoc (.single (.start (begins 0 true))) (.start (begins 1 false)))
      (.start (begins 0 true))
  have whole := started.append (run.imp (fun _ _ _ taken => taken.1))
  have stored : ownStore.read [1] = .ok (cred [1] "example.com") := by decide +kernel
  exact ⟨finish, counts,
    (released_counters_rise sampleEnv ownStore_consistent.truthful stored rfl whole).1⟩

end Sample

end ControlVault.Broker
