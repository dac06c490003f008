import ControlVault.Core.Ids
import ControlVault.Foundation.Table

namespace ControlVault.Engine

open Foundation Core Table

/-!
# One-shot intents

An intent is a principal's request for one ceremony.  It waits for an approval,
is claimed when a ceremony starts and is consumed when the ceremony releases its
result; a claim may be rolled back to the approval.  Every call reads the clock
once more, so the current time is an argument, and a call that fails still
returns the store it leaves behind.

The functions follow the source line by line.  Below each stands the one lemma
through which the rest of the development uses it.
-/

/-! ## Clocks -/

def u64Max : Nat := 2 ^ 64 - 1

def checkedAdd (first second : Nat) : Option Nat :=
  if first + second <= u64Max then some (first + second) else none

def saturatingAdd (first second : Nat) : Nat :=
  min (first + second) u64Max

/-! ## Intents -/

/-- What a ceremony is about: who asks, under which policy, for which relying
party and credential.  Requests, intents, approvals and handles all carry it. -/
structure CeremonyTuple where
  profileId : ProfileId
  sessionId : PrincipalSessionId
  endpointId : EndpointId
  processDigest : ProcessIdentityDigest
  policyGeneration : PolicyGenerationId
  policyDigest : PolicyDigest
  action : IntentAction
  rpId : Text
  credentialRef : Option CredentialRef
  deriving DecidableEq

/-- The tuple with its relying party in canonical form. -/
def CeremonyTuple.normalized (tuple : CeremonyTuple) : CeremonyTuple :=
  { tuple with rpId := tuple.rpId.canonical }

@[simp] theorem CeremonyTuple.normalized_normalized (tuple : CeremonyTuple) :
    tuple.normalized.normalized = tuple.normalized := by
  simp [normalized]

theorem CeremonyTuple.normalized_of_canonical {tuple : CeremonyTuple}
    (canonical : tuple.rpId.IsCanonical) : tuple.normalized = tuple := by
  rw [normalized, canonical]

inductive IntentState
  | pending
  | approved
  | denied
  | cancelled
  | expired
  | claimed
  | consumed
  deriving DecidableEq

namespace IntentState

def isTerminal : IntentState -> Bool
  | denied | cancelled | expired | consumed => true
  | pending | approved | claimed => false

def label : IntentState -> Text
  | pending => "pending"
  | approved => "approved"
  | denied => "denied"
  | cancelled => "cancelled"
  | expired => "expired"
  | claimed => "claimed"
  | consumed => "consumed"

/-- The table of valid transitions. -/
def mayBecome : IntentState -> IntentState -> Bool
  | pending, approved => true
  | pending, denied => true
  | pending, cancelled => true
  | pending, expired => true
  | approved, claimed => true
  | approved, expired => true
  | claimed, consumed => true
  | _, _ => false

end IntentState

inductive IntentError
  | notFound
  | storeFull
  | invalidTransition (source target : Text)
  | expired
  deriving DecidableEq

def IntentError.message : IntentError -> Text
  | notFound => "intent not found"
  | storeFull => "intent store is full"
  | invalidTransition source target =>
    "invalid state transition: " ++ source ++ " -> " ++ target
  | expired => "intent has expired"

/-- A stored intent.  Its identifier is its key in the store. -/
structure Intent extends CeremonyTuple where
  requireUv : Bool
  (createdAt deadline : Nat)
  state : IntentState
  deriving DecidableEq

namespace Intent

/-- An approved intent for the queried tuple; the query's relying party is
normalised, the stored one is compared as it is. -/
def matchesQuery (intent : Intent) (query : CeremonyTuple) : Bool :=
  intent.state = .approved && intent.toCeremonyTuple = query.normalized

def transitionTo (intent : Intent) (newState : IntentState) : Except IntentError Intent :=
  if intent.state.mayBecome newState then .ok { intent with state := newState }
  else .error (.invalidTransition intent.state.label newState.label)

/-- Still open and past its deadline. -/
def isOverdue (intent : Intent) (now : Nat) : Bool :=
  (intent.state = .pending || intent.state = .approved) && intent.deadline <= now

/-- The intent after a sweep at the given time. -/
def swept (intent : Intent) (now : Nat) : Intent :=
  if intent.isOverdue now then
    match intent.transitionTo .expired with
    | .ok expired => expired
    | .error _ => intent
  else intent

variable {intent : Intent}

theorem transitionTo_eq (valid : intent.state.mayBecome target = true) :
    intent.transitionTo target = .ok { intent with state := target } :=
  if_pos valid

theorem isOverdue_iff (intent : Intent) (now : Nat) :
    intent.isOverdue now = true <->
      (intent.state = .pending ∨ intent.state = .approved) /\ intent.deadline <= now := by
  simp [isOverdue]

theorem transitionTo_expired (overdue : intent.isOverdue now = true) :
    intent.transitionTo .expired = .ok { intent with state := .expired } := by
  apply transitionTo_eq
  rcases ((intent.isOverdue_iff now).mp overdue).1 with pending | approved
  · rw [pending]
    rfl
  · rw [approved]
    rfl

theorem swept_of_overdue (overdue : intent.isOverdue now = true) :
    intent.swept now = { intent with state := .expired } := by
  rw [swept, if_pos overdue, transitionTo_expired overdue]

theorem swept_of_not_overdue (inTime : intent.isOverdue now = false) :
    intent.swept now = intent := by
  rw [swept, inTime]
  rfl

/-- A sweep leaves nothing open that is past its deadline. -/
theorem eq_of_swept_approved (approved : (intent.swept now).state = .approved) :
    intent.isOverdue now = false /\ intent.swept now = intent := by
  cases overdue : intent.isOverdue now with
  | true =>
    rw [swept_of_overdue overdue] at approved
    cases approved
  | false => exact ⟨rfl, swept_of_not_overdue overdue⟩

theorem matchesQuery_iff (intent : Intent) (query : CeremonyTuple) :
    intent.matchesQuery query = true <->
      intent.state = .approved /\ intent.toCeremonyTuple = query.normalized := by
  simp [matchesQuery]

end Intent

structure CreateIntentParams extends CeremonyTuple where
  requireUv : Bool
  ttlMs : Option Nat

structure IntentConsumeInfo where
  profileId : ProfileId
  action : IntentAction
  rpId : Text
  credentialRef : Option CredentialRef
  requireUv : Bool
  deriving DecidableEq

def Intent.consumeInfo (intent : Intent) : IntentConsumeInfo where
  profileId := intent.profileId
  action := intent.action
  rpId := intent.rpId
  credentialRef := intent.credentialRef
  requireUv := intent.requireUv

structure IntentStore where
  intents : Table IntentId Intent
  maxIntents : Nat

namespace IntentStore

def defaultMaxIntents : Nat := 256
def defaultIntentTtlMs : Nat := 300000

def withDefaults : IntentStore where
  intents := .empty
  maxIntents := defaultMaxIntents

section

variable (store : IntentStore)

def get (id : IntentId) : Option Intent :=
  store.intents.get id

def put (id : IntentId) (intent : Intent) : IntentStore :=
  { store with intents := store.intents.insert id intent }

def invalidateAll : IntentStore :=
  { store with intents := .empty }

def cleanupExpired (now : Nat) : IntentStore :=
  { store with intents := store.intents.mapValues (fun _ intent => intent.swept now) }

def activeCount : Nat :=
  store.intents.count (fun intent => !intent.state.isTerminal)

/-- The intent that a creation stores: pending, and not yet past its deadline. -/
def newIntent (now deadline : Nat) (params : CreateIntentParams) : Intent where
  toCeremonyTuple := params.toCeremonyTuple
  requireUv := params.requireUv
  createdAt := now
  deadline
  state := .pending

/-- `create`, with the identifier that the call generates. -/
def create (now : Nat) (params : CreateIntentParams) (fresh : IntentId) :
    Except IntentError IntentId × IntentStore :=
  let cleaned := store.cleanupExpired now
  if cleaned.maxIntents <= cleaned.activeCount then (.error .storeFull, cleaned)
  else
    match checkedAdd now (params.ttlMs.getD defaultIntentTtlMs) with
    | none => (.error .storeFull, cleaned)
    | some deadline => (.ok fresh, cleaned.put fresh (newIntent now deadline params))

section

variable (now : Nat) (id : IntentId)

def expireIfNeeded :
    Except IntentError Unit × IntentStore :=
  match store.get id with
  | none => (.error .notFound, store)
  | some intent =>
    if intent.isOverdue now then
      match intent.transitionTo .expired with
      | .error error => (.error error, store)
      | .ok expired => (.error .expired, store.put id expired)
    else (.ok (), store)

/-- Expire the intent if it is overdue, else move it to the given state. -/
def settle (target : IntentState) :
    Except IntentError Unit × IntentStore :=
  match store.expireIfNeeded now id with
  | (.error error, expired) => (.error error, expired)
  | (.ok (), current) =>
    match current.get id with
    | none => (.error .notFound, current)
    | some intent =>
      match intent.transitionTo target with
      | .error error => (.error error, current)
      | .ok moved => (.ok (), current.put id moved)

def approve : Except IntentError Unit × IntentStore :=
  store.settle now id .approved

def deny : Except IntentError Unit × IntentStore :=
  store.settle now id .denied

/-- Unlike `deny`, refuse intents of another profile or session. -/
def cancelByPrincipal (profileId : ProfileId)
    (sessionId : PrincipalSessionId) : Except IntentError Unit × IntentStore :=
  match store.expireIfNeeded now id with
  | (.error error, expired) => (.error error, expired)
  | (.ok (), current) =>
    match current.get id with
    | none => (.error .notFound, current)
    | some intent =>
      if intent.profileId ≠ profileId ∨ intent.sessionId ≠ sessionId then
        (.error .notFound, current)
      else
        match intent.transitionTo .cancelled with
        | .error error => (.error error, current)
        | .ok moved => (.ok (), current.put id moved)

end

/-- Claim the first approved intent that matches, in the order of the hash map. -/
def claimApproved (now : Nat) (query : CeremonyTuple) :
    Except IntentError IntentId × IntentStore :=
  let cleaned := store.cleanupExpired now
  match cleaned.intents.find (fun intent => intent.matchesQuery query) with
  | none => (.error .notFound, cleaned)
  | some (id, intent) =>
    match intent.transitionTo .claimed with
    | .error error => (.error error, cleaned)
    | .ok moved => (.ok id, cleaned.put id moved)

def rollbackClaim (id : IntentId) : Except IntentError Unit × IntentStore :=
  match store.get id with
  | none => (.error .notFound, store)
  | some intent =>
    if intent.state ≠ .claimed then
      (.error (.invalidTransition intent.state.label IntentState.approved.label), store)
    else (.ok (), store.put id { intent with state := .approved })

def consumeClaimed (id : IntentId) :
    Except IntentError IntentConsumeInfo × IntentStore :=
  match store.get id with
  | none => (.error .notFound, store)
  | some intent =>
    if intent.state ≠ .claimed then
      (.error (.invalidTransition intent.state.label IntentState.consumed.label), store)
    else
      match intent.transitionTo .consumed with
      | .error error => (.error error, store)
      | .ok moved => (.ok intent.consumeInfo, store.put id moved)

/-- Try to cancel every open intent of a session; the transition table decides. -/
def cancelBySession (sessionId : PrincipalSessionId) : IntentStore :=
  { store with
    intents := store.intents.mapValues (fun _ intent =>
      if intent.sessionId = sessionId && !intent.state.isTerminal then
        match intent.transitionTo .cancelled with
        | .ok cancelled => cancelled
        | .error _ => intent
      else intent) }

end

/-! ## What each call does, entry by entry -/

section

variable (store : IntentStore)

theorem get_put (id other : IntentId) (intent : Intent) :
    (store.put id intent).get other = if other = id then some intent else store.get other :=
  get_insert _ _ _ _

@[simp] theorem get_invalidateAll (id : IntentId) : store.invalidateAll.get id = none :=
  get_empty id

@[simp] theorem get_cleanupExpired (now : Nat) (id : IntentId) :
    (store.cleanupExpired now).get id = (store.get id).map (fun intent => intent.swept now) :=
  get_mapValues _ _ _

theorem get_cancelBySession (sessionId : PrincipalSessionId) (id : IntentId) :
    (store.cancelBySession sessionId).get id =
      (store.get id).map (fun intent =>
        if intent.sessionId = sessionId /\ intent.state = .pending then
          { intent with state := .cancelled }
        else intent) := by
  have pointwise : (store.cancelBySession sessionId).get id = (store.get id).map _ :=
    get_mapValues _ _ _
  rw [pointwise]
  congr 1
  funext intent
  by_cases same : intent.sessionId = sessionId
  · cases phase : intent.state <;>
      simp [phase, IntentState.isTerminal, Intent.transitionTo, IntentState.mayBecome]
  · simp [same]

end

inductive Created (store : IntentStore) (now : Nat) (params : CreateIntentParams) (fresh : IntentId) :
    Except IntentError IntentId -> IntentStore -> Prop
  | full : Created store now params fresh (.error .storeFull) (store.cleanupExpired now)
  | added {deadline : Nat} (inTime : now <= deadline) :
      Created store now params fresh (.ok fresh)
        ((store.cleanupExpired now).put fresh (newIntent now deadline params))

theorem create_spec (store : IntentStore) (now : Nat) (params : CreateIntentParams)
    (fresh : IntentId) :
    Created store now params fresh (store.create now params fresh).1
      (store.create now params fresh).2 := by
  rw [create]
  split_ifs
  · exact .full
  · cases sum : checkedAdd now (params.ttlMs.getD defaultIntentTtlMs) with
    | none => exact .full
    | some =>
      refine .added ?_
      rw [checkedAdd] at sum
      split_ifs at sum
      cases sum
      exact Nat.le_add_right _ _

section

variable (store : IntentStore) (now : Nat) (id : IntentId) (target : IntentState)

/-- The possible results of moving a pending intent on. -/
inductive Settled : Except IntentError Unit -> IntentStore -> Prop
  | missing (absent : store.get id = none) : Settled (.error .notFound) store
  | overdue {intent : Intent} (found : store.get id = some intent)
      (late : intent.isOverdue now = true) :
      Settled (.error .expired) (store.put id { intent with state := .expired })
  | moved {intent : Intent} (found : store.get id = some intent)
      (inTime : intent.isOverdue now = false) (pending : intent.state = .pending) :
      Settled (.ok ()) (store.put id { intent with state := target })
  | refused {intent : Intent} {error : IntentError} (found : store.get id = some intent)
      (inTime : intent.isOverdue now = false) (settled : intent.state ≠ .pending) :
      Settled (.error error) store

end

variable {now : Nat} {id : IntentId} {store : IntentStore} {target : IntentState} {intent : Intent}

/-- A settlement that succeeds found the intent pending and in date. -/
theorem Settled.of_ok (settled : store.Settled now id target (.ok ()) after) :
    ∃ intent, store.get id = some intent /\ intent.isOverdue now = false /\
      intent.state = .pending /\ after.get id = some { intent with state := target } := by
  cases settled with
  | moved found inTime pending => exact ⟨_, found, inTime, pending, by rw [get_put, if_pos rfl]⟩

theorem expireIfNeeded_of_none (now : Nat) (absent : store.get id = none) :
    store.expireIfNeeded now id = (.error .notFound, store) := by
  simp only [expireIfNeeded, absent]

theorem expireIfNeeded_of_overdue (found : store.get id = some intent)
    (overdue : intent.isOverdue now = true) :
    store.expireIfNeeded now id =
      (.error .expired, store.put id { intent with state := .expired }) := by
  simp only [expireIfNeeded, found, if_pos overdue, Intent.transitionTo_expired overdue]

theorem expireIfNeeded_of_inTime (found : store.get id = some intent)
    (inTime : intent.isOverdue now = false) :
    store.expireIfNeeded now id = (.ok (), store) := by
  simp only [expireIfNeeded, found, inTime, Bool.false_eq_true, if_false]

theorem settle_spec (store : IntentStore) (now : Nat) (id : IntentId)
    (onlyPending : ∀ state, IntentState.mayBecome state target = true <-> state = .pending) :
    Settled store now id target (store.settle now id target).1 (store.settle now id target).2 := by
  cases found : store.get id with
  | none =>
    rw [settle, expireIfNeeded_of_none now found]
    exact .missing found
  | some intent =>
    cases overdue : intent.isOverdue now with
    | true =>
      rw [settle, expireIfNeeded_of_overdue found overdue]
      exact .overdue found overdue
    | false =>
      simp only [settle, expireIfNeeded_of_inTime found overdue, found]
      by_cases pending : intent.state = .pending
      · rw [Intent.transitionTo_eq ((onlyPending _).mpr pending)]
        exact .moved found overdue pending
      · rw [Intent.transitionTo, if_neg (fun valid => pending ((onlyPending _).mp valid))]
        exact .refused found overdue pending

theorem approve_spec (store : IntentStore) (now : Nat) (id : IntentId) :
    Settled store now id .approved (store.approve now id).1 (store.approve now id).2 :=
  store.settle_spec now id (fun state => by cases state <;> decide)

theorem deny_spec (store : IntentStore) (now : Nat) (id : IntentId) :
    Settled store now id .denied (store.deny now id).1 (store.deny now id).2 :=
  store.settle_spec now id (fun state => by cases state <;> decide)

theorem cancelByPrincipal_spec (store : IntentStore) (now : Nat) (id : IntentId)
    (profileId : ProfileId) (sessionId : PrincipalSessionId) :
    Settled store now id .cancelled (store.cancelByPrincipal now id profileId sessionId).1
        (store.cancelByPrincipal now id profileId sessionId).2 ∨
      (store.cancelByPrincipal now id profileId sessionId).2 = store := by
  cases found : store.get id with
  | none =>
    rw [cancelByPrincipal, expireIfNeeded_of_none now found]
    exact .inr rfl
  | some intent =>
    cases overdue : intent.isOverdue now with
    | true =>
      rw [cancelByPrincipal, expireIfNeeded_of_overdue found overdue]
      exact .inl (.overdue found overdue)
    | false =>
      simp only [cancelByPrincipal, expireIfNeeded_of_inTime found overdue, found]
      split_ifs with foreign
      · exact .inr rfl
      · by_cases pending : intent.state = .pending
        · have valid : intent.state.mayBecome .cancelled = true := by
            rw [pending]
            rfl
          rw [Intent.transitionTo_eq valid]
          exact .inl (.moved found overdue pending)
        · have invalid : ¬ intent.state.mayBecome .cancelled = true := by
            cases phase : intent.state <;> first | exact absurd phase pending | decide
          rw [Intent.transitionTo, if_neg invalid]
          exact .inr rfl

/-- A claim takes an approved intent in date, or reports that there is none. -/
inductive Claimed (store : IntentStore) (now : Nat) (query : CeremonyTuple) :
    Except IntentError IntentId -> IntentStore -> Prop
  | missing (absent : ∀ id intent, store.get id = some intent -> intent.isOverdue now = false ->
      intent.matchesQuery query = false) :
      Claimed store now query (.error .notFound) (store.cleanupExpired now)
  | taken {id : IntentId} {intent : Intent} (found : store.get id = some intent)
      (inTime : intent.isOverdue now = false) (selected : intent.matchesQuery query = true) :
      Claimed store now query (.ok id)
        ((store.cleanupExpired now).put id { intent with state := .claimed })

theorem claimApproved_spec (store : IntentStore) (now : Nat) (query : CeremonyTuple) :
    Claimed store now query (store.claimApproved now query).1 (store.claimApproved now query).2 := by
  rw [claimApproved]
  cases search : (store.cleanupExpired now).intents.find (fun intent => intent.matchesQuery query) with
  | none =>
    refine .missing (fun id intent found inTime => ?_)
    apply find_none search
    change (store.cleanupExpired now).get id = some intent
    rw [get_cleanupExpired, found, Option.map_some, Intent.swept_of_not_overdue inTime]
  | some entry =>
    rcases entry with ⟨id, intent⟩
    rcases find_some search with ⟨found, selected⟩
    have approved := ((intent.matchesQuery_iff query).mp selected).1
    change (store.cleanupExpired now).get id = some intent at found
    rw [get_cleanupExpired, Option.map_eq_some_iff] at found
    rcases found with ⟨original, found, rfl⟩
    rcases Intent.eq_of_swept_approved approved with ⟨inTime, same⟩
    rw [same] at approved selected
    simp only [same, Intent.transitionTo_eq (show original.state.mayBecome .claimed = true by
      rw [approved]; rfl)]
    exact .taken found inTime selected

theorem get_rollbackClaim (store : IntentStore) (id other : IntentId) :
    (store.rollbackClaim id).2.get other =
      (store.get other).map (fun intent =>
        if other = id /\ intent.state = .claimed then { intent with state := .approved }
        else intent) := by
  rw [rollbackClaim]
  cases found : store.get id with
  | none =>
    by_cases same : other = id
    · rw [same, found]
      rfl
    · simp [same]
  | some intent =>
    by_cases claimed : intent.state = .claimed
    · by_cases same : other = id
      · simp [claimed, get_put, same, found]
      · simp [claimed, get_put, same]
    · by_cases same : other = id
      · simp [claimed, same, found]
      · simp [claimed, same]

theorem rollbackClaim_of_not_claimed (found : store.get id = some intent)
    (other : intent.state ≠ .claimed) :
    (store.rollbackClaim id).2 = store := by
  simp only [rollbackClaim, found, if_pos other]

/-- Rolling a fresh claim back leaves what the sweep before it left. -/
theorem get_rollbackClaim_of_taken (found : store.get id = some intent)
    (inTime : intent.isOverdue now = false) (approved : intent.state = .approved)
    (other : IntentId) :
    (((store.cleanupExpired now).put id { intent with state := .claimed }).rollbackClaim id).2.get
        other = (store.cleanupExpired now).get other := by
  rw [get_rollbackClaim, get_put]
  by_cases same : other = id
  · subst other
    rw [if_pos rfl, get_cleanupExpired, found, Option.map_some, Option.map_some,
      Intent.swept_of_not_overdue inTime, if_pos ⟨rfl, rfl⟩, <- approved]
  · simp only [same, false_and, if_false, Option.map_id']

inductive Consumed (store : IntentStore) (id : IntentId) :
    Except IntentError IntentConsumeInfo -> IntentStore -> Prop
  | missing (absent : store.get id = none) : Consumed store id (.error .notFound) store
  | refused {intent : Intent} {source target : Text} (found : store.get id = some intent)
      (other : intent.state ≠ .claimed) :
      Consumed store id (.error (.invalidTransition source target)) store
  | taken {intent : Intent} (found : store.get id = some intent) (claimed : intent.state = .claimed) :
      Consumed store id (.ok intent.consumeInfo) (store.put id { intent with state := .consumed })

theorem consumeClaimed_spec (store : IntentStore) (id : IntentId) :
    Consumed store id (store.consumeClaimed id).1 (store.consumeClaimed id).2 := by
  rw [consumeClaimed]
  cases found : store.get id with
  | none => exact .missing found
  | some intent =>
    by_cases claimed : intent.state = .claimed
    · simp only [claimed, Intent.transitionTo_eq (show intent.state.mayBecome .consumed = true by rw [claimed]; rfl)]
      exact .taken found claimed
    · simp only [ne_eq, claimed]
      exact .refused found claimed

end IntentStore

end ControlVault.Engine
