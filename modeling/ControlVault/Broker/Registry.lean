import ControlVault.Core.Config
import ControlVault.Foundation.Table

namespace ControlVault.Broker

open Foundation Core Table

/-!
# Bearer tokens

Each browser is given one random token.  The daemon enters it twice: into a
table of registration contexts before the browser starts, and into a table of
sign contexts, bound to the browser's lease, once a grant for it was issued.
Both entries draw on one budget of requests, which is given up together with
the last of them; the registry carries that fact.

Instants are counted in milliseconds.
-/

/-- The 32 random bytes of a token.  A text that does not spell a token is in no table. -/
structure BearerToken where
  bits : BitVec 256
  deriving DecidableEq

/-! ## Request budgets -/

/-- SHA-256 of a request body. -/
abbrev BodyDigest := BitVec 256

/-- The status of a response, and the error code in its body unless it succeeded. -/
structure InFlightOutcome where
  status : Text
  error : Option Text

structure CompletedOutcome where
  outcome : InFlightOutcome
  at_ : Nat

def completedOutcomeTtl : Nat := 120000
def maxCompletedOutcomes : Nat := 256

structure RequestBudget where
  (used inFlight : List BodyDigest)
  completed : Table BodyDigest CompletedOutcome
  maxRequests : Nat

inductive RequestClaim
  | claimed (digest : BodyDigest)
  | replayed
  | exhausted
  | waitFor (digest : BodyDigest)
  | cached (outcome : InFlightOutcome)

namespace RequestBudget

def new (maxRequests : Nat) : RequestBudget where
  used := []
  inFlight := []
  completed := .empty
  maxRequests

def claim (budget : RequestBudget) (now : Nat) (digest : BodyDigest) : RequestClaim × RequestBudget :=
  if digest ∈ budget.used then
    if digest ∈ budget.inFlight then (.waitFor digest, budget)
    else
      match budget.completed.get digest with
      | none => (.replayed, budget)
      | some completed =>
        if now - completed.at_ <= completedOutcomeTtl then (.cached completed.outcome, budget)
        else (.replayed, budget)
  else if budget.maxRequests <= budget.used.length then (.exhausted, budget)
  else
    (.claimed digest, { budget with
      used := digest :: budget.used
      inFlight := digest :: budget.inFlight })

/-- The first of the oldest outcomes, as `min_by_key` chooses among equal keys. -/
def oldest (completed : Table BodyDigest CompletedOutcome) : Option BodyDigest :=
  (completed.toList.foldl
    (fun best entry =>
      match best with
      | none => some entry
      | some chosen => if entry.2.at_ < chosen.2.at_ then some entry else some chosen)
    none).map Prod.fst

def resolve (budget : RequestBudget) (now : Nat) (digest : BodyDigest) (outcome : InFlightOutcome) :
    RequestBudget :=
  let recent := budget.completed.retain (fun _ completed =>
    now - completed.at_ <= completedOutcomeTtl)
  let room :=
    if maxCompletedOutcomes <= recent.toList.length then
      match oldest recent with
      | none => recent
      | some other => recent.remove other
    else recent
  { budget with
    inFlight := budget.inFlight.filter (fun other => other ≠ digest)
    completed := room.insert digest ⟨outcome, now⟩ }

end RequestBudget

/-! ## The registry -/

/-- Whose grant a token signs with. -/
structure SignContext where
  profileId : ProfileId
  activeGrantId : GrantId
  profileConfig : AgentProfileConfig

/-- The keys of a sign handler: those of the backend, or the same keys with a
signature also activating a lease. -/
inductive KeyProvider
  | backend
  | activating (leaseId : BrowserLeaseId) (activeTtlSecs : Nat)

structure LeaseEntry where
  context : SignContext
  keyProvider : KeyProvider
  leaseId : Option BrowserLeaseId

structure RegisterContext where
  profileId : ProfileId
  profileConfig : AgentProfileConfig

/-- The three tables.  An entry holds a reference to the budget of its token; that
budget stays in its table as long as an entry does, so the entry looks it up there. -/
structure SignContextRegistry where
  entries : Table BearerToken LeaseEntry
  registrationEntries : Table BearerToken RegisterContext
  requestBudgets : Table BearerToken RequestBudget

namespace SignContextRegistry

def new : SignContextRegistry where
  entries := .empty
  registrationEntries := .empty
  requestBudgets := .empty

section

variable (reg : SignContextRegistry) (token : BearerToken)

/-- Find or create the budget of a token. -/
def requestBudget (maxRequests : Nat) :
    Except Text Unit × SignContextRegistry :=
  match reg.requestBudgets.get token with
  | some existing =>
    if existing.maxRequests ≠ maxRequests then
      (.error "operation budget mismatch", reg)
    else (.ok (), reg)
  | none =>
    (.ok (), { reg with
      requestBudgets := reg.requestBudgets.insert token (.new maxRequests) })

/-- Enter a token once its budget is made sure of, unless its table has it already. -/
def enter (config : AgentProfileConfig) (isTaken : SignContextRegistry -> Bool)
    (insert : SignContextRegistry -> SignContextRegistry) :
    Except Text Unit × SignContextRegistry :=
  match reg.requestBudget token config.maxOperations.toNat with
  | (.error message, same) => (.error message, same)
  | (.ok (), funded) =>
    if isTaken funded then (.error "duplicate token", funded) else (.ok (), insert funded)

def registerPendingRegistration (ctx : RegisterContext) : Except Text Unit × SignContextRegistry :=
  reg.enter token ctx.profileConfig (fun funded => (funded.registrationEntries.get token).isSome)
    (fun funded => { funded with
      registrationEntries := funded.registrationEntries.insert token ctx })

def lookupRegistration :
    Option RegisterContext :=
  reg.registrationEntries.get token

/-- Give up the budget of a token that has no entry left. -/
def cleanupRequestBudget :
    SignContextRegistry :=
  if (reg.entries.get token).isNone && (reg.registrationEntries.get token).isNone then
    { reg with requestBudgets := reg.requestBudgets.remove token }
  else reg

def revokeRegistration :
    SignContextRegistry :=
  cleanupRequestBudget
    { reg with registrationEntries := reg.registrationEntries.remove token } token

def registerPending (ctx : SignContext)
    (keyProvider : KeyProvider) : Except Text Unit × SignContextRegistry :=
  reg.enter token ctx.profileConfig (fun funded => (funded.entries.get token).isSome)
    (fun funded => { funded with
      entries := funded.entries.insert token ⟨ctx, keyProvider, none⟩ })

def bindLease (leaseId : BrowserLeaseId) :
    Except Text Unit × SignContextRegistry :=
  match reg.entries.get token with
  | none => (.error "token not found", reg)
  | some entry =>
    if entry.leaseId.isSome then (.error "already bound", reg)
    else
      (.ok (), { reg with
        entries := reg.entries.insert token { entry with leaseId := some leaseId } })

def lookupBound : Option LeaseEntry :=
  (reg.entries.get token).filter (fun entry => entry.leaseId.isSome)

def revoke : SignContextRegistry :=
  cleanupRequestBudget { reg with entries := reg.entries.remove token } token

end

/-- Drop the sign contexts that are bound to a lease.  Registration contexts know no lease. -/
def revokeByLease (reg : SignContextRegistry) (leaseId : BrowserLeaseId) : SignContextRegistry :=
  let bound := (reg.entries.toList.filter (fun entry =>
    entry.2.leaseId = some leaseId)).map Prod.fst
  bound.foldl cleanupRequestBudget { reg with entries := bound.foldl remove reg.entries }

section

variable (reg : SignContextRegistry) (now : Nat) (token : BearerToken) (digest : BodyDigest)

/-- A request charges the budget of its token. -/
def claimRequest : Option RequestClaim × SignContextRegistry :=
  match reg.requestBudgets.get token with
  | none => (none, reg)
  | some budget =>
    let result := budget.claim now digest
    (some result.1, { reg with
      requestBudgets := reg.requestBudgets.insert token result.2 })

def resolveRequest (outcome : InFlightOutcome) : SignContextRegistry :=
  { reg with
    requestBudgets := reg.requestBudgets.modify token (fun budget =>
      budget.resolve now digest outcome) }

end

/-! ## What the calls leave in the tables -/

section Tables

variable (reg : SignContextRegistry) (token : BearerToken)

@[simp] theorem cleanupRequestBudget_entries :
    (reg.cleanupRequestBudget token).entries = reg.entries := by
  unfold cleanupRequestBudget
  split_ifs <;> rfl

@[simp] theorem cleanupRequestBudget_registrationEntries :
    (reg.cleanupRequestBudget token).registrationEntries = reg.registrationEntries := by
  unfold cleanupRequestBudget
  split_ifs <;> rfl

/-- Some entry of the token is left. -/
def isEntered : Bool :=
  (reg.entries.get token).isSome || (reg.registrationEntries.get token).isSome

variable (other : BearerToken)

theorem cleanupRequestBudget_get :
    (reg.cleanupRequestBudget token).requestBudgets.get other =
      if other = token /\ reg.isEntered token = false then none
      else reg.requestBudgets.get other := by
  have same : ((reg.entries.get token).isNone && (reg.registrationEntries.get token).isNone) =
      !reg.isEntered token := by
    rw [isEntered, Bool.not_or, Option.not_isSome, Option.not_isSome]
  unfold cleanupRequestBudget
  rw [same]
  cases reg.isEntered token with
  | true => simp
  | false => simp [get_remove]

/-- The budgets of several tokens are given up one after the other; no entry changes. -/
theorem foldl_cleanupRequestBudget (tokens : List BearerToken) :
    ∀ reg : SignContextRegistry,
      (tokens.foldl cleanupRequestBudget reg).entries = reg.entries /\
      (tokens.foldl cleanupRequestBudget reg).registrationEntries =
        reg.registrationEntries /\
      ∀ other, (tokens.foldl cleanupRequestBudget reg).requestBudgets.get other =
        if other ∈ tokens /\ reg.isEntered other = false then none
        else reg.requestBudgets.get other := by
  induction tokens with
  | nil =>
    intro reg
    exact ⟨rfl, rfl, fun other => by simp⟩
  | cons token rest ih =>
    intro reg
    rcases ih (reg.cleanupRequestBudget token) with
      ⟨entries, registrations, budgets⟩
    have entered : ∀ other, (reg.cleanupRequestBudget token).isEntered other =
        reg.isEntered other := by
      intro other
      rw [isEntered, cleanupRequestBudget_entries, cleanupRequestBudget_registrationEntries,
        isEntered]
    refine ⟨?_, ?_, fun other => ?_⟩
    · rw [List.foldl_cons, entries, cleanupRequestBudget_entries]
    · rw [List.foldl_cons, registrations, cleanupRequestBudget_registrationEntries]
    · rw [List.foldl_cons, budgets, entered, cleanupRequestBudget_get]
      by_cases same : other = token
      · subst same
        by_cases left : reg.isEntered other = false <;> simp [left]
      · simp [same]

theorem revokeByLease_entries (leaseId : BrowserLeaseId) (other : BearerToken) :
    (reg.revokeByLease leaseId).entries.get other =
      (reg.entries.get other).filter (fun entry => entry.leaseId ≠ some leaseId) := by
  unfold revokeByLease
  rw [(foldl_cleanupRequestBudget _ _).1, get_foldl_remove]
  have bound : (other ∈ (reg.entries.toList.filter (fun entry =>
      entry.2.leaseId = some leaseId)).map Prod.fst) <->
        ∃ entry, reg.entries.get other = some entry /\ entry.leaseId = some leaseId := by
    simp only [List.mem_map, List.mem_filter, decide_eq_true_eq, Prod.exists]
    constructor
    · rintro ⟨key, entry, ⟨mem, same⟩, rfl⟩
      exact ⟨entry, (mem_toList _ _ _).mp mem, same⟩
    · rintro ⟨entry, found, same⟩
      exact ⟨other, entry, ⟨(mem_toList _ _ _).mpr found, same⟩, rfl⟩
  cases found : reg.entries.get other with
  | none => simp
  | some entry =>
    by_cases same : entry.leaseId = some leaseId
    · rw [if_pos (bound.mpr ⟨entry, found, same⟩), Option.filter_some]
      simpa using same
    · rw [if_neg, Option.filter_some, if_pos (by simpa using same)]
      · intro mem
        rcases bound.mp mem with ⟨_, again, bad⟩
        rw [found] at again
        cases again
        exact same bad

theorem revokeByLease_registrationEntries (leaseId : BrowserLeaseId) :
    (reg.revokeByLease leaseId).registrationEntries = reg.registrationEntries :=
  (foldl_cleanupRequestBudget _ _).2.1

theorem revoke_entries :
    (reg.revoke token).entries.get other =
      if other = token then none else reg.entries.get other := by
  unfold revoke
  rw [cleanupRequestBudget_entries, get_remove]

@[simp] theorem revoke_registrationEntries :
    (reg.revoke token).registrationEntries = reg.registrationEntries := by
  unfold revoke
  rw [cleanupRequestBudget_registrationEntries]

@[simp] theorem revokeRegistration_entries :
    (reg.revokeRegistration token).entries = reg.entries := by
  unfold revokeRegistration
  rw [cleanupRequestBudget_entries]

theorem revokeRegistration_registrationEntries :
    (reg.revokeRegistration token).registrationEntries.get other =
      if other = token then none else reg.registrationEntries.get other := by
  unfold revokeRegistration
  rw [cleanupRequestBudget_registrationEntries, get_remove]

end Tables

/-! ## What a call that enters a token does -/

section Entries

variable {reg : SignContextRegistry} {token : BearerToken}

/-- A registry with the budget of one token made sure of. -/
inductive Funded (reg : SignContextRegistry) (token : BearerToken) : SignContextRegistry -> Prop
  | kept (present : (reg.requestBudgets.get token).isSome) : Funded reg token reg
  | created (maxRequests : Nat) : Funded reg token { reg with
      requestBudgets := reg.requestBudgets.insert token (.new maxRequests) }

theorem Funded.entries (made : Funded reg token funded) :
    funded.entries = reg.entries := by
  cases made <;> rfl

theorem Funded.registrationEntries (made : Funded reg token funded) :
    funded.registrationEntries = reg.registrationEntries := by
  cases made <;> rfl

section

variable (reg : SignContextRegistry) (token : BearerToken) (taken : Prop)
  (entered : SignContextRegistry -> SignContextRegistry)

/-- Either nothing but a budget was added, or the entry was. -/
inductive Attempted : Except Text Unit × SignContextRegistry -> Prop
  | mismatched (message : Text) : Attempted (.error message, reg)
  | duplicate (message : Text) {funded : SignContextRegistry} (made : Funded reg token funded)
      (present : taken) : Attempted (.error message, funded)
  | entered (made : Funded reg token funded) (free : ¬taken) :
      Attempted (.ok (), entered funded)

end

section

variable (reg : SignContextRegistry) (token : BearerToken)

theorem requestBudget_spec (maxRequests : Nat) :
    (∃ message, reg.requestBudget token maxRequests = (.error message, reg)) ∨
      ∃ funded, reg.requestBudget token maxRequests = (.ok (), funded) /\
        Funded reg token funded := by
  unfold requestBudget
  split
  next existing found =>
    split
    · exact .inl ⟨_, rfl⟩
    · exact .inr ⟨_, rfl, .kept (by rw [found]; rfl)⟩
  · exact .inr ⟨_, rfl, .created _⟩

theorem enter_spec (config : AgentProfileConfig) (isTaken : SignContextRegistry -> Bool)
    (insert : SignContextRegistry -> SignContextRegistry)
    (kept : ∀ funded, Funded reg token funded -> isTaken funded = isTaken reg) :
    Attempted reg token (isTaken reg = true) insert (reg.enter token config isTaken insert) := by
  unfold enter
  rcases reg.requestBudget_spec token config.maxOperations.toNat with
    ⟨message, refused⟩ | ⟨funded, accepted, made⟩
  · rw [refused]
    exact .mismatched message
  · rw [accepted]
    dsimp only
    rw [kept funded made]
    split_ifs with present
    · exact .duplicate _ made present
    · exact .entered made present

theorem registerPendingRegistration_spec (ctx : RegisterContext) :
    Attempted reg token ((reg.registrationEntries.get token).isSome = true)
      (fun funded => { funded with
        registrationEntries := funded.registrationEntries.insert token ctx })
      (reg.registerPendingRegistration token ctx) :=
  reg.enter_spec token _ (fun funded => (funded.registrationEntries.get token).isSome) _
    (fun _ made => by rw [made.registrationEntries])

theorem registerPending_spec (ctx : SignContext) (keyProvider : KeyProvider) :
    Attempted reg token ((reg.entries.get token).isSome = true)
      (fun funded => { funded with
        entries := funded.entries.insert token ⟨ctx, keyProvider, none⟩ })
      (reg.registerPending token ctx keyProvider) :=
  reg.enter_spec token _ (fun funded => (funded.entries.get token).isSome) _
    (fun _ made => by rw [made.entries])

end

/-- An entry that was just made can be bound. -/
theorem bindLease_of_free (found : reg.entries.get token = some entry)
    (free : entry.leaseId = none) (leaseId : BrowserLeaseId) :
    reg.bindLease token leaseId = (.ok (), { reg with
      entries := reg.entries.insert token { entry with leaseId := some leaseId } }) := by
  unfold bindLease
  simp [found, free]

end Entries

end SignContextRegistry

end ControlVault.Broker
