import ControlVault.Authenticator.Authorization
import ControlVault.Storage.Rollback

namespace ControlVault.Authenticator

open Foundation Core Storage LocalStorageAdapter AuthenticatorService

/-!
# Restores that fail

A restore deletes the credential that it replaces before it writes the new one,
and writes the old one back if that fails.  Every call on the way may fail.

Two things go wrong.  The old credential is written back through a reference, so
it loses a flag that references do not carry and moves to the end of its list.
And a file that does not open counts as missing, so a restore that was told not
to replace anything writes over it.
-/

/-- The new credential can be written. -/
def Writable (outcome : StorageOutcome) (cred : Credential) : Prop :=
  outcome.persists = true /\ ∃ rpId, ValidatedRpId.tryFrom cred.rpId = .ok rpId

section

variable (outcome : StorageOutcome) (store : LocalStorageAdapter) (cred prev : Credential)

/-- The old credential is deleted, and has to be written back. -/
structure RollsBack : Prop where
  existing : store.read cred.id = .ok prev
  opens : outcome.opens = true
  loads : outcome.loads = true
  removes : outcome.removes = true
  refused : ¬Writable outcome cred

/-- The old credential is not seen, and another one is written in its place. -/
structure Overlooks : Prop where
  existing : store.read cred.id = .ok prev
  closed : outcome.opens = false
  writable : Writable outcome cred
  different : cred.asWritten ≠ prev

end

/-! ## One credential -/

section Credential

variable {outcome : StorageOutcome} {store : LocalStorageAdapter} {cred : Credential}

theorem write_of_writable (writable : Writable outcome cred) :
    ∃ rpId : ValidatedRpId, rpId.value = cred.rpId.trim /\ ∀ store : LocalStorageAdapter,
        store.write cred outcome.persists = (.ok (), store.stored rpId cred) := by
  rcases writable with ⟨persists, rpId, accepted⟩
  refine ⟨rpId, ValidatedRpId.tryFrom_ok accepted, ?_⟩
  intro store
  rw [write, accepted, persists]
  rfl

theorem write_of_not_writable (refused : ¬Writable outcome cred) (store : LocalStorageAdapter) :
    store.write cred outcome.persists = (.error .other, store) := by
  unfold write
  cases accepted : ValidatedRpId.tryFrom cred.rpId with
  | error => rfl
  | ok rpId =>
    split_ifs with persists
    · exact absurd ⟨persists, rpId, accepted⟩ refused
    · rfl

theorem localRead_cases (outcome : StorageOutcome) (store : LocalStorageAdapter)
    (id : CredentialId) :
    ((localCalls outcome).read store id = .error .doesNotExist /\
        (outcome.opens = false ∨ store.read id = .error .doesNotExist)) ∨
      ((localCalls outcome).read store id = .error .other /\ outcome.opens = true /\
        (outcome.loads = false ∨ store.read id = .error .other)) ∨
      ∃ prev, (localCalls outcome).read store id = .ok prev /\ outcome.opens = true /\
        outcome.loads = true /\ store.read id = .ok prev := by
  unfold localCalls LocalStorageAdapter.read
  dsimp only
  cases store.indexes.id.get id with
  | none => exact .inl ⟨rfl, .inr rfl⟩
  | some path =>
    dsimp only
    cases outcome.opens with
    | false => exact .inl ⟨rfl, .inl rfl⟩
    | true =>
      cases outcome.loads with
      | false => exact .inr (.inl ⟨rfl, rfl, .inl rfl⟩)
      | true =>
        cases store.loadCredentialFromPath path with
        | error error =>
          cases error with
          | doesNotExist => exact .inl ⟨rfl, .inr rfl⟩
          | other => exact .inr (.inl ⟨rfl, rfl, .inr rfl⟩)
        | ok prev => exact .inr (.inr ⟨prev, rfl, rfl, rfl, rfl⟩)

theorem delete_of_not_removes (removes : outcome.removes = false) (id : CredentialId) :
    ∃ error, store.delete id outcome.removes = (.error error, store) := by
  unfold delete
  cases store.indexes.id.get id with
  | none => exact ⟨_, rfl⟩
  | some =>
    dsimp only
    rw [removes, Bool.and_false]
    exact ⟨_, rfl⟩

theorem delete_of_existing {id : CredentialId}
    (removes : outcome.removes = true) (existing : store.read id = .ok prev) :
    ∃ path, store.indexes.id.get id = some path /\ store.files.get path = some (some prev) /\
      store.delete id outcome.removes = (.ok (), store.removed path id) := by
  rcases read_eq_ok_iff.mp existing with ⟨path, located, content⟩
  refine ⟨path, located, content, ?_⟩
  unfold delete
  rw [located]
  dsimp only
  rw [content, removes]
  rfl

section

variable (outcome : StorageOutcome) (store : LocalStorageAdapter) (cred : Credential)
  (replace : Bool)

/-- How restoring a credential ends on a local store. -/
inductive Restored : Except StatusCode Unit × LocalStorageAdapter -> Prop
  | unchanged (status : StatusCode)
      (keeps : ∀ prev, replace = true -> ¬RollsBack outcome store cred prev)
      (seen : outcome.opens = true ∨ ¬Writable outcome cred) :
      Restored (.error status, store)
  | added (rpId : ValidatedRpId) (writable : Writable outcome cred)
      (unseen : outcome.opens = false ∨ store.read cred.id = .error .doesNotExist) :
      Restored (.ok (), store.stored rpId cred)
  | replaced (after : LocalStorageAdapter) (asked : replace = true)
      (writable : Writable outcome cred) :
      Restored (.ok (), after)
  | rolledBack (path : CredentialPathInfo) (prev : Credential) (asked : replace = true)
      (rollsBack : RollsBack outcome store cred prev)
      (located : store.indexes.id.get cred.id = some path)
      (content : store.files.get path = some (some prev)) :
      Restored (.error .other,
        ((store.removed path cred.id).write prev outcome.repersists).2)

end

theorem restoreCredential_restored (outcome : StorageOutcome) (store : LocalStorageAdapter)
    (cred : Credential) (replace : Bool) :
    Restored outcome store cred replace
      (restoreCredential (localCalls outcome) store cred replace) := by
  unfold restoreCredential
  rcases localRead_cases outcome store cred.id with
    ⟨missing, unseen⟩ | ⟨failed, opens, unread⟩ | ⟨prev, found, opens, loads, existing⟩
  · rw [missing]
    dsimp only [localCalls]
    by_cases writable : Writable outcome cred
    · rcases write_of_writable writable with ⟨rpId, _, written⟩
      rw [written]
      exact .added rpId writable unseen
    · rw [write_of_not_writable writable]
      refine .unchanged _ ?_ (.inr writable)
      intro prev _ rollsBack
      rcases unseen with closed | absent
      · exact Bool.false_ne_true (closed.symm.trans rollsBack.opens)
      · cases absent.symm.trans rollsBack.existing
  · rw [failed]
    refine .unchanged _ ?_ (.inl opens)
    intro prev _ rollsBack
    rcases unread with unloaded | unreadable
    · exact Bool.false_ne_true (unloaded.symm.trans rollsBack.loads)
    · cases unreadable.symm.trans rollsBack.existing
  · rw [found]
    cases replace with
    | false =>
      refine .unchanged _ ?_ (.inl opens)
      intro _ never
      cases never
    | true =>
      dsimp only [localCalls]
      by_cases removes : outcome.removes = true
      · rcases delete_of_existing removes existing with ⟨path, located, content, gone⟩
        rw [gone]
        dsimp only
        by_cases writable : Writable outcome cred
        · rcases write_of_writable writable with ⟨_, _, written⟩
          rw [written]
          exact .replaced _ rfl writable
        · rw [write_of_not_writable writable]
          exact .rolledBack path prev rfl ⟨existing, opens, loads, removes, writable⟩
            located content
      · rcases @delete_of_not_removes _ store (Bool.eq_false_of_not_eq_true removes)
          cred.id with ⟨_, kept⟩
        rw [kept]
        exact .unchanged _ (fun _ _ rollsBack => removes rollsBack.removes) (.inl opens)

section

variable {Answer : Type} (store : LocalStorageAdapter) (replace : Bool)
  (answer : Except StatusCode Answer)

/-- Nothing was lost: an error left everything as it was, and so did a command that was not to
replace anything. -/
structure Harmless (after : LocalStorageAdapter) : Prop where
  failed : ∀ status, answer = .error status -> SameContent store after
  spares : replace = false -> ∀ id prev, store.read id = .ok prev ->
    after.read id = .ok prev

theorem Harmless.unchanged : Harmless store replace answer store :=
  ⟨fun _ _ => SameContent.refl store, fun _ _ _ found => found⟩

end

theorem Harmless.replaced (store after : LocalStorageAdapter) :
    Harmless store true (.ok ()) after :=
  ⟨nofun, nofun⟩

/-- What must not happen to the credential that stands in the way of a restore. -/
def KeepsOld (outcome : StorageOutcome) (store : LocalStorageAdapter) (cred : Credential) :
    Bool -> Prop
  | true => ∀ prev, RollsBack outcome store cred prev ->
      prev.extensions.hmacSecret = none /\ store.StaysVisible prev.rpId.trim cred.id
  | false => ∀ prev, ¬Overlooks outcome store cred prev

/-- Writing without replacing spares the readable credentials unless it overlooks one. -/
theorem stored_spares_iff (truthful : store.Truthful) (rpId : ValidatedRpId)
    (writable : Writable outcome cred)
    (unseen : outcome.opens = false ∨ store.read cred.id = .error .doesNotExist) :
    (∀ id prev, store.read id = .ok prev -> (store.stored rpId cred).read id = .ok prev) <->
      ∀ prev, ¬Overlooks outcome store cred prev := by
  constructor
  · intro spares prev overlooks
    have kept := spares cred.id prev overlooks.existing
    rw [read_stored truthful.coherent.named, if_pos rfl, Except.ok.injEq] at kept
    exact overlooks.different kept
  · intro seen id prev existing
    rw [read_stored truthful.coherent.named]
    split_ifs with same
    · subst same
      by_contra different
      rcases unseen with closed | absent
      · exact seen prev ⟨existing, closed, writable, fun equal => different (by rw [equal])⟩
      · cases absent.symm.trans existing
    · exact existing

/-- Restoring a credential is harmless exactly if the old one survives. -/
theorem restoreCredential_harmless_iff (truthful : store.Truthful)
    (compensates : outcome.repersists = true) (replace : Bool) :
    Harmless store replace (restoreCredential (localCalls outcome) store cred replace).1
        (restoreCredential (localCalls outcome) store cred replace).2 <->
      KeepsOld outcome store cred replace := by
  have restored := restoreCredential_restored outcome store cred replace
  generalize restoreCredential (localCalls outcome) store cred replace = result at restored
  cases restored with
  | unchanged status keeps seen =>
    refine iff_of_true (Harmless.unchanged _ _ _) ?_
    cases replace with
    | true =>
      intro prev rollsBack
      exact absurd rollsBack (keeps prev rfl)
    | false =>
      intro prev overlooks
      rcases seen with opens | refused
      · exact Bool.false_ne_true (overlooks.closed.symm.trans opens)
      · exact refused overlooks.writable
  | added rpId writable unseen =>
    cases replace with
    | true =>
      refine iff_of_true (Harmless.replaced _ _) ?_
      intro prev rollsBack
      exact absurd writable rollsBack.refused
    | false =>
      rw [KeepsOld, <- stored_spares_iff truthful rpId writable unseen]
      exact ⟨fun harmless => harmless.spares rfl, fun spares => ⟨nofun, fun _ => spares⟩⟩
  | replaced after asked writable =>
    subst asked
    refine iff_of_true (Harmless.replaced _ _) ?_
    intro prev rollsBack
    exact absurd writable rollsBack.refused
  | rolledBack path prev asked rollsBack located content =>
    subst asked
    have place := (truthful.named located content).2
    have back : ((store.removed path cred.id).write prev outcome.repersists).2 =
        (store.removed path cred.id).stored path.rpId prev := by
      rw [write, ValidatedRpId.tryFrom_value place, compensates]
      rfl
    rw [back]
    constructor
    · intro harmless other otherRollsBack
      cases rollsBack.existing.symm.trans otherRollsBack.existing
      rw [place]
      exact (putBack_sameContent_iff truthful located content).mp (harmless.failed _ rfl)
    · intro keeps
      refine ⟨fun _ _ => ?_, nofun⟩
      refine (putBack_sameContent_iff truthful located content).mpr ?_
      rw [<- place]
      exact keeps prev rollsBack

end Credential

/-! ## The command -/

section Command

variable {Core Retries : Type} {env : Env}
  {lib : AuthenticatorLibrary Core LocalStorageAdapter Retries}
  {occasion : CommandOccasion LocalStorageAdapter}
  {service : AuthenticatorService Core LocalStorageAdapter} {payload : Bytes}

/-- Whether the payload asks for a credential to be replaced. -/
def asksReplace (lib : AuthenticatorLibrary Core LocalStorageAdapter Retries)
    (payload : Bytes) : Bool :=
  match lib.parseMap payload with
  | .error _ => false
  | .ok map => (map.flag 2).toOption.getD false

/-- The command gets as far as restoring this credential. -/
def Restores (env : Env) (lib : AuthenticatorLibrary Core LocalStorageAdapter Retries)
    (occasion : CommandOccasion LocalStorageAdapter)
    (service : AuthenticatorService Core LocalStorageAdapter) (payload : Bytes)
    (cred : Credential) : Prop :=
  ∃ map asked authenticator bundle replace decrypted,
    Admitted env lib service ParsedMap.restoreRequest payload map asked authenticator /\
      asked.operation = .restore bundle replace /\
      decryptCredential occasion.library bundle = .ok decrypted /\
      cred = { decrypted with backupState := .backedUp }

theorem restoreRequest_ok {map : ParsedMap} (read : map.restoreRequest = .ok asked) :
    ∃ bundle, asked.operation = .restore bundle ((map.flag 2).toOption.getD false) := by
  unfold ParsedMap.restoreRequest at read
  cases bundled : map.bytes 1 with
  | error status => rw [bundled] at read; cases read
  | ok bundle =>
    cases numbered : map.byte 3 with
    | error status => rw [bundled, numbered] at read; cases read
    | ok protocol =>
      cases given : map.bytes 4 with
      | error status => rw [bundled, numbered, given] at read; cases read
      | ok param =>
        rw [bundled, numbered, given] at read
        cases read
        exact ⟨bundle, rfl⟩

/-- A command that gets there ends as the restoring of the credential does. -/
theorem Restores.handled (restores : Restores env lib occasion service payload cred) :
    (∀ status, (service.handleRestoreCommand env lib occasion payload).1 = .error status <->
      (restoreCredential occasion.calls service.storage cred
        (asksReplace lib payload)).1 = .error status) /\
      (service.handleRestoreCommand env lib occasion payload).2.storage =
        (restoreCredential occasion.calls service.storage cred
          (asksReplace lib payload)).2 := by
  rcases restores with
    ⟨_, _, _, _, replace, decrypted, admitted, restore, opened, rfl⟩
  have flagged : asksReplace lib payload = replace := by
    rcases restoreRequest_ok admitted.read with ⟨_, same⟩
    rw [restore] at same
    unfold asksReplace
    rw [admitted.parsed]
    cases same
    rfl
  rw [handleRestoreCommand, admitted.handled, restore, flagged, perform, restoreBundle, opened]
  dsimp only
  generalize restoreCredential occasion.calls service.storage
    { decrypted with backupState := .backedUp } replace = result
  rcases result with ⟨_ | _, _⟩
  · refine ⟨fun code => ?_, rfl⟩
    rw [Except.error.injEq, Except.error.injEq]
  · exact ⟨fun code => iff_of_false nofun nofun, rfl⟩

/-- Every other command leaves the store alone. -/
theorem handleRestoreCommand_cases :
    (∃ cred, Restores env lib occasion service payload cred) ∨
      (service.handleRestoreCommand env lib occasion payload).2.storage =
        service.storage := by
  rcases @handleFeatureCommand_cases _ _ _ env lib occasion service
    ParsedMap.restoreRequest payload with refused | ⟨map, asked, authenticator, admitted⟩
  · exact .inr refused.2.storage
  · rcases restoreRequest_ok admitted.read with ⟨bundle, restore⟩
    cases opened : decryptCredential occasion.library bundle with
    | error error =>
      refine .inr ?_
      rw [handleRestoreCommand, admitted.handled, restore, perform, restoreBundle, opened]
    | ok decrypted =>
      exact .inl ⟨_, map, asked, authenticator, bundle, _, decrypted, admitted, restore, opened,
        rfl⟩

/-- A restore command loses nothing exactly if the credential that stands in its way survives: it
carries no flag and stays visible when it is written back, and it is not overlooked when it must
not be replaced. -/
theorem restore_harmless_iff (env : Env)
    (lib : AuthenticatorLibrary Core LocalStorageAdapter Retries)
    (occasion : CommandOccasion LocalStorageAdapter)
    (service : AuthenticatorService Core LocalStorageAdapter) (payload : Bytes)
    (outcome : StorageOutcome) (calls : occasion.calls = localCalls outcome)
    (compensates : outcome.repersists = true) (truthful : service.storage.Truthful) :
    Harmless service.storage (asksReplace lib payload)
        (service.handleRestoreCommand env lib occasion payload).1
        (service.handleRestoreCommand env lib occasion payload).2.storage <->
      ∀ cred, Restores env lib occasion service payload cred ->
        KeepsOld outcome service.storage cred (asksReplace lib payload) := by
  have pointwise : ∀ cred, Restores env lib occasion service payload cred ->
      (Harmless service.storage (asksReplace lib payload)
          (service.handleRestoreCommand env lib occasion payload).1
          (service.handleRestoreCommand env lib occasion payload).2.storage <->
        KeepsOld outcome service.storage cred (asksReplace lib payload)) := by
    intro cred restores
    rcases restores.handled with ⟨answers, stores⟩
    rw [calls] at answers stores
    rw [<- restoreCredential_harmless_iff truthful compensates, stores]
    exact ⟨fun harmless => ⟨fun status failed => harmless.failed status ((answers status).mpr failed),
        harmless.spares⟩,
      fun harmless => ⟨fun status failed => harmless.failed status ((answers status).mp failed),
        harmless.spares⟩⟩
  constructor
  · intro harmless cred restores
    exact (pointwise cred restores).mp harmless
  · intro keeps
    rcases handleRestoreCommand_cases with ⟨cred, restores⟩ | untouched
    · exact (pointwise cred restores).mpr (keeps cred restores)
    · rw [untouched]
      exact Harmless.unchanged _ _ _

end Command

namespace Sample

/-- The disk is full, but has room again when the old credential is written back. -/
def fullDisk : StorageOutcome :=
  ⟨true, true, true, false, true⟩

/-- No file can be opened for reading. -/
def manyOpenFiles : StorageOutcome :=
  ⟨false, true, true, true, true⟩

def restoreOn (outcome : StorageOutcome) (before : LocalStorageAdapter) (replace : Bool) :
    VendorResult Core LocalStorageAdapter :=
  (service before).handleRestoreCommand sampleEnv (lib LocalStorageAdapter) (occasion outcome)
    (restorePayload (bundle none) replace)

/-- A failed restore costs a credential its flag, and one that must not replace writes over a
credential that it could not open. -/
theorem restores_do_harm :
    ¬Harmless (store (some true)) true (restoreOn fullDisk (store (some true)) true).1
        (restoreOn fullDisk (store (some true)) true).2.storage /\
      ¬Harmless (store (some true)) false (restoreOn manyOpenFiles (store (some true)) false).1
        (restoreOn manyOpenFiles (store (some true)) false).2.storage := by
  have before : (store (some true)).read [1] = .ok (cred (some true)) := by decide +kernel
  constructor
  · intro harmless
    rcases (by decide +kernel :
        (restoreOn fullDisk (store (some true)) true).1 = .error .other /\
          (restoreOn fullDisk (store (some true)) true).2.storage.read [1] =
            .ok (cred none)) with ⟨refused, after⟩
    have same := (harmless.failed _ refused).read [1]
    rw [after] at same
    revert same
    decide
  · intro harmless
    have after : (restoreOn manyOpenFiles (store (some true)) false).2.storage.read [1] =
        .ok { cred none with backupState := .backedUp } := by
      decide +kernel
    have same := harmless.spares rfl [1] _ before
    rw [after] at same
    revert same
    decide

/-- A failed restore that has no flag to lose. -/
theorem failed_restore_harmless :
    (restoreOn fullDisk (store none) true).1 = .error .other /\
      Harmless (store none) true (restoreOn fullDisk (store none) true).1
        (restoreOn fullDisk (store none) true).2.storage := by
  rcases (by decide +kernel :
      asksReplace (lib LocalStorageAdapter) (restorePayload (bundle none) true) = true /\
        (restoreOn fullDisk (store none) true).1 = .error .other) with ⟨flagged, refused⟩
  refine ⟨refused, ?_⟩
  have harmless := (restore_harmless_iff sampleEnv (lib LocalStorageAdapter)
    (occasion fullDisk) (service (store none)) (restorePayload (bundle none) true) fullDisk rfl rfl
    (store_truthful none)).mpr
  rw [flagged] at harmless
  unfold restoreOn
  refine harmless ?_
  intro written _ prev rollsBack
  rcases read_eq_ok_iff.mp rollsBack.existing with ⟨path, _, content⟩
  change (Table.empty.insert _ _).get path = _ at content
  rw [Table.get_insert] at content
  split_ifs at content with same
  · cases content
    refine ⟨rfl, ?_⟩
    intro front back split _ id mem
    have alone : [[1]] = front ++ written.id :: back := split
    have short := congrArg List.length alone
    simp only [List.length_append, List.length_cons, List.length_nil] at short
    rw [List.eq_nil_of_length_eq_zero (by omega : back.length = 0)] at mem
    cases mem
  · cases content

end Sample

end ControlVault.Authenticator
