import ControlVault.Storage.Confinement

namespace ControlVault.Storage

open Foundation Core CredentialRef StorageAnswer CredentialStorage SharedDelegatedStorage

/-!
# A ceremony learns nothing about other credentials

Two views that differ in their stores and indexes, but not in what these say about
the credential of the ceremony, answer every sequence of calls alike.  A call reads
the index and the store at that credential only, and a write changes both stores in
the same way there.
-/

namespace SharedDelegatedStorage

variable {σ : Type} [CredentialStorage σ] (env : Env)

/-- The answers to a sequence of calls. -/
def answers (storage : SharedDelegatedStorage σ) : List StorageCall -> List StorageAnswer
  | [] => []
  | call :: calls =>
    (storage.call env call).1 :: (storage.call env call).2.answers calls

/-- The same view of another store through another index. -/
def onto (storage : SharedDelegatedStorage σ) (human : σ)
    (index : Table CredentialRef CredentialId) : SharedDelegatedStorage σ :=
  { storage with human, credRefToRawId := index }

/-- The other store and index agree with the view's own on one reference. -/
structure AgreesOn (storage : SharedDelegatedStorage σ) (human : σ)
    (index : Table CredentialRef CredentialId) (ref : CredentialRef) : Prop where
  index : index.get ref = storage.credRefToRawId.get ref
  stored : ∀ rawId, storage.credRefToRawId.get ref = some rawId ->
    CredentialStorage.read human rawId = CredentialStorage.read storage.human rawId

section Steps

variable {env} {storage : SharedDelegatedStorage σ} {human : σ}
  {index : Table CredentialRef CredentialId} {ref : CredentialRef}

theorem AgreesOn.readReference (agrees : storage.AgreesOn human index ref) :
    (storage.onto human index).readReference ref = storage.readReference ref := by
  unfold SharedDelegatedStorage.readReference resolveRawId onto
  rw [agrees.index]
  cases located : storage.credRefToRawId.get ref with
  | none => rfl
  | some rawId =>
    change (CredentialStorage.read human rawId >>= _) =
      (CredentialStorage.read storage.human rawId >>= _)
    rw [agrees.stored rawId located]
    rfl

omit [CredentialStorage σ] in
theorem requireCeremonyCred_other (active : storage.scope.activeCredRef = some ref)
    (different : named ≠ ref) :
    storage.requireCeremonyCred named = .error .doesNotExist := by
  rw [requireCeremonyCred, active, if_neg]
  rintro ⟨⟩
  exact different rfl

section

variable (agrees : storage.AgreesOn human index ref)
  (active : storage.scope.activeCredRef = some ref)

include agrees active

/-- Calls that name a credential go on only if it is the one of the ceremony. -/
theorem AgreesOn.readNamed (named : CredentialRef) :
    ((storage.onto human index).requireCeremonyCred named >>= fun _ =>
        (storage.onto human index).readReference named) =
      (storage.requireCeremonyCred named >>= fun _ => storage.readReference named) := by
  by_cases same : named = ref
  · rw [same, agrees.readReference]
    rfl
  · change (storage.requireCeremonyCred named >>= _) = _
    rw [requireCeremonyCred_other active same]
    rfl

theorem AgreesOn.readFirst (filter : ReadFilter) :
    (storage.onto human index).readFirst env filter = storage.readFirst env filter := by
  have current : storage.activeReference = .ok ref := activeReference_eq_ok.mpr active
  have current' : (storage.onto human index).activeReference = .ok ref := current
  unfold SharedDelegatedStorage.readFirst
  rw [current, current']
  congr 1
  funext _
  cases filter with
  | none => exact agrees.readReference
  | byHash => rfl
  | byRp =>
    change (if _ then _ else (storage.onto human index).readReference ref) =
      if _ then _ else storage.readReference ref
    rw [agrees.readReference]
    rfl
  | byId id =>
    exact congrArg (fun continued => if !storage.allowedCredRefs.contains
      (withDefaultDomain env id) then _ else continued)
      (agrees.readNamed active _)

theorem AgreesOn.read (id : CredentialId) :
    (storage.onto human index).read env id = storage.read env id := by
  have read_eq (view : SharedDelegatedStorage σ) : view.read env id =
      (view.requireActiveCeremony >>= fun _ =>
        view.requireCeremonyCred (withDefaultDomain env id) >>= fun _ =>
          if !view.allowedCredRefs.contains (withDefaultDomain env id) then
            .error .doesNotExist
          else view.readReference (withDefaultDomain env id)) := rfl
  rw [read_eq, read_eq]
  by_cases same : withDefaultDomain env id = ref
  · rw [same, agrees.readReference]
    rfl
  · have refused : (storage.onto human index).requireCeremonyCred
        (withDefaultDomain env id) = .error .doesNotExist :=
      requireCeremonyCred_other active same
    rw [refused, requireCeremonyCred_other active same]
    rfl

/-- The checks of a write see the store at the ceremony's credential only. -/
theorem AgreesOn.checkWrite (cred : Credential) :
    (storage.onto human index).checkWrite env cred = storage.checkWrite env cred := by
  rcases CeremonyScope.activeCredRef_eq_some.mp active with ⟨ceremony, current, action⟩
  have current' : (storage.onto human index).scope.active = some ceremony := current
  unfold SharedDelegatedStorage.checkWrite
  rw [current, current']
  dsimp only
  rw [action]
  congr 1
  funext _
  by_cases same : withDefaultDomain env cred.id = ref
  · unfold checkWriteBack resolveRawId onto
    dsimp only
    rw [same, agrees.index]
    cases located : storage.credRefToRawId.get ref with
    | none => rfl
    | some rawId =>
      have stored := agrees.stored rawId located
      congr 1
      funext _
      congr 1
      change (CredentialStorage.read human rawId >>= _) =
        (CredentialStorage.read storage.human rawId >>= _)
      rw [stored]
      rfl
  · have refused : (storage.onto human index).requireCeremonyCred
        (withDefaultDomain env cred.id) = .error .doesNotExist :=
      requireCeremonyCred_other active same
    rw [checkWriteBack, checkWriteBack, refused, requireCeremonyCred_other active same]
    rfl

/-- The two stores go on agreeing after a write that both carry out. -/
theorem AgreesOn.write (cred : Credential) (saved : Bool) :
    ∃ human', (storage.onto human index).write env cred saved =
        ((storage.write env cred saved).1,
          (storage.write env cred saved).2.onto human' index) /\
      (storage.write env cred saved).2.AgreesOn human' index ref := by
  unfold SharedDelegatedStorage.write
  rw [agrees.checkWrite active]
  cases storage.checkWrite env cred with
  | error => exact ⟨human, rfl, agrees⟩
  | ok _ =>
    have results := CredentialStorage.write_result human storage.human cred saved
    refine ⟨(CredentialStorage.write human cred saved).2,
      Prod.ext results rfl, agrees.index, ?_⟩
    intro rawId located
    cases outcome : (CredentialStorage.write storage.human cred saved).1 with
    | error =>
      rw [read_unwritten outcome, read_unwritten (results.trans outcome)]
      exact agrees.stored rawId located
    | ok _ =>
      rw [read_written outcome, read_written (results.trans outcome), agrees.stored rawId located]

/-- One call: the answers are equal, and the stores go on agreeing. -/
theorem AgreesOn.call (req : StorageCall) :
    ∃ human', (storage.onto human index).call env req = ((storage.call env req).1,
          (storage.call env req).2.onto human' index) /\
      (storage.call env req).2.AgreesOn human' index ref := by
  cases req with
  | readFirst filter =>
    refine ⟨human, ?_, agrees⟩
    change (credential ((storage.onto human index).readFirst env filter), _) = _
    rw [agrees.readFirst active]
    rfl
  | readNext | delete => exact ⟨human, rfl, agrees⟩
  | read id =>
    refine ⟨human, ?_, agrees⟩
    change (credential ((storage.onto human index).read env id), _) = _
    rw [agrees.read active]
    rfl
  | write cred saved =>
    rcases agrees.write active cred saved with ⟨human', same, after⟩
    refine ⟨human', ?_, after⟩
    change (done ((storage.onto human index).write env cred saved).1,
      ((storage.onto human index).write env cred saved).2) = _
    rw [same]
    rfl
  | listRelyingParties =>
    refine ⟨human, ?_, agrees⟩
    change (relyingParties ((storage.onto human index).listRelyingParties env), _) = _
    rw [listRelyingParties, agrees.readFirst active]
    rfl
  | countCredentials =>
    refine ⟨human, ?_, agrees⟩
    have same : (storage.onto human index).countCredentials = storage.countCredentials := by
      unfold countCredentials onto
      rw [active]
      dsimp only
      rw [agrees.index]
    change (count (storage.onto human index).countCredentials, _) = _
    rw [same]
    rfl
  | cleanupExpiredCache =>
    refine ⟨CredentialStorage.cleanupExpiredCache human, rfl, agrees.index, ?_⟩
    intro rawId located
    exact (read_cleanup human rawId).trans
      ((agrees.stored rawId located).trans (read_cleanup _ rawId).symm)

end

theorem answers_over (calls : List StorageCall) (agrees : storage.AgreesOn human index ref)
    (active : storage.scope.activeCredRef = some ref) :
    (storage.onto human index).answers env calls = storage.answers env calls := by
  -- calls do not touch the scope, so the ceremony stays active throughout
  induction calls generalizing storage human with
  | nil => rfl
  | cons req calls ih =>
    rcases @AgreesOn.call σ _ env _ _ _ _ agrees active req with ⟨_, same, after⟩
    rcases call_frame env storage req with ⟨_, frame⟩
    have stillActive : (storage.call env req).2.scope.activeCredRef = some ref := by
      rw [frame]
      exact active
    rw [answers, answers, same, ih after stillActive]

end Steps

/-- Throughout an authentication, what the human's store and the index say about other
credentials does not show in the answers. -/
theorem answers_depend_on_active_credential (storage : SharedDelegatedStorage σ) (human : σ)
    (index : Table CredentialRef CredentialId) (ceremony : ActiveCeremony)
    (ref : CredentialRef) (active : storage.scope.active = some ceremony)
    (action : ceremony.action = .authenticate ref)
    (indexes : index.get ref = storage.credRefToRawId.get ref)
    (stores : ∀ rawId, storage.credRefToRawId.get ref = some rawId ->
      CredentialStorage.read human rawId = CredentialStorage.read storage.human rawId)
    (calls : List StorageCall) :
    answers env { storage with human, credRefToRawId := index } calls = storage.answers env calls :=
  answers_over calls ⟨indexes, stores⟩
    (CeremonyScope.activeCredRef_eq_some.mpr ⟨ceremony, active, action⟩)

end SharedDelegatedStorage

namespace Sample

/-- A store that has a second credential beside the first. -/
def crowdedHuman : NamedStorage :=
  ((human "example.com").write { cred "example.com" none 7 with id := [9] } true).2

/-- A ceremony in which the credential is found, written back and looked for again. -/
def ceremonyCalls : List StorageCall :=
  [.countCredentials, .readFirst .none, writeBack none (.authenticate ref),
    .readFirst (.byRp "example.com"), .read [9], .listRelyingParties]

/-- Another credential in the human's store changes no answer of a ceremony. -/
theorem crowded_store_not_seen :
    crowdedHuman.store.read [9] ≠ (human "example.com").store.read [9] /\ answers sampleEnv
          { during "example.com" (.authenticate ref) with
            human := crowdedHuman
            credRefToRawId := Table.empty.insert ref [1] } ceremonyCalls =
        (during "example.com" (.authenticate ref)).answers sampleEnv ceremonyCalls := by
  refine ⟨by decide +kernel, ?_⟩
  have active : (during "example.com" (.authenticate ref)).scope.active =
      some ⟨.authenticate ref, "example.com", 1⟩ := by
    decide +kernel
  have located : (during "example.com" (.authenticate ref)).credRefToRawId.get ref = some [1] := by
    decide +kernel
  apply answers_depend_on_active_credential sampleEnv _ _ _ _ ref active rfl
  · rw [located]
    exact Table.get_insert_self _ _ _
  · intro rawId found
    rw [located] at found
    cases found
    decide +kernel

end Sample

end ControlVault.Storage
