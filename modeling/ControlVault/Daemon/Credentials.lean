import ControlVault.Daemon.State

namespace ControlVault.Daemon

open Foundation Core Storage Broker LocalStorageAdapter

/-!
# Credential commands of the administrator

A credential is shown and named by its reference, a hash of its identifier, so
the commands find it by computing the reference of every stored credential.
They visit the profiles in turn and, for each profile, the credentials of its
store.  A loop over a store ends at the first file that does not load; a loop
over the profiles ends early where a store gives no first credential.

The text with which the storage layer describes an error belongs to another
program and is the argument `describe`.
-/

/-- A loop that passes elements until it comes to a good one. -/
def Until {α : Type} (passes good : α -> Prop) (list : List α) : Prop :=
  ∃ before element after, list = before ++ element :: after /\
    (∀ earlier ∈ before, passes earlier) /\ good element

theorem until_cons {α : Type} {passes good : α -> Prop} {head : α} {tail : List α} :
    Until passes good (head :: tail) <-> good head ∨ passes head /\ Until passes good tail := by
  constructor
  · rintro ⟨_ | ⟨first, before⟩, element, after, split, passed, found⟩
    · cases split
      exact .inl found
    · cases split
      rw [List.forall_mem_cons] at passed
      exact .inr ⟨passed.1, before, element, after, rfl, passed.2, found⟩
  · rintro (found | ⟨passed, before, element, after, rfl, others, found⟩)
    · exact ⟨[], head, tail, rfl, List.forall_mem_nil _, found⟩
    · exact ⟨head :: before, element, after, rfl, List.forall_mem_cons.mpr ⟨passed, others⟩, found⟩

theorem not_until_nil {α : Type} {passes good : α -> Prop} : ¬Until passes good [] := by
  rintro ⟨before, _, _, split, -⟩
  cases before <;> cases split

/-- A credential as the administrator sees it.  The time of creation is never filled in. -/
structure CredentialSummary where
  credentialRef : CredentialRef
  (rpId userName displayName : Text)

def CredentialSummary.of (env : Env) (cred : Credential) : CredentialSummary where
  credentialRef := .withDefaultDomain env cred.id
  rpId := cred.rpId
  userName := cred.userName.getD []
  displayName := cred.userDisplayName.getD []

namespace ProfileRuntime

/-- How the list command searches the store of a profile, unless it passes it over. -/
def listFilter (profile : ProfileRuntime) : Option Text -> Option CredentialFilter
  | none => some .none
  | some rpId =>
    if profile.profileConfig.rpIds.any (fun configured => configured.canonical = rpId.canonical) then
      some (.byRp rpId.canonical)
    else none

/-- Whether the list command shows a credential that it found. -/
def listMatch (profile : ProfileRuntime) (rpId : Option Text) (cred : Credential) : Bool :=
  match rpId with
  | some rpId => cred.rpId.canonical = rpId.canonical
  | none =>
    profile.profileConfig.allowedRpIds.any (fun configured =>
      configured.canonical = cred.rpId.canonical)

end ProfileRuntime

/-- A profile with its name. -/
abbrev Entry := ProfileId × ProfileRuntime

namespace AgentRuntime

variable (env : Env)

def storeOf (runtime : AgentRuntime) (entry : Entry) : LocalStorageAdapter :=
  runtime.storageOf entry.1 entry.2

def withStore (runtime : AgentRuntime) (entry : Entry) (store : LocalStorageAdapter) :
    AgentRuntime :=
  { runtime with toBrokerState := runtime.withStorage (.of entry.1 entry.2.mode) store }

/-- The loop of the list command over the profiles. -/
def listProfiles (runtime : AgentRuntime) (rpId : Option Text) :
    List Entry -> List CredentialSummary
  | [] => []
  | entry :: rest =>
    match entry.2.listFilter rpId with
    | none => runtime.listProfiles rpId rest
    | some filter =>
      match (runtime.storeOf entry).readFirst filter with
      -- A `break` of the loop over the profiles, not only of the one over this store.
      | .error _ => []
      | .ok _ =>
        (((runtime.storeOf entry).enumerate filter).filter
            (entry.2.listMatch rpId)).map (.of env) ++
          runtime.listProfiles rpId rest

def handleAdminListCredentials (runtime : AgentRuntime) (rpId : Option Text) :
    List CredentialSummary :=
  runtime.listProfiles env rpId runtime.profiles.toList

/-- Search the profiles that list a reference for the credential it names. -/
def locate (runtime : AgentRuntime) (ref : CredentialRef) :
    List Entry ->
      Except StorageError (Option (Entry × Credential))
  | [] => .ok none
  | entry :: rest =>
    if !entry.2.lists ref then runtime.locate ref rest
    else
      match (runtime.storeOf entry).readFirst .none with
      | .error error => .error error
      | .ok _ =>
        match ((runtime.storeOf entry).enumerate .none).find? (fun cred =>
            CredentialRef.withDefaultDomain env cred.id = ref) with
        | some cred => .ok (some (entry, cred))
        | none => runtime.locate ref rest

variable (describe : StorageError -> Text)

def enumerationFailed (error : StorageError) : ProtocolError :=
  .internal ("storage enumeration failed: " ++ describe error) .retry

section

variable (runtime : AgentRuntime)

def handleAdminShowCredential (ref : CredentialRef) : Except ProtocolError CredentialSummary :=
  match runtime.locate env ref runtime.profiles.toList with
  | .error error => .error (enumerationFailed describe error)
  | .ok (some (_, cred)) =>
    .ok { CredentialSummary.of env cred with credentialRef := ref }
  | .ok none => .error (.notFound "credential not found")

/-- The profiles whose credentials may be deleted. -/
def isolatedProfiles : List Entry :=
  runtime.profiles.toList.filter (fun entry => entry.2.mode = .isolated)

/-- Delete a credential that was located.  The store is asked to remove the identifier that
is spelled like the reference. -/
def deleteLocated (ref : CredentialRef) (entry : Entry) (unlinked : Bool) :
    Except ProtocolError Unit × AgentRuntime :=
  match (runtime.storeOf entry).delete (bytesOf ref.bytes) unlinked with
  | (.error error, _) =>
    (.error (.internal ("failed to delete credential: " ++ describe error) .retry), runtime)
  | (.ok (), after) => (.ok (), runtime.withStore entry after)

def handleAdminDeleteCredential (ref : CredentialRef) (unlinked : Bool) :
    Except ProtocolError Unit × AgentRuntime :=
  match runtime.locate env ref runtime.isolatedProfiles with
  | .error error => (.error (enumerationFailed describe error), runtime)
  | .ok (some (entry, _)) => runtime.deleteLocated describe ref entry unlinked
  | .ok none =>
    if runtime.isolatedProfiles.any (fun entry => entry.2.lists ref) then
      (.error (.notFound "credential not found"), runtime)
    else
      (.error (.notFound "credential not found in any isolated profile"), runtime)

end

/-! ## What the loops visit -/

variable {env} {runtime : AgentRuntime}

section

variable (runtime : AgentRuntime) (rpId : Option Text) (entry : Entry)

/-- The list command goes on after a profile that it passes over or whose store has a first file
that can be read. -/
def goesOn : Bool :=
  (entry.2.listFilter rpId).all (runtime.storeOf entry).opens

/-- A credential that the list command shows: the profile names its relying party, and the loop
over the store comes to its file. -/
def Shows (cred : Credential) : Prop :=
  ∃ filter, entry.2.listFilter rpId = some filter /\
    (runtime.storeOf entry).Reaches filter cred /\
    entry.2.listMatch rpId cred = true

end

/-- A list shows credentials up to the first profile that has none to begin with. -/
theorem mem_listProfiles (rpId : Option Text) (entries : List Entry) (summary : CredentialSummary) :
    summary ∈ runtime.listProfiles env rpId entries <->
      Until (fun earlier => runtime.goesOn rpId earlier = true)
        (fun entry => ∃ cred, runtime.Shows rpId entry cred /\
          summary = .of env cred) entries := by
  induction entries with
  | nil => exact iff_of_false List.not_mem_nil not_until_nil
  | cons entry rest ih =>
    rw [listProfiles, until_cons, <- ih]
    cases searched : entry.2.listFilter rpId with
    | none => simp [Shows, goesOn, searched]
    | some filter =>
      have opened := (runtime.storeOf entry).readFirst_isOk filter
      cases first : (runtime.storeOf entry).readFirst filter with
      | error =>
        -- a store that gives no first credential has none to show
        rw [first] at opened
        have closed : runtime.goesOn rpId entry = false := by
          rw [goesOn, searched]
          exact opened.symm
        have nothing (cred : Credential) :
            ¬(runtime.storeOf entry).Reaches filter cred := by
          intro reached
          rw [reached.opens] at opened
          cases opened
        simp [first, closed, Shows, searched, nothing]
      | ok =>
        rw [first] at opened
        have goes : runtime.goesOn rpId entry = true := by
          rw [goesOn, searched]
          exact opened.symm
        simp only [first, goes, Shows, searched, List.mem_append, List.mem_map, List.mem_filter,
          mem_enumerate_iff, Option.some.injEq, exists_eq_left', true_and]
        exact or_congr_left (exists_congr fun cred => and_congr_right fun _ => eq_comm)

/-- The search for a reference comes to a file of it in a profile that lists it. -/
def Finds (env : Env) (runtime : AgentRuntime) (ref : CredentialRef) (entry : Entry) : Prop :=
  entry.2.lists ref = true /\
    ∃ cred, (runtime.storeOf entry).Reaches .none cred /\
      CredentialRef.withDefaultDomain env cred.id = ref

/-- The search passes over a profile that does not list the reference, and over one whose first
file can be read but that has no file of the reference before a damaged one. -/
def PassesOver (env : Env) (runtime : AgentRuntime) (ref : CredentialRef)
    (entry : Entry) : Prop :=
  entry.2.lists ref = true ->
    (runtime.storeOf entry).opens .none = true /\ ¬runtime.Finds env ref entry

theorem locate_cons (ref : CredentialRef) (entry : Entry) (rest : List Entry) :
    runtime.PassesOver env ref entry /\
        runtime.locate env ref (entry :: rest) = runtime.locate env ref rest ∨
      ¬runtime.PassesOver env ref entry /\
        if (runtime.storeOf entry).opens .none then
          runtime.Finds env ref entry /\ ∃ cred,
            runtime.locate env ref (entry :: rest) = .ok (some (entry, cred))
        else ∃ error, runtime.locate env ref (entry :: rest) = .error error := by
  have opened := (runtime.storeOf entry).readFirst_isOk .none
  rw [locate]
  cases listed : entry.2.lists ref with
  | false => exact .inl ⟨fun never => by simp [listed] at never, rfl⟩
  | true =>
    cases first : (runtime.storeOf entry).readFirst .none with
    | error error =>
      rw [first] at opened
      refine .inr ⟨fun passes => ?_, ?_⟩
      · have readable := (passes listed).1
        rw [<- opened] at readable
        cases readable
      · rw [<- opened]
        exact ⟨error, rfl⟩
    | ok =>
      rw [first] at opened
      cases search : ((runtime.storeOf entry).enumerate .none).find?
          (fun cred => CredentialRef.withDefaultDomain env cred.id = ref) with
      | some cred =>
        have finds : runtime.Finds env ref entry :=
          ⟨listed, cred, mem_enumerate_iff.mp (List.mem_of_find?_eq_some search),
            by simpa using List.find?_some search⟩
        refine .inr ⟨fun passes => (passes listed).2 finds, ?_⟩
        rw [<- opened]
        exact ⟨finds, cred, rfl⟩
      | none =>
        refine .inl ⟨fun _ => ⟨opened.symm, ?_⟩, rfl⟩
        rintro ⟨-, cred, reached, named⟩
        exact List.find?_eq_none.mp search cred (mem_enumerate_iff.mpr reached)
          (by simpa using named)

theorem locate_eq_none_iff (ref : CredentialRef) (entries : List Entry) :
    runtime.locate env ref entries = .ok none <->
      ∀ entry ∈ entries, runtime.PassesOver env ref entry := by
  induction entries with
  | nil => simp [locate]
  | cons entry rest ih =>
    rw [List.forall_mem_cons]
    rcases runtime.locate_cons ref entry rest with ⟨passes, same⟩ | ⟨stops, outcome⟩
    · rw [same, ih, and_iff_right passes]
    · refine iff_of_false ?_ fun all => stops all.1
      split_ifs at outcome
      · rcases outcome with ⟨-, cred, found⟩
        simp [found]
      · rcases outcome with ⟨error, failed⟩
        simp [failed]

/-- A search succeeds at the first profile that it does not pass over. -/
theorem locate_eq_some_iff (ref : CredentialRef) (entry : Entry) (entries : List Entry) :
    (∃ cred, runtime.locate env ref entries = .ok (some (entry, cred))) <->
      Until (runtime.PassesOver env ref)
        (fun place => place = entry /\ runtime.Finds env ref place) entries := by
  induction entries with
  | nil => exact iff_of_false (by simp [locate]) not_until_nil
  | cons head rest ih =>
    rw [until_cons]
    rcases runtime.locate_cons ref head rest with ⟨passes, same⟩ | ⟨stops, outcome⟩
    · rw [same, ih, and_iff_right passes, or_iff_right]
      rintro ⟨-, finds⟩
      exact (passes finds.1).2 finds
    · rw [or_iff_left fun later => stops later.1]
      split_ifs at outcome with opened
      · rcases outcome with ⟨finds, cred, found⟩
        rw [found]
        simp [finds]
      · rcases outcome with ⟨error, failed⟩
        rw [failed]
        refine iff_of_false (by simp) ?_
        rintro ⟨-, -, cred, reached, -⟩
        exact opened reached.opens

end AgentRuntime

end ControlVault.Daemon
