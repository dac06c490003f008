import ControlVault.Broker.WebAuthn
import ControlVault.Core.Protocol

namespace ControlVault.Broker

open Foundation Core Storage List

/-!
# Choosing a credential

A grant names credentials by reference, or names none and then stands for every
credential of the relying party.  The broker turns references into identifiers
by going through the relying party's directory, keeps those the page allows, and
picks one by the configured rule.

The references of a grant without credentials are found by a loop over the whole
store, in an order that no one controls.  The choice does not depend on it.
-/

variable {env : Env} {store : LocalStorageAdapter}

structure Candidate where
  id : CredentialId
  reference : CredentialRef
  created : Int

section Lookup

variable (env : Env) (store : LocalStorageAdapter)

/-- The references a grant stands for at a relying party. -/
def credentialScope (granted : List CredentialRef) (normalizedRp : Text) : List CredentialRef :=
  if granted.isEmpty then
    ((store.enumerate .none).filter (fun cred =>
      cred.rpId.asciiLower = normalizedRp.asciiLower)).map
        (fun cred => .withDefaultDomain env cred.id)
  else granted

def resolveCredentialId (ref : CredentialRef) (rpId : Text) :
    Except ProtocolError CredentialId :=
  match store.readFirst (.byRp rpId) with
  | .error _ => .error (.notFound "no credentials for RP in storage")
  | .ok _ =>
    match (store.enumerate (.byRp rpId)).find? (fun cred =>
        CredentialRef.withDefaultDomain env cred.id = ref) with
    | some cred => .ok cred.id
    | none => .error (.notFound "credential ref not found in storage")

/-- The credential of a reference, unless the page or its protection level rules it out. -/
def candidateFor (allowCredentials : List Text) (uv : Bool) (normalizedRp : Text)
    (ref : CredentialRef) : Option Candidate :=
  match resolveCredentialId env store ref normalizedRp with
  | .error _ => none
  | .ok id =>
    if !allowCredentials.isEmpty && !allowCredentials.elem (b64uEncode id) then none
    else
      match store.read id with
      | .error _ => none
      | .ok cred =>
        if cred.extensions.credProtect = some 2 && !uv && allowCredentials.isEmpty then none
        else some ⟨id, ref, cred.created⟩

def candidatesFor (granted : List CredentialRef) (allowCredentials : List Text) (uv : Bool)
    (normalizedRp : Text) : List Candidate :=
  (credentialScope env store granted normalizedRp).filterMap
    (candidateFor env store allowCredentials uv normalizedRp)

end Lookup

variable {ref : CredentialRef} {allowCredentials : List Text} {candidate : Candidate}

/-- A reference resolves to a credential that the store lists under the relying party. -/
theorem resolveCredentialId_ok
    {id : CredentialId} (resolved : resolveCredentialId env store ref rpId = .ok id) :
    ∃ cred ∈ store.enumerate (.byRp rpId), cred.id = id /\
      CredentialRef.withDefaultDomain env cred.id = ref := by
  unfold resolveCredentialId at resolved
  split at resolved
  · cases resolved
  · split at resolved
    · rename_i cred found
      cases resolved
      have referred := find?_some found
      exact ⟨cred, mem_of_find?_eq_some found, rfl, of_decide_eq_true referred⟩
    · cases resolved

/-- A candidate is the credential its reference resolves to, one the page allows, at its
protection level. -/
theorem candidateFor_some
    (found : candidateFor env store allowCredentials uv rpId ref = some candidate) :
    candidate.reference = ref /\
      resolveCredentialId env store ref rpId = .ok candidate.id /\
      (allowCredentials ≠ [] -> b64uEncode candidate.id ∈ allowCredentials) /\
      ∀ cred, store.read candidate.id = .ok cred ->
        cred.extensions.credProtect = some 2 -> allowCredentials = [] -> uv = true := by
  unfold candidateFor at found
  split at found
  · cases found
  · rename_i id resolved
    split at found
    · cases found
    · rename_i listed
      split at found
      · cases found
      · rename_i stored readable
        split at found
        · cases found
        · rename_i visible
          cases found
          refine ⟨rfl, resolved, ?_, ?_⟩
          · intro given
            by_contra missing
            exact listed (by simp [given, missing])
          · intro cred read level open_
            rw [readable] at read
            cases read
            by_contra hidden
            exact visible (by simp [level, hidden, open_])

/-- Identifiers are compared byte by byte. -/
def idLe (first second : CredentialId) : Prop :=
  first.map UInt8.toNat <= second.map UInt8.toNat

instance : DecidableRel idLe := fun first second =>
  inferInstanceAs (Decidable (first.map UInt8.toNat <= second.map UInt8.toNat))

/-- The order of `FirstMatching`. -/
def byId (first second : Candidate) : Prop :=
  idLe first.id second.id

/-- The order of `Newest`: later ones first, those of one instant by identifier. -/
def byAge (first second : Candidate) : Prop :=
  second.created < first.created ∨ first.created = second.created /\ idLe first.id second.id

instance : DecidableRel byId := fun first second =>
  inferInstanceAs (Decidable (idLe first.id second.id))

instance : DecidableRel byAge := fun first second =>
  inferInstanceAs (Decidable (second.created < first.created ∨
    first.created = second.created /\ idLe first.id second.id))

/-- The identifier of the candidate a search found. -/
def idOr (missing : Except ProtocolError CredentialId) :
    Option Candidate -> Except ProtocolError CredentialId
  | some candidate => .ok candidate.id
  | none => missing

theorem idOr_congr {first second : Option Candidate} (missing : Except ProtocolError CredentialId)
    (same : first.map Candidate.id = second.map Candidate.id) :
    idOr missing first = idOr missing second := by
  cases first <;> cases second <;> simp_all [idOr]

def noMatch : Except ProtocolError CredentialId :=
  .error (.notFound "no permitted credential matches this WebAuthn request")

/-- The identifier of the first candidate in an order.  It is only asked for when there is one. -/
def firstBy (order : Candidate -> Candidate -> Prop) [DecidableRel order]
    (candidates : List Candidate) : Except ProtocolError CredentialId :=
  idOr noMatch (candidates.insertionSort order).head?

/-- The choice among several candidates when the page did not choose. -/
def selectByRule (candidates : List Candidate) :
    CredentialSelection -> Except ProtocolError CredentialId
  | .credential ref =>
    idOr (.error (.notFound "configured credential does not match this WebAuthn request"))
      (candidates.find? (fun candidate => candidate.reference = ref))
  | .single =>
    match candidates with
    | [candidate] => .ok candidate.id
    | _ =>
      .error (.conflict "multiple discoverable credentials match; configure credential_selection")
  | .firstMatching => firstBy byId candidates
  | .newest => firstBy byAge candidates

def selectCredential (candidates : List Candidate) (allowCredentials : List Text)
    (selection : CredentialSelection) : Except ProtocolError CredentialId :=
  if candidates.isEmpty then noMatch
  else
    idOr (selectByRule candidates selection)
      (allowCredentials.findSome? (fun allowed =>
        candidates.find? (fun candidate => b64uEncode candidate.id = allowed)))

/-! ## The order of the candidates does not matter -/

section Order

variable {first second : List Candidate} (permuted : first.Perm second)

include permuted

/-- The smallest candidate of a total order that decides the identifier. -/
theorem firstBy_perm (order : Candidate -> Candidate -> Prop) [DecidableRel order]
    [Std.Total order] [IsTrans Candidate order]
    (decides : ∀ candidate other, order candidate other -> order other candidate ->
      candidate.id = other.id) :
    firstBy order first = firstBy order second := by
  have sorted : (first.insertionSort order).Perm (second.insertionSort order) :=
    calc first.insertionSort order
      _ ~ first := perm_insertionSort order first
      _ ~ second := permuted
      _ ~ second.insertionSort order := (perm_insertionSort order second).symm
  have firstSorted := pairwise_insertionSort order first
  have secondSorted := pairwise_insertionSort order second
  unfold firstBy
  generalize first.insertionSort order = left at sorted firstSorted
  generalize second.insertionSort order = right at sorted secondSorted
  have smallest : ∀ {head other : Candidate} {tail : List Candidate},
      (head :: tail).Pairwise order -> other ∈ head :: tail -> order head other := by
    intro head other tail ordered mem
    rcases mem_cons.mp mem with rfl | later
    · exact (or_self_iff.mp (Std.Total.total (r := order) other other))
    · exact (pairwise_cons.mp ordered).1 other later
  cases left with
  | nil =>
    rw [sorted.nil_eq]
  | cons head tail =>
    cases right with
    | nil => exact absurd sorted.symm.nil_eq (cons_ne_nil _ _).symm
    | cons rival rest =>
      have forward := smallest firstSorted (sorted.mem_iff.mpr mem_cons_self)
      have backward := smallest secondSorted (sorted.mem_iff.mp mem_cons_self)
      exact idOr_congr _ (congrArg some (decides head rival forward backward))

end Order

theorem idLe_antisymm (forward : idLe first second)
    (backward : idLe second first) : first = second :=
  map_injective_iff.mpr (fun _ _ => UInt8.toNat_inj.mp) (le_antisymm forward backward)

instance : Std.Total byId where
  total first second := le_total (first.id.map UInt8.toNat) (second.id.map UInt8.toNat)

instance : IsTrans Candidate byId where
  trans _ _ _ first second := le_trans first second

instance : Std.Total byAge where
  total first second := by
    rcases lt_trichotomy first.created second.created with earlier | same | later
    · exact .inr (.inl earlier)
    · rcases le_total (first.id.map UInt8.toNat) (second.id.map UInt8.toNat) with below | above
      · exact .inl (.inr ⟨same, below⟩)
      · exact .inr (.inr ⟨same.symm, above⟩)
    · exact .inl (.inl later)

instance : IsTrans Candidate byAge where
  trans first second third := by
    rintro (older | ⟨same, below⟩) (older' | ⟨same', below'⟩)
    · exact .inl (older'.trans older)
    · exact .inl (same' ▸ older)
    · exact .inl (same ▸ older')
    · exact .inr ⟨same.trans same', le_trans below below'⟩

theorem byAge_decides (forward : byAge first second)
    (backward : byAge second first) : first.id = second.id := by
  rcases forward with earlier | ⟨_, below⟩
  · rcases backward with later | ⟨same, _⟩
    · exact absurd (earlier.trans later) (lt_irrefl _)
    · exact absurd (same ▸ earlier) (lt_irrefl _)
  · rcases backward with later | ⟨_, above⟩
    · rename_i same
      exact absurd (same ▸ later) (lt_irrefl _)
    · exact idLe_antisymm below above

/-- If references decide identifiers, permuting the candidates does not change the choice. -/
theorem selectCredential_perm {first : List Candidate} (permuted : first.Perm second)
    (determined : ∀ candidate ∈ first, ∀ other ∈ first, candidate.reference = other.reference ->
      candidate.id = other.id)
    (allowCredentials : List Text) (selection : CredentialSelection) :
    selectCredential first allowCredentials selection =
      selectCredential second allowCredentials selection := by
  have emptiness : first.isEmpty = second.isEmpty := by
    rw [Bool.eq_iff_iff, List.isEmpty_iff, List.isEmpty_iff]
    exact ⟨fun empty => (empty ▸ permuted).nil_eq.symm, fun empty => (empty ▸ permuted).eq_nil⟩
  have allowed_eq : ∀ allowed,
      (first.find? (fun candidate => b64uEncode candidate.id = allowed)).map Candidate.id =
        (second.find? (fun candidate => b64uEncode candidate.id = allowed)).map Candidate.id := by
    intro allowed
    refine find?_map_of_perm permuted Candidate.id _ ?_
    intro candidate _ other _ encoded encoded'
    exact b64uEncode_injective ((of_decide_eq_true encoded).trans (of_decide_eq_true encoded').symm)
  have chosen_eq : (allowCredentials.findSome? (fun allowed =>
      first.find? (fun candidate => b64uEncode candidate.id = allowed))).map Candidate.id =
      (allowCredentials.findSome? (fun allowed =>
        second.find? (fun candidate => b64uEncode candidate.id = allowed))).map Candidate.id := by
    rw [map_findSome?, map_findSome?]
    exact congrArg (findSome? · allowCredentials) (funext allowed_eq)
  have rule_eq : selectByRule first selection = selectByRule second selection := by
    cases selection with
    | single =>
      have lengths := permuted.length_eq
      rcases first with _ | ⟨candidate, _ | ⟨other, _⟩⟩
      · rw [permuted.nil_eq]
      · rw [singleton_perm.mp permuted]
      · rcases second with _ | ⟨_, _ | ⟨_, _⟩⟩
        · rfl
        · exact absurd lengths (by simp)
        · rfl
    | firstMatching => exact firstBy_perm permuted byId (fun _ _ => idLe_antisymm)
    | newest => exact firstBy_perm permuted byAge (fun _ _ => byAge_decides)
    | credential =>
      refine idOr_congr _ (find?_map_of_perm permuted Candidate.id _ ?_)
      intro candidate mem other otherMember same same'
      exact determined candidate mem other otherMember
        ((of_decide_eq_true same).trans (of_decide_eq_true same').symm)
  unfold selectCredential
  rw [emptiness, rule_eq, idOr_congr _ chosen_eq]

theorem selectCredential_mem {id : CredentialId}
    (selected : selectCredential candidates allowCredentials selection = .ok id) :
    ∃ candidate ∈ candidates, candidate.id = id := by
  have searched : ∀ {found : Option Candidate} {missing : Except ProtocolError CredentialId},
      (∀ candidate, found = some candidate -> candidate ∈ candidates) ->
      idOr missing found = .ok id -> (missing = .ok id ∨ ∃ candidate ∈ candidates, candidate.id = id) := by
    intro found missing inside outcome
    cases found with
    | none => exact .inl outcome
    | some candidate =>
      cases outcome
      exact .inr ⟨candidate, inside candidate rfl, rfl⟩
  have smallest : ∀ (order : Candidate -> Candidate -> Prop) [DecidableRel order],
      firstBy order candidates = .ok id -> ∃ candidate ∈ candidates, candidate.id = id := by
    intro order _ outcome
    refine (searched ?_ outcome).resolve_left nofun
    intro candidate head
    exact (mem_insertionSort order).mp (mem_of_head? head)
  have allowed : ∀ candidate, allowCredentials.findSome? (fun allowed =>
      candidates.find? (fun candidate => b64uEncode candidate.id = allowed)) = some candidate ->
      candidate ∈ candidates := by
    intro candidate found
    rcases exists_of_findSome?_eq_some found with ⟨_, _, located⟩
    exact mem_of_find?_eq_some located
  unfold selectCredential at selected
  split_ifs at selected
  · cases selected
  · rcases searched allowed selected with ruled | chosen
    · cases selection with
      | single =>
        rcases candidates with _ | ⟨candidate, _ | ⟨_, _⟩⟩
        · cases ruled
        · cases ruled
          exact ⟨candidate, mem_cons_self, rfl⟩
        · cases ruled
      | firstMatching => exact smallest byId ruled
      | newest => exact smallest byAge ruled
      | credential =>
        refine (searched ?_ ruled).resolve_left nofun
        exact fun candidate found => mem_of_find?_eq_some found
    · exact chosen

end ControlVault.Broker
