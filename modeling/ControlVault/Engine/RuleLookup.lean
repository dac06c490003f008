import ControlVault.Core.Validation
import ControlVault.Engine.Queries
import ControlVault.Engine.Scenario

namespace ControlVault.Engine

open Foundation Core AgentProfileConfig

/-!
# One rule for each relying party

A profile's rule is looked up in three places: in the configuration, in the
compiled snapshot, whose rules are sorted, and when a registration is requested,
where a rule for every relying party is not considered.  The checks of the
profile make the three agree: at most one rule has a given canonical name, no
rule has a name that would be refused, and a rule for every relying party denies
registration.
-/

variable {env : Env} {config : AgentProfileConfig} {profileId : ProfileId}
  {snap : PolicySnapshot} {runtime : PolicyRuntime} {rpId : Text}

theorem compileSnapshot_rules (compiled : compileSnapshot env profileId config = .ok snap) :
    snap.rules = sortRules config.effectiveRules /\
      snap.registrationAllowed = (config.registrationAllowed || config.allowsRegistration) := by
  unfold compileSnapshot at compiled
  dsimp only at compiled
  split at compiled
  · cases compiled
  · cases compiled
    exact ⟨rfl, rfl⟩

/-- Sorting does not lead a lookup to another rule, as only one can have the name. -/
theorem find?_sortRules (valid : config.RulesValid env) (name : Text) :
    (sortRules config.effectiveRules).find? (fun rule => rule.rpId.canonical = name) =
      config.effectiveRules.find? (fun rule => rule.rpId.canonical = name) := by
  have sorted := List.perm_insertionSort
    (fun first second : AgentRpRule => first.rpId.canonical <= second.rpId.canonical)
    config.effectiveRules
  have same := find?_map_of_perm sorted.symm id (fun rule => rule.rpId.canonical = name) (by
    intro rule mem other otherMember named otherNamed
    exact List.inj_on_of_nodup_map valid.distinct mem otherMember
      ((of_decide_eq_true named).trans (of_decide_eq_true otherNamed).symm))
  rw [Option.map_id] at same
  exact same.symm

/-- Lower-casing makes nothing into the rule name for every relying party. -/
theorem canonical_eq_any {raw : Text} : raw.canonical = anyRpId <-> raw.trim = anyRpId := by
  refine ⟨fun same => ?_, canonical_of_any⟩
  rcases List.map_eq_singleton_iff.mp (show raw.trim.map Char.toLower = ['*'] from same) with
    ⟨char, alone, lowered⟩
  have code : char.toLower.toNat = 42 := congrArg Char.toNat lowered
  rw [Text.toNat_toLower] at code
  split_ifs at code
  · omega
  · rw [alone, Char.toNat_inj.mp (show char.toNat = '*'.toNat from code)]
    rfl

theorem ruleFor_eq (valid : config.RulesValid env)
    (compiled : compileSnapshot env profileId config = .ok snap)
    (accepted : validateRpId env rpId = .ok normalized) :
    snap.ruleFor normalized = config.ruleForRp env rpId := by
  have lowered : normalized.asciiLower = normalized := by
    rw [validateRpId_ok accepted]
    exact Text.asciiLower_asciiLower _
  rw [ruleForRp, accepted, PolicySnapshot.ruleFor, lowered, (compileSnapshot_rules compiled).1]
  simp only [<- canonical_eq_any]
  exact congrArg₂ Option.or (find?_sortRules valid normalized) (find?_sortRules valid anyRpId)

/-- Without a rule of its own no relying party may be registered, nor by a refused name. -/
theorem ruleForRp_permits (valid : config.RulesValid env) :
    (config.ruleForRp env rpId).any (fun rule => rule.permits .register) =
      (config.effectiveRules.find? (fun rule => rule.rpId.canonical = rpId.canonical)).any
        (fun rule => rule.permits .register) := by
  rw [ruleForRp]
  cases accepted : validateRpId env rpId with
  | ok =>
    rw [validateRpId_ok accepted]
    change Option.any _ ((config.effectiveRules.find? (fun rule =>
      rule.rpId.canonical = rpId.canonical)).or config.wildcardRule) = _
    cases config.effectiveRules.find? (fun rule => rule.rpId.canonical = rpId.canonical) with
    | some => rfl
    | none =>
      cases wildcard : config.wildcardRule with
      | none => rfl
      | some rule => exact valid.wildcard rule wildcard
  | error =>
    cases own : config.effectiveRules.find? (fun rule => rule.rpId.canonical = rpId.canonical) with
    | none => rfl
    | some rule =>
      have name : rule.rpId.canonical = rpId.canonical := by simpa using List.find?_some own
      rcases valid.named rule (List.mem_of_find?_eq_some own) with any | ⟨_, known⟩
      · rw [<- name, any] at own
        exact (valid.wildcard rule own).symm
      · rw [validateRpId_congr name.symm known] at accepted
        cases accepted

/-- Every lookup in a profile that passes its checks finds the same rule. -/
theorem rule_lookups_agree (valid : config.validate env profileId = .ok ())
    (compiled : compileSnapshot env profileId config = .ok snap)
    (current : runtime.current.findSnapshot profileId = some snap) (rpId : Text) :
    (validateRpId env rpId).toOption.bind snap.ruleFor = config.ruleForRp env rpId /\
      (∀ action, snap.ceremonyPolicy env rpId action =
        (config.ruleForRp env rpId).map (fun rule => rule.policyFor action)) /\
      (runtime.authorizeRegistration profileId rpId).1 =
        if (config.ruleForRp env rpId).any (fun rule => rule.permits .register) then .allow
        else .deny := by
  have rulesValid := rulesValid valid
  rcases compileSnapshot_rules compiled with ⟨sorted, flag⟩
  have rule : (validateRpId env rpId).toOption.bind snap.ruleFor = config.ruleForRp env rpId := by
    cases accepted : validateRpId env rpId with
    | ok => exact ruleFor_eq rulesValid compiled accepted
    | error => rw [ruleForRp, accepted]; rfl
  refine ⟨rule, ?_, ?_⟩
  · intro action
    rw [<- rule, PolicySnapshot.ceremonyPolicy]
    cases validateRpId env rpId <;> rfl
  · rw [ruleForRp_permits rulesValid, PolicyRuntime.authorizeRegistration, current]
    dsimp only
    rw [sorted, flag, find?_sortRules rulesValid]
    cases own : config.effectiveRules.find? (fun rule => rule.rpId.canonical = rpId.canonical) with
    | none => cases config.registrationAllowed || config.allowsRegistration <;> rfl
    | some rule =>
      cases permitted : rule.permits .register with
      | false => cases config.registrationAllowed || config.allowsRegistration <;> simp [permitted]
      | true =>
        -- A rule that permits registration sets the flag of the profile.
        have allows : config.allowsRegistration = true :=
          List.any_eq_true.mpr ⟨rule, List.mem_of_find?_eq_some own, permitted⟩
        simp [allows, permitted]

namespace Sample

/-- A profile of the same user with rules for one relying party and for all. -/
def openProfile : AgentProfileConfig :=
  { profile [⟨" Example.com", .supervised, .autonomous, none⟩,
      ⟨"*", .denied, .supervised, none⟩] with mode := .sameUser }

def openGeneration : PolicyGenerationSnapshot :=
  ⟨⟨1⟩, (compileSnapshot sampleEnv ⟨"agent"⟩ openProfile).toOption.toList, ⟨0⟩, 0⟩

/-- Its own rule permits the registration of one relying party; no other has such a rule. -/
theorem open_lookups_agree :
    ((startWith openGeneration).authorizeRegistration ⟨"agent"⟩ "EXAMPLE.com").1 = .allow /\
      ((startWith openGeneration).authorizeRegistration ⟨"agent"⟩ "example.org").1 =
        .deny := by
  have valid : openProfile.validate sampleEnv ⟨"agent"⟩ = .ok () := by decide +kernel
  have current : (startWith openGeneration).current.findSnapshot ⟨"agent"⟩ =
      (compileSnapshot sampleEnv ⟨"agent"⟩ openProfile).toOption := by decide +kernel
  have succeeds : (compileSnapshot sampleEnv ⟨"agent"⟩ openProfile).isOk = true := by
    decide +kernel
  cases compiled : compileSnapshot sampleEnv ⟨"agent"⟩ openProfile with
  | error error =>
    rw [compiled] at succeeds
    cases succeeds
  | ok snap =>
    rw [compiled] at current
    rw [(rule_lookups_agree valid compiled current _).2.2,
      (rule_lookups_agree valid compiled current _).2.2]
    decide +kernel

end Sample

end ControlVault.Engine
