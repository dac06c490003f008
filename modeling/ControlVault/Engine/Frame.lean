import ControlVault.Engine.Execution
import ControlVault.Engine.RuntimeSpec

namespace ControlVault.Engine

open Foundation Core PolicyRuntime

/-!
# What operations leave alone

Only a reload changes the policy generation, only the clock operations change
the clocks, and only six operations touch pending authorizations.
-/

/-- The generation and the clocks are as before. -/
structure Frame (before after : PolicyRuntime) : Prop where
  current : after.current = before.current
  clockSecs : after.clockSecs = before.clockSecs
  clockMillis : after.clockMillis = before.clockMillis

/-- The pending authorizations are as before as well. -/
structure QuietFrame (before after : PolicyRuntime) : Prop extends Frame before after where
  pending : after.pending = before.pending

variable {before after : PolicyRuntime} {env : Env}

theorem QuietFrame.of_leaves (leaves : before.LeavesCeremonies after) : QuietFrame before after := by
  rcases leaves with ⟨_, _, _, rfl⟩
  exact ⟨⟨rfl, rfl, rfl⟩, rfl⟩

theorem PolicyRuntime.LeavesCeremonies.of_grants
    (frame : ∃ grants, after = { before with grants }) : before.LeavesCeremonies after := by
  rcases frame with ⟨_, rfl⟩
  exact ⟨_, _, _, rfl⟩

/-- Only intents, grants, ceremonies and pending requests may differ. -/
def Confined (before after : PolicyRuntime) : Prop :=
  ∃ intents grants pending requests, after = { before with
    intents, grants, pending, pendingRequests := requests }

theorem Confined.of_leaves (leaves : before.LeavesRequests after) : Confined before after := by
  rcases leaves with ⟨_, _, _, rfl⟩
  exact ⟨_, _, _, _, rfl⟩

/-- The operations that may touch pending authorizations. -/
def Operation.touchesCeremonies : Operation -> Bool
  | authorize .. | authorizeBound .. | consumeAuthorization .. => true
  | principalExit .. | adminRevokeGrant .. => true
  | _ => false

/-- The operations on registration grants. -/
def Operation.touchesRegistrations : Operation -> Bool
  | requestRegistrationGrant .. | consumeRegistrationGrant .. => true
  | _ => false

section

variable (env : Env) (before : PolicyRuntime) (op : Operation) (after : PolicyRuntime)

/-- How far an operation reaches. -/
inductive Reach : Prop
  | quiet (frame : QuietFrame before after)
  | ceremonies (touches : op.touchesCeremonies = true) (frame : Frame before after)
  | generation (same : op = .reload config fresh)
      (compiled : compileGeneration env config before.clockSecs fresh = .ok gen)
      (result : after = before.reloaded gen)
  | advance (same : op = .tick millis secs) (result : after = { before with
        clockMillis := before.clockMillis + millis
        clockSecs := before.clockSecs + secs })
  | regress (same : op = .clockRegression secs)
      (result : after = { before with clockSecs := before.clockSecs - secs })

/-- Which stores an operation writes. -/
inductive Extent : Prop
  | quiet (leaves : before.LeavesCeremonies after)
  | ceremonies (touches : op.touchesCeremonies = true) (confined : Confined before after)
  | registrations (touches : op.touchesRegistrations = true)
      (only : ∃ registrations, after = { before with registrationGrants := registrations })
  | generation (same : op = .reload config fresh)
      (reloaded : PolicyRuntime.Reloaded env before config fresh result after)
  | advance (same : op = .tick millis secs) (result : after = { before with
        clockMillis := before.clockMillis + millis
        clockSecs := before.clockSecs + secs })
  | regress (same : op = .clockRegression secs)
      (result : after = { before with clockSecs := before.clockSecs - secs })

end

section

variable {event : Event}
  (executed : event.before.exec env event.operation = (event.answer, event.after))

include executed

theorem exec_extent : Extent env event.before event.operation event.after := by
  rcases event with ⟨before, op, _, _⟩
  simp only [] at executed
  rcases Prod.ext_iff.mp executed with ⟨rfl, rfl⟩
  cases op with
  | adminRequestGrant params fresh =>
    exact .quiet (.of_grants (before.adminRequestGrantInner_frame params false fresh))
  | adminRequestDynamicGrant params fresh =>
    exact .quiet (.of_grants (before.adminRequestGrantInner_frame params true fresh))
  | adminRevokeGrant grantId =>
    rcases before.adminRevokeGrant_frame grantId with ⟨_, _, same, -⟩
    exact .ceremonies rfl ⟨_, _, _, _, same⟩
  | revokeGrantById grantId => exact .quiet (.of_grants (before.revokeGrantById_frame grantId))
  | resolveGrantForSign profileId grantId =>
    exact .quiet (.of_grants (before.resolveGrantForSign_frame profileId grantId))
  | requestRegistrationGrant => exact .registrations rfl ⟨_, rfl⟩
  | consumeRegistrationGrant profileId grantId =>
    exact .registrations rfl (before.consumeRegistrationGrant_frame profileId grantId)
  | principalCreatePendingIntent =>
    exact .quiet (principalCreatePendingIntent_spec _ _ _ _).leaves
  | principalCreatePendingDelegated =>
    exact .quiet (principalCreatePendingDelegated_spec _ _ _ _ _ _).leaves
  | principalCancelPending => exact .quiet (principalCancelPending_spec _ _ _).leaves
  | ceremonyResolvePending => exact .quiet (ceremonyResolvePending_spec _ _ _ _).leaves
  | ceremonyDenyPending => exact .quiet (ceremonyDenyPending_spec _ _).leaves
  | cleanupExpiredPending | cancelPendingForSession =>
    exact .quiet (before.terminateWhere_leaves _ _)
  | authorize => exact .ceremonies rfl (.of_leaves (authorize_spec _ _ _ _).leaves)
  | authorizeBound => exact .ceremonies rfl (.of_leaves (authorizeBound_spec _ _ _ _ _).leaves)
  | consumeAuthorization => exact .ceremonies rfl (.of_leaves (consumeAuthorization_spec _ _).leaves)
  | principalExit => exact .ceremonies rfl ⟨_, _, _, _, rfl⟩
  | reload => exact .generation rfl (reload_spec _ _ _ _)
  | tick => exact .advance rfl rfl
  | clockRegression => exact .regress rfl rfl
  | _ => exact .quiet ⟨_, _, _, rfl⟩

theorem exec_reach : Reach env event.before event.operation event.after := by
  cases exec_extent executed with
  | quiet leaves => exact .quiet (.of_leaves leaves)
  | ceremonies touches confined =>
    rcases confined with ⟨_, _, _, _, same⟩
    exact .ceremonies touches (by rw [same]; exact ⟨rfl, rfl, rfl⟩)
  | registrations _ only =>
    rcases only with ⟨_, same⟩
    exact .quiet (by rw [same]; exact ⟨⟨rfl, rfl, rfl⟩, rfl⟩)
  | generation same reloaded =>
    generalize event.after = after at reloaded ⊢
    cases reloaded with
    | failed => exact .quiet ⟨⟨rfl, rfl, rfl⟩, rfl⟩
    | compiled compiled => exact .generation same compiled rfl
  | advance same result => exact .advance same result
  | regress same result => exact .regress same result

end

end ControlVault.Engine
