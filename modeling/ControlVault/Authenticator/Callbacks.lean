import ControlVault.Authenticator.PinFile

namespace ControlVault.Authenticator

open Foundation Core

/-!
# User presence and user verification

The authenticator library asks the daemon for the presence and for the
verification of the user.  While an agent performs a ceremony, an interaction
token answers in the user's place.  Otherwise a PIN that is set and enforced
refuses the built-in verification, and else the user is asked.

A PIN state that cannot be loaded is taken for a PIN that is not set.
-/

inductive Gesture
  | presence
  | verification
  deriving DecidableEq

/-- The results of both requests; a verification is accepted together with the presence. -/
inductive Answer
  | accepted
  | acceptedWithUp
  | denied
  deriving DecidableEq

inductive PinEnforcement
  | never
  | optional
  | required

def Gesture.approval : Gesture -> Answer
  | presence => .accepted
  | verification => .acceptedWithUp

/-! ## Interaction tokens -/

structure AgentInteractionToken where
  rpId : Text
  action : IntentAction
  generation : Nat
  (upApproved uvApproved upConsumed uvConsumed : Bool)
  expiresAt : Nat

namespace AgentInteractionToken

variable (token : AgentInteractionToken)

def approved : Gesture -> Bool
  | .presence => token.upApproved
  | .verification => token.uvApproved

def consumed : Gesture -> Bool
  | .presence => token.upConsumed
  | .verification => token.uvConsumed

def consume : Gesture -> AgentInteractionToken
  | .presence => { token with upConsumed := true }
  | .verification => { token with uvConsumed := true }

def isExpired (now : Nat) : Bool :=
  decide (token.expiresAt <= now)

/-- The relying party and the action are those of the token, and its generation is zero, the only
one that the callbacks ask for. -/
def isFor (rpId : Text) (action : IntentAction) : Bool :=
  decide (token.rpId = rpId /\ token.action = action /\ token.generation = 0)

def tryConsume (gesture : Gesture) (now : Nat) :
    Option Answer × AgentInteractionToken :=
  if token.isExpired now || token.consumed gesture then (none, token)
  else (some (if token.approved gesture then gesture.approval else .denied), token.consume gesture)

end AgentInteractionToken

/-! ## The callbacks -/

structure PasslessCallbacks where
  /-- The manager of interaction tokens, if there is one, with its active token. -/
  interactionManager : Option (Option AgentInteractionToken)
  isolatedMode : Bool
  userVerificationRegistration : Bool
  userVerificationAuthentication : Bool
  alwaysUv : Bool
  fingerprintVerification : Bool
  enforcement : PinEnforcement

structure GestureRequest where
  (info rpId : Text)

/-- What the PIN store, if there is one, and the user answer during a request.  The notification
may fail. -/
structure Moment where
  now : Nat
  pinState : Option (Except StatusCode PinState)
  fingerprint : Bool
  notification : Option Bool

structure Reply where
  answer : Option Answer
  asked : Bool
  deriving DecidableEq

def deriveActionFromInfo (info : Text) : IntentAction :=
  if info.asciiLower.contains "registration" &&
      !info.asciiLower.contains "credential excluded" then .register
  else .authenticate

/-- An error of the PIN store counts as no PIN. -/
def Moment.pinSet (moment : Moment) : Bool :=
  match moment.pinState with
  | some (.ok state) => state.isPinSet
  | _ => false

def Moment.notified (moment : Moment) (gesture : Gesture) : Reply :=
  ⟨moment.notification.map (fun accepted => if accepted then gesture.approval else .denied), true⟩

namespace PasslessCallbacks

variable (callbacks : PasslessCallbacks)

/-- What the interaction manager answers.  If the token cannot be consumed, it is enough that one
is active. -/
def agentAnswer (gesture : Gesture) (now : Nat) (req : GestureRequest) :
    Option Answer × PasslessCallbacks :=
  match callbacks.interactionManager with
  | none => (none, callbacks)
  | some none => (if callbacks.isolatedMode then some gesture.approval else none, callbacks)
  | some (some token) =>
    let attempt :=
      if token.isFor req.rpId (deriveActionFromInfo req.info) then
        token.tryConsume gesture now
      else (none, token)
    match attempt.1 with
    | some answer =>
      (some answer, { callbacks with interactionManager := some (some attempt.2) })
    | none =>
      (if !token.isExpired now || callbacks.isolatedMode then some gesture.approval else none,
        callbacks)

def attended (gesture : Gesture) (now : Nat) (req : GestureRequest) (otherwise : Reply) :
    Reply × PasslessCallbacks :=
  match callbacks.agentAnswer gesture now req with
  | (some answer, after) => (⟨some answer, false⟩, after)
  | (none, after) => (otherwise, after)

def shouldVerify (req : GestureRequest) : Bool :=
  match deriveActionFromInfo req.info with
  | .register => callbacks.userVerificationRegistration
  | .authenticate => callbacks.userVerificationAuthentication

/-- A storage that verifies the user itself is asked for nothing more, as any other one that need
not verify. -/
def requestUp (moment : Moment) (req : GestureRequest) : Reply × PasslessCallbacks :=
  callbacks.attended .presence moment.now req
    (if callbacks.shouldVerify req then moment.notified .presence else ⟨some .accepted, false⟩)

/-- Whether a PIN that is set replaces the built-in verification. -/
def enforces : Bool :=
  match callbacks.enforcement with
  | .required => true
  | .optional => callbacks.alwaysUv
  | .never => false

def requestUv (moment : Moment) (req : GestureRequest) : Reply × PasslessCallbacks :=
  callbacks.attended .verification moment.now req
    (if moment.pinSet && callbacks.enforces then ⟨some .denied, false⟩
    else if callbacks.fingerprintVerification then
      ⟨some (if moment.fingerprint then .acceptedWithUp else .denied), true⟩
    else moment.notified .verification)

end PasslessCallbacks

/-! ## Enforcement of the PIN -/

/-- The state of the built-in verification that a refresh reports, if it reports one. -/
def reportedUvState (builtInUvPolicy : Bool) (moment : Moment) : Option BuiltInUvState :=
  if builtInUvPolicy then some (if moment.pinSet then .supportedNotConfigured else .configured)
  else none

theorem refreshBuiltInUvState_eq
    (lib : AuthenticatorLibrary Core Store Retries) (service : AuthenticatorService Core Store)
    (moment : Moment) (loaded : service.pinConfigured = moment.pinSet) :
    service.refreshBuiltInUvState lib =
      match reportedUvState service.builtInUvPolicy moment with
      | none => some service
      | some state => (lib.setBuiltInUvState service.authenticator state).map
          (fun authenticator => { service with authenticator }) := by
  unfold AuthenticatorService.refreshBuiltInUvState reportedUvState
  rw [loaded]
  cases service.builtInUvPolicy <;> rfl

inductive UvCall
  | requestUv (req : GestureRequest)
  | refresh

namespace PasslessCallbacks

section

variable (callbacks : PasslessCallbacks) (builtInUvPolicy : Bool) (moment : Moment)

/-- The call lets the user in, or tells that it would, without the PIN. -/
def Admits : UvCall -> Prop
  | .requestUv req => ∃ answer, (callbacks.requestUv moment req).1.answer = some answer /\
      answer ≠ .denied
  | .refresh => reportedUvState builtInUvPolicy moment = some .configured

/-- The user accepts if asked for a verification; a refresh reports something. -/
def Tempts : UvCall -> Prop
  | .requestUv _ =>
    if callbacks.fingerprintVerification then moment.fingerprint = true
    else moment.notification = some true
  | .refresh => builtInUvPolicy = true

/-- The call ends as it would end if there were no PIN. -/
def TreatsAsAbsent : UvCall -> Prop
  | .requestUv req => (callbacks.requestUv moment req).1 =
      (callbacks.requestUv { moment with pinState := none } req).1
  | .refresh => reportedUvState builtInUvPolicy moment =
      reportedUvState builtInUvPolicy { moment with pinState := none }

end

theorem admits_iff {callbacks : PasslessCallbacks} (unmanaged : callbacks.interactionManager = none)
    (enforced : callbacks.enforces = true) (builtInUvPolicy : Bool) (moment : Moment)
    (call : UvCall) :
    callbacks.Admits builtInUvPolicy moment call <->
      moment.pinSet = false /\ callbacks.Tempts builtInUvPolicy moment call := by
  cases call with
  | requestUv =>
    rw [Admits, Tempts, requestUv, attended, agentAnswer, unmanaged, enforced]
    rcases moment with ⟨_, _, fingerprint, notification⟩
    cases Moment.pinSet _ <;> cases callbacks.fingerprintVerification <;>
      cases fingerprint <;> rcases notification with _ | _ | _ <;>
        simp [Moment.notified, Gesture.approval]
  | refresh =>
    rw [Admits, Tempts, reportedUvState]
    cases builtInUvPolicy <;> cases moment.pinSet <;> simp

/-- Where the user would be let in without a PIN, they are let in by a call that treats the store
as one without a PIN. -/
theorem TreatsAsAbsent.admits {callbacks : PasslessCallbacks}
    (unmanaged : callbacks.interactionManager = none) (enforced : callbacks.enforces = true)
    {builtInUvPolicy : Bool} {moment : Moment} {call : UvCall}
    (absent : callbacks.TreatsAsAbsent builtInUvPolicy moment call)
    (tempts : callbacks.Tempts builtInUvPolicy moment call) :
    callbacks.Admits builtInUvPolicy moment call := by
  have without : callbacks.Admits builtInUvPolicy { moment with pinState := none } call := by
    rw [admits_iff unmanaged enforced]
    exact ⟨rfl, by cases call <;> exact tempts⟩
  cases call with
  | requestUv =>
    rw [Admits, absent]
    exact without
  | refresh => exact absent.trans without

end PasslessCallbacks

namespace PasslessCallbacks.Sample

def callbacks : PasslessCallbacks where
  interactionManager := none
  isolatedMode := false
  userVerificationRegistration := true
  userVerificationAuthentication := true
  alwaysUv := true
  fingerprintVerification := false
  enforcement := .required

def req : GestureRequest :=
  ⟨"Authentication", "example.com"⟩

def moment (loaded : Except StatusCode PinState) : Moment :=
  ⟨0, some loaded, false, some true⟩

end PasslessCallbacks.Sample

end ControlVault.Authenticator
