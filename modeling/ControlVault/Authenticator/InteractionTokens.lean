import ControlVault.Authenticator.Callbacks

namespace ControlVault.Authenticator

open Foundation Core PasslessCallbacks AgentInteractionToken

/-!
# What an interaction token stands for

A token is minted for one relying party and one action and can be consumed once
for each gesture.  But a request that cannot consume the token is accepted all the
same while the token is active.  So the token is good for its purpose only as long
as nothing else is requested.
-/

/-- The callbacks during a run.  Since the last token was minted, `requested` tells which gestures
were requested, and `taken` which of them were accepted without asking the user. -/
structure TokenRun where
  callbacks : PasslessCallbacks
  now : Nat
  (requested taken : Gesture -> Bool)

inductive TokenEvent
  | mint (rpId : Text) (action : IntentAction) (gen : Nat) (upApproved uvApproved : Bool)
      (ttl : Nat)
  | dropGuard
  | advance (duration : Nat)
  | request (gesture : Gesture) (req : GestureRequest) (moment : Moment)

def PasslessCallbacks.ask (callbacks : PasslessCallbacks) :
    Gesture -> Moment -> GestureRequest -> Reply × PasslessCallbacks
  | .presence => callbacks.requestUp
  | .verification => callbacks.requestUv

def Reply.isTaken (reply : Reply) : Bool :=
  !reply.asked && (reply.answer == some .accepted || reply.answer == some .acceptedWithUp)

namespace TokenRun

def start (callbacks : PasslessCallbacks) : TokenRun where
  callbacks := { callbacks with interactionManager := some none, isolatedMode := false }
  now := 0
  requested _ := false
  taken _ := false

variable (run : TokenRun)

def reply (gesture : Gesture) (req : GestureRequest) (moment : Moment) :
    Reply × PasslessCallbacks :=
  run.callbacks.ask gesture { moment with now := run.now } req

def step : TokenEvent -> TokenRun
  | .mint rpId action gen upApproved uvApproved ttl =>
    { run with
      callbacks := { run.callbacks with
        interactionManager := some (some ⟨rpId, action, gen, upApproved, uvApproved, false,
          false, run.now + ttl⟩) }
      requested := fun _ => false
      taken := fun _ => false }
  | .dropGuard => { run with callbacks := { run.callbacks with interactionManager := some none } }
  | .advance duration => { run with now := run.now + duration }
  | .request gesture req moment =>
    { run with
      callbacks := (run.reply gesture req moment).2
      requested := Function.update run.requested gesture true
      taken := Function.update run.taken gesture
        (run.taken gesture || (run.reply gesture req moment).1.isTaken) }

/-- The token that is active and not expired. -/
def Live (token : AgentInteractionToken) : Prop :=
  run.callbacks.interactionManager = some (some token) /\ token.isExpired run.now = false

/-- A request that is accepted without asking the user is one that the token was minted for, and
the first one of its kind. -/
def Scoped : TokenEvent -> Prop
  | .request gesture req moment => (run.reply gesture req moment).1.isTaken = true ->
      ∃ token, run.Live token /\ token.rpId = req.rpId /\
        token.action = deriveActionFromInfo req.info /\ token.approved gesture = true /\
        run.taken gesture = false
  | _ => True

/-- While a token is active, each gesture is requested once and for what the token names, and, if
its generation is not the one that the callbacks ask for, is approved.  Otherwise the configuration
has presence verified. -/
def Orderly : TokenEvent -> Prop
  | .request gesture req _ =>
    (∀ token, run.Live token -> token.rpId = req.rpId /\
      token.action = deriveActionFromInfo req.info /\ run.requested gesture = false /\
      (token.generation = 0 ∨ token.approved gesture = true)) /\
    ((¬∃ token, run.Live token) -> gesture = .presence ->
      run.callbacks.shouldVerify req = true)
  | _ => True

/-- A property of every step of a run. -/
def Always (property : TokenRun -> TokenEvent -> Prop) : TokenRun -> List TokenEvent -> Prop
  | _, [] => True
  | run, event :: events => property run event /\ Always property (run.step event) events

/-- What the flags of an active token say about the requests so far. -/
structure Tracks (token : AgentInteractionToken) (gesture : Gesture) : Prop where
  consumed : token.consumed gesture = (run.requested gesture && decide (token.generation = 0))
  requested : run.taken gesture = true -> run.requested gesture = true
  taken : run.requested gesture = true -> token.approved gesture = true -> run.taken gesture = true

structure Invariant : Prop where
  managed : run.callbacks.interactionManager ≠ none
  notIsolated : run.callbacks.isolatedMode = false
  tracks : ∀ token, run.Live token -> ∀ gesture, run.Tracks token gesture

variable {run}

/-- Without an active token the manager keeps out of it. -/
theorem reply_of_not_live (invariant : run.Invariant) (none : ¬∃ token, run.Live token)
    {gesture : Gesture} {req : GestureRequest} {moment : Moment} :
    (run.reply gesture req moment).2 = run.callbacks /\
      ((run.reply gesture req moment).1.isTaken = true <->
        gesture = .presence /\ run.callbacks.shouldVerify req = false) := by
  have silent : run.callbacks.agentAnswer gesture run.now req = (.none, run.callbacks) := by
    unfold agentAnswer
    rcases active : run.callbacks.interactionManager with _ | _ | token
    · rfl
    · simp [invariant.notIsolated]
    · have expired : token.isExpired run.now = true := by
        by_contra fresh
        exact none ⟨token, active, Bool.eq_false_iff.mpr fresh⟩
      simp only [tryConsume, expired]
      simp [invariant.notIsolated]
  cases gesture with
  | presence =>
    simp only [reply, ask, requestUp, attended, silent]
    cases run.callbacks.shouldVerify req <;> simp [Reply.isTaken, Moment.notified]
  | verification =>
    simp only [reply, ask, requestUv, attended, silent]
    split_ifs <;> simp [Reply.isTaken, Moment.notified]

theorem reply_of_live (live : run.Live token) :
    run.reply gesture req moment =
      if token.isFor req.rpId (deriveActionFromInfo req.info) && !token.consumed gesture then
        (⟨some (if token.approved gesture then gesture.approval else .denied), false⟩,
          { run.callbacks with interactionManager := some (some (token.consume gesture)) })
      else (⟨some gesture.approval, false⟩, run.callbacks) := by
  have asked : ∃ otherwise, run.reply gesture req moment =
      run.callbacks.attended gesture run.now req otherwise := by
    cases gesture <;> exact ⟨_, rfl⟩
  rcases asked with ⟨_, asked⟩
  rw [asked, attended, agentAnswer, live.1]
  simp only [tryConsume, live.2]
  cases token.isFor req.rpId (deriveActionFromInfo req.info) <;>
    cases token.consumed gesture <;> simp

@[simp] theorem isTaken_approval (gesture : Gesture) :
    Reply.isTaken ⟨some gesture.approval, false⟩ = true := by
  cases gesture <;> rfl

@[simp] theorem isTaken_denied : Reply.isTaken ⟨some .denied, false⟩ = false := rfl

/-- Under the invariant the two properties of a request are the same. -/
theorem Invariant.scoped_iff_orderly (invariant : run.Invariant) (event : TokenEvent) :
    run.Scoped event <-> run.Orderly event := by
  cases event with
  | request gesture req =>
    rw [Scoped, Orderly]
    by_cases someLive : ∃ token, run.Live token
    · rcases someLive with ⟨token, live⟩
      rcases invariant.tracks token live gesture with ⟨consumed, requested, taken⟩
      have only : ∀ other, run.Live other <-> other = token := by
        intro other
        constructor
        · rintro ⟨active, -⟩
          simpa [live.1, eq_comm] using active
        · rintro rfl
          exact live
      simp only [reply_of_live live, isFor]
      generalize run.requested gesture = asked at *
      generalize run.taken gesture = answered at *
      by_cases sameRp : token.rpId = req.rpId <;>
        by_cases sameAction : token.action = deriveActionFromInfo req.info <;>
        by_cases current : token.generation = 0 <;> cases asked <;> cases answered <;>
        cases approved : token.approved gesture <;>
        simp_all
    · rw [(reply_of_not_live invariant someLive).2]
      constructor
      · intro inScope
        refine ⟨fun token live => absurd ⟨token, live⟩ someLive, ?_⟩
        rintro - rfl
        by_contra unverified
        rcases inScope ⟨rfl, Bool.eq_false_iff.mpr unverified⟩ with ⟨token, live, -⟩
        exact someLive ⟨token, live⟩
      · rintro ⟨-, verified⟩ ⟨presence, unverified⟩
        rw [verified someLive presence] at unverified
        cases unverified
  | _ => exact Iff.rfl

theorem Invariant.step (invariant : run.Invariant)
    (orderly : run.Orderly event) : (run.step event).Invariant := by
  cases event with
  | mint =>
    refine ⟨nofun, invariant.notIsolated, ?_⟩
    rintro token ⟨active, -⟩ gesture
    cases active
    cases gesture <;> exact ⟨rfl, nofun, nofun⟩
  | dropGuard =>
    refine ⟨nofun, invariant.notIsolated, ?_⟩
    rintro token ⟨active, -⟩
    cases active
  | advance duration =>
    refine ⟨invariant.managed, invariant.notIsolated, ?_⟩
    rintro token ⟨active, fresh⟩ gesture
    have earlier : run.Live token := by
      refine ⟨active, ?_⟩
      change decide (token.expiresAt <= run.now + duration) = false at fresh
      rw [isExpired]
      rw [decide_eq_false_iff_not] at fresh ⊢
      omega
    rcases invariant.tracks token earlier gesture with ⟨consumed, requested, taken⟩
    exact ⟨consumed, requested, taken⟩
  | request gesture req moment =>
    by_cases someLive : ∃ token, run.Live token
    · rcases someLive with ⟨token, live⟩
      rcases orderly.1 token live with ⟨sameRp, sameAction, first, _⟩
      have tracks := invariant.tracks token live
      have reply : run.reply gesture req moment = _ := reply_of_live live
      by_cases current : token.generation = 0
      · rw [if_pos (by simp [isFor, sameRp, sameAction, current,
          (tracks gesture).consumed, first])] at reply
        refine ⟨by simp [TokenRun.step, reply], by simp [TokenRun.step, reply,
          invariant.notIsolated], ?_⟩
        rintro other ⟨active, -⟩ kind
        simp only [TokenRun.step, reply, Option.some.injEq] at active
        subst active
        rcases tracks kind with ⟨consumed, requested, taken⟩
        constructor <;> cases gesture <;> cases kind <;>
          simp_all [TokenRun.step, consume, AgentInteractionToken.consumed, approved]
      · rw [if_neg (by simp [isFor, current])] at reply
        refine ⟨by simp [TokenRun.step, reply, live.1], by simp [TokenRun.step, reply,
          invariant.notIsolated], ?_⟩
        rintro other ⟨active, -⟩ kind
        simp only [TokenRun.step, reply, live.1] at active
        rcases tracks kind with ⟨_, _, _⟩
        constructor <;> by_cases same : kind = gesture <;> simp_all [TokenRun.step]
    · have same : (run.reply gesture req moment).2 = run.callbacks :=
        (reply_of_not_live invariant someLive).1
      refine ⟨?_, ?_, ?_⟩
      · rw [TokenRun.step, same]
        exact invariant.managed
      · rw [TokenRun.step, same]
        exact invariant.notIsolated
      · rintro token ⟨active, fresh⟩
        rw [TokenRun.step, same] at active
        exact absurd ⟨token, active, fresh⟩ someLive

theorem always_scoped_iff (invariant : run.Invariant) (events : List TokenEvent) :
    Always Scoped run events <-> Always Orderly run events := by
  induction events generalizing run with
  | nil => exact Iff.rfl
  | cons event events ih =>
    rw [Always, invariant.scoped_iff_orderly event]
    exact and_congr_right (fun orderly => ih (invariant.step orderly))

/-- Along a run tokens are scoped and good for one request of each kind exactly if every request
during a token is the first of its kind and one that the token names. -/
theorem tokens_one_shot_iff (callbacks : PasslessCallbacks) (events : List TokenEvent) :
    Always Scoped (start callbacks) events <-> Always Orderly (start callbacks) events := by
  refine always_scoped_iff ⟨Option.some_ne_none _, rfl, ?_⟩ events
  rintro token ⟨active, -⟩
  cases active

/-- A token without verification, minted for one relying party, has another one's verification
accepted. -/
theorem foreign_request_accepted :
    ¬Always Scoped (start PasslessCallbacks.Sample.callbacks)
      [.mint "example.com" .authenticate 0 true false 60,
        .request .verification ⟨"Authentication", "evil.com"⟩
          (PasslessCallbacks.Sample.moment (.error .other))] := by
  rintro ⟨-, inScope, -⟩
  rcases inScope (by decide +kernel) with ⟨_, ⟨active, -⟩, same, -⟩
  cases active
  exact absurd same (by decide)

end TokenRun

end ControlVault.Authenticator
