import ControlVault.Core.Ids

namespace ControlVault.Core

open Foundation

/-!
# Requests and errors of the daemon's protocols

Every refused request is answered with a code, a text and advice to the
client.  The two requests below are those a browser sends through its token.
-/

inductive ErrorCode
  | badRequest
  | unauthorized
  | forbidden
  | notFound
  | conflict
  | interactionRequired
  | internal
  | versionMismatch
  | messageTooLarge
  | malformedMessage
  deriving DecidableEq

inductive RecommendedAction
  | none
  | retry
  | retryWithBackoff
  | fixRequest
  | upgradeClient
  | abort
  deriving DecidableEq

structure ProtocolError where
  code : ErrorCode
  message : Text
  recommendedAction : RecommendedAction
  deriving DecidableEq

namespace ProtocolError

section

variable (message : Text)

def badRequest : ProtocolError := ⟨.badRequest, message, .fixRequest⟩

def forbidden : ProtocolError := ⟨.forbidden, message, .fixRequest⟩

def notFound : ProtocolError := ⟨.notFound, message, .fixRequest⟩

def conflict : ProtocolError := ⟨.conflict, message, .fixRequest⟩

def internal (action : RecommendedAction) : ProtocolError :=
  ⟨.internal, message, action⟩

end

end ProtocolError

/-- An assertion that a page asks for. -/
structure SignAssertionRequest where
  origin : Text
  topOrigin : Option Text
  (rpId challengeB64u : Text)
  allowCredentials : List Text
  (userVerification crossOrigin : Bool)

structure SignAssertionResponse where
  (credentialIdB64u authenticatorDataB64u signatureB64u userHandleB64u clientDataJsonB64u : Text)

/-- A credential that a page asks for. -/
structure RegisterCredentialRequest where
  origin : Text
  topOrigin : Option Text
  (rpId challengeB64u userIdB64u userName : Text)
  (userDisplayName rpName : Option Text)
  excludeCredentials : List Text
  pubKeyCredParams : List Int
  (userVerification crossOrigin : Bool)

structure RegisterCredentialResponse where
  credentialIdB64u : Text
  publicKeyAlgorithm : Int
  (authenticatorDataB64u attestationObjectB64u clientDataJsonB64u : Text)
  deriving DecidableEq

end ControlVault.Core
