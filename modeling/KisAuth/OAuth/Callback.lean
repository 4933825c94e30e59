import KisAuth.OAuth.IdToken
import KisAuth.OAuth.OutcomeService

/-
  The parts the callbacks of both OAuth controllers have in
  common.

  Key definitions include:
    * `acceptedCode`
    * `cancelCallback`, `failCallback`
    * `finalizeIdentity`
-/

------------------------------------------------------------
-- Callbacks
------------------------------------------------------------

namespace KisAuth

variable (P : Platform) (cfg : KisAuthConfig)

/-
  The provider's code and the session's verifier, when the
  callback carries the session's exact state.
-/
def acceptedCode
    (query : CallbackQuery)
    (session : OAuthSession) : Option (String × String) :=
  match truthyText query.code,
      truthyText session.codeVerifier with
  | some code, some codeVerifier =>
      if truthyText query.state = some session.state then
        some (code, codeVerifier)
      else
        none
  | _, _ => none

/- The error a client is told about. -/
def clientError (error : String) : String :=
  if error = "access_denied" then "access_denied"
  else "authentication_failed"

/- The user declined, or the provider reported an error. -/
def cancelCallback
    (sessionId : String)
    (session : OAuthSession)
    (error ip : String)
    (metadata : List (String × JsValue)) :
    KisM Response := do
  OAuthSessionStore.delete sessionId
  emit {
    eventType := "oauth.cancelled"
    outcome := .failure
    clientId := .str session.clientId
    reason := .str error
    ip := .str ip
    metadata := metadata }
  redirectToStatus P cfg "cancelled" session.redirectUri
    [("error", clientError error),
      ("state", session.clientState)]

/- The provider's answer could not be verified. -/
def failCallback
    (sessionId : String)
    (session : OAuthSession)
    (failure : ProviderFailure)
    (ip : String)
    (metadata : List (String × JsValue)) :
    KisM Response := do
  emit {
    eventType := "oauth.callback_failed"
    outcome := .failure
    clientId := .str session.clientId
    reason := .str failure.reason
    ip := .str ip
    metadata := metadata }
  OAuthSessionStore.delete sessionId
  redirectToStatus P cfg "invalid_request"
    session.redirectUri
    [("error", "authentication_failed"),
      ("state", session.clientState)]

/-
  Continue with a verified identity. Linking does not look
  the identity up first.
-/
def finalizeIdentity
    (args : OutcomeArgs)
    (registrationPurpose : String)
    (partnerSlug : Option String) : KisM Response := do
  if args.session.purpose = "link" then
    OAuthOutcomeService.finalizeLink P cfg args
  else
    let identity ←
      IdentityService.findByProviderSubject args.provider
        args.verifiedIdentity.sub
    if args.session.purpose = "registration" then
      OAuthOutcomeService.finalizeRegistration P cfg args
        identity registrationPurpose partnerSlug
    else
      OAuthOutcomeService.finalizeReturningUser P cfg args
        identity

end KisAuth
