import KisAuth.Identity.IdentityService
import KisAuth.OAuth.StatusRedirect
import KisAuth.Redis.ChallengeStore

/-
  What follows a verified provider identity: linking,
  registration, and every other purpose.

  Key definitions include:
    * `OAuthOutcomeService.finalizeLink`
    * `OAuthOutcomeService.finalizeRegistration`
    * `OAuthOutcomeService.finalizeReturningUser`
    * `OAuthOutcomeService.confirmAndRedirect`
-/

------------------------------------------------------------
-- Confirmation
------------------------------------------------------------

namespace KisAuth

/- A provider identity after verification. -/
structure VerifiedProviderIdentity where
  sub : String
  email : Option String
  emailVerified : Bool
  deriving DecidableEq

/- The user and identity of a record that has both. -/
def confirmedSubject
    (record : ChallengeRecord) : Option (String × String) :=
  match record.kisUserId, record.authIdentityId with
  | some kisUserId, some authIdentityId =>
      if kisUserId = "" ∨ authIdentityId = "" then none
      else some (kisUserId, authIdentityId)
  | _, _ => none

/-
  The code payload a challenge is confirmed with. A used or
  incomplete challenge has none, and neither has one without
  attempts left.
-/
def confirmedPayload
    (record : Option ChallengeRecord)
    (redirectUri : String) :
    Option AuthorizationCodePayload :=
  match record with
  | none => none
  | some record =>
      if record.used then
        none
      else
        match confirmedSubject record with
        | none => none
        | some (kisUserId, authIdentityId) =>
            if record.maxAttempts ≤ record.attemptCount then
              none
            else
              some {
                purpose := record.purpose
                clientId := record.clientId
                kisUserId := kisUserId
                authIdentityId := authIdentityId
                redirectUri := redirectUri }

namespace OAuthOutcomeService

def confirmAndRedirect
    (P : Platform)
    (cfg : KisAuthConfig)
    (challengeId redirectUri clientState : String)
    (successState : String) : KisM Response := do
  let record ← ChallengeStore.getChallenge challengeId
  match confirmedPayload record redirectUri with
  | none => badRequest
  | some payload =>
      ChallengeStore.markChallengeUsed challengeId
      let authCode ←
        ChallengeStore.issueAuthorizationCode payload
          cfg.authCodeTtlSeconds
      redirectToStatus P cfg successState redirectUri
        [("code", authCode), ("state", clientState)]

end OAuthOutcomeService

end KisAuth

------------------------------------------------------------
-- Outcomes
------------------------------------------------------------

namespace KisAuth

/- What every outcome is finalized with. -/
structure OutcomeArgs where
  provider : String
  verifiedIdentity : VerifiedProviderIdentity
  session : OAuthSession
  sessionId : String
  ip : String

namespace OAuthOutcomeService

variable (P : Platform) (cfg : KisAuthConfig)

/- The challenge a linked or returning user is issued. -/
def newChallenge
    (session : OAuthSession)
    (purpose kisUserId authIdentityId : String) :
    ChallengeRecord where
  purpose := purpose
  clientId := session.clientId
  kisUserId := some kisUserId
  authIdentityId := some authIdentityId
  attemptCount := 0
  maxAttempts := cfg.challengeMaxAttempts
  used := false

/-
  purpose='link': attach the identity to the user the
  session was created for. A session without one fails
  closed.
-/
def finalizeLink (args : OutcomeArgs) : KisM Response := do
  match truthyText args.session.linkKisUserId with
  | none =>
      OAuthSessionStore.delete args.sessionId
      badRequest
  | some kisUserId =>
      let result ← IdentityService.link {
        provider := args.provider
        providerSubject := args.verifiedIdentity.sub
        kisUserId := kisUserId
        providerEmail := args.verifiedIdentity.email
        providerEmailVerified :=
          some args.verifiedIdentity.emailVerified }
      OAuthSessionStore.delete args.sessionId
      match result with
      | .alreadyLinked =>
          emit {
            eventType := "link.already_linked"
            outcome := .failure
            kisUserId := .str kisUserId
            clientId := .str args.session.clientId
            ip := .str args.ip
            metadata := [("provider", .str args.provider)] }
          redirectToStatus P cfg "already_linked"
            args.session.redirectUri
            [("error", "already_linked"),
              ("state", args.session.clientState)]
      | .ok identity =>
          emit {
            eventType := "link.succeeded"
            outcome := .success
            kisUserId := .str kisUserId
            clientId := .str args.session.clientId
            ip := .str args.ip
            metadata := [("provider", .str args.provider)] }
          let challengeId ← randomId
          ChallengeStore.createChallenge challengeId
            (newChallenge cfg args.session "link" kisUserId
              identity.id)
            cfg.challengeTtlSeconds
          confirmAndRedirect P cfg challengeId
            args.session.redirectUri args.session.clientState
            "success"

/- The metadata of the registration events. -/
def registrationMetadata
    (provider : String)
    (partnerSlug : Option String) :
    List (String × JsValue) :=
  [("provider", .str provider),
    ("partner_slug",
      match partnerSlug with
      | some slug => .str slug
      | none => .null)]

/-
  purpose='registration': issue a ticket for an identity
  nobody is registered with.
-/
def finalizeRegistration
    (args : OutcomeArgs)
    (identity : Option AuthIdentity)
    (registrationPurpose : String)
    (partnerSlug : Option String) : KisM Response := do
  OAuthSessionStore.delete args.sessionId
  match identity with
  | some identity =>
      emit {
        eventType := "registration.already_registered"
        outcome := .failure
        kisUserId := .str identity.kisUserId
        clientId := .str args.session.clientId
        ip := .str args.ip
        metadata :=
          registrationMetadata args.provider partnerSlug }
      redirectToStatus P cfg "already_registered"
        args.session.redirectUri
        [("error", "already_registered"),
          ("state", args.session.clientState)]
  | none =>
      let ticket ← ChallengeStore.issueRegistrationTicket {
        clientId := args.session.clientId
        purpose := registrationPurpose
        provider := args.provider
        providerSubject := args.verifiedIdentity.sub
        providerEmail := args.verifiedIdentity.email
        providerEmailVerified :=
          args.verifiedIdentity.emailVerified
        partnerSlug := partnerSlug
        redirectUri := args.session.redirectUri }
        cfg.authCodeTtlSeconds
      emit {
        eventType := "registration.ticket_issued"
        outcome := .success
        clientId := .str args.session.clientId
        ip := .str args.ip
        metadata :=
          registrationMetadata args.provider partnerSlug }
      redirectToStatus P cfg "registration_continue"
        args.session.redirectUri
        [("code", ticket),
          ("state", args.session.clientState)]

/-
  Every other purpose needs an identity that is linked
  already.
-/
def finalizeReturningUser
    (args : OutcomeArgs)
    (identity : Option AuthIdentity) : KisM Response := do
  match identity with
  | none =>
      OAuthSessionStore.delete args.sessionId
      emit {
        eventType := "oauth.identity_not_linked"
        outcome := .failure
        clientId := .str args.session.clientId
        ip := .str args.ip }
      redirectToStatus P cfg "not_linked"
        args.session.redirectUri
        [("error", "not_linked"),
          ("provider_subject", args.verifiedIdentity.sub),
          ("state", args.session.clientState)]
  | some identity =>
      IdentityService.touchLastAuthenticated identity.id
      emit {
        eventType := "oauth.callback_succeeded"
        outcome := .success
        kisUserId := .str identity.kisUserId
        clientId := .str args.session.clientId
        ip := .str args.ip
        metadata := [("purpose", .str args.session.purpose)] }
      let challengeId ← randomId
      ChallengeStore.createChallenge challengeId
        (newChallenge cfg args.session args.session.purpose
          identity.kisUserId identity.id)
        cfg.challengeTtlSeconds
      OAuthSessionStore.delete args.sessionId
      -- No manual code: the challenge is confirmed at once.
      confirmAndRedirect P cfg challengeId
        args.session.redirectUri args.session.clientState
        "recovery_success"

end OAuthOutcomeService

end KisAuth
