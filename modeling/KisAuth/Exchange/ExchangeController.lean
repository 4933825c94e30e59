import KisAuth.Exchange.Redemption
import KisAuth.Identity.IdentityService
import KisAuth.Jwt.AuthorizationJwt
import KisAuth.Redis.ChallengeStore

/-
  The redemption of authorization codes and of registration
  tickets.

  Key definitions include:
    * `ExchangeController.exchange`
    * `RegistrationExchangeController.exchange`
-/

------------------------------------------------------------
-- Authorization Codes
------------------------------------------------------------

namespace KisAuth

def authorizationRedemption : Redemption where
  url := "/internal/v1/authorization/exchange"
  perIp := RateLimits.exchangePerIp
  perClient := RateLimits.exchangePerClient
  failedEvent := "exchange.failed"

/- The identity a code was issued for, while it is active. -/
def redeemable
    (payload : AuthorizationCodePayload)
    (identity : AuthIdentity) : Bool :=
  decide (identity.status = .active) &&
    decide (identity.kisUserId = payload.kisUserId)

def ExchangeController.exchange
    (P : Platform)
    (cfg : KisAuthConfig)
    (post : InternalPost) : KisM Response := do
  let body ← admitRedemption P authorizationRedemption post
  let code ← orCrash (body.code.toJsString P.joinDepth)
  let payload ← ChallengeStore.consumeAuthorizationCode code
  match payload with
  | none =>
      emit (redemptionFailed authorizationRedemption
        body.clientId "code_invalid_or_reused" post.ip)
      badRequest
  | some payload =>
      if boundTo body payload.clientId payload.redirectUri then
        let identity ←
          IdentityService.findById payload.authIdentityId
        match identity.filter (redeemable payload) with
        | none =>
            emit {
              redemptionFailed authorizationRedemption
                body.clientId
                (if identity.isSome then "identity_revoked"
                  else "identity_not_found")
                post.ip with
              kisUserId := .str payload.kisUserId }
            badRequest
        | some identity =>
            let token ← AuthorizationJwtService.sign P cfg
              { sub := some payload.kisUserId
                aud := payload.clientId
                purpose := payload.purpose
                authIdentityId := some payload.authIdentityId
                providerSubject := none
                providerEmail := identity.providerEmail
                providerEmailVerified :=
                  identity.providerEmailVerified
                provider := none
                partnerSlug := none }
              cfg.authCodeTtlSeconds
            emit {
              eventType := "exchange.succeeded"
              outcome := .success
              kisUserId := .str payload.kisUserId
              clientId := .str payload.clientId
              ip := .str post.ip
              metadata :=
                [("purpose", .str payload.purpose)] }
            return .token token
      else
        emit (redemptionFailed authorizationRedemption
          body.clientId "redirect_uri_or_client_mismatch"
          post.ip)
        badRequest

end KisAuth

------------------------------------------------------------
-- Registration Tickets
------------------------------------------------------------

namespace KisAuth

def registrationRedemption : Redemption where
  url := "/internal/v1/registration/exchange"
  perIp := RateLimits.registrationExchangePerIp
  perClient := RateLimits.registrationExchangePerClient
  failedEvent := "registration.exchange_failed"

def RegistrationExchangeController.exchange
    (P : Platform)
    (cfg : KisAuthConfig)
    (post : InternalPost) : KisM Response := do
  let body ← admitRedemption P registrationRedemption post
  let code ← orCrash (body.code.toJsString P.joinDepth)
  let payload ← ChallengeStore.consumeRegistrationTicket code
  match payload with
  | none =>
      emit (redemptionFailed registrationRedemption
        body.clientId "ticket_invalid_or_reused" post.ip)
      badRequest
  | some payload =>
      if boundTo body payload.clientId payload.redirectUri then
        let token ← AuthorizationJwtService.sign P cfg
          { sub := none
            aud := payload.clientId
            purpose := payload.purpose
            authIdentityId := none
            providerSubject := some payload.providerSubject
            providerEmail := payload.providerEmail
            providerEmailVerified :=
              payload.providerEmailVerified
            provider := some payload.provider
            partnerSlug := truthyText payload.partnerSlug }
          cfg.authCodeTtlSeconds
        emit {
          eventType := "registration.exchange_succeeded"
          outcome := .success
          clientId := .str payload.clientId
          ip := .str post.ip }
        return .token token
      else
        emit (redemptionFailed registrationRedemption
          body.clientId "redirect_uri_or_client_mismatch"
          post.ip)
        badRequest

end KisAuth
