import KisAuth.OAuth.StatusRedirect
import KisAuth.Security.RateLimit

/-
  What both redemption routes do before they look at the
  code: the two rate limits, the signature and the required
  fields.

  Key definitions include:
    * `Redemption`, `ExchangeBody`
    * `verifySignedPost`, `admitRedemption`
    * `boundTo`, `redemptionFailed`
-/

------------------------------------------------------------
-- Redemption
------------------------------------------------------------

namespace KisAuth

/- Where the two redemption routes differ. -/
structure Redemption where
  url : String
  perIp : RateLimitPolicy
  perClient : RateLimitPolicy
  failedEvent : String

/- The fields of a redemption request. -/
structure ExchangeBody where
  code : JsValue
  clientId : JsValue
  redirectUri : JsValue

/- The verification of a signed request to a fixed URL. -/
def verifySignedPost
    (url : String)
    (post : InternalPost) : KisM VerifyResult := do
  let verification ← call (.verifySignature {
    method := "POST"
    url := url
    body := post.body
    headers := post.headers })
  orCrash verification

/- The event of a redemption that is refused. -/
def redemptionFailed
    (route : Redemption)
    (clientId : JsValue)
    (reason ip : String) : SecurityEvent where
  eventType := route.failedEvent
  outcome := .failure
  clientId := clientId
  reason := .str reason
  ip := .str ip

/- A rate limit for each named client, besides the address. -/
def limitClient
    (P : Platform)
    (route : Redemption)
    (clientId : JsValue) : KisM Unit :=
  if clientId.truthy then do
    let identifier ←
      orCrash (clientId.toJsString P.joinDepth)
    enforceRateLimit route.perClient identifier
  else
    return ()

/- The signature, then the fields that are required. -/
def checkRedemption
    (route : Redemption)
    (post : InternalPost)
    (clientId : JsValue) : KisM ExchangeBody := do
  let verification ← verifySignedPost route.url post
  match verification with
  | .fail _ =>
      emit (redemptionFailed route clientId
        "signature_invalid" post.ip)
      .throw (.unauthorized genericError)
  | .ok =>
      let code ← orCrash (post.body.member "code")
      let redirectUri ←
        orCrash (post.body.member "redirect_uri")
      if code.truthy && clientId.truthy &&
          redirectUri.truthy then
        return ⟨code, clientId, redirectUri⟩
      else
        badRequest

/- Reading a field of an absent body throws. -/
def admitRedemption
    (P : Platform)
    (route : Redemption)
    (post : InternalPost) : KisM ExchangeBody := do
  enforceRateLimit route.perIp post.ip
  let clientId ← orCrash (post.body.member "client_id")
  limitClient P route clientId
  checkRedemption route post clientId

/- The request names the client and redirect URI of a code. -/
def boundTo
    (body : ExchangeBody)
    (clientId redirectUri : String) : Bool :=
  decide (body.clientId.asString = some clientId) &&
    decide (body.redirectUri.asString = some redirectUri)

end KisAuth
