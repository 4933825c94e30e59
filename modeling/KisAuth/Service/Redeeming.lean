import KisAuth.Guarantees.SignatureRoundTrip
import KisAuth.Service.SignIn

/-
  How redemptions succeed: a client signs its request, the
  signature verifies, and the code or ticket is exchanged
  for a token.

  Key definitions include:
    * `redeemingBody`, `codeClaims`, `ticketClaims`

  Key theorems include:
    * `leads_admitRedemption`
    * `leads_exchange`, `leads_registrationExchange`
-/

------------------------------------------------------------
-- Signed Requests
------------------------------------------------------------

namespace KisAuth

open Interaction Prog Store

variable {P : Platform} {cfg : KisAuthConfig} {world : World}

/- The body of a redemption. -/
def redeemingBody
    (code clientId redirectUri : String) : JsValue :=
  .obj
    [("code", .str code), ("client_id", .str clientId),
      ("redirect_uri", .str redirectUri)]

/- There is always a nonce that is not remembered. -/
theorem exists_nonce (cache : NonceCache) :
    ∃ nonce, nonce ≠ "" ∧ remembers cache nonce = false := by
  rcases exists_fresh (cache.map Prod.fst) with
    ⟨nonce, hFresh, hNonempty⟩
  refine ⟨nonce, hNonempty, ?_⟩
  rw [List.mem_map, not_exists] at hFresh
  rw [Bool.eq_false_iff]
  intro hRemembers
  unfold remembers at hRemembers
  rw [List.any_eq_true] at hRemembers
  rcases hRemembers with ⟨entry, hEntry, hNonce⟩
  exact hFresh entry ⟨hEntry, by simpa using hNonce⟩

/- Forgetting expired nonces remembers no more. -/
theorem remembers_purge
    {cache : NonceCache}
    {nonce : String}
    {now : ℚ}
    (hFresh : remembers cache nonce = false) :
    remembers (purge now cache) nonce = false := by
  rw [Bool.eq_false_iff] at hFresh ⊢
  intro hRemembers
  apply hFresh
  unfold remembers at hRemembers ⊢
  rw [List.any_eq_true] at hRemembers ⊢
  rcases hRemembers with ⟨entry, hEntry, hNonce⟩
  exact ⟨entry, (List.mem_filter.mp hEntry).1, hNonce⟩

/- The deployment's runtime can sign at the present time. -/
theorem Deployment.signs
    (deployment : Deployment P cfg)
    (hTimely : deployment.Timely world)
    {nonce : String}
    (hNonce : nonce ≠ "") :
    SigningRuntime P cfg.internalHmacSecret nonce
      (world.clock : ℚ) where
  nonce := hNonce
  digest := deployment.digest
  clock := by
    have hFloor :
        Int.floor ((world.clock : ℚ) / 1000) =
          ((world.clock / 1000 : Nat) : Int) :=
      Rat.floor_natCast_div_natCast world.clock 1000
    have hSmall : world.clock / 1000 < safeIntegers := by
      apply lt_of_le_of_lt _ hTimely
      omega
    rw [hFloor]
    exact deployment.seconds _ hSmall

/- The world after a signature is verified at once. -/
def World.accepted
    (world : World)
    (P : Platform)
    (cfg : KisAuthConfig)
    (request : SignedRequest) : World :=
  { world with
    clock := world.clock + 0
    nonceCache :=
      (verifyInternalSignature P cfg.internalHmacSecret
        cfg.internalSignatureMaxSkewSeconds world.clock
        ((world.clock + 0 : Nat) : ℚ) request
        world.nonceCache).2 }

/- A request that is signed now verifies now. -/
theorem leads_verifySignedPost
    {url ip nonce : String}
    {body : JsValue}
    {headers : InternalHeaders}
    (deployment : Deployment P cfg)
    (hTimely : deployment.Timely world)
    (hNonce : nonce ≠ "")
    (hFresh : remembers world.nonceCache nonce = false)
    (hSigned :
      signedInternalHeaders P "POST" url body
        cfg.internalHmacSecret world.clock nonce =
          some headers) :
    Leading P cfg
      (verifySignedPost url ⟨ip, headers, body⟩) world .ok
      (world.accepted P cfg ⟨"POST", url, body, headers⟩) := by
  have hWithin :
      |(world.clock : ℚ) - world.clock| ≤
        acceptedSkew cfg.internalSignatureMaxSkewSeconds *
          1000 := by
    have hSkew :
        30 ≤
          acceptedSkew cfg.internalSignatureMaxSkewSeconds :=
      le_max_left _ _
    rw [sub_self, abs_zero]
    have hCast :
        (30 : ℚ) ≤
          acceptedSkew cfg.internalSignatureMaxSkewSeconds := by
      exact_mod_cast hSkew
    linarith
  have hVerified :
      (verifyInternalSignature P cfg.internalHmacSecret
          cfg.internalSignatureMaxSkewSeconds world.clock
          ((world.clock + 0 : Nat) : ℚ)
          ⟨"POST", url, body, headers⟩ world.nonceCache).1 =
        some .ok :=
    signed_request_verified
      (deployment.signs hTimely hNonce) hSigned rfl rfl hWithin
      (remembers_purge hFresh)
  have hExec :
      (worldSemantics P cfg).exec world
          (.verifySignature ⟨"POST", url, body, headers⟩)
          (.elapsed 0) =
        some
          (some .ok,
            world.accepted P cfg
              ⟨"POST", url, body, headers⟩) := by
    rw [← hVerified]
    rfl
  exact (leads_perform (.elapsed 0) hExec).bind (leads_ret _ _)

end KisAuth

------------------------------------------------------------
-- Admission
------------------------------------------------------------

namespace KisAuth

open Interaction Prog Store

variable {P : Platform} {cfg : KisAuthConfig} {world : World}

/- The world after both limits have counted a redemption. -/
def World.counted
    (world : World)
    (route : Redemption)
    (ip clientId : String) : World :=
  (world.hit (rateLimitKey route.perIp.scope ip)
      route.perIp.windowSeconds).hit
    (rateLimitKey route.perClient.scope clientId)
    route.perClient.windowSeconds

theorem leads_admitRedemption
    {route : Redemption}
    {code clientId redirectUri ip nonce : String}
    {headers : InternalHeaders}
    (deployment : Deployment P cfg)
    (hTimely : deployment.Timely world)
    (hIpRoom : HasRoom world route.perIp ip)
    (hClientRoom :
      HasRoom
        (world.hit (rateLimitKey route.perIp.scope ip)
          route.perIp.windowSeconds)
        route.perClient clientId)
    (hCode : code ≠ "")
    (hClientId : clientId ≠ "")
    (hRedirectUri : redirectUri ≠ "")
    (hNonce : nonce ≠ "")
    (hFresh : remembers world.nonceCache nonce = false)
    (hSigned :
      signedInternalHeaders P "POST" route.url
        (redeemingBody code clientId redirectUri)
        cfg.internalHmacSecret world.clock nonce =
          some headers) :
    Leading P cfg
      (admitRedemption P route
        ⟨ip, headers,
          redeemingBody code clientId redirectUri⟩)
      world
      ⟨.str code, .str clientId, .str redirectUri⟩
      ((world.counted route ip clientId).accepted P cfg
        ⟨"POST", route.url,
          redeemingBody code clientId redirectUri,
          headers⟩) := by
  have hLimit :
      Leading P cfg (limitClient P route (.str clientId))
        (world.hit (rateLimitKey route.perIp.scope ip)
          route.perIp.windowSeconds)
        () (world.counted route ip clientId) := by
    have hTruthy : (JsValue.str clientId).truthy = true := by
      simp [JsValue.truthy, hClientId]
    unfold limitClient
    rw [if_pos hTruthy]
    refine (leads_orCrash (by rfl)).bind ?_
    exact leads_enforceRateLimit hClientRoom
  have hVerify :
      Leading P cfg
        (verifySignedPost route.url
          ⟨ip, headers,
            redeemingBody code clientId redirectUri⟩)
        (world.counted route ip clientId) .ok
        ((world.counted route ip clientId).accepted P cfg
          ⟨"POST", route.url,
            redeemingBody code clientId redirectUri,
            headers⟩) :=
    leads_verifySignedPost deployment hTimely hNonce hFresh
      hSigned
  have hTruthy :
      ((JsValue.str code).truthy &&
          (JsValue.str clientId).truthy &&
        (JsValue.str redirectUri).truthy) = true := by
    simp [JsValue.truthy, hCode, hClientId, hRedirectUri]
  unfold admitRedemption
  apply (leads_enforceRateLimit hIpRoom).bind
  refine (leads_orCrash (by rfl)).bind ?_
  apply hLimit.bind
  unfold checkRedemption
  apply hVerify.bind
  refine (leads_orCrash (by rfl)).bind ?_
  refine (leads_orCrash (by rfl)).bind ?_
  rw [if_pos (by exact hTruthy)]
  exact leads_ret _ _

/- An admission counts, and leaves every other record. -/
theorem StoredUntil.admitted
    {family : KeyFamily}
    {id : String}
    {value : RedisValue}
    {deadline : Nat}
    (P : Platform)
    (cfg : KisAuthConfig)
    (hStored :
      StoredUntil world (storeKey family id) value deadline)
    (hFamily : KeyFamily.rateLimit ≠ family)
    (route : Redemption)
    (ip clientId : String)
    (request : SignedRequest) :
    StoredUntil
      ((world.counted route ip clientId).accepted P cfg request)
      (storeKey family id) value deadline := by
  have hCounted :
      StoredUntil (world.counted route ip clientId)
        (storeKey family id) value deadline := by
    apply
      hStored.kept
        (((SameBeside.refl world).write
            (rateLimitKey route.perIp.scope ip) _).write
          (rateLimitKey route.perClient.scope clientId) _)
    simp [(counter_ne_record hFamily _ _ _).symm]
  exact ⟨hCounted.item, hCounted.live⟩

/- The body of a redemption is flat. -/
theorem Deployment.hash
    (deployment : Deployment P cfg)
    (code clientId redirectUri : String) :
    ∃ hash,
      bodyHash P (redeemingBody code clientId redirectUri) =
        some hash := by
  have hDepth :
      (redeemingBody code clientId redirectUri).depth ≤
        P.stringifyDepth :=
    deployment.flat
  have hText :
      stableBody P (redeemingBody code clientId redirectUri) =
        some
          (stableText
            (redeemingBody code clientId redirectUri)) :=
    if_pos hDepth
  unfold bodyHash
  rw [hText]
  exact ⟨_, rfl⟩

/- A deployment can sign every redemption. -/
theorem Deployment.headers
    {route : Redemption}
    (deployment : Deployment P cfg)
    (hRoute : route ∈ redemptionRoutes)
    (method code clientId redirectUri : String)
    (signedAt : ℚ)
    (nonce : String) :
    ∃ headers,
      signedInternalHeaders P method route.url
          (redeemingBody code clientId redirectUri)
          cfg.internalHmacSecret signedAt nonce =
        some headers := by
  rcases Option.ne_none_iff_exists'.mp
      (deployment.parseInternal route hRoute) with
    ⟨parsed, hParsed⟩
  rcases deployment.hash code clientId redirectUri with
    ⟨hash, hHash⟩
  unfold signedInternalHeaders pathWithQuery
  rw [hParsed, hHash]
  exact ⟨_, rfl⟩

end KisAuth

------------------------------------------------------------
-- Tokens
------------------------------------------------------------

namespace KisAuth

open Interaction Prog Store

variable {P : Platform} {cfg : KisAuthConfig} {world : World}

/- The token says what was claimed of the user. -/
structure Attests
    (token : AuthorizationJwt)
    (claims : AuthorizationClaims) : Prop where
  sub : token.sub = truthyText claims.sub
  aud : token.aud = claims.aud
  purpose : token.purpose = claims.purpose
  authIdentityId : token.authIdentityId = claims.authIdentityId
  providerSubject :
    token.providerSubject = claims.providerSubject

theorem leads_sign
    {claims : AuthorizationClaims}
    {ttlSeconds : ℚ}
    {jti : String}
    (deployment : Deployment P cfg)
    (hFresh : jti ∉ world.randoms) :
    ∃ token,
      Attests token claims ∧
        Leading P cfg
          (AuthorizationJwtService.sign P cfg claims
            ttlSeconds)
          world token (world.draw jti) := by
  refine ⟨?token, ?attests, ?leads⟩
  case leads =>
    unfold AuthorizationJwtService.sign
    rw [if_pos deployment.imports]
    apply leads_dateNow.bind
    apply (leads_random hFresh).bind
    rw [if_pos deployment.signsTokens]
    exact leads_ret _ _
  case attests => exact ⟨rfl, rfl, rfl, rfl, rfl⟩

/- What a code's token claims. -/
def codeClaims
    (payload : AuthorizationCodePayload)
    (identity : AuthIdentity) : AuthorizationClaims where
  sub := some payload.kisUserId
  aud := payload.clientId
  purpose := payload.purpose
  authIdentityId := some payload.authIdentityId
  providerSubject := none
  providerEmail := identity.providerEmail
  providerEmailVerified := identity.providerEmailVerified
  provider := none
  partnerSlug := none

/- What a ticket's token claims. -/
def ticketClaims
    (payload : RegistrationTicketPayload) :
    AuthorizationClaims where
  sub := none
  aud := payload.clientId
  purpose := payload.purpose
  authIdentityId := none
  providerSubject := some payload.providerSubject
  providerEmail := payload.providerEmail
  providerEmailVerified := payload.providerEmailVerified
  provider := some payload.provider
  partnerSlug := truthyText payload.partnerSlug

theorem boundTo_self
    (code clientId redirectUri : String) :
    boundTo ⟨.str code, .str clientId, .str redirectUri⟩
        clientId redirectUri =
      true := by
  simp [boundTo, JsValue.asString]

/- An admitted code is exchanged. -/
theorem leads_exchange
    {code : String}
    {payload : AuthorizationCodePayload}
    {identity : AuthIdentity}
    {deadline : Nat}
    {post : InternalPost}
    {admitted : World}
    (deployment : Deployment P cfg)
    (hAdmit :
      Leading P cfg
        (admitRedemption P authorizationRedemption post) world
        ⟨.str code, .str payload.clientId,
          .str payload.redirectUri⟩
        admitted)
    (hStored :
      StoredUntil admitted (codeKey code) (.code payload)
        deadline)
    (hIdentity :
      admitted.tables.selectIdentityById
          payload.authIdentityId =
        .ok (some identity))
    (hRedeemable : redeemable payload identity = true) :
    ∃ token last,
      Attests token (codeClaims payload identity) ∧
        Leading P cfg (ExchangeController.exchange P cfg post)
          world (.token token) last := by
  rcases exists_fresh admitted.randoms with ⟨jti, hFresh, _⟩
  have hSign :
      ∃ token,
        Attests token (codeClaims payload identity) ∧
          Leading P cfg
            (AuthorizationJwtService.sign P cfg
              (codeClaims payload identity)
              cfg.authCodeTtlSeconds)
            (admitted.drop (codeKey code)) token
            ((admitted.drop (codeKey code)).draw jti) :=
    leads_sign deployment hFresh
  rcases hSign with ⟨token, hAttests, hToken⟩
  have hConsume :
      Leading P cfg
        (ChallengeStore.consumeAuthorizationCode code) admitted
        (some payload) (admitted.drop (codeKey code)) := by
    have hRead :
        ChallengeStore.asCode
            (admitted.redis.read admitted.clock
              (codeKey code)) =
          some payload := by
      rw [hStored.read]
      rfl
    rw [← hRead]
    exact (leads_consume _).bind (leads_ret _ _)
  have hFilter :
      (some identity).filter (redeemable payload) =
        some identity := by
    simp [hRedeemable]
  refine
    ⟨token, (admitted.drop (codeKey code)).draw jti, hAttests,
      ?_⟩
  unfold ExchangeController.exchange
  apply hAdmit.bind
  refine (leads_orCrash (by rfl)).bind ?_
  apply hConsume.bind
  simp only [boundTo_self, if_true]
  refine (leads_findById (by exact hIdentity)).bind ?_
  simp only [hFilter]
  apply hToken.bind
  apply (leads_emit _).bind
  exact leads_ret _ _

/- An admitted ticket is exchanged. -/
theorem leads_registrationExchange
    {code : String}
    {payload : RegistrationTicketPayload}
    {deadline : Nat}
    {post : InternalPost}
    {admitted : World}
    (deployment : Deployment P cfg)
    (hAdmit :
      Leading P cfg
        (admitRedemption P registrationRedemption post) world
        ⟨.str code, .str payload.clientId,
          .str payload.redirectUri⟩
        admitted)
    (hStored :
      StoredUntil admitted (regTicketKey code)
        (.ticket payload) deadline) :
    ∃ token last,
      Attests token (ticketClaims payload) ∧
        Leading P cfg
          (RegistrationExchangeController.exchange P cfg post)
          world (.token token) last := by
  rcases exists_fresh admitted.randoms with ⟨jti, hFresh, _⟩
  have hSign :
      ∃ token,
        Attests token (ticketClaims payload) ∧
          Leading P cfg
            (AuthorizationJwtService.sign P cfg
              (ticketClaims payload) cfg.authCodeTtlSeconds)
            (admitted.drop (regTicketKey code)) token
            ((admitted.drop (regTicketKey code)).draw jti) :=
    leads_sign deployment hFresh
  rcases hSign with ⟨token, hAttests, hToken⟩
  have hConsume :
      Leading P cfg
        (ChallengeStore.consumeRegistrationTicket code)
        admitted (some payload)
        (admitted.drop (regTicketKey code)) := by
    have hRead :
        ChallengeStore.asTicket
            (admitted.redis.read admitted.clock
              (regTicketKey code)) =
          some payload := by
      rw [hStored.read]
      rfl
    rw [← hRead]
    exact (leads_consume _).bind (leads_ret _ _)
  refine
    ⟨token, (admitted.drop (regTicketKey code)).draw jti,
      hAttests, ?_⟩
  unfold RegistrationExchangeController.exchange
  apply hAdmit.bind
  refine (leads_orCrash (by rfl)).bind ?_
  apply hConsume.bind
  simp only [boundTo_self, if_true]
  apply hToken.bind
  apply (leads_emit _).bind
  exact leads_ret _ _

end KisAuth
