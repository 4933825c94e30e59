import KisAuth.Service.RunProtocol

/-
  What the enterprise callback checks an ID token against.

  The library compares the issuer and the audience of a
  token only with options that are not empty. A response
  from Django is accepted with empty strings as well, and
  then a token of any issuer, or for any audience, passes.

  Key definitions include:
    * `JwtVerified`, `TokenAccepted`, `TokenChecked`
    * `TenantChecked`, `NamesTenant`

  Key theorems include:
    * `tenant_checked_iff`
    * `foreign_token_accepted`
-/

------------------------------------------------------------
-- The Token Library
------------------------------------------------------------

namespace KisAuth

open Interaction Prog

/- The audience is, or is one of, the given one. -/
def audienceContains (audience : String) : JsValue → Prop
| .str text => text = audience
| .arr items => .str audience ∈ items
| _ => False

/-
  Which tokens carry which payload, signed with RS256 by a
  key of which key set.
-/
abbrev Signed := String → String → IdTokenPayload → Prop

/-
  What `jwtVerify` has checked of a payload it answers with:
  the signature, and the issuer and the audience where the
  options for them are not empty. A single issuer is given
  as a list of one.
-/
structure JwtVerified
    (signed : Signed)
    (idToken jwksUri : String)
    (issuer : List String)
    (audience : String)
    (payload : IdTokenPayload) : Prop where
  signed : signed idToken jwksUri payload
  issuer :
    issuer ≠ [""] → ∃ name ∈ issuer, payload.iss = .str name
  audience :
    audience ≠ "" → audienceContains audience payload.aud

/- The library answered as it does. -/
def Verifies (signed : Signed) (past : Past) : Prop :=
  ∀ idToken jwksUri issuer audience payload,
    ⟨.jwtVerify idToken jwksUri issuer audience,
        some payload⟩ ∈ past →
      JwtVerified signed idToken jwksUri issuer audience
        payload

end KisAuth

------------------------------------------------------------
-- Accepted Tokens
------------------------------------------------------------

namespace KisAuth

open Interaction Prog

variable (P : Platform) (cfg : KisAuthConfig)

/-
  A tenant's callback verified a token with a configuration
  and accepted it: it went on to look the identity up.
-/
structure TokenAccepted
    (signed : Signed)
    (partnerSlug : String)
    (query : CallbackQuery)
    (req : BrowserRequest)
    (config : OidcPartnerConfig)
    (past : Past)
    (payload : IdTokenPayload) : Prop where
  library : Verifies signed past
  resolved : ConfigResolved P cfg past partnerSlug config
  verified :
    ∃ idToken jwksUri,
      ⟨.jwtVerify idToken jwksUri [config.issuer]
          config.clientId,
        some payload⟩ ∈ past
  accepted :
    ∃ provider providerSubject rest,
      (OidcEnterpriseController.callback P cfg partnerSlug
        query req).Reaches past
        (.call (.selectIdentity provider providerSubject)
          rest)

/- The token is the tenant's own, for this session. -/
structure TokenChecked
    (config : OidcPartnerConfig)
    (session : OAuthSession)
    (payload : IdTokenPayload) : Prop where
  issuer : payload.iss = .str config.issuer
  audience : audienceContains config.clientId payload.aud
  nonce : payload.nonce = .str session.nonce
  sub : ∃ sub, payload.sub = .str sub ∧ sub ≠ ""

/-
  Every token a callback of any tenant accepts with the
  configuration is checked against it and the session.
-/
def TenantChecked (config : OidcPartnerConfig) : Prop :=
  ∀ signed partnerSlug query req past payload,
    TokenAccepted P cfg signed partnerSlug query req config
        past payload →
      ∃ sessionId session,
        ReadsSession req past sessionId session ∧
          TokenChecked config session payload

/- The response names an issuer and a client. -/
def NamesTenant (body : JsValue) : Prop :=
  body.member "issuer" ≠ some (.str "") ∧
    body.member "client_id" ≠ some (.str "")

end KisAuth

------------------------------------------------------------
-- Responses
------------------------------------------------------------

namespace KisAuth

open Interaction Prog

/- A response is accepted for the strings in its body. -/
theorem resolved_body
    {reply : FetchReply}
    {config : OidcPartnerConfig}
    (hResolve :
      resolveReply (some reply) = .ret (.ok config)) :
    ∃ body,
      reply.body = some body ∧
        partnerConfigOf body = some config := by
  unfold resolveReply at hResolve
  simp only at hResolve
  split at hResolve
  · simp at hResolve
  · split at hResolve
    · simp at hResolve
    · simp [crash] at hResolve
    · next body _ hBody =>
        split at hResolve
        · next found hFound =>
            simp only [pure_eq, ret.injEq, Except.ok.injEq]
              at hResolve
            subst hResolve
            exact ⟨body, hBody, hFound⟩
        · simp at hResolve

/- The issuer and the client are those of the body. -/
theorem partnerConfigOf_fields
    {body : JsValue}
    {config : OidcPartnerConfig}
    (hConfig : partnerConfigOf body = some config) :
    body.member "issuer" = some (.str config.issuer) ∧
      body.member "client_id" =
        some (.str config.clientId) := by
  unfold partnerConfigOf at hConfig
  simp only at hConfig
  split at hConfig
  · next partnerId partnerSlug issuer clientId clientSecret
      discoveryUrl _ _ hIssuer hClient _ _ =>
      rw [Option.some.injEq] at hConfig
      subst hConfig
      rcases Option.bind_eq_some_iff.mp hIssuer with
        ⟨issuerValue, hIssuerMember, hIssuerText⟩
      rcases Option.bind_eq_some_iff.mp hClient with
        ⟨clientValue, hClientMember, hClientText⟩
      rw [JsValue.asString_eq_some_iff]
        at hIssuerText hClientText
      rw [hIssuerMember, hClientMember, hIssuerText,
        hClientText]
      exact ⟨rfl, rfl⟩
  · simp at hConfig

theorem namesTenant_iff
    {body : JsValue}
    {config : OidcPartnerConfig}
    (hConfig : partnerConfigOf body = some config) :
    NamesTenant body ↔
      config.issuer ≠ "" ∧ config.clientId ≠ "" := by
  rcases partnerConfigOf_fields hConfig with
    ⟨hIssuer, hClient⟩
  unfold NamesTenant
  rw [hIssuer, hClient]
  simp

end KisAuth

------------------------------------------------------------
-- Checked Tokens
------------------------------------------------------------

namespace KisAuth

open Interaction Prog

variable {P : Platform} {cfg : KisAuthConfig}

/- The only payload that was asserted. -/
theorem asserted_unique
    {past : Past}
    {idToken jwksUri audience : String}
    {issuer : List String}
    {payload other : IdTokenPayload}
    (hAsserted : asserted past = [some other])
    (hMem :
      ⟨.jwtVerify idToken jwksUri issuer audience,
        some payload⟩ ∈ past) :
    payload = other := by
  have hFound : some payload ∈ asserted past :=
    List.mem_filterMap.mpr ⟨_, hMem, rfl⟩
  rw [hAsserted, List.mem_singleton,
    Option.some.injEq] at hFound
  exact hFound

/- A token that names are compared with is the tenant's. -/
theorem token_checked
    {signed : Signed}
    {partnerSlug : String}
    {query : CallbackQuery}
    {req : BrowserRequest}
    {config : OidcPartnerConfig}
    {past : Past}
    {payload : IdTokenPayload}
    (hIssuer : config.issuer ≠ "")
    (hClient : config.clientId ≠ "")
    (hAccepted :
      TokenAccepted P cfg signed partnerSlug query req config
        past payload) :
    ∃ sessionId session,
      ReadsSession req past sessionId session ∧
        TokenChecked config session payload := by
  rcases hAccepted.verified with ⟨idToken, jwksUri, hMem⟩
  rcases hAccepted.accepted with
    ⟨provider, providerSubject, rest, hReaches⟩
  have hAllowed :=
    (@handler_obeys P cfg
      (.enterpriseCallback partnerSlug query req)
      ).guard_of_reaches hReaches
  have hVerified :=
    hAccepted.library idToken jwksUri _ _ payload hMem
  rcases hAllowed.2 with
    ⟨post, args, hRequest, _⟩ |
      ⟨callback, sessionId, session, token, hCallback,
        hSession, _⟩
  · simp at hRequest
  · simp only [Request.callback, Option.some.injEq]
      at hCallback
    subst hCallback
    rcases hSession.token with
      ⟨_, _, _, _, other, _, hAsserted, hCheck, _⟩
    have hSame := asserted_unique hAsserted hMem
    subst hSame
    rcases checkPayload_spec hCheck with
      ⟨hNonce, hSub, hNonempty, _⟩
    refine ⟨sessionId, session, hSession.reads, ?_⟩
    constructor
    · rcases hVerified.issuer (by simpa using hIssuer) with
        ⟨name, hName, hIss⟩
      rw [List.mem_singleton] at hName
      rw [hIss, hName]
    · exact hVerified.audience hClient
    · exact hNonce
    · exact ⟨token.sub, hSub, hNonempty⟩

end KisAuth

------------------------------------------------------------
-- A Callback That Accepts A Token
------------------------------------------------------------

namespace KisAuth

open Interaction Prog OidcEnterpriseController

variable {P : Platform} {cfg : KisAuthConfig}

/- A browser in the middle of a registration. -/
def visitor : BrowserRequest where
  ip := "10.0.0.1"
  cookie := some "kisauth_session=s1"

def visitorQuery : CallbackQuery where
  code := some "c1"
  state := some "st"
  error := none

/- Its session with a tenant. -/
def visitorSession (partnerSlug : String) : OAuthSession where
  clientId := "kis-web"
  redirectUri := "https://kis.test/callback"
  purpose := "registration"
  state := "st"
  nonce := "no"
  clientState := "cs"
  codeVerifier := some "v1"
  linkKisUserId := none
  partnerSlug := some partnerSlug

/- The tenant's provider, by the address of its keys. -/
def visitedProvider (jwksUri : String) :
    OidcDiscoveryDocument where
  authorizationEndpoint := "https://idp.test/authorize"
  tokenEndpoint := "https://idp.test/token"
  jwksUri := jwksUri
  issuer := none

/- A payload for the session, of any issuer and audience. -/
def visitorPayload
    (issuer audience : String) : IdTokenPayload where
  iss := .str issuer
  aud := .str audience
  nonce := .str "no"
  sub := .str "u1"
  email := .undefined
  emailVerified := .undefined

/- What the callback is answered, oldest first. -/
def visitAnswers
    (partnerSlug redirectUri jwksUri : String)
    (config : OidcPartnerConfig)
    (payload : IdTokenPayload) : Past :=
  [⟨.redisIncr
        (rateLimitKey "oauth_enterprise_callback" "10.0.0.1")
        60,
      (1 : Nat)⟩,
    ⟨.redisGet (sessionKey "s1"),
      some (.session (visitorSession partnerSlug))⟩,
    ⟨.ssoCacheGet partnerSlug, some (config, 1)⟩,
    ⟨.dateNow, (0 : Nat)⟩,
    ⟨.discoveryCacheGet config.discoveryUrl,
      some (visitedProvider jwksUri, 1)⟩,
    ⟨.dateNow, (0 : Nat)⟩,
    ⟨.fetch
        { method := "POST"
          url := "https://idp.test/token"
          form :=
            [("code", "c1"), ("client_id", config.clientId),
              ("client_secret", config.clientSecret),
              ("redirect_uri", redirectUri),
              ("grant_type", "authorization_code"),
              ("code_verifier", "v1")] },
      some ⟨200, some (.obj [("id_token", .str "t")])⟩⟩,
    ⟨.jwtVerify "t" jwksUri [config.issuer] config.clientId,
      some payload⟩]

/- The identity the callback makes of the payload. -/
def visitOutcome (partnerSlug : String) : OutcomeArgs where
  provider := oidcProvider
  verifiedIdentity :=
    { sub := compositeOidcSubject partnerSlug "u1"
      email := none
      emailVerified := false }
  session := visitorSession partnerSlug
  sessionId := "s1"
  ip := "10.0.0.1"

/- The callback goes on with the identity. -/
theorem visit_reaches
    {partnerSlug redirectUri jwksUri : String}
    {url : P.Url}
    (hRedirect :
      enterpriseRedirectUri P cfg partnerSlug =
        some redirectUri)
    (hKeys : P.parseUrl jwksUri = some url)
    (config : OidcPartnerConfig)
    (issuer audience : String) :
    (callback P cfg partnerSlug visitorQuery visitor).Reaches
      (visitAnswers partnerSlug redirectUri jwksUri config
        (visitorPayload issuer audience)).reverse
      (finalizeIdentity P cfg (visitOutcome partnerSlug)
        "enterprise_sso_registration"
        (some partnerSlug)) := by
  have hCookie :
      sessionCookie visitor = some (some "s1") := by
    decide
  have hError : truthyText visitorQuery.error = none := rfl
  have hCode :
      acceptedCode visitorQuery (visitorSession partnerSlug) =
        some ("c1", "v1") := by
    simp [acceptedCode, visitorQuery, visitorSession,
      truthyText]
  have hTenant :
      (visitorSession partnerSlug).partnerSlug =
        some partnerSlug := rfl
  have hFresh :
      ∀ {α : Type} (value : α),
        freshEntry (some (value, 1)) 0 = some value :=
    fun value => rfl
  have hToken :
      idTokenOf
          (some ⟨200, some (.obj [("id_token", .str "t")])⟩) =
        .ok (.str "t") := by
    rfl
  have hChecked :
      checkPayload (visitorSession partnerSlug).nonce
          (visitorPayload issuer audience) =
        some ⟨"u1", none, false⟩ := by
    simp [checkPayload, visitorSession, visitorPayload,
      verifiedOf, JsValue.asString]
  unfold callback visitAnswers
  simp only [enforceRateLimit, RateLimiter.check, Redis.incr,
    call, perform, bind_eq, bind_call, bind_ret, pure_eq,
    sessionIdOf, hCookie, orCrash, sessionOf,
    OAuthSessionStore.get, Redis.get]
  refine Reaches.first rfl _ ?_
  simp only [RateLimits.oauthEnterpriseCallback,
    Nat.one_le_ofNat, decide_true, if_true, bind_ret]
  rw [if_neg (by decide)]
  simp only [bind_call, bind_ret]
  refine Reaches.first rfl _ ?_
  simp only [OAuthSessionStore.asSession, Option.map_some,
    hError, hCode, hTenant, if_true, resolveOrFail, bind_eq,
    bind_call, OidcProviderResolverService.resolve, call,
    perform, bind_ret, dateNow]
  refine Reaches.first rfl _ ?_
  refine Reaches.first rfl _ ?_
  simp only [hFresh, pure_eq, bind_ret, discoverOrFail,
    OidcDiscoveryService.fetchDiscovery, bind_eq, bind_call,
    call, perform, dateNow]
  refine Reaches.first rfl _ ?_
  refine Reaches.first rfl _ ?_
  simp only [hFresh, pure_eq, bind_ret, verifiedIdentity,
    hRedirect, OidcTokenExchangeService.exchangeCodeForIdToken,
    doFetch, call, perform, bind_eq, bind_call]
  refine Reaches.first rfl _ ?_
  simp only [hToken, OidcIdTokenService.verify,
    visitedProvider, hKeys, verifyOidcIdToken, bind_ret,
    bind_call, bind_eq, call, perform, pure_eq]
  refine Reaches.first rfl _ ?_
  simp only [Option.bind_some, hChecked, bind_ret]
  exact .start

/- The URLs of some tenant and of its key set parse. -/
def ServesTenants
    (P : Platform)
    (cfg : KisAuthConfig) : Prop :=
  ∃ partnerSlug jwksUri,
    (enterpriseRedirectUri P cfg partnerSlug).isSome = true ∧
      (P.parseUrl jwksUri).isSome = true

/-
  The callback accepts a token of any issuer where the
  configuration names none, and for any audience where it
  names no client.
-/
theorem visit_accepted
    (hServes : ServesTenants P cfg)
    (config : OidcPartnerConfig)
    {issuer audience : String}
    (hIssuer : config.issuer ≠ "" → issuer = config.issuer)
    (hAudience :
      config.clientId ≠ "" → audience = config.clientId) :
    ∃ partnerSlug past,
      TokenAccepted P cfg (fun _ _ _ => True) partnerSlug
        visitorQuery visitor config past
        (visitorPayload issuer audience) := by
  rcases hServes with ⟨partnerSlug, jwksUri, hSlug, hUri⟩
  rcases Option.isSome_iff_exists.mp hSlug with
    ⟨redirectUri, hRedirect⟩
  rcases Option.isSome_iff_exists.mp hUri with ⟨url, hKeys⟩
  refine
    ⟨partnerSlug,
      (visitAnswers partnerSlug redirectUri jwksUri config
        (visitorPayload issuer audience)).reverse, ?_⟩
  constructor
  · intro idToken keys names client payload hMem
    rw [List.mem_reverse] at hMem
    simp only [visitAnswers, List.mem_cons, Answer.mk.injEq,
      reduceCtorEq, false_and, false_or, List.not_mem_nil,
      or_false, Eff.jwtVerify.injEq] at hMem
    rcases hMem with ⟨⟨rfl, rfl, rfl, rfl⟩, hPayload⟩
    have hSame := Option.some.inj (eq_of_heq hPayload)
    subst hSame
    constructor
    · trivial
    · intro hNamed
      refine
        ⟨config.issuer, List.mem_singleton_self _, ?_⟩
      have hNonempty : config.issuer ≠ "" := by
        simpa using hNamed
      rw [← hIssuer hNonempty]
      rfl
    · intro hNamed
      exact hAudience hNamed
  · exact Or.inl ⟨1, by simp [visitAnswers]⟩
  · exact ⟨"t", jwksUri, by simp [visitAnswers]⟩
  · exact ⟨_, _, _, visit_reaches hRedirect hKeys config _ _⟩

/- Where a name is missing, a foreign token is accepted. -/
theorem unchecked_of_unnamed
    {config : OidcPartnerConfig}
    (hServes : ServesTenants P cfg)
    (hUnnamed :
      ¬(config.issuer ≠ "" ∧ config.clientId ≠ "")) :
    ¬TenantChecked P cfg config := by
  intro hChecked
  by_cases hIssuer : config.issuer = ""
  · rcases
        @visit_accepted P cfg hServes config
          "https://other.test" config.clientId
          (fun hNamed => absurd hIssuer hNamed)
          (fun _ => rfl)
      with ⟨partnerSlug, past, hAccepted⟩
    rcases hChecked _ _ _ _ _ _ hAccepted with
      ⟨sessionId, session, _, hToken⟩
    have hIss := hToken.issuer
    rw [hIssuer] at hIss
    simp [visitorPayload] at hIss
  · have hClient : config.clientId = "" := by
      by_contra hClient
      exact hUnnamed ⟨hIssuer, hClient⟩
    rcases
        @visit_accepted P cfg hServes config config.issuer
          "other-client" (fun _ => rfl)
          (fun hNamed => absurd hClient hNamed)
      with ⟨partnerSlug, past, hAccepted⟩
    rcases hChecked _ _ _ _ _ _ hAccepted with
      ⟨sessionId, session, _, hToken⟩
    have hAud : "other-client" = config.clientId :=
      hToken.audience
    rw [hClient] at hAud
    simp at hAud

end KisAuth

------------------------------------------------------------
-- Tenants That Are Checked
------------------------------------------------------------

namespace KisAuth

open Interaction Prog OidcEnterpriseController

/-
  A response that is accepted makes the callbacks check
  every token exactly where its issuer and its client are
  not empty.
-/
theorem tenant_checked_iff
    {P : Platform}
    {cfg : KisAuthConfig}
    {reply : FetchReply}
    {body : JsValue}
    {config : OidcPartnerConfig}
    (hServes : ServesTenants P cfg)
    (hBody : reply.body = some body)
    (hResolve :
      resolveReply (some reply) = .ret (.ok config)) :
    TenantChecked P cfg config ↔ NamesTenant body := by
  rcases resolved_body hResolve with
    ⟨found, hFound, hConfig⟩
  rw [hBody, Option.some.injEq] at hFound
  subst hFound
  rw [namesTenant_iff hConfig]
  constructor
  · intro hChecked
    by_contra hUnnamed
    exact unchecked_of_unnamed hServes hUnnamed hChecked
  · rintro ⟨hIssuer, hClient⟩ signed partnerSlug query req
      past payload hAccepted
    exact token_checked hIssuer hClient hAccepted

/- The URLs of one tenant. -/
def tenantPlatform : Platform :=
  { Platform.bare with
    parseUrl := fun url =>
      if url = "https://idp.test/keys" then some url else none
    parseUrlAt := fun path base =>
      if path = "/oauth/enterprise/acme/callback" then
        some (base ++ path)
      else
        none }

/- Django's response for a tenant. -/
def tenantBody (issuer clientId : String) : JsValue :=
  .obj
    [("partner_id", .str "7"), ("partner_slug", .str "acme"),
      ("provider", .str "oidc"), ("issuer", .str issuer),
      ("client_id", .str clientId),
      ("client_secret", .str "secret"),
      ("discovery_url",
        .str "https://idp.test/.well-known")]

def tenantConfig
    (issuer clientId : String) : OidcPartnerConfig where
  partnerId := "7"
  partnerSlug := "acme"
  provider := "oidc"
  issuer := issuer
  clientId := clientId
  clientSecret := "secret"
  discoveryUrl := "https://idp.test/.well-known"

theorem tenantBody_resolves (issuer clientId : String) :
    resolveReply
        (some ⟨200, some (tenantBody issuer clientId)⟩) =
      .ret (.ok (tenantConfig issuer clientId)) := by
  rfl

theorem tenantPlatform_serves :
    ServesTenants tenantPlatform testConfig :=
  ⟨"acme", "https://idp.test/keys", by decide, by decide⟩

/- A complete response, whose tenant is checked. -/
theorem named_tenant_checked :
    TenantChecked tenantPlatform testConfig
      (tenantConfig "https://idp.test" "kis") := by
  have hConfig :
      partnerConfigOf (tenantBody "https://idp.test" "kis") =
        some (tenantConfig "https://idp.test" "kis") := by
    rfl
  apply
    (tenant_checked_iff tenantPlatform_serves rfl
      (tenantBody_resolves "https://idp.test" "kis")).mpr
  rw [namesTenant_iff hConfig]
  constructor
  · simp [tenantConfig]
  · simp [tenantConfig]

/- A configuration without an issuer, or without a client. -/
theorem tenantConfig_unchecked
    {issuer clientId : String}
    (hUnnamed : ¬(issuer ≠ "" ∧ clientId ≠ "")) :
    ¬TenantChecked tenantPlatform testConfig
      (tenantConfig issuer clientId) := by
  apply unchecked_of_unnamed tenantPlatform_serves
  exact hUnnamed

/- Responses without an issuer, or without a client. -/
theorem foreign_token_accepted :
    (resolveReply
          (some ⟨200, some (tenantBody "" "kis")⟩) =
        .ret (.ok (tenantConfig "" "kis")) ∧
      ¬TenantChecked tenantPlatform testConfig
        (tenantConfig "" "kis")) ∧
    (resolveReply
          (some
            ⟨200, some (tenantBody "https://idp.test" "")⟩) =
        .ret (.ok (tenantConfig "https://idp.test" "")) ∧
      ¬TenantChecked tenantPlatform testConfig
        (tenantConfig "https://idp.test" "")) := by
  constructor
  · exact
      ⟨tenantBody_resolves "" "kis",
        tenantConfig_unchecked (by simp)⟩
  · exact
      ⟨tenantBody_resolves "https://idp.test" "",
        tenantConfig_unchecked (by simp)⟩

end KisAuth
