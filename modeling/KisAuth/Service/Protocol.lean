import KisAuth.Service.Handler

/-
  What a request may do, given the answers it has received.

  `Allowed` bounds every call of every route, and `Outcome`
  every way a route ends, in terms of the request's own
  past. Nothing here looks at other requests.

  Key definitions include:
    * `Callback`, `Verified`, `SessionCreated`
    * `Earned`, `CodeIssued`, `TicketIssued`
    * `Allowed`, `Outcome`
-/

------------------------------------------------------------
-- Pasts
------------------------------------------------------------

namespace KisAuth

open Interaction

/- A value a call writes to Redis with SET. -/
def writeOf :
    Answer Eff Eff.Res → Option (String × RedisValue)
| ⟨.redisSet key value _, _⟩ => some (key, value)
| _ => none

/- The values written so far, newest first. -/
def writes (past : Past) : List (String × RedisValue) :=
  past.filterMap writeOf

/- What the ID token library answered. -/
def assertedBy :
    Answer Eff Eff.Res → Option (Option IdTokenPayload)
| ⟨.jwtVerify _ _ _ _, payload⟩ => some payload
| _ => none

/- The answers of the ID token library, newest first. -/
def asserted (past : Past) : List (Option IdTokenPayload) :=
  past.filterMap assertedBy

/- What the lookup of an identity answered. -/
def lookedUpBy :
    Answer Eff Eff.Res →
      Option (Except SqlError (Option AuthIdentity))
| ⟨.selectIdentity _ _, result⟩ => some result
| ⟨.selectIdentityById _, result⟩ => some result
| _ => none

/- The lookups of identities so far, newest first. -/
def lookups (past : Past) :
    List (Except SqlError (Option AuthIdentity)) :=
  past.filterMap lookedUpBy

/-
  Calls that neither write with SET nor verify a token nor
  look an identity up.
-/
def Quiet : Eff → Prop
| .redisSet _ _ _ => False
| .jwtVerify _ _ _ _ => False
| .selectIdentity _ _ => False
| .selectIdentityById _ => False
| _ => True

/- A past with more answers to quiet calls. -/
abbrev Later (past later : Past) : Prop :=
  Extends Quiet past later

theorem Later.writes_eq
    {past later : Past}
    (hLater : Later past later) :
    writes later = writes past := by
  apply hLater.filterMap_eq
  rintro ⟨effect, value⟩ hQuiet
  cases effect with
  | redisSet key stored ttl => exact absurd hQuiet id
  | _ => rfl

theorem Later.asserted_eq
    {past later : Past}
    (hLater : Later past later) :
    asserted later = asserted past := by
  apply hLater.filterMap_eq
  rintro ⟨effect, value⟩ hQuiet
  cases effect with
  | jwtVerify idToken jwksUri issuer audience =>
      exact absurd hQuiet id
  | _ => rfl

theorem Later.lookups_eq
    {past later : Past}
    (hLater : Later past later) :
    lookups later = lookups past := by
  apply hLater.filterMap_eq
  rintro ⟨effect, value⟩ hQuiet
  cases effect with
  | selectIdentity provider providerSubject =>
      exact absurd hQuiet id
  | selectIdentityById id => exact hQuiet.elim
  | _ => rfl

/- More answers, but the same writes and verified tokens. -/
structure Kept (past later : Past) : Prop where
  subset : past ⊆ later
  writes_eq : writes later = writes past
  asserted_eq : asserted later = asserted past

theorem Later.kept
    {past later : Past}
    (hLater : Later past later) : Kept past later :=
  ⟨hLater.subset, hLater.writes_eq, hLater.asserted_eq⟩

theorem Kept.trans
    {past middle later : Past}
    (hFirst : Kept past middle)
    (hSecond : Kept middle later) : Kept past later where
  subset := List.Subset.trans hFirst.subset hSecond.subset
  writes_eq := hSecond.writes_eq.trans hFirst.writes_eq
  asserted_eq := hSecond.asserted_eq.trans hFirst.asserted_eq

/- A lookup writes nothing and verifies nothing. -/
theorem kept_lookup
    (past : Past)
    (provider providerSubject : String)
    (result : Except SqlError (Option AuthIdentity)) :
    Kept past
      (⟨.selectIdentity provider providerSubject, result⟩ ::
        past) :=
  ⟨List.subset_cons_self _ _, rfl, rfl⟩

end KisAuth

------------------------------------------------------------
-- Callbacks And Sessions
------------------------------------------------------------

namespace KisAuth

open Interaction

/- A callback, with the tenant whose route it came in on. -/
structure Callback where
  tenant : Option String
  query : CallbackQuery
  req : BrowserRequest

def Request.callback : Request → Option Callback
| .googleCallback query req => some ⟨none, query, req⟩
| .enterpriseCallback partnerSlug query req =>
    some ⟨some partnerSlug, query, req⟩
| _ => none

/- The provider of the identities a route verifies. -/
def Callback.provider (callback : Callback) : String :=
  match callback.tenant with
  | none => "google"
  | some _ => oidcProvider

/- The subject an identity is kept under. -/
def Callback.subject
    (callback : Callback)
    (sub : String) : String :=
  match callback.tenant with
  | none => sub
  | some partnerSlug => compositeOidcSubject partnerSlug sub

/- The request's cookie names the session that was read. -/
structure ReadsSession
    (req : BrowserRequest)
    (past : Past)
    (sessionId : String)
    (session : OAuthSession) : Prop where
  cookie : sessionCookie req = some (some sessionId)
  read :
    ⟨.redisGet (sessionKey sessionId),
      some (.session session)⟩ ∈ past

/- Django answered the tenant's configuration. -/
def ConfigFetched
    (P : Platform)
    (cfg : KisAuthConfig)
    (past : Past)
    (partnerSlug : String)
    (config : OidcPartnerConfig) : Prop :=
  ∃ base headers reply body,
    P.parseUrl cfg.djangoSsoConfigUrl = some base ∧
      ⟨.fetch
        { method := "GET"
          url :=
            P.href
              (P.setSearchParam base "partner_slug"
                partnerSlug)
          headers := some headers },
        some reply⟩ ∈ past ∧
      statusFailure reply = none ∧
      reply.body = some body ∧
      partnerConfigOf body = some config

/- The configuration came from Django or from the cache. -/
def ConfigResolved
    (P : Platform)
    (cfg : KisAuthConfig)
    (past : Past)
    (partnerSlug : String)
    (config : OidcPartnerConfig) : Prop :=
  (∃ expiresAt,
      ⟨.ssoCacheGet partnerSlug, some (config, expiresAt)⟩ ∈
        past) ∨
    ConfigFetched P cfg past partnerSlug config

def DocFetched
    (past : Past)
    (discoveryUrl : String)
    (doc : OidcDiscoveryDocument) : Prop :=
  ∃ reply,
    ⟨.fetch { method := "GET", url := discoveryUrl }, reply⟩ ∈
        past ∧
      discoveryDocOf reply = some doc

def DocResolved
    (past : Past)
    (discoveryUrl : String)
    (doc : OidcDiscoveryDocument) : Prop :=
  (∃ expiresAt,
      ⟨.discoveryCacheGet discoveryUrl,
        some (doc, expiresAt)⟩ ∈ past) ∨
    DocFetched past discoveryUrl doc

/- The keys and names a token was verified against. -/
def Trusted
    (P : Platform)
    (cfg : KisAuthConfig)
    (past : Past)
    (tenant : Option String)
    (jwksUri : String)
    (issuer : List String)
    (audience : String) : Prop :=
  match tenant with
  | none =>
      jwksUri = googleJwksUrl ∧ issuer = googleIssuers ∧
        audience = cfg.googleClientId
  | some partnerSlug =>
      ∃ config doc,
        ConfigResolved P cfg past partnerSlug config ∧
          DocResolved past config.discoveryUrl doc ∧
          jwksUri = doc.jwksUri ∧
          issuer = [config.issuer] ∧
          audience = config.clientId

/- A token with this nonce was verified, and no other one. -/
def TokenVerified
    (P : Platform)
    (cfg : KisAuthConfig)
    (past : Past)
    (tenant : Option String)
    (nonce : String)
    (token : VerifiedIdToken) : Prop :=
  ∃ text jwksUri issuer audience payload,
    ⟨.jwtVerify text jwksUri issuer audience,
        some payload⟩ ∈ past ∧
      asserted past = [some payload] ∧
      checkPayload nonce payload = some token ∧
      Trusted P cfg past tenant jwksUri issuer audience

/-
  The callback presented the session's cookie, its exact
  state and a code, on the route of its tenant if it is an
  enterprise route, and a token was verified.
-/
structure Verified
    (P : Platform)
    (cfg : KisAuthConfig)
    (callback : Callback)
    (past : Past)
    (sessionId : String)
    (session : OAuthSession)
    (token : VerifiedIdToken) : Prop where
  reads : ReadsSession callback.req past sessionId session
  noError : truthyText callback.query.error = none
  accepted :
    (acceptedCode callback.query session).isSome = true
  tenant :
    ∀ partnerSlug,
      callback.tenant = some partnerSlug →
        session.partnerSlug = some partnerSlug
  token :
    TokenVerified P cfg past callback.tenant session.nonce
      token

end KisAuth

------------------------------------------------------------
-- Writes
------------------------------------------------------------

namespace KisAuth

open Interaction

/- A link ticket was accepted, and its nonce claimed. -/
def LinkAccepted
    (P : Platform)
    (cfg : KisAuthConfig)
    (query : AuthorizeQuery)
    (past : Past)
    (kisUserId : String) : Prop :=
  ∃ ticket nonce exp clock,
    query.linkTicket = some ticket ∧
      readTicket P cfg.internalHmacSecret ticket =
        .ok ⟨kisUserId, nonce, .finite exp⟩ ∧
      ⟨.dateNow, clock⟩ ∈ past ∧
      (wholeSeconds clock : ℚ) < exp ∧
      ⟨.redisSetNx (linkNonceKey nonce)
          (max 1 (exp - wholeSeconds clock)),
        .ok true⟩ ∈ past

/- The session a request to /authorize creates. -/
structure SessionCreated
    (P : Platform)
    (cfg : KisAuthConfig)
    (query : AuthorizeQuery)
    (past : Past)
    (sessionId : String)
    (session : OAuthSession) : Prop where
  first : writes past = []
  sessionId : ⟨.random, sessionId⟩ ∈ past
  state : ⟨.random, session.state⟩ ∈ past
  nonce : ⟨.random, session.nonce⟩ ∈ past
  clientId : session.clientId = query.clientId.getD ""
  redirectUri :
    session.redirectUri = query.redirectUri.getD ""
  purpose : query.purpose = some session.purpose
  clientState :
    truthyText query.state = some session.clientState
  approved :
    ∃ client,
      ⟨.selectClient session.clientId,
          .ok (some client)⟩ ∈ past ∧
        isRedirectUriAllowed client session.redirectUri =
          true ∧
        isPurposeAllowed client session.purpose = true
  codeVerifier : session.codeVerifier = none
  partnerSlug :
    session.partnerSlug = truthyText query.partnerSlug
  slugAllowed : query.partnerSlug.all isPartnerSlug = true
  link :
    session.purpose = "link" →
      ∃ kisUserId,
        LinkAccepted P cfg query past kisUserId ∧
          session.linkKisUserId = truthyText (some kisUserId)
  noLink :
    session.purpose ≠ "link" → session.linkKisUserId = none

/- The session a start route writes back. -/
structure SessionRestarted
    (q : Request)
    (past : Past)
    (sessionId : String)
    (session : OAuthSession) : Prop where
  first : writes past = []
  read :
    ∃ old codeVerifier,
      ⟨.redisGet (sessionKey sessionId),
          some (.session old)⟩ ∈ past ∧
        session =
          { old with codeVerifier := some codeVerifier }
  route :
    ∃ req, sessionCookie req = some (some sessionId) ∧
      (q = .googleStart req ∨
        ∃ partnerSlug,
          q = .enterpriseStart partnerSlug req ∧
            session.partnerSlug = some partnerSlug)

def SessionWrite
    (P : Platform)
    (cfg : KisAuthConfig)
    (q : Request)
    (past : Past)
    (key : String)
    (session : OAuthSession) : Prop :=
  ∃ sessionId,
    key = sessionKey sessionId ∧
      ((∃ query req,
          q = .authorize query req ∧
            SessionCreated P cfg query past sessionId
              session) ∨
        SessionRestarted q past sessionId session)

/- The link call of this past answered with the row. -/
def LinkedRow
    (past : Past)
    (provider providerSubject kisUserId : String)
    (row : AuthIdentity) : Prop :=
  (∃ args,
      ⟨.insertIdentity args, .ok row⟩ ∈ past ∧
        args.provider = provider ∧
        args.providerSubject = providerSubject ∧
        args.kisUserId = kisUserId) ∨
    ∃ existing email verified,
      ⟨.selectIdentity provider providerSubject,
          .ok (some existing)⟩ ∈ past ∧
        existing.kisUserId = kisUserId ∧
        ⟨.updateIdentity email verified existing.id,
          .ok (some row)⟩ ∈ past

/- What a challenge is issued for. -/
inductive Earned
    (callback : Callback)
    (past : Past)
    (session : OAuthSession)
    (token : VerifiedIdToken)
    (record : ChallengeRecord) : Prop where
  | link
      (kisUserId : String)
      (row : AuthIdentity)
      (hPurpose : session.purpose = "link")
      (hUser : session.linkKisUserId = some kisUserId)
      (hRow :
        LinkedRow past callback.provider
          (callback.subject token.sub) kisUserId row)
      (hRecord :
        record.purpose = session.purpose ∧
          record.clientId = session.clientId ∧
          record.kisUserId = some kisUserId ∧
          record.authIdentityId = some row.id)
  | returning
      (row : AuthIdentity)
      (hPurpose : session.purpose ≠ "link")
      (hRegistered : session.purpose ≠ "registration")
      (hRow :
        ⟨.selectIdentity callback.provider
            (callback.subject token.sub),
          .ok (some row)⟩ ∈ past)
      (hRecord :
        record.purpose = session.purpose ∧
          record.clientId = session.clientId ∧
          record.kisUserId = some row.kisUserId ∧
          record.authIdentityId = some row.id)

/-
  A callback writes the challenge it earned, and marks it as
  used afterwards.
-/
def ChallengeWrite
    (P : Platform)
    (cfg : KisAuthConfig)
    (q : Request)
    (past : Past)
    (key : String)
    (record : ChallengeRecord) : Prop :=
  ∃ challengeId callback sessionId session token first,
    key = challengeKey challengeId ∧
      ⟨.random, challengeId⟩ ∈ past ∧
      q.callback = some callback ∧
      Verified P cfg callback past sessionId session token ∧
      Earned callback past session token first ∧
      ((writes past = [] ∧ record = first) ∨
        record.used = true)

/- The challenges written before a code is issued. -/
def ChallengesOnly
    (past : Past)
    (challengeId : String)
    (first : ChallengeRecord) : Prop :=
  ∀ key value, (key, value) ∈ writes past →
    key = challengeKey challengeId ∧
      (value = .challenge first ∨
        ∃ marked : ChallengeRecord,
          value = .challenge marked ∧ marked.used = true)

/- A callback issues an authorization code. -/
structure CodeIssued
    (P : Platform)
    (cfg : KisAuthConfig)
    (callback : Callback)
    (past : Past)
    (key : String)
    (payload : AuthorizationCodePayload)
    (sessionId : String)
    (session : OAuthSession)
    (token : VerifiedIdToken) : Prop where
  verified :
    Verified P cfg callback past sessionId session token
  code : ∃ code, key = codeKey code ∧ ⟨.random, code⟩ ∈ past
  challenge :
    ∃ challengeId first record,
      ⟨.random, challengeId⟩ ∈ past ∧
        Earned callback past session token first ∧
        ChallengesOnly past challengeId first ∧
        ⟨.redisGet (challengeKey challengeId),
          some (.challenge record)⟩ ∈ past ∧
        confirmedPayload (some record) session.redirectUri =
          some payload
  deleted : ⟨.redisDel (sessionKey sessionId), ()⟩ ∈ past

/- The purpose of the tickets of a route. -/
def Callback.registrationPurpose
    (callback : Callback) : String :=
  match callback.tenant with
  | none => "registration"
  | some _ => "enterprise_sso_registration"

/- A callback issues a registration ticket. -/
structure TicketIssued
    (P : Platform)
    (cfg : KisAuthConfig)
    (callback : Callback)
    (past : Past)
    (key : String)
    (payload : RegistrationTicketPayload)
    (sessionId : String)
    (session : OAuthSession)
    (token : VerifiedIdToken) : Prop where
  verified :
    Verified P cfg callback past sessionId session token
  first : writes past = []
  code :
    ∃ code, key = regTicketKey code ∧ ⟨.random, code⟩ ∈ past
  purpose : session.purpose = "registration"
  unregistered :
    ⟨.selectIdentity callback.provider
        (callback.subject token.sub),
      .ok none⟩ ∈ past
  clientId : payload.clientId = session.clientId
  redirectUri : payload.redirectUri = session.redirectUri
  registration :
    payload.purpose = callback.registrationPurpose
  provider : payload.provider = callback.provider
  providerSubject :
    payload.providerSubject = callback.subject token.sub
  providerEmail : payload.providerEmail = token.email
  providerEmailVerified :
    payload.providerEmailVerified = token.emailVerified
  partnerSlug : payload.partnerSlug = callback.tenant
  deleted : ⟨.redisDel (sessionKey sessionId), ()⟩ ∈ past

/- What may be written under a key with SET. -/
def WriteAllowed
    (P : Platform)
    (cfg : KisAuthConfig)
    (q : Request)
    (past : Past)
    (key : String) : RedisValue → Prop
| .session session => SessionWrite P cfg q past key session
| .challenge record =>
    ChallengeWrite P cfg q past key record
| .code payload =>
    ∃ callback sessionId session token,
      q.callback = some callback ∧
        CodeIssued P cfg callback past key payload sessionId
          session token
| .ticket payload =>
    ∃ callback sessionId session token,
      q.callback = some callback ∧
        TicketIssued P cfg callback past key payload
          sessionId session token
| .claimed => False
| .count _ => False

end KisAuth

------------------------------------------------------------
-- Identities And Redemptions
------------------------------------------------------------

namespace KisAuth

open Interaction

/- A signed request to link an identity. -/
def LinkRequested
    (P : Platform)
    (post : InternalPost)
    (past : Past)
    (args : NewIdentity) : Prop :=
  ⟨.verifySignature
      { method := "POST"
        url := identityLinkUrl
        body := post.body
        headers := post.headers },
    some .ok⟩ ∈ past ∧
    requestedLink P post.body = some args

/- A callback that links its identity. -/
structure LinkEarned
    (P : Platform)
    (cfg : KisAuthConfig)
    (callback : Callback)
    (past : Past)
    (args : NewIdentity)
    (sessionId : String)
    (session : OAuthSession)
    (token : VerifiedIdToken) : Prop where
  verified :
    Verified P cfg callback past sessionId session token
  purpose : session.purpose = "link"
  provider : args.provider = callback.provider
  providerSubject :
    args.providerSubject = callback.subject token.sub
  kisUserId : session.linkKisUserId = some args.kisUserId

/- What an identity may be linked from. -/
def LinkAuthorized
    (P : Platform)
    (cfg : KisAuthConfig)
    (q : Request)
    (past : Past)
    (args : NewIdentity) : Prop :=
  (∃ post,
      q = .identityLink post ∧
        LinkRequested P post past args) ∨
    ∃ callback sessionId session token,
      q.callback = some callback ∧
        LinkEarned P cfg callback past args sessionId session
          token

/- What an identity may be looked up for. -/
def LookupAuthorized
    (P : Platform)
    (cfg : KisAuthConfig)
    (q : Request)
    (past : Past)
    (provider providerSubject : String) : Prop :=
  (∃ post args,
      q = .identityLink post ∧
        LinkRequested P post past args ∧
        provider = args.provider ∧
        providerSubject = args.providerSubject) ∨
    ∃ callback sessionId session token,
      q.callback = some callback ∧
        Verified P cfg callback past sessionId session
          token ∧
        provider = callback.provider ∧
        providerSubject = callback.subject token.sub

/- The row a link found bound to its user already. -/
def RetryAuthorized
    (P : Platform)
    (cfg : KisAuthConfig)
    (q : Request)
    (past : Past)
    (id : String) : Prop :=
  ∃ args row,
    LinkAuthorized P cfg q past args ∧
      ⟨.selectIdentity args.provider args.providerSubject,
          .ok (some row)⟩ ∈ past ∧
      row.kisUserId = args.kisUserId ∧
      row.id = id

/- The row of a user who returns for another purpose. -/
def ReturnAuthorized
    (P : Platform)
    (cfg : KisAuthConfig)
    (q : Request)
    (past : Past)
    (id : String) : Prop :=
  ∃ callback sessionId session token row,
    q.callback = some callback ∧
      Verified P cfg callback past sessionId session token ∧
      session.purpose ≠ "link" ∧
      session.purpose ≠ "registration" ∧
      ⟨.selectIdentity callback.provider
          (callback.subject token.sub),
        .ok (some row)⟩ ∈ past ∧
      row.id = id

/- A field of the body, `undefined` where there is none. -/
def InternalPost.field
    (post : InternalPost)
    (name : String) : JsValue :=
  (post.body.member name).getD .undefined

/-
  The redemption was signed, and it names a code, a client
  and a redirect URI.
-/
structure Admitted
    (route : Redemption)
    (post : InternalPost)
    (past : Past) : Prop where
  signed :
    ⟨.verifySignature
        { method := "POST"
          url := route.url
          body := post.body
          headers := post.headers },
      some .ok⟩ ∈ past
  code : (post.field "code").truthy = true
  clientId : (post.field "client_id").truthy = true
  redirectUri : (post.field "redirect_uri").truthy = true

/- The route a request redeems a code or ticket at. -/
def Request.redeems :
    Request → Option (Redemption × KeyFamily × InternalPost)
| .authorizationExchange post =>
    some (authorizationRedemption, .code, post)
| .registrationExchange post =>
    some (registrationRedemption, .regTicket, post)
| _ => none

/- A code or ticket is consumed by a request naming it. -/
def ConsumeAllowed
    (P : Platform)
    (q : Request)
    (past : Past)
    (key : String) : Prop :=
  ∃ route family post code,
    q.redeems = some (route, family, post) ∧
      Admitted route post past ∧
      (post.field "code").toJsString P.joinDepth = some code ∧
      key = storeKey family code

/- The row of an earlier lookup of this request. -/
def RowLookedUp (past : Past) (id : String) : Prop :=
  ∃ provider providerSubject row,
    ⟨.selectIdentity provider providerSubject,
        .ok (some row)⟩ ∈ past ∧
      row.id = id

theorem RetryAuthorized.lookedUp
    {P : Platform}
    {cfg : KisAuthConfig}
    {q : Request}
    {past : Past}
    {id : String}
    (hAuthorized : RetryAuthorized P cfg q past id) :
    RowLookedUp past id := by
  rcases hAuthorized with ⟨args, row, _, hSelect, _, hId⟩
  exact ⟨_, _, row, hSelect, hId⟩

theorem ReturnAuthorized.lookedUp
    {P : Platform}
    {cfg : KisAuthConfig}
    {q : Request}
    {past : Past}
    {id : String}
    (hAuthorized : ReturnAuthorized P cfg q past id) :
    RowLookedUp past id := by
  rcases hAuthorized with
    ⟨_, _, _, _, row, _, _, _, _, hSelect, hId⟩
  exact ⟨_, _, row, hSelect, hId⟩

/- The client a redemption counts against, if it names one. -/
def InternalPost.namedClient
    (P : Platform)
    (post : InternalPost) : Option String :=
  match post.body.member "client_id" with
  | some clientId =>
      if clientId.truthy then clientId.toJsString P.joinDepth
      else none
  | none => none

/-
  The rate limits of a redemption: one of its address, and
  one of the client it names.
-/
def Redemption.limits
    (P : Platform)
    (route : Redemption)
    (post : InternalPost) : List (RateLimitPolicy × String) :=
  (route.perIp, post.ip) ::
    (post.namedClient P).toList.map
      (fun clientId => (route.perClient, clientId))

/- The rate limits a request counts against. -/
def Request.limits (P : Platform) :
    Request → List (RateLimitPolicy × String)
| .authorize _ req => [(RateLimits.authorize, req.ip)]
| .googleStart req => [(RateLimits.oauthGoogleStart, req.ip)]
| .googleCallback _ req =>
    [(RateLimits.oauthGoogleCallback, req.ip)]
| .enterpriseStart _ req =>
    [(RateLimits.oauthEnterpriseStart, req.ip)]
| .enterpriseCallback _ _ req =>
    [(RateLimits.oauthEnterpriseCallback, req.ip)]
| .authorizationExchange post =>
    authorizationRedemption.limits P post
| .registrationExchange post =>
    registrationRedemption.limits P post
| _ => []

/- The keys their hits are counted under. -/
def Request.counters
    (P : Platform)
    (q : Request) : List String :=
  (q.limits P).map
    (fun limit => rateLimitKey limit.1.scope limit.2)

theorem counter_key
    {P : Platform}
    {q : Request}
    {key : String}
    (hKey : key ∈ q.counters P) :
    ∃ scope identifier, key = rateLimitKey scope identifier := by
  rcases List.mem_map.mp hKey with ⟨limit, _, hSame⟩
  exact ⟨_, _, hSame.symm⟩

/- A session or a challenge is read. -/
def ReadAllowed (key : String) : Prop :=
  (∃ sessionId, key = sessionKey sessionId) ∨
    ∃ challengeId, key = challengeKey challengeId

/- What each call is allowed for. -/
def Allowed
    (P : Platform)
    (cfg : KisAuthConfig)
    (q : Request)
    (past : Past) : Eff → Prop
| .redisSet key value _ => WriteAllowed P cfg q past key value
| .redisSetNx key _ => ∃ nonce, key = linkNonceKey nonce
| .redisDel key => ∃ sessionId, key = sessionKey sessionId
| .redisConsume key => ConsumeAllowed P q past key
| .redisGet key => ReadAllowed key
| .redisTtl key => ReadAllowed key
| .redisIncr key _ => key ∈ q.counters P
| .selectIdentity provider providerSubject =>
    lookups past = [] ∧
      LookupAuthorized P cfg q past provider providerSubject
| .insertIdentity args =>
    LinkAuthorized P cfg q past args ∧
      ⟨.selectIdentity args.provider args.providerSubject,
        .ok none⟩ ∈ past
| .updateIdentity _ _ id => RetryAuthorized P cfg q past id
| .touchIdentity id => ReturnAuthorized P cfg q past id
| .ssoCacheSet partnerSlug config _ =>
    ConfigFetched P cfg past partnerSlug config
| .discoveryCacheSet discoveryUrl doc _ =>
    DocFetched past discoveryUrl doc
| .selectIdentityById _ =>
    lookups past = [] ∧ q.callback = none
| .jwtVerify _ _ _ _ => asserted past = []
| _ => True

end KisAuth

------------------------------------------------------------
-- Outcomes
------------------------------------------------------------

namespace KisAuth

open Interaction

/- A code was turned into a token. -/
structure CodeRedeemed
    (P : Platform)
    (post : InternalPost)
    (past : Past)
    (token : AuthorizationJwt)
    (code : String)
    (payload : AuthorizationCodePayload)
    (identity : AuthIdentity) : Prop where
  admitted : Admitted authorizationRedemption post past
  named :
    (post.field "code").toJsString P.joinDepth = some code
  consumed :
    ⟨.redisConsume (codeKey code), some (.code payload)⟩ ∈
      past
  clientId : post.field "client_id" = .str payload.clientId
  redirectUri :
    post.field "redirect_uri" = .str payload.redirectUri
  read :
    ⟨.selectIdentityById payload.authIdentityId,
      .ok (some identity)⟩ ∈ past
  current : redeemable payload identity = true
  sub : token.sub = truthyText (some payload.kisUserId)
  aud : token.aud = payload.clientId
  purpose : token.purpose = payload.purpose
  authIdentityId :
    token.authIdentityId = some payload.authIdentityId
  provider : token.provider = none
  providerSubject : token.providerSubject = none
  partnerSlug : token.partnerSlug = none

/- A ticket was turned into a token. -/
structure TicketRedeemed
    (P : Platform)
    (post : InternalPost)
    (past : Past)
    (token : AuthorizationJwt)
    (code : String)
    (payload : RegistrationTicketPayload) : Prop where
  admitted : Admitted registrationRedemption post past
  named :
    (post.field "code").toJsString P.joinDepth = some code
  consumed :
    ⟨.redisConsume (regTicketKey code),
      some (.ticket payload)⟩ ∈ past
  clientId : post.field "client_id" = .str payload.clientId
  redirectUri :
    post.field "redirect_uri" = .str payload.redirectUri
  sub : token.sub = none
  aud : token.aud = payload.clientId
  purpose : token.purpose = payload.purpose
  authIdentityId : token.authIdentityId = none
  provider : token.provider = truthyText (some payload.provider)
  providerSubject :
    token.providerSubject = some payload.providerSubject
  providerEmail : token.providerEmail = payload.providerEmail
  providerEmailVerified :
    token.providerEmailVerified =
      payload.providerEmailVerified
  partnerSlug :
    token.partnerSlug = truthyText payload.partnerSlug

def TokenIssued
    (P : Platform)
    (q : Request)
    (past : Past)
    (token : AuthorizationJwt) : Prop :=
  (∃ post code payload identity,
      q = .authorizationExchange post ∧
        CodeRedeemed P post past token code payload identity) ∨
    ∃ post code payload,
      q = .registrationExchange post ∧
        TicketRedeemed P post past token code payload

/- The parameters a hand-off to a client may carry. -/
def clientParams : List String :=
  ["code", "error", "state", "provider_subject"]

/- A code or a ticket. -/
def RedisValue.isGrant : RedisValue → Prop
| .code _ => True
| .ticket _ => True
| _ => False

/- Where a code or ticket is stored. -/
def grantKey (value : RedisValue) (code : String) : String :=
  match value with
  | .code _ => codeKey code
  | _ => regTicketKey code

/-
  What a hand-off tells the client: a failure, or a code or
  ticket that was stored just before.
-/
inductive Delivers
    (past : Past)
    (session : OAuthSession) :
    List (String × String) → Prop where
  | failure
      (params : List (String × String))
      (hParams :
        ∀ param ∈ params,
          param.1 ∈ ["error", "state", "provider_subject"]) :
      Delivers past session params
  | grant
      (code : String)
      (value : RedisValue)
      (ttl : ℚ)
      (hGrant : value.isGrant)
      (hStored :
        ⟨.redisSet (grantKey value code) value ttl, .ok ()⟩ ∈
          past) :
      Delivers past session
        [("code", code), ("state", session.clientState)]

theorem Delivers.params
    {past : Past}
    {session : OAuthSession}
    {params : List (String × String)}
    (hDelivers : Delivers past session params) :
    ∀ param ∈ params, param.1 ∈ clientParams := by
  cases hDelivers with
  | failure params hParams =>
      intro param hMem
      have hName := hParams param hMem
      simp only [clientParams, List.mem_cons,
        List.not_mem_nil, or_false] at hName ⊢
      tauto
  | grant code value ttl hGrant hStored =>
      simp [clientParams]

/-
  The location hands off, through a page of the status
  route, to the redirect URI of a session the request read.
-/
def HandsOff
    (P : Platform)
    (cfg : KisAuthConfig)
    (req : BrowserRequest)
    (past : Past)
    (location : String) : Prop :=
  ∃ sessionId session target state params,
    ReadsSession req past sessionId session ∧
      P.parseUrl session.redirectUri = some target ∧
      state ∈ pageStates.map Prod.fst ∧
      Delivers past session params ∧
      statusRedirectUrl P cfg state
          (P.href (setSearchParams P target params)) =
        some location

/- The location is a tenant's authorization endpoint. -/
def ToTenant
    (P : Platform)
    (cfg : KisAuthConfig)
    (partnerSlug : String)
    (req : BrowserRequest)
    (past : Past)
    (location : String) : Prop :=
  ∃ sessionId session config doc url params,
    ReadsSession req past sessionId session ∧
      session.partnerSlug = some partnerSlug ∧
      ConfigResolved P cfg past partnerSlug config ∧
      DocResolved past config.discoveryUrl doc ∧
      P.parseUrl doc.authorizationEndpoint = some url ∧
      location = P.href (setSearchParams P url params)

/- Where a redirect of each route goes. -/
def SentTo
    (P : Platform)
    (cfg : KisAuthConfig)
    (past : Past)
    (location : String) : Request → Prop
| .authorize query _ =>
    location = OAuthController.startLocation query.partnerSlug
| .googleStart _ =>
    ∃ url params,
      P.parseUrl googleAuthUrl = some url ∧
        location = P.href (setSearchParams P url params)
| .enterpriseStart partnerSlug req =>
    ToTenant P cfg partnerSlug req past location
| .googleCallback _ req => HandsOff P cfg req past location
| .enterpriseCallback _ _ req =>
    HandsOff P cfg req past location
| _ => False

/- The URLs a page sends the browser to. -/
def Page.targets (page : Page) : List String :=
  (page.refresh.map Prod.snd).toList ++
    (page.button.map Prod.fst).toList

/- The URL the status page was given, where it parses. -/
def Request.handOff
    (P : Platform) : Request → Option P.Url
| .status query =>
    (truthyText query.clientRedirect).bind P.parseUrl
| _ => none

/- What a response says about the request's past. -/
def Answered
    (P : Platform)
    (cfg : KisAuthConfig)
    (q : Request)
    (past : Past) : Response → Prop
| .redirect location _ => SentTo P cfg past location q
| .token token => TokenIssued P q past token
| .linked identityId =>
    ∃ post args row,
      q = .identityLink post ∧
        LinkRequested P post past args ∧
        LinkedRow past args.provider args.providerSubject
          args.kisUserId row ∧
        identityId = row.id
| .page page =>
    page.targets =
      match q.handOff P with
      | some url => [P.href url, P.href url]
      | none => []
| .data => True

/- An admitted redemption has consumed what it names. -/
def Redeemed
    (P : Platform)
    (q : Request)
    (past : Past) : Prop :=
  ∀ route family post code,
    q.redeems = some (route, family, post) →
      Admitted route post past →
        (post.field "code").toJsString P.joinDepth = some code →
          ∃ found,
            ⟨.redisConsume (storeKey family code), found⟩ ∈
              past

/- How a request may end. -/
def Outcome
    (P : Platform)
    (cfg : KisAuthConfig)
    (q : Request)
    (past : Past) : Except HttpError Response → Prop
| .ok response =>
    Redeemed P q past ∧ Answered P cfg q past response
| .error _ => Redeemed P q past

end KisAuth
