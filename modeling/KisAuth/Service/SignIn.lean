import KisAuth.Service.Leading

/-
  How the browser's routes succeed: the calls they make, one
  after the other, and the world they leave.

  Key definitions include:
    * `Deployment`, `signInQuery`, `returnQuery`
    * `googleLocation`, `statusLocation`

  Key theorems include:
    * `authorize_leads`, `start_leads`
    * `leads_returningUser`, `leads_registration`
    * `leads_callback`
-/

------------------------------------------------------------
-- The Browser's Part
------------------------------------------------------------

namespace KisAuth

open Interaction Prog Store

variable {P : Platform} {cfg : KisAuthConfig} {world : World}

/- What a client's link to /authorize carries. -/
def signInQuery
    (clientId redirectUri purpose clientState : String) :
    AuthorizeQuery where
  clientId := some clientId
  redirectUri := some redirectUri
  purpose := some purpose
  state := some clientState
  linkTicket := none
  partnerSlug := none

/- The session it begins. -/
def signInSession
    (clientId redirectUri purpose clientState : String)
    (state nonce : String)
    (codeVerifier : Option String) : OAuthSession where
  clientId := clientId
  redirectUri := redirectUri
  purpose := purpose
  state := state
  nonce := nonce
  clientState := clientState
  codeVerifier := codeVerifier
  linkKisUserId := none
  partnerSlug := none

/- When a session ends that is written now. -/
def sessionDeadline (world : World) : Nat :=
  world.clock + 600 * 1000

end KisAuth

------------------------------------------------------------
-- The Deployment
------------------------------------------------------------

namespace KisAuth

variable {P : Platform} {cfg : KisAuthConfig} {world : World}

/- Up to here, integers are doubles. -/
def safeIntegers : Nat :=
  2 ^ 53

theorem safeIntegers_le : safeIntegers ≤ 2 ^ 63 := by
  norm_num [safeIntegers]

/- The two routes that redeem a code or a ticket. -/
def redemptionRoutes : List Redemption :=
  [authorizationRedemption, registrationRedemption]

/-
  A deployment that can complete a sign-in. Its addresses are
  URLs, its terms are whole numbers of seconds, and it allows
  an attempt. Its private key signs. Its digests are texts,
  a flat body can be signed, and a number of seconds is read
  as it is written.
-/
structure Deployment
    (P : Platform)
    (cfg : KisAuthConfig) where
  googleUrl : P.Url
  statusUrl : P.Url
  challengeSeconds : Nat
  codeSeconds : Nat
  parseGoogle : P.parseUrl googleAuthUrl = some googleUrl
  parseStatus :
    P.parseUrlAt "/status" cfg.baseUrl = some statusUrl
  parseInternal :
    ∀ route ∈ redemptionRoutes,
      P.parseUrlAt route.url "http://internal.local" ≠ none
  challengeTtl : cfg.challengeTtlSeconds = challengeSeconds
  challengePositive : 0 < challengeSeconds
  codeTtl : cfg.authCodeTtlSeconds = codeSeconds
  codePositive : 0 < codeSeconds
  attempts : 0 < cfg.challengeMaxAttempts
  imports :
    P.importPKCS8 (normalizePem cfg.jwtPrivateKeyPem) = true
  signsTokens :
    P.signsRS256 (normalizePem cfg.jwtPrivateKeyPem) = true
  flat : 1 ≤ P.stringifyDepth
  digest :
    ∀ payload,
      P.hmacSha256Hex cfg.internalHmacSecret payload ≠ ""
  seconds :
    ∀ count : Nat,
      count < safeIntegers →
        P.number (toString count) = some (count : ℚ)

/- The clock leaves room for every term. -/
def Deployment.Timely
    (deployment : Deployment P cfg)
    (world : World) : Prop :=
  world.clock +
      (600 + deployment.challengeSeconds +
          deployment.codeSeconds) *
        1000 <
    safeIntegers

section Timely

variable {deployment : Deployment P cfg}

theorem Deployment.Timely.allows
    {seconds : Nat}
    (hTimely : deployment.Timely world)
    (hSeconds :
      seconds ≤
        600 + deployment.challengeSeconds +
          deployment.codeSeconds) :
    AllowsTtl world seconds := by
  unfold AllowsTtl
  apply lt_of_lt_of_le _ safeIntegers_le
  apply lt_of_le_of_lt _ hTimely
  omega

theorem Deployment.Timely.session
    (hTimely : deployment.Timely world) :
    AllowsTtl world 600 :=
  hTimely.allows (by omega)

theorem Deployment.Timely.challenge
    (hTimely : deployment.Timely world) :
    AllowsTtl world deployment.challengeSeconds :=
  hTimely.allows (by omega)

theorem Deployment.Timely.code
    (hTimely : deployment.Timely world) :
    AllowsTtl world deployment.codeSeconds :=
  hTimely.allows (by omega)

end Timely

end KisAuth

------------------------------------------------------------
-- Beginning A Sign-In
------------------------------------------------------------

namespace KisAuth

open Interaction Prog Store

variable {P : Platform} {cfg : KisAuthConfig} {world : World}

/- The limit of the policy is not used up. -/
def HasRoom
    (world : World)
    (policy : RateLimitPolicy)
    (identifier : String) : Prop :=
  hitsOf
      (world.redis.find world.clock
        (rateLimitKey policy.scope identifier)) <
    policy.limit

/- Only a link has a user to look up. -/
theorem leads_linkUser
    {query : AuthorizeQuery}
    {purpose : String}
    {req : BrowserRequest}
    (hLink : purpose ≠ "link") :
    Leading P cfg
      (OAuthController.linkUser P cfg query purpose req) world
      none world := by
  unfold OAuthController.linkUser
  rw [if_neg hLink]
  exact leads_ret _ _

/- A session is stored under a fresh identifier. -/
theorem leads_createSession
    {session : OAuthSession}
    {sessionId : String}
    (hFresh : sessionId ∉ world.randoms)
    (hTtl : AllowsTtl world 600) :
    Leading P cfg (OAuthSessionStore.create session) world
      sessionId
      ((world.draw sessionId).store (sessionKey sessionId)
        (.session session) (sessionDeadline world)) := by
  have hSeconds :
      ((sessionTtlSeconds : Int) : ℚ) = ((600 : Nat) : ℚ) :=
    rfl
  have hValid :
      validExpire world.clock ((sessionTtlSeconds : Int) : ℚ) =
        some (sessionDeadline world) := by
    rw [hSeconds]
    exact validExpire_nat (by decide) hTtl
  apply (leads_random hFresh).bind
  refine (leads_set (by exact hValid)).bind ?_
  exact leads_ret _ _

theorem authorize_leads
    {clientId redirectUri purpose clientState ip : String}
    {client : RegisteredClient}
    (hRoom : HasRoom world RateLimits.authorize ip)
    (hClient :
      world.tables.selectClient clientId = .ok (some client))
    (hUri : isRedirectUriAllowed client redirectUri = true)
    (hPurpose : isPurposeAllowed client purpose = true)
    (hLink : purpose ≠ "link")
    (hState : clientState ≠ "")
    (hTtl : AllowsTtl world 600) :
    ∃ sessionId state nonce last,
      sessionId ≠ "" ∧ state ≠ "" ∧
        Leading P cfg
          (OAuthController.authorize P cfg
            (signInQuery clientId redirectUri purpose
              clientState)
            ⟨ip, none⟩)
          world
          (.redirect "/oauth/google/start"
            (some
              (serializeSessionCookie sessionCookieName
                sessionId
                (decide (cfg.nodeEnv = "production")) 600)))
          last ∧
        SameBeside
          [sessionKey sessionId,
            rateLimitKey RateLimits.authorize.scope ip]
          world last ∧
        last.tables = world.tables ∧
        StoredUntil last (sessionKey sessionId)
          (.session
            (signInSession clientId redirectUri purpose
              clientState state nonce none))
          (sessionDeadline world) := by
  rcases exists_fresh world.randoms with
    ⟨state, hFresh, hNonempty⟩
  rcases exists_fresh (state :: world.randoms) with
    ⟨nonce, hNonceFresh, _⟩
  rcases exists_fresh (nonce :: state :: world.randoms) with
    ⟨sessionId, hIdFresh, hId⟩
  refine
    ⟨sessionId, state, nonce,
      ((((world.hit
          (rateLimitKey RateLimits.authorize.scope ip)
          RateLimits.authorize.windowSeconds).draw
        state).draw nonce).draw sessionId).store
        (sessionKey sessionId)
        (.session
          (signInSession clientId redirectUri purpose
            clientState state nonce none))
        (sessionDeadline world),
      hId, hNonempty, ?_, ?_, rfl, if_pos rfl,
      Nat.lt_add_of_pos_right (by decide)⟩
  · have hClientState :
        truthyText (some clientState) = some clientState :=
      if_neg hState
    have hNoSlug : truthyText none = none := rfl
    unfold OAuthController.authorize
    apply (leads_enforceRateLimit hRoom).bind
    dsimp only [signInQuery, Option.getD_some]
    refine (leads_findByClientId (by exact hClient)).bind ?_
    simp only [hClientState, hNoSlug, hUri, hPurpose,
      Option.all_none, Bool.and_self, if_true]
    apply (leads_linkUser hLink).bind
    refine (leads_random (by exact hFresh)).bind ?_
    refine (leads_random (by exact hNonceFresh)).bind ?_
    refine
      (leads_createSession (by exact hIdFresh)
        (by exact hTtl)).bind ?_
    exact leads_ret _ _
  · exact
      ((((SameBeside.refl world).write _ _).draw state).draw
        nonce).draw sessionId |>.write _ _

/- The session that the request's cookie names. -/
theorem leads_session
    {sessionId : String}
    {session : OAuthSession}
    {deadline : Nat}
    (hId : sessionId ≠ "")
    (hStored :
      StoredUntil world (sessionKey sessionId)
        (.session session) deadline) :
    Leading P cfg (sessionOf (some sessionId)) world
      (some (sessionId, session)) world := by
  have hGet :
      Leading P cfg (OAuthSessionStore.get sessionId) world
        (some session) world := by
    have hRead :
        OAuthSessionStore.asSession
            (world.redis.read world.clock
              (sessionKey sessionId)) =
          some session := by
      rw [hStored.read]
      rfl
    rw [← hRead]
    exact (leads_get _).bind (leads_ret _ _)
  simp only [sessionOf, if_neg hId]
  exact hGet.bind (leads_ret _ _)

/- A session is written back for the time it had left. -/
theorem leads_updateSession
    {sessionId : String}
    {session session' : OAuthSession}
    (hStored :
      StoredUntil world (sessionKey sessionId)
        (.session session) (sessionDeadline world))
    (hTtl : AllowsTtl world 600) :
    Leading P cfg (OAuthSessionStore.update sessionId session')
      world ()
      (world.store (sessionKey sessionId) (.session session')
        (sessionDeadline world)) := by
  have hLeft :
      remainingTtl world.clock
          (world.redis.find world.clock
            (sessionKey sessionId)) =
        ((600 : Nat) : Int) :=
    StoredUntil.ttl hStored
  have hValid :
      validExpire world.clock (((600 : Nat) : Int) : ℚ) =
        some (sessionDeadline world) :=
    validExpire_nat (by decide) hTtl
  apply (leads_ttl _).bind
  rw [hLeft]
  exact leads_set hValid

/- Where the browser is sent to sign in. -/
def googleLocation
    (P : Platform)
    (cfg : KisAuthConfig)
    (url : P.Url)
    (session : OAuthSession)
    (codeVerifier : String) : String :=
  P.href
    (setSearchParams P url
      (authorizationParams P session cfg.googleClientId
        cfg.googleRedirectUri codeVerifier))

theorem start_leads
    {req : BrowserRequest}
    {sessionId : String}
    {session : OAuthSession}
    (deployment : Deployment P cfg)
    (hRoom : HasRoom world RateLimits.oauthGoogleStart req.ip)
    (hCookie : sessionCookie req = some (some sessionId))
    (hId : sessionId ≠ "")
    (hStored :
      StoredUntil world (sessionKey sessionId)
        (.session session) (sessionDeadline world))
    (hTtl : AllowsTtl world 600) :
    ∃ codeVerifier last,
      codeVerifier ≠ "" ∧
        Leading P cfg (OAuthController.start P cfg req) world
          (.redirect
            (googleLocation P cfg deployment.googleUrl session
              codeVerifier)
            none)
          last ∧
        SameBeside
          [sessionKey sessionId,
            rateLimitKey RateLimits.oauthGoogleStart.scope
              req.ip]
          world last ∧
        last.tables = world.tables ∧
        StoredUntil last (sessionKey sessionId)
          (.session
            { session with codeVerifier := some codeVerifier })
          (sessionDeadline world) := by
  rcases exists_fresh world.randoms with
    ⟨codeVerifier, hFresh, hNonempty⟩
  have hLimited :
      SameBeside
        [rateLimitKey RateLimits.oauthGoogleStart.scope req.ip]
        world
        (world.hit
          (rateLimitKey RateLimits.oauthGoogleStart.scope
            req.ip)
          RateLimits.oauthGoogleStart.windowSeconds) :=
    (SameBeside.refl world).write _ _
  have hStill :=
    hStored.kept hLimited
      (by simp [sessionKey, rateLimitKey])
  have hDrawn :=
    hStored.kept (hLimited.draw codeVerifier)
      (by simp [sessionKey, rateLimitKey])
  refine
    ⟨codeVerifier, _, hNonempty, ?_,
      ((hLimited.draw codeVerifier).write _ _), rfl,
      if_pos rfl, Nat.lt_add_of_pos_right (by decide)⟩
  unfold OAuthController.start
  apply (leads_enforceRateLimit hRoom).bind
  apply (leads_orCrash hCookie).bind
  apply (leads_session hId hStill).bind
  refine (leads_random (by exact hFresh)).bind ?_
  refine (leads_updateSession (by exact hDrawn) (by exact hTtl)).bind ?_
  apply (leads_orCrash deployment.parseGoogle).bind
  exact leads_ret _ _

end KisAuth

------------------------------------------------------------
-- Confirming An Identity
------------------------------------------------------------

namespace KisAuth

open Interaction Prog Store

variable {P : Platform} {cfg : KisAuthConfig} {world : World}

/- What the provider vouches for. -/
def vouched (cfg : KisAuthConfig) (nonce sub : String) :
    IdTokenPayload where
  iss := .str "https://accounts.google.com"
  aud := .str cfg.googleClientId
  nonce := .str nonce
  sub := .str sub
  email := .undefined
  emailVerified := .undefined

/- What the service takes from that. -/
def vouchedIdentity (sub : String) : VerifiedIdToken where
  sub := sub
  email := none
  emailVerified := false

theorem checkPayload_vouched
    {nonce sub : String}
    (hSub : sub ≠ "") :
    checkPayload nonce (vouched cfg nonce sub) =
      some (vouchedIdentity sub) := by
  have hNonce :
      (vouched cfg nonce sub).nonce.asString = some nonce :=
    rfl
  unfold checkPayload
  rw [if_pos hNonce]
  exact if_neg hSub

/- The reply of a token endpoint. -/
def tokenReply (idToken : String) : FetchReply where
  status := 200
  body := some (.obj [("id_token", .str idToken)])

theorem leads_verifiedIdentity
    {code codeVerifier nonce sub idToken : String}
    (hSub : sub ≠ "")
    (hToken : idToken ≠ "") :
    Leading P cfg
      (OAuthController.verifiedIdentity cfg code codeVerifier
        nonce)
      world (.ok (vouchedIdentity sub)) world := by
  have hTokenOf :
      idTokenOf (some (tokenReply idToken)) =
        .ok (.str idToken) := by
    simp [idTokenOf, tokenReply, FetchReply.ok,
      JsValue.member, JsValue.truthy, hToken]
  have hExchange :
      Leading P cfg
        (GoogleTokenExchangeService.exchangeCodeForIdToken cfg
          code codeVerifier)
        world (.ok (.str idToken)) world := by
    rw [← hTokenOf]
    exact (leads_fetch _ _).bind (leads_ret _ _)
  have hVerify :
      Leading P cfg
        (GoogleIdTokenService.verify cfg (.str idToken) nonce)
        world (.ok (vouchedIdentity sub)) world := by
    have hCheck :
        (some (vouched cfg nonce sub)).bind
            (checkPayload nonce) =
          some (vouchedIdentity sub) :=
      checkPayload_vouched hSub
    unfold GoogleIdTokenService.verify verifyOidcIdToken
    refine
      (leads_perform (.payload (some (vouched cfg nonce sub)))
        rfl).bind ?_
    simp only [hCheck]
    exact leads_ret _ _
  unfold OAuthController.verifiedIdentity
  exact hExchange.bind hVerify

/- The status page, which hands off to the client. -/
def statusLocation
    (P : Platform)
    (status target : P.Url)
    (state : String)
    (params : List (String × String)) : String :=
  P.href
    (setSearchParams P status
      [("state", state),
        ("client_redirect",
          P.href (setSearchParams P target params))])

theorem leads_redirectToStatus
    {state redirectUri : String}
    {params : List (String × String)}
    {target : P.Url}
    (deployment : Deployment P cfg)
    (hTarget : P.parseUrl redirectUri = some target) :
    Leading P cfg
      (redirectToStatus P cfg state redirectUri params) world
      (.redirect
        (statusLocation P deployment.statusUrl target state
          params)
        none)
      world := by
  have hUrl :
      statusRedirectUrl P cfg state
          (P.href (setSearchParams P target params)) =
        some
          (statusLocation P deployment.statusUrl target state
            params) := by
    unfold statusRedirectUrl
    rw [deployment.parseStatus]
    rfl
  unfold redirectToStatus
  apply (leads_orCrash hTarget).bind
  apply (leads_orCrash hUrl).bind
  exact leads_ret _ _

/- A challenge is marked for the time it has left. -/
theorem leads_markUsed
    {id : String}
    {record : ChallengeRecord}
    {seconds : Nat}
    (hStored :
      StoredUntil world (challengeKey id) (.challenge record)
        (world.clock + seconds * 1000))
    (hPositive : 0 < seconds)
    (hTtl : AllowsTtl world seconds) :
    Leading P cfg (ChallengeStore.markChallengeUsed id) world
      ()
      (world.store (challengeKey id)
        (.challenge { record with used := true })
        (world.clock + seconds * 1000)) := by
  have hRead :
      ChallengeStore.asChallenge
          (world.redis.read world.clock (challengeKey id)) =
        some record := by
    rw [hStored.read]
    rfl
  have hValid :
      validExpire world.clock ((seconds : Int) : ℚ) =
        some (world.clock + seconds * 1000) :=
    validExpire_nat hPositive hTtl
  have hLeft : ¬ ((seconds : Int) ≤ 0) := by omega
  unfold ChallengeStore.markChallengeUsed
  apply (leads_get _).bind
  simp only [hRead]
  apply (leads_ttl _).bind
  rw [hStored.ttl, if_neg hLeft]
  exact leads_set hValid

/- A code is stored under a fresh text. -/
theorem leads_issueCode
    {payload : AuthorizationCodePayload}
    {code : String}
    {seconds : Nat}
    (hFresh : code ∉ world.randoms)
    (hPositive : 0 < seconds)
    (hTtl : AllowsTtl world seconds) :
    Leading P cfg
      (ChallengeStore.issueAuthorizationCode payload
        (seconds : ℚ))
      world code
      ((world.draw code).store (codeKey code) (.code payload)
        (world.clock + seconds * 1000)) := by
  have hValid := validExpire_nat hPositive hTtl
  apply (leads_random hFresh).bind
  refine (leads_set (by exact hValid)).bind ?_
  exact leads_ret _ _

/- The world after a challenge is confirmed. -/
def World.confirmed
    (world : World)
    (challengeId : String)
    (record : ChallengeRecord)
    (challengeDeadline : Nat)
    (code : String)
    (payload : AuthorizationCodePayload)
    (codeDeadline : Nat) : World :=
  ((world.store (challengeKey challengeId)
      (.challenge { record with used := true })
      challengeDeadline).draw code).store
    (codeKey code) (.code payload) codeDeadline

theorem leads_confirm
    {challengeId redirectUri clientState state code : String}
    {record : ChallengeRecord}
    {payload : AuthorizationCodePayload}
    {target : P.Url}
    (deployment : Deployment P cfg)
    (hTimely : deployment.Timely world)
    (hStored :
      StoredUntil world (challengeKey challengeId)
        (.challenge record)
        (world.clock + deployment.challengeSeconds * 1000))
    (hPayload :
      confirmedPayload (some record) redirectUri =
        some payload)
    (hFresh : code ∉ world.randoms)
    (hTarget : P.parseUrl redirectUri = some target) :
    Leading P cfg
      (OAuthOutcomeService.confirmAndRedirect P cfg challengeId
        redirectUri clientState state)
      world
      (.redirect
        (statusLocation P deployment.statusUrl target state
          [("code", code), ("state", clientState)])
        none)
      (world.confirmed challengeId record
        (world.clock + deployment.challengeSeconds * 1000) code
        payload
        (world.clock + deployment.codeSeconds * 1000)) := by
  have hGet :
      Leading P cfg (ChallengeStore.getChallenge challengeId)
        world (some record) world := by
    have hRead :
        ChallengeStore.asChallenge
            (world.redis.read world.clock
              (challengeKey challengeId)) =
          some record := by
      rw [hStored.read]
      rfl
    rw [← hRead]
    exact (leads_get _).bind (leads_ret _ _)
  unfold OAuthOutcomeService.confirmAndRedirect
  apply hGet.bind
  simp only [hPayload]
  apply
    (leads_markUsed hStored deployment.challengePositive
      hTimely.challenge).bind
  rw [deployment.codeTtl]
  refine
    (leads_issueCode (by exact hFresh) deployment.codePositive
      (by exact hTimely.code)).bind ?_
  exact leads_redirectToStatus deployment hTarget

end KisAuth

------------------------------------------------------------
-- The Two Outcomes
------------------------------------------------------------

namespace KisAuth

open Interaction Prog Store

variable {P : Platform} {cfg : KisAuthConfig} {world : World}

/- The code a returning user's client is handed. -/
def returningCode
    (session : OAuthSession)
    (identity : AuthIdentity) : AuthorizationCodePayload where
  purpose := session.purpose
  clientId := session.clientId
  kisUserId := identity.kisUserId
  authIdentityId := identity.id
  redirectUri := session.redirectUri

/- The world after the use of an identity is counted. -/
def World.touchRow (world : World) (id : String) : World :=
  world.withTables
    (world.tables.modifyRow id (Tables.touched world.clock))

/- The world after a user has returned. -/
def World.returned
    (world : World)
    (cfg : KisAuthConfig)
    (deployment : Deployment P cfg)
    (args : OutcomeArgs)
    (identity : AuthIdentity)
    (challengeId code : String) : World :=
  ((((world.touchRow identity.id).draw challengeId).store
        (challengeKey challengeId)
        (.challenge
          (OAuthOutcomeService.newChallenge cfg args.session
            args.session.purpose identity.kisUserId
            identity.id))
        (world.clock +
          deployment.challengeSeconds * 1000)).drop
      (sessionKey args.sessionId)).confirmed challengeId
    (OAuthOutcomeService.newChallenge cfg args.session
      args.session.purpose identity.kisUserId identity.id)
    (world.clock + deployment.challengeSeconds * 1000) code
    (returningCode args.session identity)
    (world.clock + deployment.codeSeconds * 1000)

theorem leads_returningUser
    (args : OutcomeArgs)
    {identity : AuthIdentity}
    {challengeId code : String}
    {target : P.Url}
    (deployment : Deployment P cfg)
    (hTimely : deployment.Timely world)
    (hId : uuidIn identity.id = some identity.id)
    (hNonempty : identity.id ≠ "")
    (hUser : identity.kisUserId ≠ "")
    (hChallengeFresh : challengeId ∉ world.randoms)
    (hCodeFresh : code ∉ challengeId :: world.randoms)
    (hTarget :
      P.parseUrl args.session.redirectUri = some target) :
    Leading P cfg
      (OAuthOutcomeService.finalizeReturningUser P cfg args
        (some identity))
      world
      (.redirect
        (statusLocation P deployment.statusUrl target
          "recovery_success"
          [("code", code), ("state", args.session.clientState)])
        none)
      (world.returned cfg deployment args identity challengeId
        code) := by
  have hTouch :
      Leading P cfg
        (IdentityService.touchLastAuthenticated identity.id)
        world () (world.touchRow identity.id) := by
    have hExec :
        (worldSemantics P cfg).exec world
            (.touchIdentity identity.id) .none =
          some (.ok (), world.touchRow identity.id) := by
      simp [worldSemantics, World.exec, World.backend,
        World.execSql, hId, World.touchRow]
    exact (leads_perform .none hExec).bind (leads_ret _ _)
  have hValid :
      validExpire world.clock cfg.challengeTtlSeconds =
        some
          (world.clock +
            deployment.challengeSeconds * 1000) := by
    rw [deployment.challengeTtl]
    exact
      validExpire_nat deployment.challengePositive
        hTimely.challenge
  have hPayload :
      confirmedPayload
          (some
            (OAuthOutcomeService.newChallenge cfg args.session
              args.session.purpose identity.kisUserId
              identity.id))
          args.session.redirectUri =
        some (returningCode args.session identity) := by
    have hAttempts : ¬ cfg.challengeMaxAttempts ≤ 0 :=
      not_le.mpr deployment.attempts
    simp [confirmedPayload, confirmedSubject,
      OAuthOutcomeService.newChallenge, hUser, hNonempty,
      hAttempts, returningCode]
  unfold OAuthOutcomeService.finalizeReturningUser
  apply hTouch.bind
  apply (leads_emit _).bind
  refine (leads_random (by exact hChallengeFresh)).bind ?_
  refine (leads_set (by exact hValid)).bind ?_
  apply (leads_del _).bind
  refine
    leads_confirm deployment ?_ ?_ hPayload
      (by exact hCodeFresh) hTarget
  · exact hTimely
  · apply StoredUntil.drop
    · exact
        StoredUntil.store
          (Nat.lt_add_of_pos_right
            (Nat.mul_pos deployment.challengePositive
              (by decide)))
    · simp [challengeKey, sessionKey]

/- Only the row, and what is stored in Redis, is changed. -/
theorem returned_beside
    (deployment : Deployment P cfg)
    (args : OutcomeArgs)
    (identity : AuthIdentity)
    (challengeId code : String) :
    SameBeside
      [codeKey code, challengeKey challengeId,
        sessionKey args.sessionId, challengeKey challengeId]
      world
      (world.returned cfg deployment args identity challengeId
        code) := by
  unfold World.returned World.confirmed World.touchRow
  apply SameBeside.write
  apply SameBeside.draw
  apply SameBeside.write
  apply SameBeside.write _ _ none
  apply SameBeside.write
  apply SameBeside.draw
  apply SameBeside.withTables
  exact SameBeside.refl world

/- A returning user is looked up by the provider's subject. -/
theorem leads_finalizeReturning
    {args : OutcomeArgs}
    {identity : AuthIdentity}
    {response : Response}
    {last : World}
    (hLink : args.session.purpose ≠ "link")
    (hPurpose : args.session.purpose ≠ "registration")
    (hFound :
      world.tables.selectIdentity args.provider
          args.verifiedIdentity.sub =
        .ok (some identity))
    (hReturning :
      Leading P cfg
        (OAuthOutcomeService.finalizeReturningUser P cfg args
          (some identity))
        world response last) :
    Leading P cfg
      (finalizeIdentity P cfg args "registration" none)
      world response last := by
  unfold finalizeIdentity
  rw [if_neg hLink]
  apply (leads_findByProviderSubject hFound).bind
  rw [if_neg hPurpose]
  exact hReturning

/- The ticket a new user's client is handed. -/
def newUserTicket
    (args : OutcomeArgs) : RegistrationTicketPayload where
  clientId := args.session.clientId
  purpose := "registration"
  provider := args.provider
  providerSubject := args.verifiedIdentity.sub
  providerEmail := args.verifiedIdentity.email
  providerEmailVerified := args.verifiedIdentity.emailVerified
  partnerSlug := none
  redirectUri := args.session.redirectUri

/- The world after a new user has been given a ticket. -/
def World.ticketed
    (world : World)
    (deployment : Deployment P cfg)
    (args : OutcomeArgs)
    (ticket : String) : World :=
  ((world.drop (sessionKey args.sessionId)).draw ticket).store
    (regTicketKey ticket) (.ticket (newUserTicket args))
    (world.clock + deployment.codeSeconds * 1000)

theorem leads_registration
    (args : OutcomeArgs)
    {ticket : String}
    {target : P.Url}
    (deployment : Deployment P cfg)
    (hTimely : deployment.Timely world)
    (hFresh : ticket ∉ world.randoms)
    (hTarget :
      P.parseUrl args.session.redirectUri = some target) :
    Leading P cfg
      (OAuthOutcomeService.finalizeRegistration P cfg args none
        "registration" none)
      world
      (.redirect
        (statusLocation P deployment.statusUrl target
          "registration_continue"
          [("code", ticket),
            ("state", args.session.clientState)])
        none)
      (world.ticketed deployment args ticket) := by
  have hValid :
      validExpire world.clock cfg.authCodeTtlSeconds =
        some
          (world.clock + deployment.codeSeconds * 1000) := by
    rw [deployment.codeTtl]
    exact validExpire_nat deployment.codePositive hTimely.code
  have hIssue :
      Leading P cfg
        (ChallengeStore.issueRegistrationTicket
          (newUserTicket args) cfg.authCodeTtlSeconds)
        (world.drop (sessionKey args.sessionId)) ticket
        (world.ticketed deployment args ticket) := by
    refine (leads_random (by exact hFresh)).bind ?_
    refine (leads_set (by exact hValid)).bind ?_
    exact leads_ret _ _
  unfold OAuthOutcomeService.finalizeRegistration
  apply (leads_del _).bind
  apply hIssue.bind
  apply (leads_emit _).bind
  exact leads_redirectToStatus deployment hTarget

theorem ticketed_beside
    (deployment : Deployment P cfg)
    (args : OutcomeArgs)
    (ticket : String) :
    SameBeside
      [regTicketKey ticket, sessionKey args.sessionId] world
      (world.ticketed deployment args ticket) := by
  unfold World.ticketed
  apply SameBeside.write
  apply SameBeside.draw
  apply SameBeside.write _ _ none
  exact SameBeside.refl world

/- And so is a new one, without a row. -/
theorem leads_finalizeRegistering
    {args : OutcomeArgs}
    {response : Response}
    {last : World}
    (hPurpose : args.session.purpose = "registration")
    (hFound :
      world.tables.selectIdentity args.provider
          args.verifiedIdentity.sub =
        .ok none)
    (hRegistration :
      Leading P cfg
        (OAuthOutcomeService.finalizeRegistration P cfg args
          none "registration" none)
        world response last) :
    Leading P cfg
      (finalizeIdentity P cfg args "registration" none)
      world response last := by
  have hLink : args.session.purpose ≠ "link" := by
    rw [hPurpose]
    decide
  unfold finalizeIdentity
  rw [if_neg hLink]
  apply (leads_findByProviderSubject hFound).bind
  rw [if_pos hPurpose]
  exact hRegistration

end KisAuth

------------------------------------------------------------
-- Coming Back From The Provider
------------------------------------------------------------

namespace KisAuth

open Interaction Prog Store

variable {P : Platform} {cfg : KisAuthConfig} {world : World}

/- The query the provider sends the browser back with. -/
def returnQuery (code state : String) : CallbackQuery where
  code := some code
  state := some state
  error := none

/- What an outcome is finalized with after that. -/
def returnArgs
    (session : OAuthSession)
    (sessionId sub ip : String) : OutcomeArgs where
  provider := "google"
  verifiedIdentity :=
    { sub := sub
      email := none
      emailVerified := false }
  session := session
  sessionId := sessionId
  ip := ip

/- A callback goes on with what the provider vouched for. -/
theorem leads_callback
    (req : BrowserRequest)
    {code codeVerifier sub sessionId : String}
    {session : OAuthSession}
    {deadline : Nat}
    {response : Response}
    {last : World}
    (hRoom :
      HasRoom world RateLimits.oauthGoogleCallback req.ip)
    (hCookie : sessionCookie req = some (some sessionId))
    (hId : sessionId ≠ "")
    (hStored :
      StoredUntil world (sessionKey sessionId)
        (.session session) deadline)
    (hCode : code ≠ "")
    (hState : session.state ≠ "")
    (hVerifier : session.codeVerifier = some codeVerifier)
    (hNonempty : codeVerifier ≠ "")
    (hSub : sub ≠ "")
    (hFinalize :
      Leading P cfg
        (finalizeIdentity P cfg
          (returnArgs session sessionId sub req.ip)
          "registration" none)
        (world.hit
          (rateLimitKey RateLimits.oauthGoogleCallback.scope
            req.ip)
          RateLimits.oauthGoogleCallback.windowSeconds)
        response last) :
    Leading P cfg
      (OAuthController.callback P cfg
        (returnQuery code session.state) req)
      world response last := by
  have hLimited :=
    (SameBeside.refl world).write
      (rateLimitKey RateLimits.oauthGoogleCallback.scope req.ip)
      (some
        (countHit world.clock
          RateLimits.oauthGoogleCallback.windowSeconds
          (world.redis.find world.clock
            (rateLimitKey RateLimits.oauthGoogleCallback.scope
              req.ip))))
  have hStill :=
    hStored.kept hLimited
      (by simp [sessionKey, rateLimitKey])
  have hAccepted :
      acceptedCode (returnQuery code session.state) session =
        some (code, codeVerifier) := by
    simp [acceptedCode, returnQuery, truthyText, hCode, hState,
      hVerifier, hNonempty]
  have hNoError :
      truthyText (returnQuery code session.state).error = none :=
    rfl
  have hToken : "id-token" ≠ "" := by decide
  unfold OAuthController.callback
  apply (leads_enforceRateLimit hRoom).bind
  apply (leads_orCrash hCookie).bind
  apply (leads_session hId hStill).bind
  simp only [hNoError, hAccepted]
  apply (leads_verifiedIdentity hSub hToken).bind
  exact hFinalize

end KisAuth
