import KisAuth.Service.BrowserConduct

/-
  How the browser routes behave: what each of them may do
  and how it may end.

  Key theorems include:
    * `conduct_finalizeIdentity`
    * `conduct_googleCallback`, `conduct_enterpriseCallback`
    * `conduct_authorize`, `conduct_verifyAndConsume`
    * `conduct_googleStart`, `conduct_enterpriseStart`
-/

------------------------------------------------------------
-- Callbacks
------------------------------------------------------------

namespace KisAuth

open Interaction Prog

variable {P : Platform} {cfg : KisAuthConfig} {q : Request}
variable {past : Past} {callback : Callback}
variable {final : Past → Except HttpError Response → Prop}
variable {sessionId : String} {session : OAuthSession}
variable {token : VerifiedIdToken}

theorem conduct_finalizeIdentity
    {args : OutcomeArgs}
    {registrationPurpose : String}
    (hEnds : CallbackEnds P cfg callback final)
    (hCallback : q.callback = some callback)
    (hVerified :
      Verified P cfg callback past args.sessionId
        args.session token)
    (hWrites : writes past = [])
    (hFirst : lookups past = [])
    (hProvider : args.provider = callback.provider)
    (hSubject :
      args.verifiedIdentity.sub = callback.subject token.sub)
    (hEmail : args.verifiedIdentity.email = token.email)
    (hEmailVerified :
      args.verifiedIdentity.emailVerified =
        token.emailVerified)
    (hRegistration :
      registrationPurpose = callback.registrationPurpose) :
    Obeys (Conducted P cfg q) final
      (finalizeIdentity P cfg args registrationPurpose
        callback.tenant)
      past := by
  unfold finalizeIdentity
  split
  · next hPurpose =>
      exact conduct_finalizeLink hEnds hCallback hVerified
        hWrites hFirst hProvider hSubject hPurpose
  · next hNotLink =>
      unfold IdentityService.findByProviderSubject
      rw [hProvider, hSubject]
      apply Obeys.andThen
      apply Obeys.andThen
      apply obeys_perform
      · refine ⟨⟨hFirst, Or.inr ?_⟩, trivial, trivial⟩
        exact
          ⟨callback, args.sessionId, args.session, token,
            hCallback, hVerified, rfl, rfl⟩
      intro rows
      have hLater :=
        kept_lookup past callback.provider
          (callback.subject token.sub) rows
      have hStill :=
        hVerified.extend hLater.subset hLater.asserted_eq
      simp only [andThen_ok]
      apply conduct_orSqlCrash
      case hError =>
        exact fun error => hEnds.error _ error
      rintro identity rfl
      simp only [andThen_ok]
      split
      · next hPurpose =>
          apply conduct_finalizeRegistration hEnds hCallback
            hStill
          · rw [hLater.writes_eq, hWrites]
          · exact hProvider
          · exact hSubject
          · exact hEmail
          · exact hEmailVerified
          · exact hRegistration
          · exact hPurpose
          · simp
      · next hNotRegistration =>
          apply conduct_finalizeReturningUser hEnds hCallback
            hStill
          · rw [hLater.writes_eq, hWrites]
          · exact hNotLink
          · exact hNotRegistration
          · simp

theorem conduct_cancelCallback
    {error ip : String}
    {metadata : List (String × JsValue)}
    (hEnds : CallbackEnds P cfg callback final)
    (hCallback : q.callback = some callback)
    (hReads :
      ReadsSession callback.req past sessionId session) :
    Obeys (Conducted P cfg q) final
      (cancelCallback P cfg sessionId session error ip
        metadata)
      past := by
  unfold cancelCallback
  apply Obeys.andThen
  apply conduct_deleteSession _
    (held_of_cookie (callback_browser hCallback)
      hReads.cookie)
  intro pastDel hDel _
  simp only [andThen_ok]
  apply Obeys.andThen
  apply conduct_emit
  intro pastEmit hEmit
  simp only [andThen_ok]
  apply conduct_handOff hEnds
  · exact hReads.extend (hDel.trans hEmit).subset
  · decide
  · exact .failure _ (by simp)

theorem conduct_failCallback
    {failure : ProviderFailure}
    {ip : String}
    {metadata : List (String × JsValue)}
    (hEnds : CallbackEnds P cfg callback final)
    (hCallback : q.callback = some callback)
    (hReads :
      ReadsSession callback.req past sessionId session) :
    Obeys (Conducted P cfg q) final
      (failCallback P cfg sessionId session failure ip
        metadata)
      past := by
  unfold failCallback
  apply Obeys.andThen
  apply conduct_emit
  intro pastEmit hEmit
  simp only [andThen_ok]
  apply Obeys.andThen
  apply conduct_deleteSession _
    (held_of_cookie (callback_browser hCallback)
      hReads.cookie)
  intro pastDel hDel _
  simp only [andThen_ok]
  apply conduct_handOff hEnds
  · exact hReads.extend (hEmit.trans hDel).subset
  · decide
  · exact .failure _ (by simp)

/- The beginning of every route that has a session. -/
theorem conduct_session
    {policy : RateLimitPolicy}
    {req : BrowserRequest}
    {next : Option (String × OAuthSession) → KisM Response}
    (hBrowser : q.browser = some req)
    (hCounter :
      rateLimitKey policy.scope req.ip ∈ q.counters P)
    (hMinute : policy.windowSeconds = 60)
    (hError : ∀ later error, final later (.error error))
    (hNone :
      ∀ later,
        Later past later →
          Obeys (Conducted P cfg q) final (next none) later)
    (hSome :
      ∀ later sessionId session,
        Later past later →
          ReadsSession req later sessionId session →
            Obeys (Conducted P cfg q) final
              (next (some (sessionId, session))) later) :
    Obeys (Conducted P cfg q) final
      (do
        enforceRateLimit policy req.ip
        let sessionId ← sessionIdOf req
        let found ← sessionOf sessionId
        next found)
      past := by
  apply Obeys.andThen
  apply conduct_enforceRateLimit _ _ hCounter hMinute
  case hError =>
    exact fun later error _ => hError later error
  intro pastLimit hLimit
  simp only [andThen_ok]
  unfold sessionIdOf
  apply Obeys.andThen
  apply conduct_orCrash
  case hError =>
    exact fun error => hError _ error
  intro cookie hCookie
  simp only [andThen_ok]
  apply Obeys.andThen
  apply conduct_sessionOf hBrowser hCookie
  · intro later hLater
    exact hNone later (hLimit.trans hLater)
  · intro later sessionId session hLater hReads
    exact hSome later sessionId session
      (hLimit.trans hLater) hReads

theorem conduct_googleCallback
    {query : CallbackQuery}
    {req : BrowserRequest}
    (hEnds :
      CallbackEnds P cfg ⟨none, query, req⟩ final) :
    Obeys (Conducted P cfg (.googleCallback query req)) final
      (OAuthController.callback P cfg query req) [] := by
  unfold OAuthController.callback
  apply conduct_session rfl
    (by simp [Request.counters, Request.limits]) rfl
  · exact hEnds.error
  · intro later _
    cases truthyText query.error with
    | none => exact hEnds.error _ _
    | some error => exact hEnds.error _ _
  · intro later sessionId session hLater hReads
    cases hError : truthyText query.error with
    | some error =>
        simp only
        split
        · exact conduct_cancelCallback hEnds rfl hReads
        · exact hEnds.error _ _
    | none =>
        simp only
        split
        · exact hEnds.error _ _
        · next code codeVerifier hAccepted =>
            have hExchanging :
                Exchanging (.googleCallback query req) later
                  ⟨none, query, req⟩ sessionId session code
                  codeVerifier :=
              { serves := rfl
                reads := hReads
                accepted := hAccepted
                tenant := by simp }
            apply Obeys.andThen
            apply conduct_googleIdentity session.nonce
              hExchanging rfl
            · rw [hLater.asserted_eq]
              rfl
            intro pastToken verified hSubset hWrites hLookups
              hToken
            simp only [andThen_ok]
            cases verified with
            | error failure =>
                exact conduct_failCallback hEnds rfl
                  (hReads.extend hSubset)
            | ok identity =>
                have hVerified :
                    Verified P cfg ⟨none, query, req⟩
                      pastToken sessionId session identity :=
                  { reads := hReads.extend hSubset
                    noError := hError
                    accepted := by simp [hAccepted]
                    tenant := hExchanging.tenant
                    token := hToken identity rfl }
                apply conduct_finalizeIdentity hEnds rfl
                  hVerified
                · rw [hWrites, hLater.writes_eq]
                  rfl
                · rw [hLookups, hLater.lookups_eq]
                  rfl
                · rfl
                · rfl
                · rfl
                · rfl
                · rfl

theorem conduct_enterpriseCallback
    {partnerSlug : String}
    {query : CallbackQuery}
    {req : BrowserRequest}
    (hEnds :
      CallbackEnds P cfg ⟨some partnerSlug, query, req⟩
        final) :
    Obeys
      (Conducted P cfg
        (.enterpriseCallback partnerSlug query req))
      final
      (OidcEnterpriseController.callback P cfg partnerSlug
        query req)
      [] := by
  unfold OidcEnterpriseController.callback
  apply conduct_session rfl
    (by simp [Request.counters, Request.limits]) rfl
  · exact hEnds.error
  · intro later _
    cases truthyText query.error with
    | none => exact hEnds.error _ _
    | some error => exact hEnds.error _ _
  · intro later sessionId session hLater hReads
    cases hError : truthyText query.error with
    | some error =>
        simp only
        split
        · exact conduct_cancelCallback hEnds rfl hReads
        · exact hEnds.error _ _
    | none =>
        simp only
        split
        · exact hEnds.error _ _
        · next code codeVerifier hAccepted =>
            split
            case isFalse => exact hEnds.error _ _
            case isTrue hTenant =>
              have hAtTenant :
                  AtTenant
                    (.enterpriseCallback partnerSlug query req)
                    later partnerSlug :=
                ⟨req, sessionId, session, Or.inr ⟨query, rfl⟩,
                  hReads, hTenant⟩
              have hHeld :
                  (Request.enterpriseCallback partnerSlug
                    query req).held = some sessionId :=
                held_of_cookie rfl hReads.cookie
              apply Obeys.andThen
              apply conduct_resolveOrFail _ _ _ _ hAtTenant
                hHeld
              case hError => exact hEnds.error
              intro pastConfig config hConfig hResolved
              simp only [andThen_ok]
              apply Obeys.andThen
              apply conduct_discoverOrFail _ _ _ _
                (hAtTenant.extend hConfig.subset) hResolved
                hHeld
              case hError => exact hEnds.error
              intro pastDoc doc hDoc hDocResolved
              have hBefore : Later [] pastDoc :=
                (hLater.trans hConfig).trans hDoc
              have hReadsDoc :=
                hReads.extend (hConfig.trans hDoc).subset
              simp only [andThen_ok]
              apply Obeys.andThen
              have hExchanging :
                  Exchanging
                    (.enterpriseCallback partnerSlug query req)
                    pastDoc ⟨some partnerSlug, query, req⟩
                    sessionId session code codeVerifier :=
                { serves := rfl
                  reads := hReadsDoc
                  accepted := hAccepted
                  tenant := by
                    intro other hOther
                    simp only [Option.some.injEq] at hOther
                    rw [← hOther, hTenant] }
              apply conduct_enterpriseIdentity session.nonce
                hExchanging rfl
              · rw [hBefore.asserted_eq]
                rfl
              · exact hResolved.extend hDoc.subset
              · exact hDocResolved
              intro pastToken verified hSubset hWrites
                hLookups hToken
              simp only [andThen_ok]
              cases verified with
              | error failure =>
                  exact conduct_failCallback hEnds rfl
                    (hReadsDoc.extend hSubset)
              | ok identity =>
                  have hVerified :
                      Verified P cfg
                        ⟨some partnerSlug, query, req⟩
                        pastToken sessionId session
                        identity :=
                    { reads := hReadsDoc.extend hSubset
                      noError := hError
                      accepted := by simp [hAccepted]
                      tenant := hExchanging.tenant
                      token := hToken identity rfl }
                  apply conduct_finalizeIdentity hEnds rfl
                    hVerified
                  · rw [hWrites, hBefore.writes_eq]
                    rfl
                  · rw [hLookups, hBefore.lookups_eq]
                    rfl
                  · rfl
                  · rfl
                  · rfl
                  · rfl
                  · rfl

end KisAuth

------------------------------------------------------------
-- Authorize And Start
------------------------------------------------------------

namespace KisAuth

open Interaction Prog

variable {P : Platform} {cfg : KisAuthConfig} {q : Request}
variable {past : Past}

/- An accepted ticket has claimed its nonce. -/
theorem conduct_verifyAndConsume
    {final :
      Past → Except HttpError LinkTicketVerifyResult → Prop}
    {query : AuthorizeQuery}
    {req : BrowserRequest}
    {ticket : String}
    (hServes : q = .authorize query req)
    (hGiven : query.linkTicket = some ticket)
    (hOk :
      ∀ later result,
        Later past later →
          (∀ kisUserId,
            result = .ok kisUserId →
              ∃ nonce exp clock,
                readTicket P cfg.internalHmacSecret ticket =
                    .ok ⟨kisUserId, nonce, .finite exp⟩ ∧
                  ⟨.dateNow, clock⟩ ∈ later ∧
                  (wholeSeconds clock : ℚ) < exp ∧
                  ⟨.redisSetNx (linkNonceKey nonce)
                      (max 1 (exp - wholeSeconds clock)),
                    .ok true⟩ ∈ later) →
            final later (.ok result))
    (hError : ∀ later error, final later (.error error)) :
    Obeys (Conducted P cfg q) final
      (LinkTicketService.verifyAndConsume P
        cfg.internalHmacSecret ticket)
      past := by
  unfold LinkTicketService.verifyAndConsume
  split
  · exact hOk _ _ (Extends.refl past) (by simp)
  · next payload hTicket =>
      apply Obeys.andThen
      apply conduct_dateNow
      intro pastNow clock hNow hClock
      simp only [andThen_ok]
      split
      · exact hOk _ _ hNow (by simp)
      · exact hError _ _
      · next exp hExp =>
          split
          · exact hOk _ _ hNow (by simp)
          · next hFresh =>
              unfold Redis.setNx
              apply Obeys.andThen
              apply Obeys.andThen
              apply obeys_perform
              · refine ⟨⟨payload.nonce, rfl⟩, ?_, trivial⟩
                exact
                  ⟨query, req, ticket, payload, exp, clock,
                    hServes, hGiven, hTicket, hExp, hClock,
                    not_le.mp hFresh, rfl, rfl⟩
              intro result
              simp only [andThen_ok]
              cases result with
              | error error => exact hError _ _
              | ok claimed =>
                  have hLater :
                      Later past
                        (⟨.redisSetNx
                            (linkNonceKey payload.nonce)
                            (max 1
                              (exp - wholeSeconds clock)),
                          .ok claimed⟩ :: pastNow) :=
                    hNow.trans
                      (later_cons (by trivial) _ pastNow)
                  simp only [pure_eq, obeys_ret, andThen_ok]
                  cases claimed with
                  | false =>
                      exact hOk _ _ hLater (by simp)
                  | true =>
                      apply hOk _ _ hLater
                      intro kisUserId hUser
                      simp only
                        [LinkTicketVerifyResult.ok.injEq]
                        at hUser
                      subst hUser
                      refine
                        ⟨payload.nonce, exp, clock, ?_,
                          List.mem_cons_of_mem _ hClock,
                          not_le.mp hFresh, by simp⟩
                      rw [hTicket, ← hExp]

/- The user of a link session comes from its ticket. -/
theorem conduct_linkUser
    {final : Past → Except HttpError (Option String) → Prop}
    {query : AuthorizeQuery}
    {purpose : String}
    {req : BrowserRequest}
    (hServes : q = .authorize query req)
    (hOk :
      ∀ later result,
        Later past later →
          (purpose = "link" →
            ∃ kisUserId,
              LinkAccepted P cfg query later kisUserId ∧
                result = some kisUserId) →
            (purpose ≠ "link" → result = none) →
              final later (.ok result))
    (hError : ∀ later error, final later (.error error)) :
    Obeys (Conducted P cfg q) final
      (OAuthController.linkUser P cfg query purpose req)
      past := by
  unfold OAuthController.linkUser
  split
  · next hPurpose =>
      split
      · exact hError _ _
      · next ticket hTicket =>
          rcases (truthyText_eq_some_iff _ _).mp hTicket
            with ⟨hGiven, _⟩
          apply Obeys.andThen
          apply conduct_verifyAndConsume hServes hGiven
          case hError => exact hError
          intro later result hLater hAccepted
          simp only [andThen_ok]
          cases result with
          | ok kisUserId =>
              rcases hAccepted kisUserId rfl with
                ⟨nonce, exp, clock, hFacts⟩
              apply hOk _ _ hLater
              · intro _
                exact ⟨kisUserId,
                  ⟨ticket, nonce, exp, clock, hGiven,
                    hFacts⟩, rfl⟩
              · exact fun hNot => absurd hPurpose hNot
          | refused reason =>
              apply Obeys.andThen
              apply conduct_emit
              intro pastEmit _
              exact hError _ _
  · next hNot =>
      exact hOk _ _ (Extends.refl past)
        (fun hPurpose => absurd hPurpose hNot)
        (fun _ => rfl)

theorem conduct_authorize
    {final : Past → Except HttpError Response → Prop}
    {query : AuthorizeQuery}
    {req : BrowserRequest}
    (hOk :
      ∀ later sessionId session ttl,
        ⟨.random, sessionId⟩ ∈ later →
          ⟨.redisSet (sessionKey sessionId)
              (.session session) ttl, .ok ()⟩ ∈ later →
            final later
              (.ok (.redirect
                (OAuthController.startLocation
                  query.partnerSlug)
                (some (cookieOf cfg sessionId)))))
    (hError : ∀ later error, final later (.error error)) :
    Obeys (Conducted P cfg (.authorize query req)) final
      (OAuthController.authorize P cfg query req) [] := by
  unfold OAuthController.authorize
    ClientService.findByClientId
  apply Obeys.andThen
  apply conduct_enforceRateLimit _ _
    (by simp [Request.counters, Request.limits]) rfl
  case hError =>
    exact fun later error _ => hError later error
  intro pastLimit hLimit
  simp only [andThen_ok]
  apply Obeys.andThen
  apply Obeys.andThen
  apply obeys_perform ⟨trivial, trivial, trivial⟩
  intro rows
  have hRows :
      Later []
        (⟨.selectClient (query.clientId.getD ""), rows⟩ ::
          pastLimit) :=
    hLimit.cons (by trivial) rows
  simp only [andThen_ok]
  apply conduct_orSqlCrash
  case hError => exact fun error => hError _ error
  rintro found rfl
  simp only [andThen_ok]
  split
  · next client purpose clientState hPurpose hState =>
      split
      case isFalse => exact hError _ _
      case isTrue hAccepted =>
        simp only [Bool.and_eq_true] at hAccepted
        rcases hAccepted with ⟨⟨hUri, hPurposes⟩, hSlug⟩
        apply Obeys.andThen
        apply conduct_linkUser rfl
        case hError => exact hError
        intro pastLink linkKisUserId hLink hLinked hUnlinked
        simp only [andThen_ok]
        apply Obeys.andThen
        apply conduct_randomId
        intro pastState state hState' hStateMem
        simp only [andThen_ok]
        apply Obeys.andThen
        apply conduct_randomId
        intro pastNonce nonce hNonce hNonceMem
        simp only [andThen_ok]
        unfold OAuthSessionStore.create
        apply Obeys.andThen
        apply Obeys.andThen
        apply conduct_randomId
        intro pastId sessionId hId hIdMem
        have hSince : Later pastLink pastId :=
          (hState'.trans hNonce).trans hId
        have hLater : Later [] pastId :=
          (hRows.trans hLink).trans hSince
        simp only [andThen_ok]
        apply Obeys.andThen
        apply conduct_redisSet
        case hError => exact hError
        case hTerm => exact Or.inl rfl
        case hDrawn => simp [RedisValue.codeVerifier]
        · refine
            ⟨sessionId, rfl, Or.inl ⟨query, req, rfl, ?_⟩⟩
          exact
            { first := by rw [hLater.writes_eq]; rfl
              sessionId := hIdMem
              state := (hNonce.trans hId).subset hStateMem
              nonce := hId.subset hNonceMem
              clientId := rfl
              redirectUri := rfl
              purpose := hPurpose
              clientState := hState
              approved :=
                ⟨client,
                  (hLink.trans hSince).subset (by simp),
                  hUri, hPurposes⟩
              codeVerifier := rfl
              partnerSlug := rfl
              slugAllowed := hSlug
              link := by
                intro hIsLink
                rcases hLinked hIsLink with
                  ⟨kisUserId, hTicket, rfl⟩
                rcases hTicket with
                  ⟨ticket, claimed, exp, clock, hGiven,
                    hRead, hClock, hExp, hClaim⟩
                exact ⟨kisUserId,
                  ⟨ticket, claimed, exp, clock, hGiven,
                    hRead, hSince.subset hClock, hExp,
                    hSince.subset hClaim⟩, rfl⟩
              noLink := by
                intro hNotLink
                rw [hUnlinked hNotLink]
                rfl }
        · intro later hSet _ _ hStored
          exact hOk _ _ _ _ (hSet hIdMem) hStored
  · exact hError _ _

/- A start route writes back the session it read. -/
theorem conduct_update
    {final : Past → Except HttpError Unit → Prop}
    {sessionId codeVerifier : String}
    {session : OAuthSession}
    (hHeld : q.held = some sessionId)
    (hVerifier : session.codeVerifier = some codeVerifier)
    (hDrawn : ⟨.random, codeVerifier⟩ ∈ past)
    (hRestarted :
      ∀ later,
        Later past later →
          SessionRestarted q later sessionId session)
    (hOk :
      ∀ later ttl,
        past ⊆ later →
          ⟨.redisSet (sessionKey sessionId)
              (.session session) ttl, .ok ()⟩ ∈ later →
            final later (.ok ()))
    (hError : ∀ later error, final later (.error error)) :
    Obeys (Conducted P cfg q) final
      (OAuthSessionStore.update sessionId session) past := by
  unfold OAuthSessionStore.update
  apply Obeys.andThen
  apply obeys_perform
  · exact
      ⟨Or.inl ⟨sessionId, rfl⟩, trivial,
        ownSession_self hHeld⟩
  intro ttl
  have hLater :
      Later past
        (⟨.redisTtl (sessionKey sessionId), ttl⟩ :: past) :=
    later_cons (by trivial) ttl past
  simp only [andThen_ok]
  apply conduct_redisSet
  case hTerm =>
    split
    · next hLeft =>
        exact Or.inr ⟨ttl, hLeft, List.mem_cons_self, rfl⟩
    · exact Or.inl rfl
  case hDrawn =>
    intro other hOther
    have hSame : codeVerifier = other :=
      Option.some.inj (hVerifier.symm.trans hOther)
    rw [← hSame]
    exact List.mem_cons_of_mem _ hDrawn
  · exact ⟨sessionId, rfl, Or.inr (hRestarted _ hLater)⟩
  · intro later hSubset _ _ hStored
    exact hOk later _
      (List.Subset.trans hLater.subset hSubset) hStored
  · exact hError

theorem conduct_googleStart
    {final : Past → Except HttpError Response → Prop}
    {req : BrowserRequest}
    (hOk :
      ∀ later location,
        Departs P later req cfg.googleClientId
            cfg.googleRedirectUri googleAuthUrl location →
          final later (.ok (.redirect location none)))
    (hError : ∀ later error, final later (.error error)) :
    Obeys (Conducted P cfg (.googleStart req)) final
      (OAuthController.start P cfg req) [] := by
  unfold OAuthController.start
  apply conduct_session rfl
    (by simp [Request.counters, Request.limits]) rfl
  · exact hError
  · intro later _
    exact hError _ _
  · intro later sessionId session hLater hReads
    simp only
    apply Obeys.andThen
    apply conduct_randomId
    intro pastRandom codeVerifier hRandom hDrawn
    simp only [andThen_ok]
    apply Obeys.andThen
    apply conduct_update (held_of_cookie rfl hReads.cookie)
      rfl hDrawn
    case hError => exact hError
    · intro pastTtl hTtl
      exact
        { first := by
            rw [hTtl.writes_eq, hRandom.writes_eq,
              hLater.writes_eq]
            rfl
          read :=
            ⟨session, codeVerifier,
              (hRandom.trans hTtl).subset hReads.read, rfl⟩
          route := ⟨req, hReads.cookie, Or.inl rfl⟩ }
    · intro pastSet ttl hSet hStored
      simp only [andThen_ok]
      apply Obeys.andThen
      apply conduct_orCrash
      · intro url hUrl
        apply hOk
        exact
          ⟨sessionId, session, codeVerifier, ttl, url,
            hReads.extend
              (List.Subset.trans hRandom.subset hSet),
            hSet hDrawn, hStored, hUrl, rfl⟩
      · exact fun error => hError _ error

theorem conduct_enterpriseStart
    {final : Past → Except HttpError Response → Prop}
    {partnerSlug : String}
    {req : BrowserRequest}
    (hOk :
      ∀ later location,
        ToTenant P cfg partnerSlug req later location →
          DepartsFrom P cfg later location
              (.enterpriseStart partnerSlug req) →
            final later (.ok (.redirect location none)))
    (hError : ∀ later error, final later (.error error)) :
    Obeys (Conducted P cfg (.enterpriseStart partnerSlug req))
      final
      (OidcEnterpriseController.start P cfg partnerSlug req)
      [] := by
  unfold OidcEnterpriseController.start
  apply conduct_session rfl
    (by simp [Request.counters, Request.limits]) rfl
  · exact hError
  · intro later _
    exact hError _ _
  · intro later sessionId session hLater hReads
    simp only
    split
    case isFalse => exact hError _ _
    case isTrue hTenant =>
      have hAtTenant :
          AtTenant (.enterpriseStart partnerSlug req) later
            partnerSlug :=
        ⟨req, sessionId, session, Or.inl rfl, hReads, hTenant⟩
      have hHeld :
          (Request.enterpriseStart partnerSlug req).held =
            some sessionId :=
        held_of_cookie rfl hReads.cookie
      apply Obeys.andThen
      apply conduct_resolveOrFail _ _ _ _ hAtTenant hHeld
      case hError => exact hError
      intro pastConfig config hConfig hResolved
      simp only [andThen_ok]
      apply Obeys.andThen
      apply conduct_discoverOrFail _ _ _ _
        (hAtTenant.extend hConfig.subset) hResolved hHeld
      case hError => exact hError
      intro pastDoc doc hDoc hDocResolved
      simp only [andThen_ok]
      apply Obeys.andThen
      apply conduct_randomId
      intro pastRandom codeVerifier hRandom hDrawn
      have hSince : Later later pastRandom :=
        (hConfig.trans hDoc).trans hRandom
      simp only [andThen_ok]
      apply Obeys.andThen
      apply conduct_update hHeld rfl hDrawn
      case hError => exact hError
      · intro pastTtl hTtl
        exact
          { first := by
              rw [hTtl.writes_eq, hSince.writes_eq,
                hLater.writes_eq]
              rfl
            read :=
              ⟨session, codeVerifier,
                (hSince.trans hTtl).subset hReads.read, rfl⟩
            route :=
              ⟨req, hReads.cookie,
                Or.inr ⟨partnerSlug, rfl, hTenant⟩⟩ }
      · intro pastSet ttl hSet hStored
        have hReadsSet :=
          hReads.extend (List.Subset.trans hSince.subset hSet)
        have hConfigSet :=
          hResolved.extend
            (List.Subset.trans (hDoc.trans hRandom).subset hSet)
        have hDocSet :=
          hDocResolved.extend
            (List.Subset.trans hRandom.subset hSet)
        simp only [andThen_ok]
        apply Obeys.andThen
        apply conduct_orCrash
        case hError => exact fun error => hError _ error
        intro url hUrl
        simp only [andThen_ok]
        apply Obeys.andThen
        apply conduct_orCrash
        case hError => exact fun error => hError _ error
        intro redirectUri hRedirect
        apply hOk
        · exact
            ⟨sessionId, session, config, doc, url, _,
              hReadsSet, hTenant, hConfigSet, hDocSet, hUrl,
              rfl⟩
        · exact
            ⟨config, doc, redirectUri, hConfigSet, hDocSet,
              hRedirect, sessionId, session, codeVerifier, ttl,
              url, hReadsSet, hSet hDrawn, hStored, hUrl, rfl⟩

end KisAuth
