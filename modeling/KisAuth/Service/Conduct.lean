import KisAuth.Service.Terms

/-
  How the services behave inside a route: one rule for each,
  saying what holds after it whatever it was answered.

  Key theorems include:
    * `conduct_sessionOf`, `conduct_redirectToStatus`
    * `conduct_resolve`, `conduct_fetchDiscovery`
    * `conduct_verifyOidcIdToken`
-/

------------------------------------------------------------
-- Facts Survive Later Answers
------------------------------------------------------------

namespace KisAuth

open Interaction

variable {P : Platform} {cfg : KisAuthConfig} {q : Request}
variable {past later : Past}

theorem ReadsSession.extend
    {req : BrowserRequest}
    {sessionId : String}
    {session : OAuthSession}
    (hReads : ReadsSession req past sessionId session)
    (hSubset : past ⊆ later) :
    ReadsSession req later sessionId session where
  cookie := hReads.cookie
  read := hSubset hReads.read

theorem ConfigFetched.extend
    {partnerSlug : String}
    {config : OidcPartnerConfig}
    (hFetched : ConfigFetched P cfg past partnerSlug config)
    (hSubset : past ⊆ later) :
    ConfigFetched P cfg later partnerSlug config := by
  rcases hFetched with
    ⟨base, headers, reply, body, hBase, hReply, hStatus,
      hBody, hConfig⟩
  exact
    ⟨base, headers, reply, body, hBase, hSubset hReply,
      hStatus, hBody, hConfig⟩

theorem ConfigResolved.extend
    {partnerSlug : String}
    {config : OidcPartnerConfig}
    (hResolved : ConfigResolved P cfg past partnerSlug config)
    (hSubset : past ⊆ later) :
    ConfigResolved P cfg later partnerSlug config := by
  rcases hResolved with ⟨expiresAt, hCached⟩ | hFetched
  · exact Or.inl ⟨expiresAt, hSubset hCached⟩
  · exact Or.inr (hFetched.extend hSubset)

theorem DocFetched.extend
    {discoveryUrl : String}
    {doc : OidcDiscoveryDocument}
    (hFetched : DocFetched past discoveryUrl doc)
    (hSubset : past ⊆ later) :
    DocFetched later discoveryUrl doc := by
  rcases hFetched with ⟨reply, hReply, hDoc⟩
  exact ⟨reply, hSubset hReply, hDoc⟩

theorem DocResolved.extend
    {discoveryUrl : String}
    {doc : OidcDiscoveryDocument}
    (hResolved : DocResolved past discoveryUrl doc)
    (hSubset : past ⊆ later) :
    DocResolved later discoveryUrl doc := by
  rcases hResolved with ⟨expiresAt, hCached⟩ | hFetched
  · exact Or.inl ⟨expiresAt, hSubset hCached⟩
  · exact Or.inr (hFetched.extend hSubset)

theorem Trusted.extend
    {tenant : Option String}
    {jwksUri : String}
    {issuer : List String}
    {audience : String}
    (hTrusted :
      Trusted P cfg past tenant jwksUri issuer audience)
    (hSubset : past ⊆ later) :
    Trusted P cfg later tenant jwksUri issuer audience := by
  cases tenant with
  | none => exact hTrusted
  | some partnerSlug =>
      rcases hTrusted with
        ⟨config, doc, hConfig, hDoc, hNames⟩
      exact
        ⟨config, doc, hConfig.extend hSubset,
          hDoc.extend hSubset, hNames⟩

theorem TokenVerified.extend
    {tenant : Option String}
    {nonce : String}
    {token : VerifiedIdToken}
    (hToken : TokenVerified P cfg past tenant nonce token)
    (hSubset : past ⊆ later)
    (hAsserted : asserted later = asserted past) :
    TokenVerified P cfg later tenant nonce token := by
  rcases hToken with
    ⟨text, jwksUri, issuer, audience, payload, hMem, hOnly,
      hCheck, hTrusted⟩
  exact
    ⟨text, jwksUri, issuer, audience, payload, hSubset hMem,
      by rw [hAsserted, hOnly], hCheck,
      hTrusted.extend hSubset⟩

theorem Verified.extend
    {callback : Callback}
    {sessionId : String}
    {session : OAuthSession}
    {token : VerifiedIdToken}
    (hVerified :
      Verified P cfg callback past sessionId session token)
    (hSubset : past ⊆ later)
    (hAsserted : asserted later = asserted past) :
    Verified P cfg callback later sessionId session
      token where
  reads := hVerified.reads.extend hSubset
  noError := hVerified.noError
  accepted := hVerified.accepted
  tenant := hVerified.tenant
  token := hVerified.token.extend hSubset hAsserted

theorem LinkedRow.extend
    {provider providerSubject kisUserId : String}
    {row : AuthIdentity}
    (hRow :
      LinkedRow past provider providerSubject kisUserId row)
    (hSubset : past ⊆ later) :
    LinkedRow later provider providerSubject kisUserId
      row := by
  rcases hRow with
    ⟨args, hInsert, hArgs⟩ |
    ⟨existing, email, verified, hSelect, hUser, hUpdate⟩
  · exact Or.inl ⟨args, hSubset hInsert, hArgs⟩
  · exact Or.inr
      ⟨existing, email, verified, hSubset hSelect, hUser,
        hSubset hUpdate⟩

theorem Earned.extend
    {callback : Callback}
    {session : OAuthSession}
    {token : VerifiedIdToken}
    {record : ChallengeRecord}
    (hEarned : Earned callback past session token record)
    (hSubset : past ⊆ later) :
    Earned callback later session token record := by
  cases hEarned with
  | link kisUserId row hPurpose hUser hRow hRecord =>
      exact .link kisUserId row hPurpose hUser
        (hRow.extend hSubset) hRecord
  | returning row hPurpose hRegistered hRow hRecord =>
      exact .returning row hPurpose hRegistered
        (hSubset hRow) hRecord

theorem AtTenant.extend
    {partnerSlug : String}
    (hTenant : AtTenant q past partnerSlug)
    (hSubset : past ⊆ later) :
    AtTenant q later partnerSlug := by
  rcases hTenant with
    ⟨req, sessionId, session, hRoute, hReads, hSlug⟩
  exact
    ⟨req, sessionId, session, hRoute,
      hReads.extend hSubset, hSlug⟩

theorem Exchanging.extend
    {callback : Callback}
    {sessionId code codeVerifier : String}
    {session : OAuthSession}
    (hExchanging :
      Exchanging q past callback sessionId session code
        codeVerifier)
    (hSubset : past ⊆ later) :
    Exchanging q later callback sessionId session code
      codeVerifier where
  serves := hExchanging.serves
  reads := hExchanging.reads.extend hSubset
  accepted := hExchanging.accepted
  tenant := hExchanging.tenant

/- One more quiet answer. -/
theorem later_cons
    {effect : Eff}
    (hQuiet : Quiet effect)
    (value : effect.Res)
    (past : Past) :
    Later past (⟨effect, value⟩ :: past) :=
  (Extends.refl past).cons hQuiet value

end KisAuth

------------------------------------------------------------
-- Small Services
------------------------------------------------------------

namespace KisAuth

open Interaction Prog

variable {P : Platform} {cfg : KisAuthConfig} {q : Request}
variable {past : Past}

theorem conduct_orCrash
    {α : Type}
    {final : Past → Except HttpError α → Prop}
    {result : Option α}
    (hSome :
      ∀ value, result = some value → final past (.ok value))
    (hError : ∀ error, final past (.error error)) :
    Obeys (Conducted P cfg q) final (orCrash result) past := by
  cases result with
  | some value => exact hSome value rfl
  | none => exact hError _

theorem conduct_orSqlCrash
    {α : Type}
    {final : Past → Except HttpError α → Prop}
    {result : Except SqlError α}
    (hOk :
      ∀ value, result = .ok value → final past (.ok value))
    (hError : ∀ error, final past (.error error)) :
    Obeys (Conducted P cfg q) final
      (orSqlCrash result) past := by
  cases result with
  | ok value => exact hOk value rfl
  | error error => exact hError _

theorem conduct_enforceRateLimit_exact
    {final : Past → Except HttpError Unit → Prop}
    (policy : RateLimitPolicy)
    (identifier : String)
    (hCounter :
      rateLimitKey policy.scope identifier ∈ q.counters P)
    (hMinute : policy.windowSeconds = 60)
    (hBoth :
      ∀ count outcome,
        final
          (⟨.redisIncr (rateLimitKey policy.scope identifier)
              policy.windowSeconds, count⟩ :: past)
          outcome) :
    Obeys (Conducted P cfg q) final
      (enforceRateLimit policy identifier) past := by
  unfold enforceRateLimit RateLimiter.check
  apply Obeys.andThen
  apply Obeys.andThen
  apply obeys_perform ⟨hCounter, hMinute, trivial⟩
  · intro count
    simp only [andThen_ok, pure_eq, obeys_ret]
    split
    · exact hBoth count _
    · exact hBoth count _

theorem conduct_enforceRateLimit
    {final : Past → Except HttpError Unit → Prop}
    (policy : RateLimitPolicy)
    (identifier : String)
    (hCounter :
      rateLimitKey policy.scope identifier ∈ q.counters P)
    (hMinute : policy.windowSeconds = 60)
    (hOk : ∀ later, Later past later → final later (.ok ()))
    (hError :
      ∀ later error,
        Later past later → final later (.error error)) :
    Obeys (Conducted P cfg q) final
      (enforceRateLimit policy identifier) past := by
  apply conduct_enforceRateLimit_exact _ _ hCounter hMinute
  intro count outcome
  cases outcome with
  | ok done => exact hOk _ (later_cons (by trivial) _ past)
  | error error =>
      exact hError _ _ (later_cons (by trivial) _ past)

theorem conduct_emit
    {final : Past → Except HttpError Unit → Prop}
    (event : SecurityEvent)
    (hOk : ∀ later, Later past later → final later (.ok ())) :
    Obeys (Conducted P cfg q) final (emit event) past := by
  apply obeys_perform ⟨trivial, trivial, trivial⟩
  · intro value
    exact hOk _ (later_cons (by trivial) value past)

theorem conduct_randomId
    {final : Past → Except HttpError String → Prop}
    (hOk :
      ∀ later value,
        Later past later → ⟨.random, value⟩ ∈ later →
          final later (.ok value)) :
    Obeys (Conducted P cfg q) final randomId past := by
  apply obeys_perform ⟨trivial, trivial, trivial⟩
  · intro value
    exact hOk _ value (later_cons (by trivial) value past)
      (by simp)

theorem conduct_dateNow
    {final : Past → Except HttpError Nat → Prop}
    (hOk :
      ∀ later clock,
        Later past later → ⟨.dateNow, clock⟩ ∈ later →
          final later (.ok clock)) :
    Obeys (Conducted P cfg q) final dateNow past := by
  apply obeys_perform ⟨trivial, trivial, trivial⟩
  · intro clock
    exact hOk _ clock (later_cons (by trivial) clock past)
      (by simp)

theorem conduct_fetch
    {final :
      Past → Except HttpError (Option FetchReply) → Prop}
    (request : FetchRequest)
    (hOutgoing : Outgoing P cfg q past request)
    (hOk :
      ∀ later reply,
        Later past later →
          ⟨.fetch request, reply⟩ ∈ later →
            final later (.ok reply)) :
    Obeys (Conducted P cfg q) final
      (doFetch request) past := by
  apply obeys_perform ⟨trivial, hOutgoing, trivial⟩
  · intro reply
    exact hOk _ reply (later_cons (by trivial) reply past)
      (by simp)

/- A SET ends with the value among the writes. -/
theorem conduct_redisSet
    {final : Past → Except HttpError Unit → Prop}
    {key : String}
    {value : RedisValue}
    {ttl : ℚ}
    (hAllowed : WriteAllowed P cfg q past key value)
    (hTerm : KeepsTerm cfg past key value ttl)
    (hDrawn :
      ∀ codeVerifier,
        value.codeVerifier = some codeVerifier →
          ⟨.random, codeVerifier⟩ ∈ past)
    (hOk :
      ∀ later,
        past ⊆ later →
          writes later = (key, value) :: writes past →
            asserted later = asserted past →
              ⟨.redisSet key value ttl, .ok ()⟩ ∈ later →
                final later (.ok ()))
    (hError : ∀ later error, final later (.error error)) :
    Obeys (Conducted P cfg q) final
      (Redis.set key value ttl) past := by
  unfold Redis.set
  apply Obeys.andThen
  apply obeys_perform ⟨hAllowed, ⟨hTerm, hDrawn⟩, trivial⟩
  intro result
  simp only [andThen_ok]
  cases result with
  | ok done =>
      apply hOk
      · exact List.subset_cons_self _ _
      · rfl
      · rfl
      · exact List.mem_cons_self
  | error error => exact hError _ _

theorem conduct_deleteSession
    {final : Past → Except HttpError Unit → Prop}
    (sessionId : String)
    (hHeld : q.held = some sessionId)
    (hOk :
      ∀ later,
        Later past later →
          ⟨.redisDel (sessionKey sessionId), ()⟩ ∈ later →
            final later (.ok ())) :
    Obeys (Conducted P cfg q) final
      (OAuthSessionStore.delete sessionId) past := by
  apply obeys_perform
  · exact ⟨⟨sessionId, rfl⟩, trivial, ownSession_self hHeld⟩
  · intro value
    exact hOk _ (later_cons (by trivial) value past) (by simp)

/- The session of a cookie, with the cookie that names it. -/
theorem conduct_sessionOf
    {final :
      Past →
        Except HttpError (Option (String × OAuthSession)) →
          Prop}
    {req : BrowserRequest}
    {cookie : Option String}
    (hBrowser : q.browser = some req)
    (hCookie : sessionCookie req = some cookie)
    (hNone :
      ∀ later, Later past later → final later (.ok none))
    (hSome :
      ∀ later sessionId session,
        Later past later →
          ReadsSession req later sessionId session →
            final later (.ok (some (sessionId, session)))) :
    Obeys (Conducted P cfg q) final (sessionOf cookie) past := by
  unfold sessionOf
  cases cookie with
  | none => exact hNone _ (Extends.refl past)
  | some sessionId =>
      simp only
      split
      · exact hNone _ (Extends.refl past)
      · unfold OAuthSessionStore.get
        apply Obeys.andThen
        apply Obeys.andThen
        apply obeys_perform
        · exact
            ⟨Or.inl ⟨sessionId, rfl⟩, trivial,
              ownSession_self (held_of_cookie hBrowser hCookie)⟩
        · intro raw
          have hLater :
              Later past
                (⟨.redisGet (sessionKey sessionId), raw⟩ ::
                  past) :=
            later_cons (by trivial) raw past
          simp only [andThen_ok, pure_eq, obeys_ret]
          unfold OAuthSessionStore.asSession
          split
          · next session =>
              exact hSome _ sessionId session hLater
                ⟨hCookie, by simp⟩
          · exact hNone _ hLater

/- A hand-off through the status page. -/
theorem conduct_redirectToStatus
    {final : Past → Except HttpError Response → Prop}
    {state redirectUri : String}
    {params : List (String × String)}
    (hOk :
      ∀ target location,
        P.parseUrl redirectUri = some target →
          statusRedirectUrl P cfg state
              (P.href (setSearchParams P target params)) =
            some location →
              final past (.ok (.redirect location none)))
    (hError : ∀ error, final past (.error error)) :
    Obeys (Conducted P cfg q) final
      (redirectToStatus P cfg state redirectUri params)
      past := by
  unfold redirectToStatus
  apply Obeys.andThen
  apply conduct_orCrash
  · intro target hTarget
    simp only [andThen_ok]
    apply Obeys.andThen
    apply conduct_orCrash
    · intro location hLocation
      exact hOk target location hTarget hLocation
    · exact hError
  · exact hError

end KisAuth

------------------------------------------------------------
-- Tenants And Tokens
------------------------------------------------------------

namespace KisAuth

open Interaction Prog

variable {P : Platform} {cfg : KisAuthConfig} {q : Request}
variable {past : Past}

/- A configuration in a reply that was accepted. -/
theorem conduct_resolveReply
    {final :
      Past →
        Except HttpError
            (Except ResolveFailure OidcPartnerConfig) →
          Prop}
    {reply : Option FetchReply}
    (hOk :
      ∀ result,
        (∀ config,
          result = .ok config →
            ∃ found body,
              reply = some found ∧
                statusFailure found = none ∧
                found.body = some body ∧
                partnerConfigOf body = some config) →
          final past (.ok result))
    (hError : ∀ error, final past (.error error)) :
    Obeys (Conducted P cfg q) final
      (resolveReply reply) past := by
  unfold resolveReply
  cases reply with
  | none => exact hOk _ (by simp)
  | some found =>
      simp only
      cases hStatus : statusFailure found with
      | some failure => exact hOk _ (by simp)
      | none =>
          simp only
          cases hBody : found.body with
          | none => exact hOk _ (by simp)
          | some body =>
              cases hConfig : partnerConfigOf body with
              | none =>
                  cases body with
                  | null => exact hError _
                  | _ =>
                      simp only [hConfig]
                      exact hOk _ (by simp)
              | some config =>
                  cases body with
                  | null => exact hError _
                  | _ =>
                      simp only [hConfig]
                      apply hOk
                      intro other hOther
                      simp only [Except.ok.injEq] at hOther
                      subst hOther
                      exact ⟨found, _, rfl, hStatus, hBody,
                        hConfig⟩

theorem conduct_requestPartnerConfig
    {final :
      Past →
        Except HttpError
            (Except ResolveFailure OidcPartnerConfig) →
          Prop}
    (partnerSlug : String)
    (hTenant : AtTenant q past partnerSlug)
    (hOk :
      ∀ later result,
        Later past later →
          (∀ config,
            result = .ok config →
              ConfigFetched P cfg later partnerSlug
                config) →
            final later (.ok result))
    (hError :
      ∀ later error,
        Later past later → final later (.error error)) :
    Obeys (Conducted P cfg q) final
      (requestPartnerConfig P cfg partnerSlug) past := by
  unfold requestPartnerConfig
  apply Obeys.andThen
  apply conduct_orCrash
  case hError =>
    exact fun error =>
      hError _ error (Extends.refl past)
  intro base hBase
  simp only [andThen_ok]
  apply Obeys.andThen
  apply conduct_dateNow
  intro pastNow now hNow _
  simp only [andThen_ok]
  apply Obeys.andThen
  apply conduct_randomId
  intro pastNonce nonce hNonce _
  simp only [andThen_ok]
  apply Obeys.andThen
  apply conduct_orCrash
  case hError =>
    exact fun error =>
      hError _ error (hNow.trans hNonce)
  intro headers hHeaders
  simp only [andThen_ok]
  apply Obeys.andThen
  apply conduct_fetch
  · exact
      .tenantConfig partnerSlug _
        (hTenant.extend (hNow.trans hNonce).subset)
        ⟨base, headers, now, nonce, hBase, hHeaders, rfl⟩
  intro pastReply reply hReply hMem
  have hLater : Later past pastReply :=
    (hNow.trans hNonce).trans hReply
  apply conduct_resolveReply
  · intro result hResult
    apply hOk _ _ hLater
    intro config hConfig
    rcases hResult config hConfig with
      ⟨found, body, rfl, hStatus, hBody, hParsed⟩
    exact
      ⟨base, headers, found, body, hBase, hMem, hStatus,
        hBody, hParsed⟩
  · exact fun error => hError _ error hLater

/- A resolved configuration was cached or fetched. -/
theorem conduct_resolve
    {final :
      Past →
        Except HttpError
            (Except ResolveFailure OidcPartnerConfig) →
          Prop}
    (partnerSlug : String)
    (hTenant : AtTenant q past partnerSlug)
    (hOk :
      ∀ later result,
        Later past later →
          (∀ config,
            result = .ok config →
              ConfigResolved P cfg later partnerSlug
                config) →
            final later (.ok result))
    (hError :
      ∀ later error,
        Later past later → final later (.error error)) :
    Obeys (Conducted P cfg q) final
      (OidcProviderResolverService.resolve P cfg partnerSlug)
      past := by
  unfold OidcProviderResolverService.resolve
  apply Obeys.andThen
  apply obeys_perform ⟨trivial, trivial, trivial⟩
  intro cached
  have hCached :
      Later past
        (⟨.ssoCacheGet partnerSlug, cached⟩ :: past) :=
    later_cons (by trivial) cached past
  simp only [andThen_ok]
  apply Obeys.andThen
  apply conduct_dateNow
  intro pastNow readAt hNow _
  have hLater : Later past pastNow := hCached.trans hNow
  simp only [andThen_ok]
  split
  · next config hFresh =>
      apply hOk _ _ hLater
      intro other hOther
      simp only [Except.ok.injEq] at hOther
      subst hOther
      left
      unfold freshEntry at hFresh
      split at hFresh
      · next value expiresAt =>
          split at hFresh
          · simp only [Option.some.injEq] at hFresh
            subst hFresh
            exact ⟨expiresAt, hNow.subset (by simp)⟩
          · simp at hFresh
      · simp at hFresh
  · split
    · exact hOk _ _ hLater (by simp)
    · apply Obeys.andThen
      apply conduct_requestPartnerConfig _
        (hTenant.extend hLater.subset)
      case hError =>
        exact fun later error hMore =>
          hError _ error (hLater.trans hMore)
      intro pastReply resolved hReply hFetched
      have hReplied : Later past pastReply :=
        hLater.trans hReply
      simp only [andThen_ok]
      cases resolved with
      | error failure => exact hOk _ _ hReplied (by simp)
      | ok config =>
          apply Obeys.andThen
          apply conduct_dateNow
          intro pastTime now hTime _
          have hConfig :
              ConfigFetched P cfg pastTime partnerSlug
                config :=
            (hFetched config rfl).extend hTime.subset
          simp only [andThen_ok]
          apply Obeys.andThen
          apply obeys_perform ⟨hConfig, trivial, trivial⟩
          intro done
          apply hOk
          · exact (hReplied.trans hTime).cons (by trivial)
              done
          · intro other hOther
            simp only [Except.ok.injEq] at hOther
            subst hOther
            right
            exact hConfig.extend
              (List.subset_cons_self _ _)

/- A discovery document was cached or fetched. -/
theorem conduct_fetchDiscovery
    {final :
      Past →
        Except HttpError (Option OidcDiscoveryDocument) →
          Prop}
    (discoveryUrl : String)
    (hOutgoing :
      ∀ later,
        Later past later →
          Outgoing P cfg q later
            { method := "GET", url := discoveryUrl })
    (hOk :
      ∀ later result,
        Later past later →
          (∀ doc,
            result = some doc →
              DocResolved later discoveryUrl doc) →
            final later (.ok result)) :
    Obeys (Conducted P cfg q) final
      (OidcDiscoveryService.fetchDiscovery discoveryUrl)
      past := by
  unfold OidcDiscoveryService.fetchDiscovery
  apply Obeys.andThen
  apply obeys_perform ⟨trivial, trivial, trivial⟩
  intro cached
  have hCached :
      Later past
        (⟨.discoveryCacheGet discoveryUrl, cached⟩ ::
          past) :=
    later_cons (by trivial) cached past
  simp only [andThen_ok]
  apply Obeys.andThen
  apply conduct_dateNow
  intro pastNow readAt hNow _
  have hLater : Later past pastNow := hCached.trans hNow
  simp only [andThen_ok]
  split
  · next doc hFresh =>
      apply hOk _ _ hLater
      intro other hOther
      simp only [Option.some.injEq] at hOther
      subst hOther
      left
      unfold freshEntry at hFresh
      split at hFresh
      · next value expiresAt =>
          split at hFresh
          · simp only [Option.some.injEq] at hFresh
            subst hFresh
            exact ⟨expiresAt, hNow.subset (by simp)⟩
          · simp at hFresh
      · simp at hFresh
  · apply Obeys.andThen
    apply conduct_fetch _ (hOutgoing _ hLater)
    intro pastReply reply hReply hMem
    have hReplied : Later past pastReply :=
      hLater.trans hReply
    simp only [andThen_ok]
    split
    · exact hOk _ _ hReplied (by simp)
    · next doc hDoc =>
        apply Obeys.andThen
        apply conduct_dateNow
        intro pastTime now hTime _
        have hFetched : DocFetched pastTime discoveryUrl doc :=
          ⟨reply, hTime.subset hMem, hDoc⟩
        simp only [andThen_ok]
        apply Obeys.andThen
        apply obeys_perform ⟨hFetched, trivial, trivial⟩
        intro done
        apply hOk
        · exact (hReplied.trans hTime).cons (by trivial) done
        · intro other hOther
          simp only [Option.some.injEq] at hOther
          subst hOther
          right
          exact hFetched.extend (List.subset_cons_self _ _)

/-
  The checks after the library's own. The token's answer is
  the first one of the request.
-/
theorem conduct_verifyOidcIdToken
    {final :
      Past →
        Except HttpError
            (Except ProviderFailure VerifiedIdToken) →
          Prop}
    {idToken : JsValue}
    {expected : IdTokenExpectation}
    (tenant : Option String)
    (hNone : asserted past = [])
    (hTrusted :
      Trusted P cfg past tenant expected.jwksUri
        expected.issuer expected.audience)
    (hVerifies :
      VerifiesWith P cfg q past expected.jwksUri expected.issuer
        expected.audience)
    (hOk :
      ∀ later result,
        past ⊆ later →
          writes later = writes past →
            lookups later = lookups past →
              (∀ token,
                result = .ok token →
                  TokenVerified P cfg later tenant
                    expected.nonce token) →
                final later (.ok result)) :
    Obeys (Conducted P cfg q) final
      (verifyOidcIdToken idToken expected) past := by
  unfold verifyOidcIdToken
  split
  · next text =>
      apply Obeys.andThen
      apply obeys_perform ⟨hNone, hVerifies, trivial⟩
      intro payload
      simp only [andThen_ok]
      have hSubset :
          past ⊆
            ⟨.jwtVerify text expected.jwksUri expected.issuer
              expected.audience, payload⟩ :: past :=
        List.subset_cons_self _ _
      split
      · next verified hChecked =>
          apply hOk _ _ hSubset rfl rfl
          intro token hToken
          simp only [Except.ok.injEq] at hToken
          subst hToken
          rcases Option.bind_eq_some_iff.mp hChecked with
            ⟨claims, rfl, hCheck⟩
          refine
            ⟨text, expected.jwksUri, expected.issuer,
              expected.audience, claims, by simp, ?_, hCheck,
              hTrusted.extend hSubset⟩
          unfold asserted at hNone ⊢
          simp [assertedBy, hNone]
      · exact hOk _ _ hSubset rfl rfl (by simp)
  · exact hOk _ _ (fun _ hMem => hMem) rfl rfl (by simp)

end KisAuth
