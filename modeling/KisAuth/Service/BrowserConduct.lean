import KisAuth.Service.Conduct

/-
  How a callback verifies an identity and what it makes of
  it.

  Key theorems include:
    * `conduct_googleIdentity`
    * `conduct_enterpriseIdentity`, `conduct_link`
    * `conduct_confirmAndRedirect`
    * `conduct_finalizeLink` and its siblings
-/

------------------------------------------------------------
-- Identities Of Tenants And Google
------------------------------------------------------------

namespace KisAuth

open Interaction Prog

variable {P : Platform} {cfg : KisAuthConfig} {q : Request}
variable {past : Past}

theorem conduct_resolveOrFail
    {final :
      Past → Except HttpError OidcPartnerConfig → Prop}
    (partnerSlug clientId sessionId ip : String)
    (hTenant : AtTenant q past partnerSlug)
    (hHeld : q.held = some sessionId)
    (hOk :
      ∀ later config,
        Later past later →
          ConfigResolved P cfg later partnerSlug config →
            final later (.ok config))
    (hError : ∀ later error, final later (.error error)) :
    Obeys (Conducted P cfg q) final
      (OidcEnterpriseController.resolveOrFail P cfg
        partnerSlug clientId sessionId ip)
      past := by
  unfold OidcEnterpriseController.resolveOrFail
  apply Obeys.andThen
  apply conduct_resolve _ hTenant
  case hError =>
    exact fun later error _ => hError later error
  intro later resolved hLater hResolved
  simp only [andThen_ok]
  cases resolved with
  | ok config =>
      exact hOk later config hLater (hResolved config rfl)
  | error failure =>
      apply Obeys.andThen
      apply conduct_emit
      intro pastEmit _
      simp only [andThen_ok]
      apply Obeys.andThen
      apply conduct_deleteSession _ hHeld
      intro pastDel _ _
      exact hError _ _

theorem conduct_discoverOrFail
    {final :
      Past → Except HttpError OidcDiscoveryDocument → Prop}
    {config : OidcPartnerConfig}
    (partnerSlug clientId sessionId ip : String)
    (hTenant : AtTenant q past partnerSlug)
    (hConfig : ConfigResolved P cfg past partnerSlug config)
    (hHeld : q.held = some sessionId)
    (hOk :
      ∀ later doc,
        Later past later →
          DocResolved later config.discoveryUrl doc →
            final later (.ok doc))
    (hError : ∀ later error, final later (.error error)) :
    Obeys (Conducted P cfg q) final
      (OidcEnterpriseController.discoverOrFail partnerSlug
        config.discoveryUrl clientId sessionId ip)
      past := by
  unfold OidcEnterpriseController.discoverOrFail
  apply Obeys.andThen
  apply conduct_fetchDiscovery
  · exact fun later hLater =>
      .discovery partnerSlug config
        (hTenant.extend hLater.subset)
        (hConfig.extend hLater.subset)
  intro later result hLater hResolved
  simp only [andThen_ok]
  cases result with
  | some doc =>
      exact hOk later doc hLater (hResolved doc rfl)
  | none =>
      apply Obeys.andThen
      apply conduct_emit
      intro pastEmit _
      simp only [andThen_ok]
      apply Obeys.andThen
      apply conduct_deleteSession _ hHeld
      intro pastDel _ _
      exact hError _ _

/- A Google identity comes from a token Google signed. -/
theorem conduct_googleIdentity
    {final :
      Past →
        Except HttpError
            (Except ProviderFailure VerifiedIdToken) →
          Prop}
    {callback : Callback}
    {code codeVerifier sessionId : String}
    {session : OAuthSession}
    (nonce : String)
    (hExchanging :
      Exchanging q past callback sessionId session code
        codeVerifier)
    (hRoute : callback.tenant = none)
    (hNone : asserted past = [])
    (hOk :
      ∀ later result,
        past ⊆ later →
          writes later = writes past →
            lookups later = lookups past →
              (∀ token,
                result = .ok token →
                  TokenVerified P cfg later none nonce
                    token) →
                final later (.ok result)) :
    Obeys (Conducted P cfg q) final
      (OAuthController.verifiedIdentity cfg code codeVerifier
        nonce)
      past := by
  unfold OAuthController.verifiedIdentity
    GoogleTokenExchangeService.exchangeCodeForIdToken
  apply Obeys.andThen
  apply Obeys.andThen
  apply conduct_fetch
  · apply Outgoing.token _ _ _ _ _ _ hExchanging
    rw [hRoute]
    rfl
  intro later reply hLater _
  simp only [andThen_ok, pure_eq, obeys_ret]
  cases idTokenOf reply with
  | error failure =>
      exact
        hOk _ _ hLater.subset hLater.writes_eq
          hLater.lookups_eq (by simp)
  | ok idToken =>
      unfold GoogleIdTokenService.verify
      apply conduct_verifyOidcIdToken none
      · rw [hLater.asserted_eq, hNone]
      · exact ⟨rfl, rfl, rfl⟩
      · refine
          ⟨callback, sessionId, session, code, codeVerifier,
            hExchanging.extend hLater.subset, ?_⟩
        rw [hRoute]
        exact ⟨rfl, rfl, rfl⟩
      · intro pastToken result hSubset hWrites hLookups
          hToken
        apply hOk _ _
          (List.Subset.trans hLater.subset hSubset)
        · rw [hWrites, hLater.writes_eq]
        · rw [hLookups, hLater.lookups_eq]
        · exact hToken

/- A tenant's identity comes from the tenant's provider. -/
theorem conduct_enterpriseIdentity
    {final :
      Past →
        Except HttpError
            (Except ProviderFailure VerifiedIdToken) →
          Prop}
    {callback : Callback}
    {partnerSlug code codeVerifier sessionId : String}
    {session : OAuthSession}
    {config : OidcPartnerConfig}
    {doc : OidcDiscoveryDocument}
    (nonce : String)
    (hExchanging :
      Exchanging q past callback sessionId session code
        codeVerifier)
    (hRoute : callback.tenant = some partnerSlug)
    (hNone : asserted past = [])
    (hConfig : ConfigResolved P cfg past partnerSlug config)
    (hDoc : DocResolved past config.discoveryUrl doc)
    (hOk :
      ∀ later result,
        past ⊆ later →
          writes later = writes past →
            lookups later = lookups past →
              (∀ token,
                result = .ok token →
                  TokenVerified P cfg later
                    (some partnerSlug) nonce token) →
                final later (.ok result)) :
    Obeys (Conducted P cfg q) final
      (OidcEnterpriseController.verifiedIdentity P cfg
        partnerSlug code codeVerifier nonce config doc)
      past := by
  unfold OidcEnterpriseController.verifiedIdentity
    OidcTokenExchangeService.exchangeCodeForIdToken
  split
  · exact hOk _ _ (fun _ hMem => hMem) rfl rfl (by simp)
  · next redirectUri hRedirect =>
      apply Obeys.andThen
      apply Obeys.andThen
      apply conduct_fetch
      · apply Outgoing.token _ _ _ _ _ _ hExchanging
        rw [hRoute]
        exact
          ⟨config, doc, redirectUri, hConfig, hDoc, hRedirect,
            rfl⟩
      intro later reply hLater _
      simp only [andThen_ok, pure_eq, obeys_ret]
      cases idTokenOf reply with
      | error failure =>
          exact
          hOk _ _ hLater.subset hLater.writes_eq
            hLater.lookups_eq (by simp)
      | ok idToken =>
          simp only
          unfold OidcIdTokenService.verify
          split
          · exact
              hOk _ _ hLater.subset hLater.writes_eq
                hLater.lookups_eq (by simp)
          · apply conduct_verifyOidcIdToken (some partnerSlug)
            · rw [hLater.asserted_eq, hNone]
            · exact
                ⟨config, doc, hConfig.extend hLater.subset,
                  hDoc.extend hLater.subset, rfl, rfl, rfl⟩
            · refine
                ⟨callback, sessionId, session, code,
                  codeVerifier, hExchanging.extend hLater.subset,
                  ?_⟩
              rw [hRoute]
              exact
                ⟨config, doc, hConfig.extend hLater.subset,
                  hDoc.extend hLater.subset, rfl, rfl, rfl⟩
            · intro pastToken result hSubset hWrites hLookups
                hToken
              apply hOk _ _
                (List.Subset.trans hLater.subset hSubset)
              · rw [hWrites, hLater.writes_eq]
              · rw [hLookups, hLater.lookups_eq]
              · exact hToken

/- A link answers with a row of the identity linked. -/
theorem conduct_link
    {final : Past → Except HttpError LinkResult → Prop}
    (args : NewIdentity)
    (hFirst : lookups past = [])
    (hLookup :
      LookupAuthorized P cfg q past args.provider
        args.providerSubject)
    (hLink :
      ∀ later,
        Kept past later →
          LinkAuthorized P cfg q later args)
    (hOk :
      ∀ later result,
        Kept past later →
          (∀ row,
            result = .ok row →
              LinkedRow later args.provider
                args.providerSubject args.kisUserId row) →
            final later (.ok result))
    (hError :
      ∀ later error,
        Kept past later → final later (.error error)) :
    Obeys (Conducted P cfg q) final
      (IdentityService.link args) past := by
  unfold IdentityService.link
    IdentityService.findByProviderSubject
  apply Obeys.andThen
  apply Obeys.andThen
  apply obeys_perform ⟨⟨hFirst, hLookup⟩, trivial, trivial⟩
  intro rows
  have hRows :=
    kept_lookup past args.provider args.providerSubject rows
  simp only [andThen_ok]
  apply conduct_orSqlCrash
  case hError =>
    exact fun error => hError _ error hRows
  rintro existing rfl
  simp only [andThen_ok]
  cases existing with
  | none =>
      apply Obeys.andThen
      apply obeys_perform
        ⟨⟨hLink _ hRows, List.mem_cons_self⟩, trivial, trivial⟩
      intro result
      have hLater :
          Kept past
            (⟨.insertIdentity args, result⟩ ::
              ⟨.selectIdentity args.provider
                args.providerSubject, .ok none⟩ :: past) :=
        hRows.trans (later_cons (by trivial) result _).kept
      simp only [andThen_ok]
      cases result with
      | ok row =>
          apply hOk _ _ hLater
          intro other hOther
          simp only [LinkResult.ok.injEq] at hOther
          subst hOther
          exact Or.inl ⟨args, by simp, rfl, rfl, rfl⟩
      | error error =>
          cases error with
          | uniqueViolation => exact hOk _ _ hLater (by simp)
          | invalidText => exact hError _ _ hLater
  | some existing =>
      simp only
      split
      · exact hOk _ _ hRows (by simp)
      · next hUser =>
          apply Obeys.andThen
          apply obeys_perform
          · refine ⟨?_, trivial, trivial⟩
            exact
              ⟨args, existing, hLink _ hRows, by simp,
                by simpa using hUser, rfl⟩
          intro result
          have hLater :
              Kept past
                (⟨.updateIdentity args.providerEmail
                    args.providerEmailVerified existing.id,
                  result⟩ ::
                  ⟨.selectIdentity args.provider
                    args.providerSubject,
                    .ok (some existing)⟩ :: past) :=
            hRows.trans
              (later_cons (by trivial) result _).kept
          simp only [andThen_ok]
          apply Obeys.andThen
          apply conduct_orSqlCrash
          case hError =>
            exact fun error => hError _ error hLater
          rintro found rfl
          simp only [andThen_ok]
          cases found with
          | none => exact hError _ _ hLater
          | some row =>
              apply hOk _ _ hLater
              intro other hOther
              simp only [LinkResult.ok.injEq] at hOther
              subst hOther
              exact Or.inr
                ⟨existing, args.providerEmail,
                  args.providerEmailVerified, by simp,
                  by simpa using hUser, by simp⟩

end KisAuth

------------------------------------------------------------
-- Outcomes Of A Callback
------------------------------------------------------------

namespace KisAuth

open Interaction Prog

/- The session that was verified is that of the cookie. -/
theorem Verified.held
    {P : Platform}
    {cfg : KisAuthConfig}
    {q : Request}
    {past : Past}
    {callback : Callback}
    {sessionId : String}
    {session : OAuthSession}
    {token : VerifiedIdToken}
    (hVerified :
      Verified P cfg callback past sessionId session token)
    (hCallback : q.callback = some callback) :
    q.held = some sessionId :=
  held_of_cookie (callback_browser hCallback)
    hVerified.reads.cookie

/- A callback may fail, or hand off to its session's client. -/
structure CallbackEnds
    (P : Platform)
    (cfg : KisAuthConfig)
    (callback : Callback)
    (final : Past → Except HttpError Response → Prop) :
    Prop where
  handOff :
    ∀ later location,
      HandsOff P cfg callback.req later location →
        final later (.ok (.redirect location none))
  error : ∀ later error, final later (.error error)

variable {P : Platform} {cfg : KisAuthConfig} {q : Request}
variable {past : Past} {callback : Callback}
variable {final : Past → Except HttpError Response → Prop}
variable {sessionId : String} {session : OAuthSession}
variable {token : VerifiedIdToken}

theorem conduct_handOff
    {state : String}
    {params : List (String × String)}
    (hEnds : CallbackEnds P cfg callback final)
    (hReads :
      ReadsSession callback.req past sessionId session)
    (hState : state ∈ pageStates.map Prod.fst)
    (hDelivers : Delivers past session params) :
    Obeys (Conducted P cfg q) final
      (redirectToStatus P cfg state session.redirectUri
        params)
      past := by
  apply conduct_redirectToStatus
  · intro target location hTarget hLocation
    apply hEnds.handOff
    exact
      ⟨sessionId, session, target, state, params, hReads,
        hTarget, hState, hDelivers, hLocation⟩
  · exact fun error => hEnds.error past error

/- Marking a challenge writes it as used, or nothing. -/
theorem conduct_markChallengeUsed
    {final : Past → Except HttpError Unit → Prop}
    {challengeId : String}
    {first : ChallengeRecord}
    (hRandom : ⟨.random, challengeId⟩ ∈ past)
    (hCallback : q.callback = some callback)
    (hVerified :
      Verified P cfg callback past sessionId session token)
    (hEarned : Earned callback past session token first)
    (hOk :
      ∀ later,
        past ⊆ later →
          asserted later = asserted past →
            (∀ key value,
              (key, value) ∈ writes later →
                (key, value) ∈ writes past ∨
                  key = challengeKey challengeId ∧
                    ∃ marked : ChallengeRecord,
                      value = .challenge marked ∧
                        marked.used = true) →
              final later (.ok ()))
    (hError : ∀ later error, final later (.error error)) :
    Obeys (Conducted P cfg q) final
      (ChallengeStore.markChallengeUsed challengeId)
      past := by
  unfold ChallengeStore.markChallengeUsed
  apply Obeys.andThen
  apply obeys_perform
  · exact
      ⟨Or.inr ⟨challengeId, rfl⟩, trivial,
        ownSession_other (by decide) _⟩
  intro raw
  have hRaw :
      Later past
        (⟨.redisGet (challengeKey challengeId), raw⟩ ::
          past) :=
    later_cons (by trivial) raw past
  simp only [andThen_ok]
  split
  · apply hOk _ hRaw.subset hRaw.asserted_eq
    intro key value hMem
    rw [hRaw.writes_eq] at hMem
    exact Or.inl hMem
  · next record =>
      apply Obeys.andThen
      apply obeys_perform
      · exact
          ⟨Or.inr ⟨challengeId, rfl⟩, trivial,
            ownSession_other (by decide) _⟩
      intro ttl
      have hTtl :
          Later past
            (⟨.redisTtl (challengeKey challengeId), ttl⟩ ::
              ⟨.redisGet (challengeKey challengeId), raw⟩ ::
                past) :=
        hRaw.cons (by trivial) ttl
      simp only [andThen_ok]
      split
      · apply hOk _ hTtl.subset hTtl.asserted_eq
        intro key value hMem
        rw [hTtl.writes_eq] at hMem
        exact Or.inl hMem
      · next hLeft =>
          apply conduct_redisSet
          case hError => exact hError
          case hTerm =>
            exact Or.inr
              ⟨ttl, not_le.mp hLeft, List.mem_cons_self, rfl⟩
          case hDrawn => simp [RedisValue.codeVerifier]
          · exact
              ⟨challengeId, callback, sessionId, session, token,
                first, rfl, hTtl.subset hRandom, hCallback,
                hVerified.extend hTtl.subset hTtl.asserted_eq,
                hEarned.extend hTtl.subset, Or.inr rfl⟩
          · intro later hSubset hWrites hAsserted _
            apply hOk
            · exact List.Subset.trans hTtl.subset hSubset
            · rw [hAsserted, hTtl.asserted_eq]
            · intro key value hMem
              rw [hWrites, hTtl.writes_eq] at hMem
              rcases List.mem_cons.mp hMem with hEq | hMem
              · simp only [Prod.mk.injEq] at hEq
                rcases hEq with ⟨rfl, rfl⟩
                exact Or.inr ⟨rfl, _, rfl, rfl⟩
              · exact Or.inl hMem

/-
  A confirmed challenge becomes a code for what the
  challenge was earned by.
-/
theorem conduct_confirmAndRedirect
    {challengeId successState : String}
    {first : ChallengeRecord}
    (hEnds : CallbackEnds P cfg callback final)
    (hState : successState ∈ pageStates.map Prod.fst)
    (hCallback : q.callback = some callback)
    (hVerified :
      Verified P cfg callback past sessionId session token)
    (hRandom : ⟨.random, challengeId⟩ ∈ past)
    (hEarned : Earned callback past session token first)
    (hWrites :
      writes past =
        [(challengeKey challengeId, .challenge first)])
    (hDeleted :
      ⟨.redisDel (sessionKey sessionId), ()⟩ ∈ past) :
    Obeys (Conducted P cfg q) final
      (OAuthOutcomeService.confirmAndRedirect P cfg
        challengeId session.redirectUri session.clientState
        successState)
      past := by
  unfold OAuthOutcomeService.confirmAndRedirect
    ChallengeStore.getChallenge
  apply Obeys.andThen
  apply Obeys.andThen
  apply obeys_perform
  · exact
      ⟨Or.inr ⟨challengeId, rfl⟩, trivial,
        ownSession_other (by decide) _⟩
  intro raw
  have hRaw :
      Later past
        (⟨.redisGet (challengeKey challengeId), raw⟩ ::
          past) :=
    later_cons (by trivial) raw past
  simp only [andThen_ok, pure_eq, obeys_ret]
  split
  · exact hEnds.error _ _
  · next payload hPayload =>
      have hRecord :
          ∃ record,
            raw = some (.challenge record) ∧
              confirmedPayload (some record)
                session.redirectUri = some payload := by
        unfold ChallengeStore.asChallenge at hPayload
        split at hPayload
        · next record => exact ⟨record, rfl, hPayload⟩
        · simp [confirmedPayload] at hPayload
      rcases hRecord with ⟨record, rfl, hConfirmed⟩
      apply Obeys.andThen
      apply conduct_markChallengeUsed
        (hRaw.subset hRandom) hCallback
        (hVerified.extend hRaw.subset hRaw.asserted_eq)
        (hEarned.extend hRaw.subset)
      case hError =>
        exact fun later error => hEnds.error later error
      intro pastMark hMark hMarkAsserted hMarkWrites
      simp only [andThen_ok]
      apply Obeys.andThen
      unfold ChallengeStore.issueAuthorizationCode
      apply Obeys.andThen
      apply conduct_randomId
      intro pastCode code hCode hCodeMem
      have hSubset : past ⊆ pastCode :=
        List.Subset.trans hRaw.subset
          (List.Subset.trans hMark hCode.subset)
      have hAsserted : asserted pastCode = asserted past := by
        rw [hCode.asserted_eq, hMarkAsserted,
          hRaw.asserted_eq]
      have hOnly :
          ChallengesOnly pastCode challengeId first := by
        intro key value hMem
        rw [hCode.writes_eq] at hMem
        rcases hMarkWrites key value hMem with
          hOld | ⟨hKey, hMarked⟩
        · rw [hRaw.writes_eq, hWrites] at hOld
          simp only [List.mem_singleton, Prod.mk.injEq]
            at hOld
          exact ⟨hOld.1, Or.inl hOld.2⟩
        · exact ⟨hKey, Or.inr hMarked⟩
      simp only [andThen_ok]
      apply Obeys.andThen
      apply conduct_redisSet
      case hError =>
        exact fun later error => hEnds.error later error
      case hTerm => exact Or.inl rfl
      case hDrawn => simp [RedisValue.codeVerifier]
      · refine
          ⟨callback, sessionId, session, token, hCallback,
            ?_⟩
        exact
          { verified := hVerified.extend hSubset hAsserted
            code := ⟨code, rfl, hCodeMem⟩
            challenge :=
              ⟨challengeId, first, record, hSubset hRandom,
                hEarned.extend hSubset, hOnly,
                hCode.subset (hMark (by simp)), hConfirmed⟩
            deleted := hSubset hDeleted }
      · intro later hLater _ _ hStored
        simp only [andThen_ok, pure_eq, obeys_ret]
        apply conduct_handOff hEnds
        · exact hVerified.reads.extend
            (List.Subset.trans hSubset hLater)
        · exact hState
        · exact .grant code (.code payload) _ trivial hStored

/- A link ends in a code for the user the session names. -/
theorem conduct_finalizeLink
    {args : OutcomeArgs}
    (hEnds : CallbackEnds P cfg callback final)
    (hCallback : q.callback = some callback)
    (hVerified :
      Verified P cfg callback past args.sessionId
        args.session token)
    (hWrites : writes past = [])
    (hFirst : lookups past = [])
    (hProvider : args.provider = callback.provider)
    (hSubject :
      args.verifiedIdentity.sub = callback.subject token.sub)
    (hPurpose : args.session.purpose = "link") :
    Obeys (Conducted P cfg q) final
      (OAuthOutcomeService.finalizeLink P cfg args) past := by
  unfold OAuthOutcomeService.finalizeLink
  have hHeld : q.held = some args.sessionId :=
    hVerified.held hCallback
  split
  · apply Obeys.andThen
    apply conduct_deleteSession _ hHeld
    intro later _ _
    exact hEnds.error _ _
  · next kisUserId hUser =>
      rcases (truthyText_eq_some_iff _ _).mp hUser with
        ⟨hNamed, _⟩
      apply Obeys.andThen
      apply conduct_link
      case hError =>
        exact fun later error _ => hEnds.error later error
      · exact hFirst
      · exact Or.inr
          ⟨callback, args.sessionId, args.session, token,
            hCallback, hVerified, hProvider, hSubject⟩
      · intro later hLater
        right
        refine
          ⟨callback, args.sessionId, args.session, token,
            hCallback, ?_⟩
        exact
          { verified :=
              hVerified.extend hLater.subset
                hLater.asserted_eq
            purpose := hPurpose
            provider := hProvider
            providerSubject := hSubject
            kisUserId := hNamed }
      · intro pastLink result hLink hRow
        simp only [andThen_ok]
        apply Obeys.andThen
        apply conduct_deleteSession _ hHeld
        intro pastDel hDel hDeleted
        simp only [andThen_ok]
        split
        · apply Obeys.andThen
          apply conduct_emit
          intro pastEmit hEmit
          have hLater : Kept past pastEmit :=
            (hLink.trans (Later.kept hDel)).trans
              (Later.kept hEmit)
          simp only [andThen_ok]
          apply conduct_handOff hEnds
          · exact hVerified.reads.extend hLater.subset
          · decide
          · exact .failure _ (by simp)
        · next identity =>
            have hLinked := hRow identity rfl
            apply Obeys.andThen
            apply conduct_emit
            intro pastEmit hEmit
            simp only [andThen_ok]
            apply Obeys.andThen
            apply conduct_randomId
            intro pastId challengeId hId hIdMem
            have hLater : Kept past pastId :=
              hLink.trans
                (Later.kept ((hDel.trans hEmit).trans hId))
            have hEarned :
                Earned callback pastId args.session token
                  (OAuthOutcomeService.newChallenge cfg
                    args.session "link" kisUserId
                    identity.id) := by
              rw [hProvider, hSubject] at hLinked
              exact .link kisUserId identity hPurpose hNamed
                (hLinked.extend
                  ((hDel.trans hEmit).trans hId).subset)
                ⟨hPurpose.symm, rfl, rfl, rfl⟩
            simp only [andThen_ok]
            apply Obeys.andThen
            apply conduct_redisSet
            case hError =>
              exact fun later error => hEnds.error later error
            case hTerm => exact Or.inl rfl
            case hDrawn => simp [RedisValue.codeVerifier]
            · exact
                ⟨challengeId, callback, args.sessionId,
                  args.session, token, _, rfl, hIdMem,
                  hCallback,
                  hVerified.extend hLater.subset
                    hLater.asserted_eq,
                  hEarned,
                  Or.inl
                    ⟨by rw [hLater.writes_eq, hWrites],
                      rfl⟩⟩
            · intro pastSet hSet hSetWrites hSetAsserted _
              have hSubset : past ⊆ pastSet :=
                List.Subset.trans hLater.subset hSet
              simp only [andThen_ok]
              apply conduct_confirmAndRedirect hEnds (by decide)
                hCallback
              · apply hVerified.extend hSubset
                rw [hSetAsserted, hLater.asserted_eq]
              · exact hSet hIdMem
              · exact hEarned.extend hSet
              · rw [hSetWrites, hLater.writes_eq, hWrites]
              · exact hSet
                  ((hEmit.trans hId).subset hDeleted)

/- A registration ends in a ticket, unless one exists. -/
theorem conduct_finalizeRegistration
    {args : OutcomeArgs}
    {identity : Option AuthIdentity}
    {registrationPurpose : String}
    (hEnds : CallbackEnds P cfg callback final)
    (hCallback : q.callback = some callback)
    (hVerified :
      Verified P cfg callback past args.sessionId
        args.session token)
    (hWrites : writes past = [])
    (hProvider : args.provider = callback.provider)
    (hSubject :
      args.verifiedIdentity.sub = callback.subject token.sub)
    (hEmail : args.verifiedIdentity.email = token.email)
    (hEmailVerified :
      args.verifiedIdentity.emailVerified =
        token.emailVerified)
    (hRegistration :
      registrationPurpose = callback.registrationPurpose)
    (hPurpose : args.session.purpose = "registration")
    (hLookup :
      ⟨.selectIdentity callback.provider
          (callback.subject token.sub),
        .ok identity⟩ ∈ past) :
    Obeys (Conducted P cfg q) final
      (OAuthOutcomeService.finalizeRegistration P cfg args
        identity registrationPurpose callback.tenant)
      past := by
  unfold OAuthOutcomeService.finalizeRegistration
  have hHeld : q.held = some args.sessionId :=
    hVerified.held hCallback
  apply Obeys.andThen
  apply conduct_deleteSession _ hHeld
  intro pastDel hDel hDeleted
  simp only [andThen_ok]
  cases identity with
  | some identity =>
      apply Obeys.andThen
      apply conduct_emit
      intro pastEmit hEmit
      simp only [andThen_ok]
      apply conduct_handOff hEnds
      · exact hVerified.reads.extend
          (hDel.trans hEmit).subset
      · decide
      · exact .failure _ (by simp)
  | none =>
      unfold ChallengeStore.issueRegistrationTicket
      apply Obeys.andThen
      apply Obeys.andThen
      apply conduct_randomId
      intro pastCode code hCode hCodeMem
      have hLater : Later past pastCode := hDel.trans hCode
      simp only [andThen_ok]
      apply Obeys.andThen
      apply conduct_redisSet
      case hError =>
        exact fun later error => hEnds.error later error
      case hTerm => exact Or.inl rfl
      case hDrawn => simp [RedisValue.codeVerifier]
      · refine
          ⟨callback, args.sessionId, args.session, token,
            hCallback, ?_⟩
        exact
          { verified :=
              hVerified.extend hLater.subset
                hLater.asserted_eq
            first := by rw [hLater.writes_eq, hWrites]
            code := ⟨code, rfl, hCodeMem⟩
            purpose := hPurpose
            unregistered := hLater.subset hLookup
            clientId := rfl
            redirectUri := rfl
            registration := hRegistration
            provider := hProvider
            providerSubject := hSubject
            providerEmail := hEmail
            providerEmailVerified := hEmailVerified
            partnerSlug := rfl
            deleted := hCode.subset hDeleted }
      · intro pastSet hSet _ _ hStored
        simp only [andThen_ok, pure_eq, obeys_ret]
        apply Obeys.andThen
        apply conduct_emit
        intro pastEmit hEmit
        simp only [andThen_ok]
        apply conduct_handOff hEnds
        · exact hVerified.reads.extend
            (List.Subset.trans hLater.subset
              (List.Subset.trans hSet hEmit.subset))
        · decide
        · exact
            .grant code (.ticket _) _ trivial
              (hEmit.subset hStored)

/- A returning user ends in a code for the row found. -/
theorem conduct_finalizeReturningUser
    {args : OutcomeArgs}
    {identity : Option AuthIdentity}
    (hEnds : CallbackEnds P cfg callback final)
    (hCallback : q.callback = some callback)
    (hVerified :
      Verified P cfg callback past args.sessionId
        args.session token)
    (hWrites : writes past = [])
    (hPurpose : args.session.purpose ≠ "link")
    (hRegistered : args.session.purpose ≠ "registration")
    (hLookup :
      ⟨.selectIdentity callback.provider
          (callback.subject token.sub),
        .ok identity⟩ ∈ past) :
    Obeys (Conducted P cfg q) final
      (OAuthOutcomeService.finalizeReturningUser P cfg args
        identity)
      past := by
  unfold OAuthOutcomeService.finalizeReturningUser
  have hHeld : q.held = some args.sessionId :=
    hVerified.held hCallback
  cases identity with
  | none =>
      apply Obeys.andThen
      apply conduct_deleteSession _ hHeld
      intro pastDel hDel _
      simp only [andThen_ok]
      apply Obeys.andThen
      apply conduct_emit
      intro pastEmit hEmit
      simp only [andThen_ok]
      apply conduct_handOff hEnds
      · exact hVerified.reads.extend
          (hDel.trans hEmit).subset
      · decide
      · exact .failure _ (by simp)
  | some identity =>
      simp only
      unfold IdentityService.touchLastAuthenticated
      apply Obeys.andThen
      apply Obeys.andThen
      apply obeys_perform
      · refine ⟨?_, trivial, trivial⟩
        exact
          ⟨callback, args.sessionId, args.session, token,
            identity, hCallback, hVerified, hPurpose,
            hRegistered, hLookup, rfl⟩
      intro touched
      have hTouch :
          Later past
            (⟨.touchIdentity identity.id, touched⟩ ::
              past) :=
        later_cons (by trivial) touched past
      simp only [andThen_ok]
      apply conduct_orSqlCrash
      case hError =>
        exact fun error => hEnds.error _ error
      intro _ _
      simp only [andThen_ok]
      apply Obeys.andThen
      apply conduct_emit
      intro pastEmit hEmit
      simp only [andThen_ok]
      apply Obeys.andThen
      apply conduct_randomId
      intro pastId challengeId hId hIdMem
      have hLater : Later past pastId :=
        (hTouch.trans hEmit).trans hId
      have hEarned :
          Earned callback pastId args.session token
            (OAuthOutcomeService.newChallenge cfg
              args.session args.session.purpose
              identity.kisUserId identity.id) :=
        .returning identity hPurpose hRegistered
          (hLater.subset hLookup) ⟨rfl, rfl, rfl, rfl⟩
      simp only [andThen_ok]
      apply Obeys.andThen
      apply conduct_redisSet
      case hError =>
        exact fun later error => hEnds.error later error
      case hTerm => exact Or.inl rfl
      case hDrawn => simp [RedisValue.codeVerifier]
      · exact
          ⟨challengeId, callback, args.sessionId,
            args.session, token, _, rfl, hIdMem, hCallback,
            hVerified.extend hLater.subset hLater.asserted_eq,
            hEarned,
            Or.inl
              ⟨by rw [hLater.writes_eq, hWrites], rfl⟩⟩
      · intro pastSet hSet hSetWrites hSetAsserted _
        simp only [andThen_ok]
        apply Obeys.andThen
        apply conduct_deleteSession _ hHeld
        intro pastDel hDel hDeleted
        have hSubset : past ⊆ pastDel :=
          List.Subset.trans hLater.subset
            (List.Subset.trans hSet hDel.subset)
        simp only [andThen_ok]
        apply conduct_confirmAndRedirect hEnds (by decide)
          hCallback
        · apply hVerified.extend hSubset
          rw [hDel.asserted_eq, hSetAsserted,
            hLater.asserted_eq]
        · exact hDel.subset (hSet hIdMem)
        · exact hEarned.extend
            (List.Subset.trans hSet hDel.subset)
        · rw [hDel.writes_eq, hSetWrites, hLater.writes_eq,
            hWrites]
        · exact hDeleted

end KisAuth
