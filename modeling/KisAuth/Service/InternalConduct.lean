import KisAuth.Service.BrowserConduct

/-
  How the internal routes and the pages behave.

  Key theorems include:
    * `conduct_admitRedemption`
    * `conduct_exchange`, `conduct_registrationExchange`
    * `conduct_identityLink`, `conduct_status`
-/

------------------------------------------------------------
-- Redemptions
------------------------------------------------------------

namespace KisAuth

open Interaction Prog

variable {P : Platform} {cfg : KisAuthConfig} {q : Request}
variable {past : Past}

theorem InternalPost.field_eq
    {post : InternalPost}
    {name : String}
    {value : JsValue}
    (hMember : post.body.member name = some value) :
    post.field name = value := by
  unfold InternalPost.field
  rw [hMember]
  rfl

/- No signature was accepted. -/
def Unsigned (past : Past) : Prop :=
  ∀ request,
    (⟨.verifySignature request, some .ok⟩ :
      Answer Eff Eff.Res) ∉ past

/- A past without an accepted signature admits nothing. -/
theorem Unsigned.not_admitted
    {route : Redemption}
    {post : InternalPost}
    (hUnsigned : Unsigned past) :
    ¬Admitted route post past :=
  fun hAdmitted => hUnsigned _ hAdmitted.signed

theorem Unsigned.cons
    (hUnsigned : Unsigned past)
    (answer : Answer Eff Eff.Res)
    (hAnswer :
      ∀ request,
        answer ≠ ⟨.verifySignature request, some .ok⟩) :
    Unsigned (answer :: past) := by
  intro request hMem
  rcases List.mem_cons.mp hMem with hEq | hMem
  · exact hAnswer request hEq.symm
  · exact hUnsigned request hMem

theorem conduct_checkRedemption
    {final : Past → Except HttpError ExchangeBody → Prop}
    {clientId : JsValue}
    (route : Redemption)
    (post : InternalPost)
    (hUnsigned : Unsigned past)
    (hFirst : lookups past = [])
    (hClient : post.field "client_id" = clientId)
    (hOk :
      ∀ later,
        Admitted route post later →
          lookups later = [] →
            final later
              (.ok
                { code := post.field "code"
                  clientId := post.field "client_id"
                  redirectUri :=
                    post.field "redirect_uri" }))
    (hError :
      ∀ later error,
        ¬Admitted route post later →
          final later (.error error)) :
    Obeys (Conducted P cfg q) final
      (checkRedemption route post clientId) past := by
  unfold checkRedemption verifySignedPost
  apply Obeys.andThen
  apply Obeys.andThen
  apply obeys_perform ⟨trivial, trivial, trivial⟩
  intro verification
  simp only [andThen_ok]
  cases verification with
  | none =>
      apply hError
      exact (hUnsigned.cons _ (by simp)).not_admitted
  | some result =>
      simp only [orCrash, obeys_ret, andThen_ok]
      cases result with
      | fail reason =>
          apply Obeys.andThen
          apply obeys_perform ⟨trivial, trivial, trivial⟩
          intro done
          apply hError
          have hFailed := hUnsigned.cons
            ⟨.verifySignature
              { method := "POST"
                url := route.url
                body := post.body
                headers := post.headers },
              some (.fail reason)⟩ (by simp)
          exact (hFailed.cons _ (by simp)).not_admitted
      | ok =>
          simp only
          have hFields :
              ∀ name,
                post.body.member name = none →
                  (post.field name).truthy = false := by
            intro name hNone
            unfold InternalPost.field
            rw [hNone]
            rfl
          apply Obeys.andThen
          cases hCode : post.body.member "code" with
          | none =>
              apply hError
              intro hAdmitted
              have hTruthy := hAdmitted.code
              rw [hFields "code" hCode] at hTruthy
              simp at hTruthy
          | some code =>
              simp only [obeys_ret, andThen_ok]
              apply Obeys.andThen
              cases hUri : post.body.member "redirect_uri" with
              | none =>
                  apply hError
                  intro hAdmitted
                  have hTruthy := hAdmitted.redirectUri
                  rw [hFields "redirect_uri" hUri] at hTruthy
                  simp at hTruthy
              | some redirectUri =>
                  have hCodeField :=
                    InternalPost.field_eq hCode
                  have hUriField :=
                    InternalPost.field_eq hUri
                  simp only [obeys_ret, andThen_ok]
                  split
                  · next hTruthy =>
                      simp only [Bool.and_eq_true] at hTruthy
                      rw [← hCodeField, ← hClient,
                        ← hUriField]
                      apply hOk
                      · exact
                          { signed := by simp
                            code := by
                              rw [hCodeField]
                              exact hTruthy.1.1
                            clientId := by
                              rw [hClient]
                              exact hTruthy.1.2
                            redirectUri := by
                              rw [hUriField]
                              exact hTruthy.2 }
                      · exact hFirst
                  · next hTruthy =>
                      apply hError
                      intro hAdmitted
                      apply hTruthy
                      rw [← hCodeField, ← hClient,
                        ← hUriField, hAdmitted.code,
                        hAdmitted.clientId,
                        hAdmitted.redirectUri]
                      rfl

/- A redemption goes on exactly when it is admitted. -/
theorem conduct_admitRedemption
    {final : Past → Except HttpError ExchangeBody → Prop}
    (route : Redemption)
    (post : InternalPost)
    (hLimits : q.limits P = route.limits P post)
    (hAddress : route.perIp.windowSeconds = 60)
    (hMinute : route.perClient.windowSeconds = 60)
    (hOk :
      ∀ later,
        Admitted route post later →
          lookups later = [] →
            final later
              (.ok
                { code := post.field "code"
                  clientId := post.field "client_id"
                  redirectUri :=
                    post.field "redirect_uri" }))
    (hError :
      ∀ later error,
        ¬Admitted route post later →
          final later (.error error)) :
    Obeys (Conducted P cfg q) final
      (admitRedemption P route post) [] := by
  unfold admitRedemption
  have hStart : Unsigned [] := by
    intro request hMem
    simp at hMem
  apply Obeys.andThen
  apply conduct_enforceRateLimit_exact _ _
    (by simp [Request.counters, hLimits, Redemption.limits])
    hAddress
  intro ipCount outcome
  have hIp := hStart.cons
    ⟨.redisIncr
      (rateLimitKey route.perIp.scope post.ip)
      route.perIp.windowSeconds, ipCount⟩ (by simp)
  cases outcome with
  | error error => exact hError _ _ hIp.not_admitted
  | ok done =>
      simp only [andThen_ok]
      apply Obeys.andThen
      apply conduct_orCrash
      case hError =>
        exact fun error => hError _ _ hIp.not_admitted
      intro clientId hClientId
      have hClient := InternalPost.field_eq hClientId
      simp only [andThen_ok]
      unfold limitClient
      apply Obeys.andThen
      by_cases hTruthy : clientId.truthy = true
      · rw [if_pos hTruthy]
        apply Obeys.andThen
        apply conduct_orCrash
        case hError =>
          exact fun error => hError _ _ hIp.not_admitted
        intro identifier hIdentifier
        simp only [andThen_ok]
        have hNamed : post.namedClient P = some identifier := by
          simp [InternalPost.namedClient, hClientId, hTruthy,
            hIdentifier]
        apply conduct_enforceRateLimit_exact _ _
          (by
            simp [Request.counters, hLimits,
              Redemption.limits, hNamed])
          hMinute
        intro clientCount outcome
        have hBoth := hIp.cons
          ⟨.redisIncr
            (rateLimitKey route.perClient.scope identifier)
            route.perClient.windowSeconds, clientCount⟩
          (by simp)
        cases outcome with
        | error error => exact hError _ _ hBoth.not_admitted
        | ok done =>
            exact conduct_checkRedemption route post hBoth
              rfl hClient hOk hError
      · rw [if_neg hTruthy]
        exact conduct_checkRedemption route post hIp rfl
          hClient hOk hError

end KisAuth

namespace KisAuth

open Interaction Prog

variable {P : Platform} {cfg : KisAuthConfig} {q : Request}
variable {past : Past}

/- A request that redeems nothing has nothing to consume. -/
theorem redeemed_of_none
    (hNone : q.redeems = none) :
    Redeemed P q past := by
  intro route family post code hRedeems
  rw [hNone] at hRedeems
  simp at hRedeems

theorem redeemed_of_not_admitted
    {route : Redemption}
    {family : KeyFamily}
    {post : InternalPost}
    (hRedeems : q.redeems = some (route, family, post))
    (hNot : ¬Admitted route post past) :
    Redeemed P q past := by
  intro route' family' post' code hOther hAdmitted
  rw [hRedeems] at hOther
  simp only [Option.some.injEq, Prod.mk.injEq] at hOther
  rcases hOther with ⟨rfl, rfl, rfl⟩
  exact absurd hAdmitted hNot

theorem redeemed_of_unnamed
    {route : Redemption}
    {family : KeyFamily}
    {post : InternalPost}
    (hRedeems : q.redeems = some (route, family, post))
    (hNone : (post.field "code").toJsString P.joinDepth = none) :
    Redeemed P q past := by
  intro route' family' post' code hOther _ hCode
  rw [hRedeems] at hOther
  simp only [Option.some.injEq, Prod.mk.injEq] at hOther
  rcases hOther with ⟨rfl, rfl, rfl⟩
  rw [hNone] at hCode
  simp at hCode

theorem redeemed_of_consumed
    {route : Redemption}
    {family : KeyFamily}
    {post : InternalPost}
    {code : String}
    {found : Option RedisValue}
    (hRedeems : q.redeems = some (route, family, post))
    (hCode : (post.field "code").toJsString P.joinDepth = some code)
    (hConsumed :
      ⟨.redisConsume (storeKey family code), found⟩ ∈
        past) :
    Redeemed P q past := by
  intro route' family' post' code' hOther _ hCode'
  rw [hRedeems] at hOther
  simp only [Option.some.injEq, Prod.mk.injEq] at hOther
  rcases hOther with ⟨rfl, rfl, rfl⟩
  rw [hCode] at hCode'
  simp only [Option.some.injEq] at hCode'
  subst hCode'
  exact ⟨found, hConsumed⟩

/- The fields a code is bound to are strings. -/
theorem boundTo_spec
    {body : ExchangeBody}
    {clientId redirectUri : String}
    (hBound : boundTo body clientId redirectUri = true) :
    body.clientId = .str clientId ∧
      body.redirectUri = .str redirectUri := by
  unfold boundTo at hBound
  simpa using hBound

/- The token carries the claims. -/
structure SignedFrom
    (claims : AuthorizationClaims)
    (token : AuthorizationJwt) : Prop where
  sub : token.sub = truthyText claims.sub
  aud : token.aud = claims.aud
  purpose : token.purpose = claims.purpose
  authIdentityId :
    token.authIdentityId = claims.authIdentityId
  providerSubject :
    token.providerSubject = claims.providerSubject
  providerEmail : token.providerEmail = claims.providerEmail
  providerEmailVerified :
    token.providerEmailVerified = claims.providerEmailVerified
  provider : token.provider = truthyText claims.provider
  partnerSlug :
    token.partnerSlug = truthyText claims.partnerSlug

theorem conduct_sign
    {final : Past → Except HttpError AuthorizationJwt → Prop}
    {claims : AuthorizationClaims}
    {ttl : ℚ}
    (hOk :
      ∀ later token,
        past ⊆ later →
          SignedFrom claims token → final later (.ok token))
    (hError :
      ∀ later error,
        past ⊆ later → final later (.error error)) :
    Obeys (Conducted P cfg q) final
      (AuthorizationJwtService.sign P cfg claims ttl) past := by
  unfold AuthorizationJwtService.sign
  split
  case isFalse => exact hError _ _ (List.Subset.refl _)
  apply Obeys.andThen
  apply conduct_dateNow
  intro pastNow clock hNow _
  simp only [andThen_ok]
  apply Obeys.andThen
  apply conduct_randomId
  intro pastId jti hId _
  simp only [andThen_ok]
  split
  case isFalse => exact hError _ _ (hNow.trans hId).subset
  apply hOk _ _ (hNow.trans hId).subset
  constructor <;> rfl

theorem conduct_exchange
    (post : InternalPost) :
    Obeys (Conducted P cfg (.authorizationExchange post))
      (Outcome P cfg (.authorizationExchange post))
      (ExchangeController.exchange P cfg post) [] := by
  unfold ExchangeController.exchange
  have hRedeems :
      (Request.authorizationExchange post).redeems =
        some (authorizationRedemption, .code, post) := rfl
  apply Obeys.andThen
  apply conduct_admitRedemption _ _ rfl rfl rfl
  case hError =>
    exact fun later error hNot =>
      redeemed_of_not_admitted hRedeems hNot
  intro pastAdmitted hAdmitted hFirst
  simp only [andThen_ok]
  apply Obeys.andThen
  cases hCode : (post.field "code").toJsString P.joinDepth with
  | none => exact redeemed_of_unnamed hRedeems hCode
  | some code =>
      simp only [orCrash, obeys_ret, andThen_ok]
      unfold ChallengeStore.consumeAuthorizationCode
      apply Obeys.andThen
      apply Obeys.andThen
      apply obeys_perform
      · refine ⟨?_, trivial, trivial⟩
        exact ⟨_, _, post, code, hRedeems, hAdmitted, hCode,
          rfl⟩
      intro raw
      have hRedeemed :
          ∀ later,
            ⟨.redisConsume (codeKey code), raw⟩ ∈ later →
              Redeemed P (.authorizationExchange post) later :=
        fun later hMem =>
          redeemed_of_consumed hRedeems hCode hMem
      simp only [andThen_ok, pure_eq, obeys_ret]
      split
      · apply Obeys.andThen
        apply conduct_emit
        intro pastEmit hEmit
        exact hRedeemed _ (hEmit.subset (by simp))
      · next payload hPayload =>
          have hRaw : raw = some (.code payload) := by
            unfold ChallengeStore.asCode at hPayload
            split at hPayload
            · simp only [Option.some.injEq] at hPayload
              rw [hPayload]
            · simp at hPayload
          subst hRaw
          split
          case isFalse =>
            apply Obeys.andThen
            apply conduct_emit
            intro pastEmit hEmit
            exact hRedeemed _ (hEmit.subset (by simp))
          case isTrue hBound =>
            rcases boundTo_spec hBound with
              ⟨hClient, hUri⟩
            unfold IdentityService.findById
            apply Obeys.andThen
            apply Obeys.andThen
            apply obeys_perform
              ⟨⟨hFirst, rfl⟩, trivial, trivial⟩
            intro rows
            simp only [andThen_ok]
            apply conduct_orSqlCrash
            case hError =>
              exact fun error => hRedeemed _ (by simp)
            rintro identity rfl
            simp only [andThen_ok]
            split
            · apply Obeys.andThen
              apply conduct_emit
              intro pastEmit hEmit
              exact hRedeemed _ (hEmit.subset (by simp))
            · next found hFound =>
                rcases (Option.filter_eq_some_iff).mp hFound
                  with ⟨rfl, hCurrent⟩
                apply Obeys.andThen
                apply conduct_sign
                case hError =>
                  exact fun later error hSign =>
                    hRedeemed _ (hSign (by simp))
                intro pastSign token hSign hFrom
                simp only [andThen_ok]
                apply Obeys.andThen
                apply conduct_emit
                intro pastEmit hEmit
                have hSubset :=
                  List.Subset.trans hSign hEmit.subset
                refine ⟨hRedeemed _ (hSubset (by simp)), ?_⟩
                refine Or.inl
                  ⟨post, code, payload, found, rfl, ?_⟩
                exact
                  { admitted :=
                      { signed := hSubset
                          (by simp [hAdmitted.signed])
                        code := hAdmitted.code
                        clientId := hAdmitted.clientId
                        redirectUri :=
                          hAdmitted.redirectUri }
                    named := hCode
                    consumed := hSubset (by simp)
                    clientId := hClient
                    redirectUri := hUri
                    read := hSubset (by simp)
                    current := hCurrent
                    sub := hFrom.sub
                    aud := hFrom.aud
                    purpose := hFrom.purpose
                    authIdentityId := hFrom.authIdentityId
                    provider := hFrom.provider
                    providerSubject := hFrom.providerSubject
                    partnerSlug := hFrom.partnerSlug }

theorem conduct_registrationExchange
    (post : InternalPost) :
    Obeys (Conducted P cfg (.registrationExchange post))
      (Outcome P cfg (.registrationExchange post))
      (RegistrationExchangeController.exchange P cfg post)
      [] := by
  unfold RegistrationExchangeController.exchange
  have hRedeems :
      (Request.registrationExchange post).redeems =
        some (registrationRedemption, .regTicket, post) :=
    rfl
  apply Obeys.andThen
  apply conduct_admitRedemption _ _ rfl rfl rfl
  case hError =>
    exact fun later error hNot =>
      redeemed_of_not_admitted hRedeems hNot
  intro pastAdmitted hAdmitted hFirst
  simp only [andThen_ok]
  apply Obeys.andThen
  cases hCode : (post.field "code").toJsString P.joinDepth with
  | none => exact redeemed_of_unnamed hRedeems hCode
  | some code =>
      simp only [orCrash, obeys_ret, andThen_ok]
      unfold ChallengeStore.consumeRegistrationTicket
      apply Obeys.andThen
      apply Obeys.andThen
      apply obeys_perform
      · refine ⟨?_, trivial, trivial⟩
        exact ⟨_, _, post, code, hRedeems, hAdmitted, hCode,
          rfl⟩
      intro raw
      have hRedeemed :
          ∀ later,
            ⟨.redisConsume (regTicketKey code), raw⟩ ∈
                later →
              Redeemed P (.registrationExchange post) later :=
        fun later hMem =>
          redeemed_of_consumed hRedeems hCode hMem
      simp only [andThen_ok, pure_eq, obeys_ret]
      split
      · apply Obeys.andThen
        apply conduct_emit
        intro pastEmit hEmit
        exact hRedeemed _ (hEmit.subset (by simp))
      · next payload hPayload =>
          have hRaw : raw = some (.ticket payload) := by
            unfold ChallengeStore.asTicket at hPayload
            split at hPayload
            · simp only [Option.some.injEq] at hPayload
              rw [hPayload]
            · simp at hPayload
          subst hRaw
          split
          case isFalse =>
            apply Obeys.andThen
            apply conduct_emit
            intro pastEmit hEmit
            exact hRedeemed _ (hEmit.subset (by simp))
          case isTrue hBound =>
            rcases boundTo_spec hBound with
              ⟨hClient, hUri⟩
            apply Obeys.andThen
            apply conduct_sign
            case hError =>
              exact fun later error hSign =>
                hRedeemed _ (hSign (by simp))
            intro pastSign token hSign hFrom
            simp only [andThen_ok]
            apply Obeys.andThen
            apply conduct_emit
            intro pastEmit hEmit
            have hSubset :=
              List.Subset.trans hSign hEmit.subset
            refine ⟨hRedeemed _ (hSubset (by simp)), ?_⟩
            refine Or.inr ⟨post, code, payload, rfl, ?_⟩
            exact
              { admitted :=
                  { signed := hSubset
                      (by simp [hAdmitted.signed])
                    code := hAdmitted.code
                    clientId := hAdmitted.clientId
                    redirectUri := hAdmitted.redirectUri }
                named := hCode
                consumed := hSubset (by simp)
                clientId := hClient
                redirectUri := hUri
                sub := hFrom.sub
                aud := hFrom.aud
                purpose := hFrom.purpose
                authIdentityId := hFrom.authIdentityId
                provider := hFrom.provider
                providerSubject := hFrom.providerSubject
                providerEmail := hFrom.providerEmail
                providerEmailVerified :=
                  hFrom.providerEmailVerified
                partnerSlug :=
                  hFrom.partnerSlug.trans
                    (truthyText_idem _) }

theorem conduct_identityLink
    (post : InternalPost) :
    Obeys (Conducted P cfg (.identityLink post))
      (Outcome P cfg (.identityLink post))
      (IdentityLinkController.link P post) [] := by
  unfold IdentityLinkController.link verifySignedPost
  have hNone :
      ∀ later, Redeemed P (.identityLink post) later :=
    fun later => redeemed_of_none rfl
  apply Obeys.andThen
  apply Obeys.andThen
  apply obeys_perform ⟨trivial, trivial, trivial⟩
  intro verification
  simp only [andThen_ok]
  apply conduct_orCrash
  case hError => exact fun error => hNone _
  rintro result rfl
  simp only [andThen_ok]
  cases result with
  | fail reason => exact hNone _
  | ok =>
      apply Obeys.andThen
      apply conduct_orCrash
      case hError => exact fun error => hNone _
      intro _ _
      simp only [andThen_ok]
      split
      · exact hNone _
      · next args hArgs =>
          have hRequested :
              LinkRequested P post
                [⟨.verifySignature
                  { method := "POST"
                    url := identityLinkUrl
                    body := post.body
                    headers := post.headers },
                  some .ok⟩] args :=
            ⟨by simp, hArgs⟩
          apply Obeys.andThen
          apply conduct_link
          case hError => exact fun later error _ => hNone later
          · rfl
          · exact Or.inl
              ⟨post, args, rfl, hRequested, rfl, rfl⟩
          · intro later hLater
            exact Or.inl
              ⟨post, rfl, hLater.subset hRequested.1, hArgs⟩
          · intro later linked hLater hRow
            simp only [andThen_ok]
            cases linked with
            | alreadyLinked =>
                apply Obeys.andThen
                apply conduct_emit
                intro pastEmit _
                exact hNone _
            | ok row =>
                apply Obeys.andThen
                apply conduct_emit
                intro pastEmit hEmit
                have hSubset :=
                  List.Subset.trans hLater.subset
                    hEmit.subset
                exact
                  ⟨hNone _, post, args, row, rfl,
                    ⟨hSubset hRequested.1, hArgs⟩,
                    (hRow row rfl).extend hEmit.subset, rfl⟩

/- The status page shows the URL it was given. -/
theorem conduct_status
    (query : StatusQuery) :
    Obeys (Conducted P cfg (.status query))
      (Outcome P cfg (.status query))
      (WebController.status P query) [] := by
  unfold WebController.status
  apply Obeys.andThen
  apply conduct_orCrash
  case hError =>
    exact fun error => redeemed_of_none rfl
  intro copy _
  refine ⟨redeemed_of_none rfl, ?_⟩
  cases hRedirect : truthyText query.clientRedirect with
  | none =>
      simp [Answered, Request.handOff, hRedirect,
        Page.targets, renderPage]
  | some clientRedirect =>
      cases hUrl : P.parseUrl clientRedirect with
      | none =>
          simp [Answered, Request.handOff, hRedirect, hUrl,
            Page.targets, renderPage]
      | some url =>
          simp [Answered, Request.handOff, hRedirect, hUrl,
            Page.targets, renderPage]

end KisAuth
