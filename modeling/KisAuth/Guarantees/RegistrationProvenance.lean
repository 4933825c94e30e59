import KisAuth.Provenance.Grants
import KisAuth.Provenance.Tenants

/-
  Where a registration token comes from.

  Its claims are traced back to the ticket the redemption
  consumed, to the callback that issued the ticket, to the
  ID token the callback verified, and to the request to
  /authorize that created the callback's session.

  Key definitions include:
    * `RegistrationSigned`, `RegistrationApproved`
    * `IdentityAsserted`, `Unregistered`
    * `RegistrationProven`

  Key theorems include:
    * `registration_provenance`
-/

------------------------------------------------------------
-- The Parts Of A Provenance
------------------------------------------------------------

namespace KisAuth

open Interaction Store

variable (P : Platform) (cfg : KisAuthConfig)

/- What is signed when a ticket is redeemed. -/
def registrationRequest (post : InternalPost) : SignedRequest where
  method := "POST"
  url := registrationRedemption.url
  body := post.body
  headers := post.headers

/-
  The redemption carried a valid signature of the shared
  secret, and named this client and redirect URI.
-/
structure RegistrationSigned
    (history : History)
    (thread : Nat)
    (post : InternalPost)
    (clientId redirectUri : String) : Prop where
  accepted :
    Entry.answer thread
      ⟨.verifySignature (registrationRequest post),
        some .ok⟩ ∈ history
  signature :
    SignatureValid P cfg (registrationRequest post)
  clientId : post.field "client_id" = .str clientId
  redirectUri : post.field "redirect_uri" = .str redirectUri

/-
  An earlier /authorize for purpose='registration' and this
  client and redirect URI was approved by the registry and
  created the session.
-/
structure RegistrationApproved
    (history : History)
    (sessionId : String)
    (created : OAuthSession)
    (clientId redirectUri : String) : Prop where
  authorized :
    ∃ thread query,
      Minted P cfg history thread query sessionId created
  clientId : created.clientId = clientId
  redirectUri : created.redirectUri = redirectUri
  purpose : created.purpose = "registration"

/-
  The library verified an ID token with this nonce and
  subject, and with these e-mail fields.
-/
def IdentityAsserted
    (past : Past)
    (nonce sub : String)
    (email : Option String)
    (emailVerified : Bool) : Prop :=
  ∃ text jwksUri issuer audience payload,
    ⟨.jwtVerify text jwksUri issuer audience,
        some payload⟩ ∈ past ∧
      payload.nonce = .str nonce ∧
      payload.sub = .str sub ∧
      email = payload.email.asString ∧
      (emailVerified = true ↔
        payload.emailVerified = .bool true)

/-
  The thread looked the subject up at a moment when no row
  had it.
-/
def Unregistered
    (history : History)
    (thread : Nat)
    (provider providerSubject : String) : Prop :=
  ∃ newer before,
    history =
        newer ++
          .answer thread
              ⟨.selectIdentity provider providerSubject,
                .ok none⟩ ::
            before ∧
      ∀ binding ∈ bindings before,
        binding.provider = provider →
          binding.providerSubject ≠ providerSubject

/-
  The thread is a callback with the cookie and state of the
  session, which verified the ID token whose fields the
  claims repeat, of a subject no row had. The purpose and the
  tenant tell the route of the callback.
-/
def RegistrationCalledBack
    (history : History)
    (thread : Nat)
    (sessionId : String)
    (created : OAuthSession)
    (token : AuthorizationJwt) : Prop :=
  ∃ q callback session idToken,
    Entry.arrive thread q ∈ history ∧
      q.callback = some callback ∧
      Verified P cfg callback (answersOf thread history)
        sessionId session idToken ∧
      SameSession session created ∧
      IdentityAsserted (answersOf thread history)
        created.nonce idToken.sub token.providerEmail
        token.providerEmailVerified ∧
      token.provider = some callback.provider ∧
      token.providerSubject =
        some (callback.subject idToken.sub) ∧
      Unregistered history thread callback.provider
        (callback.subject idToken.sub) ∧
      token.purpose = callback.registrationPurpose ∧
      token.partnerSlug = callback.tenant

/-
  The provenance of one token: the callback stored the ticket
  that the redemption named and consumed.
-/
def RegistrationProven
    (history : History)
    (thread : Nat)
    (post : InternalPost)
    (token : AuthorizationJwt) : Prop :=
  ∃ since middle earlier issuer code payload ttl redirectUri
      sessionId created,
    (post.field "code").toJsString P.joinDepth = some code ∧
      history =
        since ++
          .answer thread
              ⟨.redisConsume (regTicketKey code),
                some (.ticket payload)⟩ ::
            (middle ++
              .answer issuer
                  ⟨.redisSet (regTicketKey code)
                    (.ticket payload) ttl, .ok ()⟩ ::
                earlier) ∧
      RegistrationSigned P cfg history thread post token.aud
        redirectUri ∧
      RegistrationApproved P cfg earlier sessionId created
        token.aud redirectUri ∧
      RegistrationCalledBack P cfg earlier issuer sessionId
        created token

/- Every token a registration exchange returns is proven. -/
def RegistrationsProven :
    ServiceEntry → History → Prop
| .respond thread (.ok (.token token)), earlier =>
    ∀ post,
      Entry.arrive thread (.registrationExchange post) ∈
          earlier →
        RegistrationProven P cfg earlier thread post token
| _, _ => True

end KisAuth

------------------------------------------------------------
-- Tracing A Token Back
------------------------------------------------------------

namespace KisAuth

open Interaction Store

variable {P : Platform} {cfg : KisAuthConfig}
variable {history : History}

/- The fields of a verified token are those of its payload. -/
theorem TokenVerified.asserted
    {past : Past}
    {tenant : Option String}
    {nonce : String}
    {token : VerifiedIdToken}
    (hToken : TokenVerified P cfg past tenant nonce token) :
    IdentityAsserted past nonce token.sub token.email
      token.emailVerified := by
  rcases hToken with
    ⟨text, jwksUri, issuer, audience, payload, hMem, _,
      hCheck, _⟩
  rcases checkPayload_spec hCheck with
    ⟨hNonce, hSub, _, hFields⟩
  refine
    ⟨text, jwksUri, issuer, audience, payload, hMem, hNonce,
      hSub, ?_, ?_⟩
  · rw [hFields]
    rfl
  · rw [hFields]
    unfold verifiedOf
    cases payload.emailVerified with
    | bool value => cases value <;> simp
    | _ => simp

/- A lookup without a row was made while there was none. -/
theorem unregistered_of_lookup
    {thread : Nat}
    {provider providerSubject : String}
    (hRecorded : Recorded P cfg history)
    (hLookup :
      ⟨.selectIdentity provider providerSubject, .ok none⟩ ∈
        answersOf thread history) :
    Unregistered history thread provider providerSubject := by
  rcases hRecorded.step (mem_of_past hLookup) with
    ⟨newer, before, q, hSplit, hStep⟩
  exact ⟨newer, before, hSplit, hStep.faithful.absent rfl⟩

/- A slug /authorize accepts is not empty. -/
theorem truthyText_of_validTenant
    {tenant : Option String}
    (hValid : ValidTenant tenant) :
    truthyText tenant = tenant := by
  cases tenant with
  | none => rfl
  | some slug =>
      rw [truthyText_eq_some_iff]
      refine ⟨rfl, ?_⟩
      rintro rfl
      simp [ValidTenant, isPartnerSlug] at hValid

/- A callback's provider is never empty. -/
theorem Callback.provider_ne
    (callback : Callback) :
    callback.provider ≠ "" := by
  unfold Callback.provider
  split
  · decide
  · decide

/- The claims of a redeemed ticket repeat its callback's. -/
theorem issued_called_back
    {issuer : Nat}
    {q : Request}
    {post : InternalPost}
    {past : Past}
    {code : String}
    {callback : Callback}
    {key sessionId : String}
    {payload : RegistrationTicketPayload}
    {session created : OAuthSession}
    {idToken : VerifiedIdToken}
    {token : AuthorizationJwt}
    (hRecorded : Recorded P cfg history)
    (hArrive : Entry.arrive issuer q ∈ history)
    (hCallback : q.callback = some callback)
    (hIssued :
      TicketIssued P cfg callback (answersOf issuer history)
        key payload sessionId session idToken)
    (hSame : SameSession session created)
    (hRedeemed : TicketRedeemed P post past token code payload) :
    RegistrationCalledBack P cfg history issuer sessionId
      created token := by
  have hVerified := hIssued.verified
  have hAsserted := hVerified.token.asserted
  rw [hSame.fields.2.2.2.2.1] at hAsserted
  refine
    ⟨q, callback, session, idToken, hArrive, hCallback,
      hVerified, hSame, ?_, ?_, ?_, ?_, ?_, ?_⟩
  · rw [hRedeemed.providerEmail, hIssued.providerEmail,
      hRedeemed.providerEmailVerified,
      hIssued.providerEmailVerified]
    exact hAsserted
  · rw [hRedeemed.provider, hIssued.provider,
      truthyText_eq_some_iff]
    exact ⟨rfl, callback.provider_ne⟩
  · rw [hRedeemed.providerSubject, hIssued.providerSubject]
  · exact
      unregistered_of_lookup hRecorded hIssued.unregistered
  · rw [hRedeemed.purpose, hIssued.registration]
  · rw [hRedeemed.partnerSlug, hIssued.partnerSlug]
    exact truthyText_of_validTenant
      (verified_tenant hRecorded hVerified)

/- A redeemed ticket is proven, part by part. -/
theorem ticket_proven
    {thread : Nat}
    {post : InternalPost}
    {token : AuthorizationJwt}
    {code : String}
    {payload : RegistrationTicketPayload}
    (hRecorded : Recorded P cfg history)
    (hRedeemed :
      TicketRedeemed P post (answersOf thread history) token
        code payload) :
    RegistrationProven P cfg history thread post token := by
  have hAccepted := mem_of_past hRedeemed.admitted.signed
  rcases consumed_ticket_origin hRecorded
      (mem_of_past hRedeemed.consumed) with
    ⟨since, middle, earlier, issuer, ttl, q, callback,
      sessionId, session, idToken, hSplit, hEarlier, hArrive,
      hCallback, hIssued⟩
  rcases session_read_origin hEarlier
      (mem_of_past hIssued.verified.reads.read) with
    ⟨minter, query, created, hMinted, hSame⟩
  rcases hSame.fields with
    ⟨hClientId, hRedirectUri, hPurpose, _⟩
  refine
    ⟨since, middle, earlier, issuer, code, payload, ttl,
      payload.redirectUri, sessionId, created,
      hRedeemed.named, hSplit, ?_, ?_, ?_⟩
  · exact
      { accepted := hAccepted
        signature := signature_of_accepted hRecorded hAccepted
        clientId := by
          rw [hRedeemed.aud]
          exact hRedeemed.clientId
        redirectUri := hRedeemed.redirectUri }
  · exact
      { authorized := ⟨minter, query, hMinted⟩
        clientId := by
          rw [hRedeemed.aud, hIssued.clientId, hClientId]
        redirectUri := by
          rw [hIssued.redirectUri, hRedirectUri]
        purpose := by rw [← hPurpose, hIssued.purpose] }
  · exact
      issued_called_back hEarlier hArrive hCallback hIssued
        hSame hRedeemed

/-
  Whatever requests are served, and in whatever order their
  calls are answered, every registration token is proven.
-/
theorem registration_provenance (run : Run P cfg) :
    Always (RegistrationsProven P cfg) run.history := by
  apply run.recorded.always
  intro later entry earlier hRecorded
  unfold RegistrationsProven
  split
  · next thread token =>
      intro post hArrive
      have hEarlier : Recorded P cfg earlier :=
        hRecorded.drop.tail
      rcases hRecorded.ended_of_arrive
          (List.mem_append_right _
            (List.mem_cons_of_mem _ hArrive)) with
        ⟨_, _, hAnswered⟩
      rcases hAnswered with
        ⟨other, code, payload, identity, hPost, _⟩ |
        ⟨other, code, payload, hPost, hRedeemed⟩
      · simp at hPost
      · simp only [Request.registrationExchange.injEq]
          at hPost
        subst hPost
        exact ticket_proven hEarlier hRedeemed
  · trivial

end KisAuth
