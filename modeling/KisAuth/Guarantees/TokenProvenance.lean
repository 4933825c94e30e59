import KisAuth.Provenance.Grants

/-
  Where an authorization token comes from.

  A token is traced back from the redemption that returns it
  to the code it consumed, to the callback that issued the
  code, to the session the callback presented and to the
  request to /authorize that created the session.

  Key definitions include:
    * `RedemptionSigned`, `SessionApproved`
    * `CallbackProven`, `IdentityCurrent`
    * `TokenProven`

  Key theorems include:
    * `token_provenance`
-/

------------------------------------------------------------
-- The Four Parts Of A Provenance
------------------------------------------------------------

namespace KisAuth

open Interaction Store

variable (P : Platform) (cfg : KisAuthConfig)

/-
  The redemption carried a valid signature of the shared
  secret, and named this client and redirect URI.
-/
structure RedemptionSigned
    (history : History)
    (thread : Nat)
    (post : InternalPost)
    (clientId redirectUri : String) : Prop where
  accepted :
    Entry.answer thread
      ⟨.verifySignature
          { method := "POST"
            url := authorizationRedemption.url
            body := post.body
            headers := post.headers },
        some .ok⟩ ∈ history
  signature :
    SignatureValid P cfg
      { method := "POST"
        url := authorizationRedemption.url
        body := post.body
        headers := post.headers }
  clientId : post.field "client_id" = .str clientId
  redirectUri : post.field "redirect_uri" = .str redirectUri

/-
  An earlier /authorize for this client, redirect URI and
  purpose was approved by the registry and created the
  session. For purpose='link' it consumed a ticket that
  names the user.
-/
structure SessionApproved
    (history : History)
    (sessionId : String)
    (created : OAuthSession)
    (clientId redirectUri purpose kisUserId : String) :
    Prop where
  authorized :
    ∃ thread query,
      Minted P cfg history thread query sessionId created ∧
        (purpose = "link" →
          LinkAccepted P cfg query (answersOf thread history)
            kisUserId)
  clientId : created.clientId = clientId
  redirectUri : created.redirectUri = redirectUri
  purpose : created.purpose = purpose

/-
  A callback presented the session's cookie and exact state,
  verified a token with the session's nonce, and was
  answered this row for the verified identity.
-/
def CallbackProven
    (history : History)
    (sessionId : String)
    (created : OAuthSession)
    (authIdentityId kisUserId : String) : Prop :=
  ∃ later earlier thread q callback session token row,
    history = later ++ earlier ∧
      Entry.arrive thread q ∈ earlier ∧
      q.callback = some callback ∧
      Verified P cfg callback (answersOf thread earlier)
        sessionId session token ∧
      SameSession session created ∧
      (⟨.selectIdentity callback.provider
            (callback.subject token.sub),
          .ok (some row)⟩ ∈ answersOf thread earlier ∨
        LinkedRow (answersOf thread earlier)
          callback.provider (callback.subject token.sub)
          kisUserId row) ∧
      row.provider = callback.provider ∧
      row.providerSubject = callback.subject token.sub ∧
      row.id = authIdentityId ∧
      row.kisUserId = kisUserId

/- The redemption itself read the row, active and bound. -/
def IdentityCurrent
    (history : History)
    (thread : Nat)
    (authIdentityId kisUserId : String) : Prop :=
  ∃ row,
    Entry.answer thread
        ⟨.selectIdentityById authIdentityId,
          .ok (some row)⟩ ∈ history ∧
      row.id = authIdentityId ∧
      row.status = .active ∧
      row.kisUserId = kisUserId

/- The provenance of one token. -/
def TokenProven
    (history : History)
    (thread : Nat)
    (post : InternalPost)
    (token : AuthorizationJwt) : Prop :=
  ∃ kisUserId authIdentityId redirectUri sessionId created,
    token.sub = some kisUserId ∧
      token.authIdentityId = some authIdentityId ∧
      RedemptionSigned P cfg history thread post token.aud
        redirectUri ∧
      SessionApproved P cfg history sessionId created
        token.aud redirectUri token.purpose kisUserId ∧
      CallbackProven P cfg history sessionId created
        authIdentityId kisUserId ∧
      IdentityCurrent history thread authIdentityId kisUserId

/- Every token an authorization exchange returns is proven. -/
def TokensProven :
    ServiceEntry → History → Prop
| .respond thread (.ok (.token token)), earlier =>
    ∀ post,
      Entry.arrive thread (.authorizationExchange post) ∈
          earlier →
        TokenProven P cfg earlier thread post token
| _, _ => True

end KisAuth

------------------------------------------------------------
-- Tracing A Token Back
------------------------------------------------------------

namespace KisAuth

open Interaction Store

variable {P : Platform} {cfg : KisAuthConfig}
variable {history : History}

/-
  The row a code was issued for is the row the redemption
  read, since a row's id determines everything it is bound
  to.
-/
theorem entitled_current
    {earlier : History}
    {thread redeemer : Nat}
    {callback : Callback}
    {session : OAuthSession}
    {token : VerifiedIdToken}
    {payload : AuthorizationCodePayload}
    {identity : AuthIdentity}
    (later : History)
    (hRecorded : Recorded P cfg (later ++ earlier))
    (hEntitled :
      Entitled callback (answersOf thread earlier) session
        token payload)
    (hRead :
      Entry.answer redeemer
          ⟨.selectIdentityById payload.authIdentityId,
            .ok (some identity)⟩ ∈ later ++ earlier) :
    ∃ row : AuthIdentity,
      payload.authIdentityId = row.id ∧
        row.binding = identity.binding ∧
        row.provider = callback.provider ∧
        row.providerSubject = callback.subject token.sub ∧
        ((session.purpose = "link" ∧
            session.linkKisUserId = some payload.kisUserId ∧
            LinkedRow (answersOf thread earlier)
              callback.provider (callback.subject token.sub)
              payload.kisUserId row) ∨
          ⟨.selectIdentity callback.provider
              (callback.subject token.sub),
            .ok (some row)⟩ ∈ answersOf thread earlier ∧
          session.purpose ≠ "link") := by
  rcases read_binding hRecorded hRead with
    ⟨hIdentity, hId⟩
  have hEarlier : Recorded P cfg earlier := hRecorded.drop
  have hSame :
      ∀ row : AuthIdentity,
        payload.authIdentityId = row.id →
          row.binding ∈ bindings earlier →
            row.binding = identity.binding := by
    intro row hRowId hRow
    exact
      (binding_of_id hRecorded hIdentity
        (bindings_append later earlier hRow) hId
        hRowId.symm).symm
  rcases hEntitled.row with
    ⟨row, hRowId, ⟨hPurpose, hUser, hLinked⟩ |
      ⟨hPurpose, _, hSelect⟩⟩
  · rcases linked_binding hEarlier hLinked with
      ⟨hRow, hProvider, hSubject⟩
    exact
      ⟨row, hRowId, hSame row hRowId hRow, hProvider,
        hSubject, Or.inl ⟨hPurpose, hUser, hLinked⟩⟩
  · rcases selected_binding hEarlier (mem_of_past hSelect)
      with ⟨hRow, hProvider, hSubject⟩
    exact
      ⟨row, hRowId, hSame row hRowId hRow, hProvider,
        hSubject, Or.inr ⟨hSelect, hPurpose⟩⟩

/- A redeemed code is proven, part by part. -/
theorem redeemed_proven
    {thread : Nat}
    {post : InternalPost}
    {token : AuthorizationJwt}
    {code : String}
    {payload : AuthorizationCodePayload}
    {identity : AuthIdentity}
    (hRecorded : Recorded P cfg history)
    (hRedeemed :
      CodeRedeemed P post (answersOf thread history) token code
        payload identity) :
    TokenProven P cfg history thread post token := by
  have hAccepted := mem_of_past hRedeemed.admitted.signed
  have hRead := mem_of_past hRedeemed.read
  have hCurrent := hRedeemed.current
  unfold redeemable at hCurrent
  simp only [Bool.and_eq_true, decide_eq_true_eq] at hCurrent
  rcases hCurrent with ⟨hActive, hBound⟩
  rcases consumed_code_origin hRecorded
      (mem_of_past hRedeemed.consumed) with
    ⟨rest, earlier, issuer, q, callback, sessionId, session,
      idToken, rfl, hEarlier, hArrive, hCallback, hIssued⟩
  have hEntitled := code_entitled hEarlier hIssued
  rcases entitled_current rest hRecorded hEntitled hRead with
    ⟨row, hRowId, hBinding, hProvider, hSubject, hCase⟩
  have hUser : row.kisUserId = payload.kisUserId := by
    rw [← hBound]
    exact congrArg IdentityBinding.kisUserId hBinding
  have hIdentityId : identity.id = payload.authIdentityId := by
    rw [hRowId]
    exact (congrArg IdentityBinding.id hBinding).symm
  rcases session_read_origin hEarlier
      (mem_of_past hIssued.verified.reads.read) with
    ⟨minter, query, created, hMinted, hSession⟩
  have hMintedAll := hMinted.append rest
  rcases hSession.fields with
    ⟨hClientId, hRedirectUri, hPurpose, _, _, hLinkUser, _⟩
  refine
    ⟨payload.kisUserId, payload.authIdentityId,
      payload.redirectUri, sessionId, created, ?_, ?_, ?_,
      ?_, ?_, ?_⟩
  · rw [hRedeemed.sub]
    exact (truthyText_eq_some_iff _ _).mpr
      ⟨rfl, hEntitled.named⟩
  · exact hRedeemed.authIdentityId
  · exact
      { accepted := hAccepted
        signature := signature_of_accepted hRecorded hAccepted
        clientId := by
          rw [hRedeemed.aud]
          exact hRedeemed.clientId
        redirectUri := hRedeemed.redirectUri }
  · refine
      { authorized := ⟨minter, query, hMintedAll, ?_⟩
        clientId := by
          rw [hRedeemed.aud, hEntitled.clientId, hClientId]
        redirectUri := by
          rw [hEntitled.redirectUri, hRedirectUri]
        purpose := by
          rw [hRedeemed.purpose, hEntitled.purpose,
            hPurpose] }
    intro hLink
    rw [hRedeemed.purpose, hEntitled.purpose] at hLink
    rcases hCase with ⟨_, hNamed, _⟩ | ⟨_, hNot⟩
    · apply minted_link hMintedAll
      · rw [← hPurpose, hLink]
      · rw [← hLinkUser, hNamed]
    · exact absurd hLink hNot
  · refine
      ⟨rest, earlier, issuer, q, callback, session, idToken,
        row, rfl, hArrive, hCallback, hIssued.verified,
        hSession, ?_, hProvider, hSubject, hRowId.symm,
        hUser⟩
    rcases hCase with ⟨_, _, hLinked⟩ | ⟨hSelect, _⟩
    · exact Or.inr hLinked
    · exact Or.inl hSelect
  · exact
      ⟨identity, hRead, hIdentityId, hActive, hBound⟩

/-
  Whatever requests are served, and in whatever order their
  calls are answered, every authorization token is proven.
-/
theorem token_provenance (run : Run P cfg) :
    Always (TokensProven P cfg) run.history := by
  apply run.recorded.always
  intro later entry earlier hRecorded
  unfold TokensProven
  split
  · next thread token =>
      intro post hArrive
      have hEarlier : Recorded P cfg earlier :=
        hRecorded.drop.tail
      rcases hRecorded.ended_of_arrive
          (List.mem_append_right _
            (List.mem_cons_of_mem _ hArrive)) with
        ⟨_, _, hAnswered⟩
      rcases hAnswered with
        ⟨other, code, payload, identity, hPost, hRedeemed⟩ |
        ⟨other, code, payload, hPost, _⟩
      · simp only [Request.authorizationExchange.injEq]
          at hPost
        subst hPost
        exact redeemed_proven hEarlier hRedeemed
      · simp at hPost
  · trivial

end KisAuth
