import KisAuth.Provenance.Grants

/-
  Where codes and tickets are delivered.

  A callback hands a code or ticket to the redirect URI that
  was approved for its session, with the state the client
  gave, and what is stored under the code is bound to the
  same client and redirect URI. Start routes write sessions
  back, but change no field other than the code verifier.

  Key definitions include:
    * `GrantBound`, `ApprovedFor`, `Delivered`
    * `Holds`, `CodesDelivered`

  Key theorems include:
    * `grant_session`, `session_kept`
    * `code_delivery`
-/

------------------------------------------------------------
-- Delivery
------------------------------------------------------------

namespace KisAuth

open Interaction Store

variable (P : Platform) (cfg : KisAuthConfig)

/- The client and redirect URI of a code or ticket. -/
def RedisValue.grantee :
    RedisValue → Option (String × String)
| .code payload =>
    some (payload.clientId, payload.redirectUri)
| .ticket payload =>
    some (payload.clientId, payload.redirectUri)
| _ => none

/-
  A code or ticket was stored under this code, and whatever
  is ever stored under it is for this session's client and
  redirect URI.
-/
structure GrantBound
    (history : History)
    (code : String)
    (created : OAuthSession) : Prop where
  stored :
    ∃ thread value ttl,
      value.isGrant ∧
        Entry.answer thread
            ⟨.redisSet (grantKey value code) value ttl,
              .ok ()⟩ ∈ history
  bound :
    ∀ thread value ttl,
      value.isGrant →
        Entry.answer thread
            ⟨.redisSet (grantKey value code) value ttl,
              .ok ()⟩ ∈ history →
          value.grantee =
            some (created.clientId, created.redirectUri)

/-
  The request to /authorize that created the session asked
  for its client, redirect URI, purpose and client state,
  and the registry approved of the first three.
-/
structure ApprovedFor
    (history : History)
    (minter : Nat)
    (query : AuthorizeQuery)
    (created : OAuthSession) : Prop where
  clientId : created.clientId = query.clientId.getD ""
  redirectUri :
    created.redirectUri = query.redirectUri.getD ""
  purpose : query.purpose = some created.purpose
  clientState :
    truthyText query.state = some created.clientState
  registry :
    ∃ client,
      Entry.answer minter
          ⟨.selectClient created.clientId,
            .ok (some client)⟩ ∈ history ∧
        isRedirectUriAllowed client created.redirectUri =
          true ∧
        isPurposeAllowed client created.purpose = true

/-
  A callback's redirect names the redirect URI of the session
  it presented. It sets no code there, or one that is bound
  to the session, beside the client's own state.
-/
def Delivered
    (history earlier : History)
    (callback : Callback)
    (location : String) : Prop :=
  ∃ minter query sessionId created target state params,
    sessionCookie callback.req = some (some sessionId) ∧
      Minted P cfg earlier minter query sessionId created ∧
      ApprovedFor earlier minter query created ∧
      P.parseUrl created.redirectUri = some target ∧
      statusRedirectUrl P cfg state
          (P.href (setSearchParams P target params)) =
        some location ∧
      ((∀ param ∈ params, param.1 ≠ "code") ∨
        ∃ code,
          params =
              [("code", code),
                ("state", created.clientState)] ∧
            GrantBound history code created)

/- The session was written or read under this identifier. -/
def Holds
    (history : History)
    (sessionId : String)
    (session : OAuthSession) : Prop :=
  ∃ thread,
    (∃ ttl,
        Entry.answer thread
            ⟨.redisSet (sessionKey sessionId)
              (.session session) ttl, .ok ()⟩ ∈ history) ∨
      Entry.answer thread
          ⟨.redisGet (sessionKey sessionId),
            some (.session session)⟩ ∈ history

/-
  Every redirect of a callback is delivered, and a session
  keeps all fields but the code verifier.
-/
structure CodesDelivered (history : History) : Prop where
  delivered :
    ∀ later thread location cookie earlier q callback,
      history =
          later ++
            .respond thread
                (.ok (.redirect location cookie)) ::
              earlier →
        Entry.arrive thread q ∈ earlier →
          q.callback = some callback →
            Delivered P cfg history earlier callback location
  kept :
    ∀ minter query sessionId created session,
      Minted P cfg history minter query sessionId created →
        Holds history sessionId session →
          SameSession session created

end KisAuth

------------------------------------------------------------
-- Sessions Keep Their Fields
------------------------------------------------------------

namespace KisAuth

open Interaction Store

variable {P : Platform} {cfg : KisAuthConfig}
variable {history : History}

/- What was held before is held. -/
theorem Holds.append_cons
    {earlier : History}
    {sessionId : String}
    {session : OAuthSession}
    (hHolds : Holds earlier sessionId session)
    (later : History)
    (entry : ServiceEntry) :
    Holds (later ++ entry :: earlier) sessionId session := by
  rcases hHolds with ⟨thread, ⟨ttl, hWrite⟩ | hRead⟩
  · refine ⟨thread, Or.inl ⟨ttl, ?_⟩⟩
    exact List.mem_append_right _
      (List.mem_cons_of_mem _ hWrite)
  · refine ⟨thread, Or.inr ?_⟩
    exact List.mem_append_right _
      (List.mem_cons_of_mem _ hRead)

/- A session that was held was created by /authorize. -/
theorem session_held_origin
    {sessionId : String}
    {session : OAuthSession}
    (hRecorded : Recorded P cfg history)
    (hHolds : Holds history sessionId session) :
    ∃ minter query created,
      Minted P cfg history minter query sessionId created ∧
        SameSession session created := by
  rcases hHolds with ⟨thread, ⟨ttl, hWrite⟩ | hRead⟩
  · rcases List.append_of_mem hWrite with
      ⟨later, earlier, rfl⟩
    have hWritten : Recorded P cfg
        (.answer thread
            ⟨.redisSet (sessionKey sessionId)
              (.session session) ttl, .ok ()⟩ ::
          earlier) :=
      hRecorded.drop
    have hStored :
        stored
            (.answer thread
                ⟨.redisSet (sessionKey sessionId)
                  (.session session) ttl, .ok ()⟩ ::
              earlier)
            (sessionKey sessionId) =
          some (.session session) := by
      simp [stored, lastWrite, touch, touchOf]
    rcases session_origin hWritten hStored with
      ⟨minter, query, created, hMinted, hSame⟩
    exact
      ⟨minter, query, created, hMinted.append later, hSame⟩
  · exact session_read_origin hRecorded hRead

/- It differs from the created one in the code verifier. -/
theorem session_kept
    {minter : Nat}
    {query : AuthorizeQuery}
    {sessionId : String}
    {created session : OAuthSession}
    (hRecorded : Recorded P cfg history)
    (hMinted :
      Minted P cfg history minter query sessionId created)
    (hHolds : Holds history sessionId session) :
    SameSession session created := by
  rcases session_held_origin hRecorded hHolds with
    ⟨other, query', created', hOther, hSame⟩
  rcases minted_unique hRecorded hMinted hOther with
    ⟨_, _, rfl⟩
  exact hSame

/- What /authorize had before it created the session. -/
theorem Minted.approvedFor
    {minter : Nat}
    {query : AuthorizeQuery}
    {sessionId : String}
    {created : OAuthSession}
    (hMinted :
      Minted P cfg history minter query sessionId created) :
    ApprovedFor history minter query created := by
  rcases hMinted.position with
    ⟨later, earlier, ttl, req, rfl, _, hCreated⟩
  rcases hCreated.approved with
    ⟨client, hSelect, hUri, hPurpose⟩
  exact
    { clientId := hCreated.clientId
      redirectUri := hCreated.redirectUri
      purpose := hCreated.purpose
      clientState := hCreated.clientState
      registry :=
        ⟨client,
          List.mem_append_right _
            (List.mem_cons_of_mem _ (mem_of_past hSelect)),
          hUri, hPurpose⟩ }

end KisAuth

------------------------------------------------------------
-- Codes And Their Sessions
------------------------------------------------------------

namespace KisAuth

open Interaction Store

variable {P : Platform} {cfg : KisAuthConfig}
variable {history : History}

/-
  A code or ticket is for the client and redirect URI of the
  session its callback read.
-/
theorem granted_session
    {thread : Nat}
    {q : Request}
    {key : String}
    {value : RedisValue}
    {ttl : ℚ}
    (hGrant : value.isGrant)
    (hStep :
      Step P cfg history thread q
        ⟨.redisSet key value ttl, .ok ()⟩) :
    ∃ callback sessionId session,
      q.callback = some callback ∧
        sessionCookie callback.req = some (some sessionId) ∧
        Holds history sessionId session ∧
        value.grantee =
          some (session.clientId, session.redirectUri) := by
  have hAllowed := hStep.allowed
  cases value with
  | code payload =>
      rcases hAllowed with
        ⟨callback, sessionId, session, token, hCallback,
          hIssued⟩
      have hReads := hIssued.verified.reads
      have hEntitled := code_entitled hStep.recorded hIssued
      refine
        ⟨callback, sessionId, session, hCallback,
          hReads.cookie,
          ⟨thread, Or.inr (mem_of_past hReads.read)⟩, ?_⟩
      rw [RedisValue.grantee, hEntitled.clientId,
        hEntitled.redirectUri]
  | ticket payload =>
      rcases hAllowed with
        ⟨callback, sessionId, session, token, hCallback,
          hIssued⟩
      have hReads := hIssued.verified.reads
      refine
        ⟨callback, sessionId, session, hCallback,
          hReads.cookie,
          ⟨thread, Or.inr (mem_of_past hReads.read)⟩, ?_⟩
      rw [RedisValue.grantee, hIssued.clientId,
        hIssued.redirectUri]
  | session session => exact absurd hGrant id
  | challenge record => exact absurd hGrant id
  | claimed => exact absurd hGrant id
  | count hits => exact absurd hGrant id

/- So is a code or ticket of the history. -/
theorem grant_session
    {thread : Nat}
    {key : String}
    {value : RedisValue}
    {ttl : ℚ}
    (hRecorded : Recorded P cfg history)
    (hGrant : value.isGrant)
    (hStored :
      Entry.answer thread ⟨.redisSet key value ttl, .ok ()⟩ ∈
        history) :
    ∃ q callback sessionId session,
      Entry.arrive thread q ∈ history ∧
        q.callback = some callback ∧
        sessionCookie callback.req = some (some sessionId) ∧
        Holds history sessionId session ∧
        value.grantee =
          some (session.clientId, session.redirectUri) := by
  rcases hRecorded.step hStored with
    ⟨later, earlier, q, rfl, hStep⟩
  rcases granted_session hGrant hStep with
    ⟨callback, sessionId, session, hCallback, hCookie,
      hHolds, hGrantee⟩
  refine
    ⟨q, callback, sessionId, session, ?_, hCallback, hCookie,
      hHolds.append_cons later _, hGrantee⟩
  exact List.mem_append_right _
    (List.mem_cons_of_mem _ hStep.arrived)

/- A delivered code is bound to the session presented. -/
theorem grant_bound
    {thread minter : Nat}
    {q : Request}
    {callback : Callback}
    {query : AuthorizeQuery}
    {code sessionId : String}
    {value : RedisValue}
    {ttl : ℚ}
    {created : OAuthSession}
    (hRecorded : Recorded P cfg history)
    (hArrive : Entry.arrive thread q ∈ history)
    (hCallback : q.callback = some callback)
    (hCookie :
      sessionCookie callback.req = some (some sessionId))
    (hMinted :
      Minted P cfg history minter query sessionId created)
    (hGrant : value.isGrant)
    (hStored :
      Entry.answer thread
          ⟨.redisSet (grantKey value code) value ttl,
            .ok ()⟩ ∈ history) :
    GrantBound history code created := by
  rcases grant_session hRecorded hGrant hStored with
    ⟨q', callback', sessionId', session, hArrive',
      hCallback', hCookie', hHolds, hGrantee⟩
  have hRequest :=
    hRecorded.request_unique hArrive hArrive'
  subst hRequest
  rw [hCallback, Option.some.injEq] at hCallback'
  subst hCallback'
  rw [hCookie, Option.some.injEq, Option.some.injEq]
    at hCookie'
  subst hCookie'
  rcases (session_kept hRecorded hMinted hHolds).fields with
    ⟨hClientId, hRedirectUri, _⟩
  rw [hClientId, hRedirectUri] at hGrantee
  constructor
  · exact ⟨thread, value, ttl, hGrant, hStored⟩
  · intro other value' ttl' hGrant' hStored'
    rw [← grant_write_unique hRecorded hGrant hGrant' hStored
      hStored']
    exact hGrantee

end KisAuth

------------------------------------------------------------
-- Delivery Over Runs
------------------------------------------------------------

namespace KisAuth

open Interaction Store

variable {P : Platform} {cfg : KisAuthConfig}
variable {history earlier : History}

/- A hand-off of a callback is delivered. -/
theorem handsOff_delivered
    {thread : Nat}
    {q : Request}
    {callback : Callback}
    {location : String}
    (later : History)
    (hRecorded : Recorded P cfg (later ++ earlier))
    (hArrive : Entry.arrive thread q ∈ earlier)
    (hCallback : q.callback = some callback)
    (hHandsOff :
      HandsOff P cfg callback.req (answersOf thread earlier)
        location) :
    Delivered P cfg (later ++ earlier) earlier callback
      location := by
  rcases hHandsOff with
    ⟨sessionId, session, target, state, params, hReads,
      hTarget, _, hDelivers, hLocation⟩
  have hEarlier : Recorded P cfg earlier := hRecorded.drop
  rcases session_read_origin hEarlier
      (mem_of_past hReads.read) with
    ⟨minter, query, created, hMinted, hSame⟩
  have hUri := hSame.fields.2.1
  have hState :
      session.clientState = created.clientState := by
    unfold SameSession at hSame
    rw [hSame]
  rw [hUri] at hTarget
  refine
    ⟨minter, query, sessionId, created, target, state,
      params, hReads.cookie, hMinted, hMinted.approvedFor,
      hTarget, hLocation, ?_⟩
  cases hDelivers with
  | failure params hParams =>
      left
      intro param hMem hCode
      have hName := hParams param hMem
      rw [hCode] at hName
      simp at hName
  | grant code value ttl hGrant hStored =>
      right
      refine ⟨code, by rw [hState], ?_⟩
      exact
        grant_bound hRecorded
          (List.mem_append_right _ hArrive) hCallback
          hReads.cookie (hMinted.append later) hGrant
          (List.mem_append_right _ (mem_of_past hStored))

/- A redirect of a callback is a hand-off. -/
theorem redirect_handsOff
    {later : History}
    {thread : Nat}
    {q : Request}
    {callback : Callback}
    {location : String}
    {cookie : Option String}
    (hRecorded :
      Recorded P cfg
        (later ++
          .respond thread (.ok (.redirect location cookie)) ::
            earlier))
    (hArrive : Entry.arrive thread q ∈ earlier)
    (hCallback : q.callback = some callback) :
    HandsOff P cfg callback.req (answersOf thread earlier)
      location := by
  rcases hRecorded.ended_of_arrive
      (List.mem_append_right _
        (List.mem_cons_of_mem _ hArrive)) with
    ⟨_, _, hAnswered⟩
  cases q with
  | googleCallback query req =>
      simp only [Request.callback, Option.some.injEq]
        at hCallback
      subst hCallback
      exact hAnswered
  | enterpriseCallback partnerSlug query req =>
      simp only [Request.callback, Option.some.injEq]
        at hCallback
      subst hCallback
      exact hAnswered
  | _ => simp [Request.callback] at hCallback

/-
  Whatever requests are served, and in whatever order their
  calls are answered, codes are delivered only where they
  were approved, and sessions keep their fields.
-/
theorem code_delivery (run : Run P cfg) :
    CodesDelivered P cfg run.history where
  delivered := by
    intro later thread location cookie earlier q callback
      hSplit hArrive hCallback
    have hRecorded := run.recorded
    rw [hSplit] at hRecorded ⊢
    have hHandsOff :=
      redirect_handsOff hRecorded hArrive hCallback
    have hDelivered :=
      handsOff_delivered
        (later ++
          [.respond thread (.ok (.redirect location cookie))])
        (by simpa using hRecorded) hArrive hCallback
        hHandsOff
    simpa using hDelivered
  kept := by
    intro minter query sessionId created session hMinted
      hHolds
    exact session_kept run.recorded hMinted hHolds

end KisAuth
