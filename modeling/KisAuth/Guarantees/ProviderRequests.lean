import KisAuth.Config.Environment
import KisAuth.Provenance.Completions
import KisAuth.Provenance.Tenants
import KisAuth.Security.SecurityEvents

/-
  What the service sends to Django and to the providers.

  Every outgoing request goes to an address that is
  configured, or that Django or a provider named for the
  tenant of a session: none is chosen by a browser. A code
  verifier is sent with the code of the session it was drawn
  for, by the start whose redirect carried its challenge.

  Key definitions include:
    * `SentRequest`, `Sends`
    * `SessionTenant`, `Justified`
    * `Started`, `VerifierBound`

  Key theorems include:
    * `outbound_justified`
    * `verifier_started`, `started_unique`
    * `verifiers_bound`
-/

------------------------------------------------------------
-- Requests That Go Out
------------------------------------------------------------

namespace KisAuth

end KisAuth

------------------------------------------------------------
-- Justified Requests
------------------------------------------------------------

namespace KisAuth

open Interaction

/- The code and verifier a callback exchanges. -/
structure Exchanges
    (history : History)
    (thread : Nat)
    (callback : Callback)
    (sessionId : String)
    (session : OAuthSession)
    (code codeVerifier : String) : Prop where
  serves : callbackOf thread history = some callback
  reads :
    ReadsSession callback.req (answersOf thread history)
      sessionId session
  accepted :
    acceptedCode callback.query session =
      some (code, codeVerifier)

variable {P : Platform} {cfg : KisAuthConfig}
variable {history later earlier : History} {thread : Nat}
variable {q : Request} {eventUrl : String}

/- On which terms an answered call was made. -/
theorem terms_at
    {answer : Answer Eff Eff.Res}
    (hRecorded :
      Recorded P cfg (later ++ .answer thread answer :: earlier))
    (hTerms :
      Always (Keeps (OnTerms P cfg) (StartOutcome P cfg))
        (later ++ .answer thread answer :: earlier)) :
    ∃ q,
      Step P cfg earlier thread q answer ∧
        OnTerms P cfg q (answersOf thread earlier)
          answer.effect := by
  rcases hRecorded.step_at with ⟨q, hStep⟩
  rcases hTerms.split.1 with ⟨other, hArrive, hOnTerms⟩
  have hSame : other = q :=
    hStep.recorded.request_unique hArrive hStep.arrived
  exact ⟨q, hStep, hSame ▸ hOnTerms⟩

/- A callback that exchanges its code, in the whole history. -/
theorem Exchanging.exchanges
    {callback : Callback}
    {sessionId code codeVerifier : String}
    {session : OAuthSession}
    (hRecorded : Recorded P cfg history)
    (hArrive : Entry.arrive thread q ∈ history)
    (hExchanging :
      Exchanging q (answersOf thread history) callback
        sessionId session code codeVerifier) :
    Exchanges history thread callback sessionId session code
      codeVerifier where
  serves :=
    callbackOf_eq_some hRecorded hArrive hExchanging.serves
  reads := hExchanging.reads
  accepted := hExchanging.accepted

end KisAuth

------------------------------------------------------------
-- Code Verifiers
------------------------------------------------------------

namespace KisAuth

open Interaction

/- A start on the session of the cookie it came with. -/
def StartsSession
    (sessionId : String)
    (session : OAuthSession)
    (q : Request) : Prop :=
  ∃ req,
    sessionCookie req = some (some sessionId) ∧
      (q = .googleStart req ∨
        ∃ partnerSlug,
          q = .enterpriseStart partnerSlug req ∧
            session.partnerSlug = some partnerSlug)

/-
  The request for authorization with the state and nonce of
  a session and the challenge of a code verifier.
-/
def AsksAuthorization
    (P : Platform)
    (session : OAuthSession)
    (codeVerifier location : String) : Prop :=
  ∃ url clientId redirectUri,
    location =
      P.href (setSearchParams P url
        (authorizationParams P session clientId redirectUri
          codeVerifier))

/-
  A start has drawn the code verifier of a session. No other
  request has drawn it, and wherever the start sends the
  browser, it sends the verifier's challenge along.
-/
structure Started
    (P : Platform)
    (history : History)
    (starter : Nat)
    (sessionId : String)
    (session : OAuthSession)
    (codeVerifier : String) : Prop where
  serves :
    ∃ q,
      Entry.arrive starter q ∈ history ∧
        StartsSession sessionId session q
  drawn :
    Entry.answer starter ⟨.random, codeVerifier⟩ ∈ history
  only :
    ∀ other,
      Entry.answer other ⟨.random, codeVerifier⟩ ∈ history →
        other = starter
  departs :
    ∀ location cookie,
      Entry.respond starter (.ok (.redirect location cookie)) ∈
          history →
        AsksAuthorization P session codeVerifier location

variable {P : Platform} {cfg : KisAuthConfig}
variable {history : History}

/- A session's write among the answers of its thread. -/
theorem restarted_at
    {writer : Nat}
    {q : Request}
    {sessionId : String}
    {session : OAuthSession}
    {ttlSeconds : ℚ}
    (hRecorded : Recorded P cfg history)
    (hArrive : Entry.arrive writer q ∈ history)
    (hStart : ∀ query req, q ≠ .authorize query req)
    (hWrite :
      Entry.answer writer
          ⟨.redisSet (sessionKey sessionId)
            (.session session) ttlSeconds, .ok ()⟩ ∈
        history) :
    ∃ later earlier,
      history =
          later ++
            .answer writer
              ⟨.redisSet (sessionKey sessionId)
                (.session session) ttlSeconds, .ok ()⟩ ::
            earlier ∧
        SessionRestarted q (answersOf writer earlier) sessionId
          session := by
  rcases hRecorded.step_of_arrive hArrive hWrite with
    ⟨later, earlier, hSplit, _, hStep⟩
  refine ⟨later, earlier, hSplit, ?_⟩
  rcases hStep.allowed with ⟨written, hKey, hBy⟩
  have hSame : written = sessionId :=
    ((storeKey_inj _ _ _ _).mp hKey).2.symm
  subst hSame
  rcases hBy with ⟨query, req, hAuthorize, _⟩ | hRestarted
  · exact absurd hAuthorize (hStart query req)
  · exact hRestarted

/- A start writes its session once. -/
theorem restarted_once
    {writer : Nat}
    {q : Request}
    {sessionId sessionId' : String}
    {session session' : OAuthSession}
    {ttlSeconds ttlSeconds' : ℚ}
    (hRecorded : Recorded P cfg history)
    (hArrive : Entry.arrive writer q ∈ history)
    (hStart : ∀ query req, q ≠ .authorize query req)
    (hWrite :
      Entry.answer writer
          ⟨.redisSet (sessionKey sessionId)
            (.session session) ttlSeconds, .ok ()⟩ ∈
        history)
    (hWrite' :
      Entry.answer writer
          ⟨.redisSet (sessionKey sessionId')
            (.session session') ttlSeconds', .ok ()⟩ ∈
        history) :
    session = session' := by
  rcases restarted_at hRecorded hArrive hStart hWrite with
    ⟨later, earlier, hSplit, hRestarted⟩
  rcases restarted_at hRecorded hArrive hStart hWrite' with
    ⟨later', earlier', hSplit', hRestarted'⟩
  rcases write_unique (hSplit.symm.trans hSplit')
      (by rw [hRestarted.first]; simp)
      (by rw [hRestarted'.first]; simp) with
    ⟨_, hValue, _⟩
  rw [RedisValue.session.injEq] at hValue
  exact hValue

/- Where a start sends the browser, after what it stored. -/
theorem departs_of_start
    {starter : Nat}
    {q : Request}
    {sessionId location codeVerifier : String}
    {session : OAuthSession}
    {ttlSeconds : ℚ}
    {cookie : Option String}
    (hRecorded : Recorded P cfg history)
    (hTerms :
      Always (Keeps (OnTerms P cfg) (StartOutcome P cfg))
        history)
    (hArrive : Entry.arrive starter q ∈ history)
    (hStart : StartsSession sessionId session q)
    (hWrite :
      Entry.answer starter
          ⟨.redisSet (sessionKey sessionId)
            (.session session) ttlSeconds, .ok ()⟩ ∈
        history)
    (hVerifier : session.codeVerifier = some codeVerifier)
    (hEnd :
      Entry.respond starter (.ok (.redirect location cookie)) ∈
        history) :
    AsksAuthorization P session codeVerifier location := by
  rcases List.append_of_mem hEnd with ⟨later, earlier, rfl⟩
  rcases hTerms.split.1 with ⟨other, hOther, hOutcome⟩
  have hSame : other = q :=
    hRecorded.request_unique
      (List.mem_append_right _
        (List.mem_cons_of_mem _ hOther))
      hArrive
  subst hSame
  have hNew : ∀ query req, other ≠ .authorize query req := by
    rintro query req rfl
    rcases hStart with ⟨_, _, hGoogle | ⟨_, hTenant, _⟩⟩
    · simp at hGoogle
    · simp at hTenant
  have hSession :
      ∀ {req clientId redirectUri endpoint},
        Departs P (answersOf starter earlier) req clientId
            redirectUri endpoint location →
          AsksAuthorization P session codeVerifier location := by
    rintro req clientId redirectUri endpoint
      ⟨stored, old, drawn, ttl, url, _, _, hStored, _,
        hLocation⟩
    have hBoth :=
      restarted_once hRecorded hArrive hNew hWrite
        (List.mem_append_right _
          (List.mem_cons_of_mem _ (mem_of_past hStored)))
    subst hBoth
    rw [Option.some.injEq] at hVerifier
    subst hVerifier
    exact ⟨url, clientId, redirectUri, hLocation⟩
  rcases hStart with
    ⟨req, _, rfl | ⟨partnerSlug, rfl, _⟩⟩
  · exact hSession hOutcome
  · rcases hOutcome with
      ⟨config, doc, redirectUri, _, _, _, hDeparts⟩
    exact hSession hDeparts

/- A session that was read was written by some request. -/
theorem session_writer
    {thread : Nat}
    {sessionId : String}
    {session : OAuthSession}
    (hRecorded : Recorded P cfg history)
    (hRead :
      Entry.answer thread
          ⟨.redisGet (sessionKey sessionId),
            some (.session session)⟩ ∈
        history) :
    ∃ writer ttlSeconds,
      Entry.answer writer
          ⟨.redisSet (sessionKey sessionId)
            (.session session) ttlSeconds, .ok ()⟩ ∈
        history := by
  rcases stored_of_read hRecorded hRead with
    ⟨later, earlier, rfl, hEarlier, hStored⟩
  rcases stored_origin hEarlier hStored trivial with
    ⟨after, before, writer, ttlSeconds, q, rfl, hStep⟩
  exact ⟨writer, ttlSeconds, by simp⟩

/- The verifier of a session that was read has its start. -/
theorem verifier_started
    {thread : Nat}
    {sessionId codeVerifier : String}
    {session : OAuthSession}
    (hRecorded : Recorded P cfg history)
    (hTerms :
      Always (Keeps (OnTerms P cfg) (StartOutcome P cfg))
        history)
    (hRead :
      Entry.answer thread
          ⟨.redisGet (sessionKey sessionId),
            some (.session session)⟩ ∈
        history)
    (hVerifier : session.codeVerifier = some codeVerifier) :
    ∃ starter,
      Started P history starter sessionId session
        codeVerifier := by
  rcases session_writer hRecorded hRead with
    ⟨starter, ttlSeconds, hWrite⟩
  rcases List.append_of_mem hWrite with ⟨later, earlier, rfl⟩
  rcases terms_at hRecorded hTerms with ⟨q, hStep, hOnTerms⟩
  have hArrive :
      Entry.arrive starter q ∈
        later ++
          .answer starter
            ⟨.redisSet (sessionKey sessionId)
              (.session session) ttlSeconds, .ok ()⟩ ::
          earlier :=
    List.mem_append_right _
      (List.mem_cons_of_mem _ hStep.arrived)
  have hDrawn :=
    List.mem_append_right later
      (List.mem_cons_of_mem
        (.answer starter
          ⟨.redisSet (sessionKey sessionId)
            (.session session) ttlSeconds, .ok ()⟩)
        (mem_of_past (hOnTerms.2 codeVerifier hVerifier)))
  have hStart : StartsSession sessionId session q := by
    rcases hStep.allowed with ⟨written, hKey, hBy⟩
    have hSame : sessionId = written :=
      ((storeKey_inj _ _ _ _).mp hKey).2
    subst hSame
    rcases hBy with ⟨_, _, _, hCreated⟩ | hRestarted
    · rw [hCreated.codeVerifier] at hVerifier
      simp at hVerifier
    · exact hRestarted.route
  exact
    ⟨starter,
      { serves := ⟨q, hArrive, hStart⟩
        drawn := hDrawn
        only := fun other hOther =>
          random_unique hRecorded.faithful hOther hDrawn
        departs := fun location cookie hEnd =>
          departs_of_start hRecorded hTerms hArrive hStart
            hWrite hVerifier hEnd }⟩

/- A verifier is drawn for one session. -/
theorem started_unique
    {starter starter' : Nat}
    {sessionId sessionId' codeVerifier : String}
    {session session' : OAuthSession}
    (hRecorded : Recorded P cfg history)
    (hLeft :
      Started P history starter sessionId session codeVerifier)
    (hRight :
      Started P history starter' sessionId' session'
        codeVerifier) :
    starter = starter' ∧ sessionId = sessionId' := by
  have hSame : starter = starter' :=
    hRight.only starter hLeft.drawn
  subst hSame
  rcases hLeft.serves with ⟨q, hArrive, req, hCookie, hRoute⟩
  rcases hRight.serves with
    ⟨q', hArrive', req', hCookie', hRoute'⟩
  have hRequest : q = q' :=
    hRecorded.request_unique hArrive hArrive'
  subst hRequest
  have hReq : req = req' := by
    rcases hRoute with rfl | ⟨_, rfl, _⟩
    · rcases hRoute' with hGoogle | ⟨_, hTenant, _⟩
      · exact Request.googleStart.inj hGoogle
      · simp at hTenant
    · rcases hRoute' with hGoogle | ⟨_, hTenant, _⟩
      · simp at hGoogle
      · exact (Request.enterpriseStart.inj hTenant).2
  subst hReq
  rw [hCookie, Option.some.injEq, Option.some.injEq] at hCookie'
  exact ⟨rfl, hCookie'⟩

end KisAuth

------------------------------------------------------------
-- Verifiers That Are Sent
------------------------------------------------------------

namespace KisAuth

open Interaction

variable {P : Platform} {cfg : KisAuthConfig}
variable {history : History}

/- The code verifier a request carries. -/
def FetchRequest.codeVerifier
    (request : FetchRequest) : Option String :=
  (request.form.find? (fun param =>
    param.1 == "code_verifier")).map Prod.snd

/- A thread sends a code verifier to a provider. -/
def SendsVerifier
    (history : History)
    (thread : Nat)
    (codeVerifier : String) : Prop :=
  ∃ request reply,
    Entry.answer thread ⟨.fetch request, reply⟩ ∈ history ∧
      request.codeVerifier = some codeVerifier

/-
  A callback sends the code verifier of the session it has
  read, whose state it presents, and which a start drew for
  that session.
-/
structure BoundTo
    (P : Platform)
    (history : History)
    (thread : Nat)
    (sessionId codeVerifier : String) : Prop where
  bound :
    ∃ callback session starter,
      callbackOf thread history = some callback ∧
        ReadsSession callback.req (answersOf thread history)
          sessionId session ∧
        truthyText callback.query.state = some session.state ∧
        Started P history starter sessionId session
          codeVerifier

/-
  Every code verifier that is sent is bound to one session,
  whoever sends it.
-/
structure VerifiersBound
    (P : Platform)
    (history : History) : Prop where
  bound :
    ∀ thread codeVerifier,
      SendsVerifier history thread codeVerifier →
        ∃ sessionId,
          BoundTo P history thread sessionId codeVerifier
  one :
    ∀ thread thread' sessionId sessionId' codeVerifier,
      BoundTo P history thread sessionId codeVerifier →
        BoundTo P history thread' sessionId' codeVerifier →
          sessionId = sessionId'

/- Only the exchange of a code carries a verifier. -/
theorem Outgoing.verifier
    {past : Past}
    {request : FetchRequest}
    {codeVerifier : String}
    (hOutgoing : Outgoing P cfg q past request)
    (hVerifier : request.codeVerifier = some codeVerifier) :
    ∃ callback sessionId session code,
      Exchanging q past callback sessionId session code
        codeVerifier := by
  cases hOutgoing with
  | tenantConfig partnerSlug request hTenant hRequest =>
      rcases hRequest with ⟨_, _, _, _, _, _, rfl⟩
      simp [FetchRequest.codeVerifier] at hVerifier
  | discovery partnerSlug config hTenant hConfig =>
      simp [FetchRequest.codeVerifier] at hVerifier
  | token callback sessionId session code sent request
      hExchanging hRequest =>
      have hSame : sent = codeVerifier := by
        cases hRoute : callback.tenant with
        | none =>
            rw [hRoute] at hRequest
            rw [show request = _ from hRequest] at hVerifier
            simpa [FetchRequest.codeVerifier,
              googleTokenRequest] using hVerifier
        | some partnerSlug =>
            rw [hRoute] at hRequest
            rcases hRequest with ⟨_, _, _, _, _, _, rfl⟩
            simpa [FetchRequest.codeVerifier,
              tenantTokenRequest] using hVerifier
      exact
        ⟨callback, sessionId, session, code,
          hSame ▸ hExchanging⟩

/- An exchange is one in all that is recorded later. -/
theorem Exchanges.append
    {thread : Nat}
    {callback : Callback}
    {sessionId code codeVerifier : String}
    {session : OAuthSession}
    {later earlier : History}
    (hExchanges :
      Exchanges earlier thread callback sessionId session code
        codeVerifier)
    (hRecorded : Recorded P cfg (later ++ earlier)) :
    Exchanges (later ++ earlier) thread callback sessionId
      session code codeVerifier where
  serves := by
    rcases exists_of_callbackOf hExchanges.serves with
      ⟨q, hArrive, hCallback⟩
    exact
      callbackOf_eq_some hRecorded
        (List.mem_append_right _ hArrive) hCallback
  reads :=
    hExchanges.reads.extend (answersOf_subset thread _ _)
  accepted := hExchanges.accepted

/- What the accepted code and verifier say of a session. -/
theorem acceptedCode_spec
    {query : CallbackQuery}
    {session : OAuthSession}
    {code codeVerifier : String}
    (hAccepted :
      acceptedCode query session = some (code, codeVerifier)) :
    session.codeVerifier = some codeVerifier ∧
      truthyText query.state = some session.state := by
  unfold acceptedCode at hAccepted
  split at hAccepted
  · next found verifier hCode hVerifier =>
      split at hAccepted
      · next hState =>
          rw [Option.some.injEq, Prod.mk.injEq] at hAccepted
          rw [hAccepted.2] at hVerifier
          exact
            ⟨((truthyText_eq_some_iff _ _).mp hVerifier).1,
              hState⟩
      · simp at hAccepted
  · simp at hAccepted

/-
  Every code verifier sent to a provider was drawn by a start
  of the session that the callback presents, and that start's
  redirect carried its challenge.
-/
theorem verifiers_bound (run : Run P cfg) :
    VerifiersBound P run.history where
  bound := by
    rintro thread codeVerifier
      ⟨request, reply, hMem, hVerifier⟩
    rcases List.append_of_mem hMem with
      ⟨later, earlier, hSplit⟩
    have hRecorded := run.recorded
    have hTerms := run.terms
    rw [hSplit] at hRecorded hTerms
    rcases terms_at hRecorded hTerms with
      ⟨q, hStep, hOutgoing⟩
    rcases Outgoing.verifier hOutgoing hVerifier with
      ⟨callback, sessionId, session, code, hExchanging⟩
    have hSent :=
      hExchanging.exchanges hStep.recorded hStep.arrived
    rw [List.append_cons] at hRecorded
    have hExchanges := hSent.append hRecorded
    rw [← List.append_cons, ← hSplit] at hExchanges
    rcases acceptedCode_spec hExchanges.accepted with
      ⟨hSession, hState⟩
    rcases verifier_started run.recorded run.terms
        (mem_of_past hExchanges.reads.read) hSession with
      ⟨starter, hStarted⟩
    exact
      ⟨sessionId, callback, session, starter,
        hExchanges.serves, hExchanges.reads, hState, hStarted⟩
  one := by
    rintro thread thread' sessionId sessionId' codeVerifier
      ⟨_, _, starter, _, _, _, hStarted⟩
      ⟨_, _, starter', _, _, _, hStarted'⟩
    exact
      (started_unique run.recorded hStarted hStarted').2

end KisAuth
