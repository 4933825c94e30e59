import KisAuth.Guarantees.TicketSingleUse
import KisAuth.Service.Footprint
import KisAuth.Service.RunProtocol

/-
  What browser requests leave behind that are refused.

  An authorization request that ends in an error has stored
  nothing, and one that claims the nonce of a link ticket
  has also created the session of the ticket's user. A
  callback stores nothing unless it reads a session that it
  is fit for.

  Key definitions include:
    * `Unfit`, `Inadmissible`
    * `TicketOf`, `SpendsTicket`

  Key theorems include:
    * `callback_inert`, `authorize_end`
    * `browser_refusals_inert`
-/

------------------------------------------------------------
-- Callbacks
------------------------------------------------------------

namespace KisAuth

open Interaction Prog

/-
  The callback cannot go on with this session: it carries
  another state, it has neither an error nor a code, or no
  error while the session has no verifier, or it came in on
  the route of another tenant.
-/
def Unfit
    (callback : Callback)
    (session : OAuthSession) : Prop :=
  callback.query.state ≠ some session.state ∨
    (truthyText callback.query.error = none ∧
      (truthyText callback.query.code = none ∨
        truthyText session.codeVerifier = none)) ∨
    ∃ partnerSlug,
      callback.tenant = some partnerSlug ∧
        session.partnerSlug ≠ some partnerSlug

/- It has read no session that it is fit for. -/
def Inadmissible (callback : Callback) (past : Past) : Prop :=
  ∀ sessionId session,
    ReadsSession callback.req past sessionId session →
      Unfit callback session

/- Such a callback makes inert calls only. -/
def InertWhileUnfit
    (callback : Callback)
    (past : Past)
    (effect : Eff) : Prop :=
  Inadmissible callback past → InertCall effect

variable {P : Platform} {cfg : KisAuthConfig}
variable {callback : Callback} {past : Past}

theorem Inadmissible.earlier
    {later : Past}
    (hInadmissible : Inadmissible callback later)
    (hSub : past ⊆ later) :
    Inadmissible callback past :=
  fun sessionId session hReads =>
    hInadmissible sessionId session
      ⟨hReads.cookie, hSub hReads.read⟩

/- Once a session is read that fits, anything may follow. -/
theorem inertUnfit_of_fit
    {sessionId : String}
    {session : OAuthSession}
    (hReads :
      ReadsSession callback.req past sessionId session)
    (hFit : ¬Unfit callback session)
    (program : KisM Response) :
    Obeys (InertWhileUnfit callback) (fun _ _ => True) program
      past := by
  apply obeys_of_past
  · intro later effect hLater hInadmissible
    exact
      absurd (hInadmissible.earlier hLater _ _ hReads) hFit
  · exact fun _ _ _ => trivial

theorem inertUnfit_enforceRateLimit
    {policy : RateLimitPolicy}
    {identifier : String}
    {final : Past → Except HttpError Unit → Prop}
    (hFinal : ∀ later outcome, final later outcome) :
    Obeys (InertWhileUnfit callback) final
      (enforceRateLimit policy identifier) past := by
  unfold enforceRateLimit RateLimiter.check
  refine ⟨?_, fun hits => ?_⟩
  · exact fun _ _ => isCounter_rateLimitKey _ _
  simp only [pure_eq, bind_ret]
  split
  · exact hFinal _ _
  · exact hFinal _ _

/- The session of a cookie, with the cookie that names it. -/
theorem inertUnfit_sessionOf
    {cookie : Option String}
    {next :
      Option (String × OAuthSession) → KisM Response}
    (hCookie : sessionCookie callback.req = some cookie)
    (hNone :
      ∀ later,
        Obeys (InertWhileUnfit callback) (fun _ _ => True)
          (next none) later)
    (hSome :
      ∀ later sessionId session,
        ReadsSession callback.req later sessionId session →
          Obeys (InertWhileUnfit callback) (fun _ _ => True)
            (next (some (sessionId, session))) later) :
    Obeys (InertWhileUnfit callback) (fun _ _ => True)
      (sessionOf cookie >>= next) past := by
  unfold sessionOf
  cases cookie with
  | none => exact hNone past
  | some sessionId =>
      simp only
      split
      · exact hNone past
      · unfold OAuthSessionStore.get
        refine ⟨fun _ _ => trivial, fun raw => ?_⟩
        simp only [pure_eq, bind_ret]
        unfold OAuthSessionStore.asSession
        split
        · next session =>
            exact
              hSome _ sessionId session
                ⟨hCookie, List.mem_cons_self⟩
        · exact hNone _

/- How both callbacks begin. -/
theorem inertUnfit_begin
    {policy : RateLimitPolicy}
    {next :
      Option (String × OAuthSession) → KisM Response}
    (hNone :
      ∀ later,
        Obeys (InertWhileUnfit callback) (fun _ _ => True)
          (next none) later)
    (hSome :
      ∀ later sessionId session,
        ReadsSession callback.req later sessionId session →
          Obeys (InertWhileUnfit callback) (fun _ _ => True)
            (next (some (sessionId, session))) later) :
    Obeys (InertWhileUnfit callback) (fun _ _ => True)
      (do
        enforceRateLimit policy callback.req.ip
        let sessionId ← sessionIdOf callback.req
        let found ← sessionOf sessionId
        next found)
      past := by
  apply Obeys.andThen
  apply inertUnfit_enforceRateLimit
  intro later outcome
  cases outcome with
  | error error => trivial
  | ok done =>
      simp only [andThen_ok]
      unfold sessionIdOf
      cases hCookie : sessionCookie callback.req with
      | none => trivial
      | some cookie =>
          simp only [orCrash, bind_eq, bind_ret]
          exact inertUnfit_sessionOf hCookie hNone hSome

/- The code of a callback is accepted for a fit session. -/
theorem accepted_parts
    {query : CallbackQuery}
    {session : OAuthSession}
    {code codeVerifier : String}
    (hAccepted :
      acceptedCode query session = some (code, codeVerifier)) :
    truthyText query.code = some code ∧
      truthyText session.codeVerifier = some codeVerifier ∧
      query.state = some session.state := by
  unfold acceptedCode at hAccepted
  split at hAccepted
  · next hCode hVerifier =>
      split at hAccepted
      · next hState =>
          rw [Option.some.injEq, Prod.mk.injEq] at hAccepted
          rcases hAccepted with ⟨rfl, rfl⟩
          rw [truthyText_eq_some_iff] at hState
          exact ⟨hCode, hVerifier, hState.1⟩
      · simp at hAccepted
  · simp at hAccepted

/- Without a session it is fit for, a callback is inert. -/
theorem callback_inert
    {q : Request}
    (hCallback : q.callback = some callback) :
    Obeys (InertWhileUnfit callback) (fun _ _ => True)
      (handler P cfg q) [] := by
  cases q with
  | googleCallback query req =>
      rw [Request.callback, Option.some.injEq] at hCallback
      subst hCallback
      unfold handler OAuthController.callback
      apply inertUnfit_begin
      · intro later
        cases truthyText query.error with
        | none => trivial
        | some error => trivial
      · intro later sessionId session hReads
        cases hError : truthyText query.error with
        | some error =>
            simp only
            split
            · next hState =>
                apply inertUnfit_of_fit hReads
                simp [Unfit, hState, hError]
            · trivial
        | none =>
            simp only
            split
            · trivial
            · next code codeVerifier hAccepted =>
                rcases accepted_parts hAccepted with
                  ⟨hCode, hVerifier, hState⟩
                apply inertUnfit_of_fit hReads
                simp [Unfit, hState, hCode, hVerifier]
  | enterpriseCallback partnerSlug query req =>
      rw [Request.callback, Option.some.injEq] at hCallback
      subst hCallback
      unfold handler OidcEnterpriseController.callback
      apply inertUnfit_begin
      · intro later
        cases truthyText query.error with
        | none => trivial
        | some error => trivial
      · intro later sessionId session hReads
        cases hError : truthyText query.error with
        | some error =>
            simp only
            split
            · next hBoth =>
                apply inertUnfit_of_fit hReads
                simp [Unfit, hBoth.1, hBoth.2, hError]
            · trivial
        | none =>
            simp only
            split
            · trivial
            · next code codeVerifier hAccepted =>
                rcases accepted_parts hAccepted with
                  ⟨hCode, hVerifier, hState⟩
                split
                · next hTenant =>
                    apply inertUnfit_of_fit hReads
                    simp [Unfit, hState, hCode, hVerifier,
                      hTenant]
                · trivial
  | _ => simp [Request.callback] at hCallback

end KisAuth

------------------------------------------------------------
-- Authorization Requests
------------------------------------------------------------

namespace KisAuth

open Interaction Prog

variable {P : Platform} {cfg : KisAuthConfig}
variable {query : AuthorizeQuery} {past : Past}

/- The payload of the request's link ticket. -/
def TicketOf
    (P : Platform)
    (cfg : KisAuthConfig)
    (query : AuthorizeQuery)
    (payload : LinkTicketPayload) : Prop :=
  ∃ ticket,
    query.linkTicket = some ticket ∧
      readTicket P cfg.internalHmacSecret ticket =
        .ok payload

/- Correctly signed tickets name a user. -/
def TicketsNameUsers (P : Platform) (secret : String) : Prop :=
  ∀ ticket payload,
    readTicket P secret ticket = .ok payload →
      payload.kisUserId ≠ ""

/- A session was created for this user. -/
def CreatesSessionFor
    (past : Past)
    (kisUserId : String) : Prop :=
  ∃ sessionId session ttl,
    (⟨.redisSet (sessionKey sessionId) (.session session) ttl,
        .ok ()⟩ : Answer Eff Eff.Res) ∈ past ∧
      session.linkKisUserId = some kisUserId

/- The nonce was claimed. -/
def ClaimsNonce (past : Past) (nonce : String) : Prop :=
  ∃ ttl,
    (⟨.redisSetNx (linkNonceKey nonce) ttl, .ok true⟩ :
      Answer Eff Eff.Res) ∈ past

/- No write was refused. -/
def NoFailedWrite (past : Past) : Prop :=
  ∀ key value ttl error,
    (⟨.redisSet key value ttl, .error error⟩ :
      Answer Eff Eff.Res) ∉ past

/-
  Nonces are claimed exactly for the sessions that are
  created: the nonce of the ticket, for the ticket's user.
-/
structure SpendsTicket
    (P : Platform)
    (cfg : KisAuthConfig)
    (query : AuthorizeQuery)
    (past : Past) : Prop where
  claims :
    ∀ key ttl,
      (⟨.redisSetNx key ttl, .ok true⟩ :
          Answer Eff Eff.Res) ∈ past →
        ∃ payload,
          TicketOf P cfg query payload ∧
            key = linkNonceKey payload.nonce ∧
              CreatesSessionFor past payload.kisUserId
  creates :
    ∀ key session ttl,
      (⟨.redisSet key (.session session) ttl, .ok ()⟩ :
          Answer Eff Eff.Res) ∈ past →
        ∃ payload,
          TicketOf P cfg query payload ∧
            session.linkKisUserId =
                some payload.kisUserId ∧
              ClaimsNonce past payload.nonce

/- How an authorization request ends. -/
structure AuthorizeEnd
    (P : Platform)
    (cfg : KisAuthConfig)
    (query : AuthorizeQuery)
    (past : Past)
    (outcome : Except HttpError Response) : Prop where
  refused :
    ∀ error,
      outcome = .error error →
        NoFailedWrite past → ∀ answer ∈ past, Inert answer
  spends :
    query.purpose = some "link" →
      NoFailedWrite past → SpendsTicket P cfg query past

/- Nothing is claimed or created by inert answers. -/
theorem AuthorizeEnd.of_inert
    {outcome : Except HttpError Response}
    (hInert : ∀ answer ∈ past, Inert answer) :
    AuthorizeEnd P cfg query past outcome where
  refused := fun _ _ _ => hInert
  spends := fun _ _ =>
    { claims := fun _ _ hMem => (hInert _ hMem).elim
      creates := fun _ _ _ hMem => (hInert _ hMem).elim }

/- The user of a link ticket, with its claimed nonce. -/
structure TicketClaimed
    (P : Platform)
    (cfg : KisAuthConfig)
    (query : AuthorizeQuery)
    (past : Past)
    (kisUserId : String) : Prop where
  claimed :
    ∃ payload ttl older,
      TicketOf P cfg query payload ∧
        payload.kisUserId = kisUserId ∧
          past =
            ⟨.redisSetNx (linkNonceKey payload.nonce) ttl,
              .ok true⟩ :: older ∧
            ∀ answer ∈ older, Inert answer

theorem inert_cons
    {answer : Answer Eff Eff.Res}
    (hAnswer : Inert answer)
    (hInert : ∀ other ∈ past, Inert other) :
    ∀ other ∈ answer :: past, Inert other :=
  List.forall_mem_cons.mpr ⟨hAnswer, hInert⟩

/- A ticket is claimed last, and only when it is accepted. -/
theorem spends_verifyAndConsume
    {ticket : String}
    {final :
      Past → Except HttpError LinkTicketVerifyResult → Prop}
    (hTicket : query.linkTicket = some ticket)
    (hInert : ∀ answer ∈ past, Inert answer)
    (hOk :
      ∀ later kisUserId,
        TicketClaimed P cfg query later kisUserId →
          final later (.ok (.ok kisUserId)))
    (hRefused :
      ∀ later reason,
        (∀ answer ∈ later, Inert answer) →
          final later (.ok (.refused reason)))
    (hError :
      ∀ later error,
        (∀ answer ∈ later, Inert answer) →
          final later (.error error)) :
    Obeys (fun _ _ => True) final
      (LinkTicketService.verifyAndConsume P
        cfg.internalHmacSecret ticket) past := by
  unfold LinkTicketService.verifyAndConsume
  cases hRead :
      readTicket P cfg.internalHmacSecret ticket with
  | error reason => exact hRefused _ _ hInert
  | ok payload =>
      refine ⟨trivial, fun clock => ?_⟩
      have hClock :
          ∀ answer ∈
              (⟨.dateNow, clock⟩ : Answer Eff Eff.Res) :: past,
            Inert answer :=
        inert_cons trivial hInert
      simp only [bind_ret]
      cases hExp : payload.exp with
      | infinite negative =>
          cases negative with
          | true => exact hRefused _ _ hClock
          | false => exact hError _ _ hClock
      | finite exp =>
          simp only
          split
          · exact hRefused _ _ hClock
          · refine ⟨trivial, fun claimed => ?_⟩
            cases claimed with
            | error error =>
                exact hError _ _ (inert_cons trivial hClock)
            | ok free =>
                simp only [bind_ret, pure_eq]
                cases free with
                | false =>
                    exact
                      hRefused _ _ (inert_cons trivial hClock)
                | true =>
                    exact
                      hOk _ _
                        ⟨payload, _, _, ⟨ticket, hTicket, hRead⟩,
                          rfl, rfl, hClock⟩

/- The link user is known once its ticket is claimed. -/
theorem spends_linkUser
    {purpose : String}
    {req : BrowserRequest}
    {final : Past → Except HttpError (Option String) → Prop}
    (hPurpose : query.purpose = some purpose)
    (hInert : ∀ answer ∈ past, Inert answer)
    (hNone :
      ∀ later,
        query.purpose ≠ some "link" →
          (∀ answer ∈ later, Inert answer) →
            final later (.ok none))
    (hSome :
      ∀ later kisUserId,
        TicketClaimed P cfg query later kisUserId →
          final later (.ok (some kisUserId)))
    (hError :
      ∀ later error,
        (∀ answer ∈ later, Inert answer) →
          final later (.error error)) :
    Obeys (fun _ _ => True) final
      (OAuthController.linkUser P cfg query purpose req)
      past := by
  unfold OAuthController.linkUser
  split
  · next hLink =>
      cases hTicket : truthyText query.linkTicket with
      | none => exact hError _ _ hInert
      | some ticket =>
          apply Obeys.andThen
          apply spends_verifyAndConsume _ hInert
          · intro later kisUserId hClaimed
            exact hSome later kisUserId hClaimed
          · intro later reason hLater
            refine ⟨trivial, fun _ => ?_⟩
            exact hError _ _ (inert_cons trivial hLater)
          · exact hError
          · rw [truthyText_eq_some_iff] at hTicket
            exact hTicket.1
  · next hLink =>
      apply hNone _ _ hInert
      rw [hPurpose]
      simpa using hLink

/-
  The claim of a ticket and the session for its user are all
  that such a request stores.
-/
theorem TicketClaimed.spends
    {base drawn : Past}
    {kisUserId sessionId : String}
    {session : OAuthSession}
    {ttl : ℚ}
    (hClaimed : TicketClaimed P cfg query base kisUserId)
    (hDrawn : ∀ answer ∈ drawn, Inert answer)
    (hUser : session.linkKisUserId = some kisUserId) :
    SpendsTicket P cfg query
      (⟨.redisSet (sessionKey sessionId) (.session session)
          ttl, .ok ()⟩ :: (drawn ++ base)) := by
  rcases hClaimed.claimed with
    ⟨payload, claimTtl, older, hTicket, hSame, hBase, hOlder⟩
  subst hSame hBase
  constructor
  case claims =>
    intro key otherTtl hMem
    refine ⟨payload, hTicket, ?_, ?_⟩
    · rw [List.mem_cons, List.mem_append, List.mem_cons]
        at hMem
      rcases hMem with hSet | hMem | hClaim | hMem
      · simp at hSet
      · exact (hDrawn _ hMem).elim
      · simp only [Answer.mk.injEq, Eff.redisSetNx.injEq]
          at hClaim
        exact hClaim.1.1
      · exact (hOlder _ hMem).elim
    · exact
        ⟨sessionId, session, ttl, List.mem_cons_self, hUser⟩
  case creates =>
    intro key other otherTtl hMem
    refine ⟨payload, hTicket, ?_, ?_⟩
    · rw [List.mem_cons, List.mem_append, List.mem_cons]
        at hMem
      rcases hMem with hSet | hMem | hClaim | hMem
      · simp only [Answer.mk.injEq, Eff.redisSet.injEq,
          RedisValue.session.injEq] at hSet
        rw [hSet.1.2.1]
        exact hUser
      · exact (hDrawn _ hMem).elim
      · simp at hClaim
      · exact (hOlder _ hMem).elim
    · exact ⟨claimTtl, by simp⟩

/- The session is created last, for the ticket's user. -/
theorem authorizeEnd_create
    {session : String → String → OAuthSession}
    {respond : String → Response}
    (hPast :
      query.purpose = some "link" →
        ∃ kisUserId,
          TicketClaimed P cfg query past kisUserId ∧
            ∀ state nonce,
              (session state nonce).linkKisUserId =
                some kisUserId) :
    Obeys (fun _ _ => True) (AuthorizeEnd P cfg query)
      (do
        let state ← randomId
        let nonce ← randomId
        let sessionId ←
          OAuthSessionStore.create (session state nonce)
        return respond sessionId)
      past := by
  unfold OAuthSessionStore.create Redis.set
  refine ⟨trivial, fun state => ⟨trivial, fun nonce => ?_⟩⟩
  refine ⟨trivial, fun sessionId => ⟨trivial, fun result => ?_⟩⟩
  cases result with
  | error error =>
      have hFailed :
          ∀ later : Past,
            ¬NoFailedWrite
              (⟨.redisSet (sessionKey sessionId)
                  (.session (session state nonce))
                  sessionTtlSeconds, .error error⟩ :: later) :=
        fun later hNone =>
          hNone _ _ _ error List.mem_cons_self
      exact
        { refused := fun _ _ hNone => (hFailed _ hNone).elim
          spends := fun _ hNone => (hFailed _ hNone).elim }
  | ok done =>
      have hDrawn :
          ∀ answer ∈
              ([⟨.random, sessionId⟩, ⟨.random, nonce⟩,
                ⟨.random, state⟩] : Past),
            Inert answer := by
        simp [Inert]
      constructor
      case refused =>
        intro error hError
        simp at hError
      case spends =>
        intro hLink _
        rcases hPast hLink with ⟨kisUserId, hClaimed, hUser⟩
        exact hClaimed.spends hDrawn (hUser state nonce)

/- Tickets name users, so the session has a link user. -/
theorem TicketClaimed.user
    {kisUserId : String}
    (hTickets : TicketsNameUsers P cfg.internalHmacSecret)
    (hClaimed : TicketClaimed P cfg query past kisUserId) :
    truthyText (some kisUserId) = some kisUserId := by
  rcases hClaimed.claimed with
    ⟨payload, _, _, ⟨ticket, _, hRead⟩, rfl, _⟩
  rw [truthyText_eq_some_iff]
  exact ⟨rfl, hTickets ticket payload hRead⟩

/- Authorization requests, from their checks to the end. -/
theorem authorize_end
    (hTickets : TicketsNameUsers P cfg.internalHmacSecret)
    (req : BrowserRequest) :
    Obeys (fun _ _ => True) (AuthorizeEnd P cfg query)
      (OAuthController.authorize P cfg query req) [] := by
  have hRefused :
      ∀ (later : Past) (error : HttpError),
        (∀ answer ∈ later, Inert answer) →
          AuthorizeEnd P cfg query later (.error error) :=
    fun _ _ => AuthorizeEnd.of_inert
  unfold OAuthController.authorize enforceRateLimit
    RateLimiter.check Redis.incr ClientService.findByClientId
  refine ⟨trivial, fun hits => ?_⟩
  have hHits :
      ∀ answer ∈
          ([⟨.redisIncr
              (rateLimitKey RateLimits.authorize.scope req.ip)
              RateLimits.authorize.windowSeconds, hits⟩] :
            Past),
        Inert answer := by
    simp [Inert, isCounter_rateLimitKey]
  by_cases hWithin : hits ≤ RateLimits.authorize.limit
  case neg =>
    simp only [hWithin, decide_false, pure_eq, bind_ret]
    exact hRefused _ _ hHits
  case pos =>
    simp only [hWithin, decide_true, pure_eq, bind_ret,
      if_true]
    refine ⟨trivial, fun rows => ?_⟩
    have hRows :
        ∀ answer ∈
            (⟨.selectClient (query.clientId.getD ""), rows⟩ :
              Answer Eff Eff.Res) :: _,
          Inert answer :=
      inert_cons trivial hHits
    cases rows with
    | error error => exact hRefused _ _ hRows
    | ok found =>
        simp only [orSqlCrash, bind_ret]
        split
        case h_2 => exact hRefused _ _ hRows
        case h_1 client purpose clientState hPurpose hState =>
          split
          case isFalse => exact hRefused _ _ hRows
          case isTrue hAccepted =>
            apply Obeys.andThen
            apply spends_linkUser hPurpose hRows _ _ hRefused
            · intro later hNoLink hLater
              apply authorizeEnd_create
              exact fun hLink => absurd hLink hNoLink
            · intro later kisUserId hClaimed
              apply authorizeEnd_create
              intro _
              exact
                ⟨kisUserId, hClaimed,
                  fun _ _ => hClaimed.user hTickets⟩

end KisAuth

------------------------------------------------------------
-- Runs
------------------------------------------------------------

namespace KisAuth

open Interaction Prog

variable {P : Platform} {cfg : KisAuthConfig}

/- A thread leaves the stores as they were. -/
def Run.LeavesStores
    (run : Run P cfg)
    (thread : Nat) : Prop :=
  Leaves (worldSemantics P cfg) (handler P cfg)
    (World.empty run.clients) thread run.state KeepsStores

/-
  An authorization request that ends in an error has left
  the stores as they were, and one with purpose 'link' has
  claimed the nonce of its ticket exactly when it created a
  session for the ticket's user. A callback that has read no
  session it is fit for leaves the stores as they were.
-/
theorem browser_refusals_inert
    (run : Run P cfg)
    {thread : Nat}
    {q : Request}
    (hTickets : TicketsNameUsers P cfg.internalHmacSecret)
    (hArrive : Entry.arrive thread q ∈ run.history)
    (hWrites : NoFailedWrite (answersOf thread run.history)) :
    (∀ query req,
        q = .authorize query req →
          ((∃ error,
              Entry.respond thread (.error error) ∈
                run.history) →
            run.LeavesStores thread) ∧
          (query.purpose = some "link" →
            (∃ outcome,
              Entry.respond thread outcome ∈ run.history) →
              SpendsTicket P cfg query
                (answersOf thread run.history))) ∧
      ∀ callback,
        q.callback = some callback →
          Inadmissible callback
              (answersOf thread run.history) →
            run.LeavesStores thread := by
  refine ⟨?_, ?_⟩
  · rintro query req rfl
    have hEnded :
        ∀ outcome,
          Entry.respond thread outcome ∈ run.history →
            AuthorizeEnd P cfg query
              (answersOf thread run.history) outcome := by
      intro outcome hEnd
      have hReaches :=
        ended_reaches run.conforms hArrive hEnd
      exact (authorize_end hTickets req).final_of_reaches hReaches
    refine ⟨?_, ?_⟩
    · rintro ⟨error, hEnd⟩
      exact
        leaves_stores
          ((hEnded _ hEnd).refused error rfl hWrites)
    · rintro hLink ⟨outcome, hEnd⟩
      exact (hEnded outcome hEnd).spends hLink hWrites
  · intro callback hCallback hInadmissible
    apply leaves_stores
    intro answer hMem
    rcases
        guard_of_answer run.conforms hArrive
          (callback_inert hCallback) hMem with
      ⟨earlier, hSub, hGuard⟩
    exact hGuard (hInadmissible.earlier hSub) answer.value

end KisAuth

------------------------------------------------------------
-- A Link
------------------------------------------------------------

namespace KisAuth

open Interaction

/- A client that links accounts. -/
def linkingClient : RegisteredClient where
  clientId := "kis-web"
  name := "KIS"
  status := .active
  allowedRedirectUris := ["https://kis.test/cb"]
  allowedScopes := []
  allowedPurposes := ["link"]

/- A request to link, with a signed ticket. -/
def linkQuery : AuthorizeQuery where
  clientId := some "kis-web"
  redirectUri := some "https://kis.test/cb"
  purpose := some "link"
  state := some "client-state"
  linkTicket := some usedTicket
  partnerSlug := none

def linkRequest : Request :=
  .authorize linkQuery { ip := "10.0.0.9", cookie := none }

/- That request, alone in the service, with its ticket. -/
def linkRun : Option ServiceState :=
  Interaction.run (worldSemantics ticketPlatform testConfig)
    (handler ticketPlatform testConfig)
    (.init (World.empty (fun _ => some linkingClient)))
    [.arrive linkRequest, .env (.tick 1700000000000),
      .run 0 .none, .run 0 .none, .run 0 .none, .run 0 .none,
      .run 0 (.random "r1"), .run 0 (.random "r2"),
      .run 0 (.random "r3"), .run 0 .none, .run 0 .none]

/- The nonce key that was claimed. -/
def claimedKey : Answer Eff Eff.Res → Option String
| ⟨.redisSetNx key _, .ok true⟩ => some key
| _ => none

def isFailedWrite : Answer Eff Eff.Res → Bool
| ⟨.redisSet _ _ _, .error _⟩ => true
| _ => false

/- The thread of an outcome. -/
def endedThread : ServiceEntry → Option Nat
| .respond thread _ => some thread
| _ => none

theorem noFailedWrite_of_all
    {past : Past}
    (hAll : past.any isFailedWrite = false) :
    NoFailedWrite past := by
  intro key value ttl error hMem
  have hAny : past.any isFailedWrite = true :=
    List.any_eq_true.mpr ⟨_, hMem, rfl⟩
  rw [hAll] at hAny
  simp at hAny

theorem respond_of_endedThread
    {history : History}
    {thread : Nat}
    (hMem : thread ∈ history.filterMap endedThread) :
    ∃ outcome, Entry.respond thread outcome ∈ history := by
  rcases List.mem_filterMap.mp hMem with
    ⟨entry, hEntry, hEnded⟩
  unfold endedThread at hEnded
  split at hEnded
  · next thread' outcome =>
      rw [Option.some.injEq] at hEnded
      rw [← hEnded]
      exact ⟨outcome, hEntry⟩
  · simp at hEnded

/- The only text this platform parses names a user. -/
theorem ticketPlatform_namesUsers :
    TicketsNameUsers ticketPlatform
      testConfig.internalHmacSecret := by
  intro ticket payload hRead
  have hParsed :
      ∀ text value,
        ticketPlatform.jsonParse text = some value →
          ticketPayload ticketPlatform value =
            some ⟨"u1", "n1", .finite 1700000060⟩ := by
    intro text value hValue
    simp only [ticketPlatform] at hValue
    split at hValue
    · rw [Option.some.injEq] at hValue
      rw [← hValue]
      decide +kernel
    · simp at hValue
  unfold readTicket at hRead
  split at hRead
  · simp at hRead
  · split at hRead
    case isFalse => simp at hRead
    case isTrue =>
      split at hRead
      · simp at hRead
      · next value hValue =>
          rw [hParsed _ value hValue] at hRead
          simp only [Except.ok.injEq] at hRead
          rw [← hRead]
          simp

/- The nonce of the ticket is claimed for a session. -/
theorem link_request_spends_ticket :
    ∃ run : Run ticketPlatform testConfig,
      (answersOf 0 run.history).filterMap claimedKey =
          [linkNonceKey "n1"] ∧
        SpendsTicket ticketPlatform testConfig linkQuery
          (answersOf 0 run.history) := by
  have hEnds :
      linkRun.map (fun state =>
          ((answersOf 0 state.history).filterMap claimedKey,
            (answersOf 0 state.history).any isFailedWrite,
            state.history.filterMap endedThread)) =
        some ([linkNonceKey "n1"], false, [0]) := by
    decide +kernel
  rcases Option.map_eq_some_iff.mp hEnds with
    ⟨state, hRun, hAll⟩
  simp only [Prod.mk.injEq] at hAll
  rcases hAll with ⟨hClaims, hWrites, hThreads⟩
  let run : Run ticketPlatform testConfig :=
    ⟨_, state, Reachable.of_run hRun⟩
  have hArrive : Entry.arrive 0 linkRequest ∈ run.history :=
    arrive_of_run hRun
  have hEnded :
      ∃ outcome, Entry.respond 0 outcome ∈ run.history := by
    apply respond_of_endedThread
    rw [Run.history, hThreads]
    exact List.mem_singleton_self 0
  have hInert :=
    browser_refusals_inert run ticketPlatform_namesUsers
      hArrive (noFailedWrite_of_all hWrites)
  exact
    ⟨run, hClaims, (hInert.1 _ _ rfl).2 rfl hEnded⟩

end KisAuth
