import KisAuth.Provenance.Record

/-
  Every session the service ever reads was created by one
  request to /authorize, and differs from it in the code
  verifier only.

  Key definitions include:
    * `Minted`, `SameSession`

  Key theorems include:
    * `session_origin`, `minted_link`
    * `minted_unique`
-/

------------------------------------------------------------
-- The Origin Of A Session
------------------------------------------------------------

namespace KisAuth

open Interaction Store

/- A request to /authorize created the session. -/
structure Minted
    (P : Platform)
    (cfg : KisAuthConfig)
    (history : History)
    (thread : Nat)
    (query : AuthorizeQuery)
    (sessionId : String)
    (created : OAuthSession) : Prop where
  position :
    ∃ later earlier ttl req,
      history =
          later ++
            .answer thread
                ⟨.redisSet (sessionKey sessionId)
                    (.session created) ttl, .ok ()⟩ ::
              earlier ∧
        Entry.arrive thread (.authorize query req) ∈
          earlier ∧
        SessionCreated P cfg query
          (answersOf thread earlier) sessionId created

/- The same session, up to the code verifier. -/
def SameSession (session created : OAuthSession) : Prop :=
  session =
    { created with codeVerifier := session.codeVerifier }

variable {P : Platform} {cfg : KisAuthConfig}
variable {history : History}

theorem Minted.append
    {earlier : History}
    {thread : Nat}
    {query : AuthorizeQuery}
    {sessionId : String}
    {created : OAuthSession}
    (hMinted :
      Minted P cfg earlier thread query sessionId created)
    (later : History) :
    Minted P cfg (later ++ earlier) thread query sessionId
      created where
  position := by
    rcases hMinted.position with
      ⟨middle, before, ttl, req, rfl, hArrive, hCreated⟩
    refine
      ⟨later ++ middle, before, ttl, req, ?_, hArrive,
        hCreated⟩
    rw [List.append_assoc]

theorem SameSession.restart
    {session created : OAuthSession}
    (hSame : SameSession session created)
    (codeVerifier : Option String) :
    SameSession
      { session with codeVerifier := codeVerifier }
      created := by
  unfold SameSession at hSame ⊢
  rw [hSame]

/- What the created session tells about the session read. -/
theorem SameSession.fields
    {session created : OAuthSession}
    (hSame : SameSession session created) :
    session.clientId = created.clientId ∧
      session.redirectUri = created.redirectUri ∧
      session.purpose = created.purpose ∧
      session.state = created.state ∧
      session.nonce = created.nonce ∧
      session.linkKisUserId = created.linkKisUserId ∧
      session.partnerSlug = created.partnerSlug := by
  unfold SameSession at hSame
  rw [hSame]
  exact ⟨rfl, rfl, rfl, rfl, rfl, rfl, rfl⟩

/-
  A stored session was created by /authorize. The induction
  is on the history: a session a start route wrote back was
  read, and so stored, before.
-/
theorem session_origin
    {sessionId : String}
    {session : OAuthSession}
    (hRecorded : Recorded P cfg history)
    (hStored :
      stored history (sessionKey sessionId) =
        some (.session session)) :
    ∃ thread query created,
      Minted P cfg history thread query sessionId created ∧
        SameSession session created := by
  induction hLength : history.length using
    Nat.strong_induction_on generalizing history session with
  | h length ih =>
      rcases stored_origin hRecorded hStored trivial with
        ⟨later, earlier, thread, ttl, q, rfl, hStep⟩
      rcases hStep.allowed with
        ⟨other, hKey, hCreated | hRestarted⟩
      · have hId : sessionId = other :=
          ((storeKey_inj _ _ _ _).mp hKey).2
        subst hId
        rcases hCreated with ⟨query, req, rfl, hCreated⟩
        refine ⟨thread, query, session, ?_, rfl⟩
        exact
          ⟨later, earlier, ttl, req, rfl, hStep.arrived,
            hCreated⟩
      · have hId : sessionId = other :=
          ((storeKey_inj _ _ _ _).mp hKey).2
        subst hId
        rcases hRestarted.read with
          ⟨old, codeVerifier, hRead, rfl⟩
        rcases stored_of_read hStep.recorded
            (mem_of_past hRead) with
          ⟨middle, before, rfl, hBefore, hOld⟩
        have hShorter : before.length < length := by
          rw [← hLength]
          simp only [List.length_append, List.length_cons]
          omega
        rcases ih before.length hShorter hBefore hOld rfl with
          ⟨minter, query, created, hMinted, hSame⟩
        refine
          ⟨minter, query, created, ?_,
            hSame.restart (some codeVerifier)⟩
        have hAll := hMinted.append
          (later ++
            .answer thread
              ⟨.redisSet (sessionKey sessionId)
                (.session
                  { old with
                    codeVerifier := some codeVerifier })
                ttl, .ok ()⟩ ::
            (middle ++
              [.answer thread
                ⟨.redisGet (sessionKey sessionId),
                  some (.session old)⟩]))
        simpa using hAll

/- So was a session that was read. -/
theorem session_read_origin
    {thread : Nat}
    {sessionId : String}
    {session : OAuthSession}
    (hRecorded : Recorded P cfg history)
    (hRead :
      Entry.answer thread
          ⟨.redisGet (sessionKey sessionId),
            some (.session session)⟩ ∈ history) :
    ∃ minter query created,
      Minted P cfg history minter query sessionId created ∧
        SameSession session created := by
  rcases stored_of_read hRecorded hRead with
    ⟨later, earlier, rfl, hEarlier, hStored⟩
  rcases session_origin hEarlier hStored with
    ⟨minter, query, created, hMinted, hSame⟩
  refine ⟨minter, query, created, ?_, hSame⟩
  have hAll := hMinted.append
    (later ++
      [.answer thread
        ⟨.redisGet (sessionKey sessionId),
          some (.session session)⟩])
  simpa using hAll

theorem LinkAccepted.extend
    {query : AuthorizeQuery}
    {past later : Past}
    {kisUserId : String}
    (hAccepted : LinkAccepted P cfg query past kisUserId)
    (hSubset : past ⊆ later) :
    LinkAccepted P cfg query later kisUserId := by
  rcases hAccepted with
    ⟨ticket, nonce, exp, clock, hTicket, hRead, hClock, hExp,
      hClaim⟩
  exact
    ⟨ticket, nonce, exp, clock, hTicket, hRead,
      hSubset hClock, hExp, hSubset hClaim⟩

/- The user a created link session names has a ticket. -/
theorem minted_link
    {thread : Nat}
    {query : AuthorizeQuery}
    {sessionId kisUserId : String}
    {created : OAuthSession}
    (hMinted :
      Minted P cfg history thread query sessionId created)
    (hPurpose : created.purpose = "link")
    (hUser : created.linkKisUserId = some kisUserId) :
    LinkAccepted P cfg query (answersOf thread history)
      kisUserId := by
  rcases hMinted.position with
    ⟨later, earlier, ttl, req, rfl, _, hCreated⟩
  rcases hCreated.link hPurpose with
    ⟨named, hAccepted, hNamed⟩
  rw [hUser] at hNamed
  have hSame :=
    ((truthyText_eq_some_iff _ _).mp hNamed.symm).1
  simp only [Option.some.injEq] at hSame
  subst hSame
  apply hAccepted.extend
  have hSubset := answersOf_subset thread
    (later ++
      [.answer thread
        ⟨.redisSet (sessionKey sessionId) (.session created)
          ttl, .ok ()⟩]) earlier
  simpa using hSubset

end KisAuth

------------------------------------------------------------
-- One Origin
------------------------------------------------------------

namespace KisAuth

open Interaction Store

variable {P : Platform} {cfg : KisAuthConfig}
variable {history : History}

/- An entry's write is among the writes of its thread. -/
theorem mem_writes
    {thread : Nat}
    {key : String}
    {value : RedisValue}
    (ttl : ℚ)
    (result : Except RedisError Unit)
    (hMem :
      Entry.answer thread ⟨.redisSet key value ttl, result⟩ ∈
        history) :
    (key, value) ∈ writes (answersOf thread history) :=
  List.mem_filterMap.mpr ⟨_, past_of_mem hMem, rfl⟩

/-
  Two writes of one thread, neither of which is in the past
  of the other, are the same write.
-/
theorem write_unique
    {thread : Nat}
    {later later' earlier earlier' : History}
    {key key' : String}
    {value value' : RedisValue}
    {ttl ttl' : ℚ}
    (hEq :
      later ++
          .answer thread ⟨.redisSet key value ttl, .ok ()⟩ ::
            earlier =
        later' ++
          .answer thread
              ⟨.redisSet key' value' ttl', .ok ()⟩ ::
            earlier')
    (hFirst :
      (key', value') ∉ writes (answersOf thread earlier))
    (hFirst' :
      (key, value) ∉ writes (answersOf thread earlier')) :
    key = key' ∧ value = value' ∧ earlier = earlier' := by
  rcases positions_cases hEq with
    ⟨hSame, hEarlier⟩ | ⟨between, rfl⟩ | ⟨between, rfl⟩
  · simp only [Entry.answer.injEq, Answer.mk.injEq,
      Eff.redisSet.injEq] at hSame
    rcases hSame with ⟨_, ⟨hKey, hValue, _⟩, _⟩
    exact ⟨hKey, hValue, hEarlier⟩
  · apply absurd _ hFirst'
    apply mem_writes ttl (.ok ())
    simp
  · apply absurd _ hFirst
    apply mem_writes ttl' (.ok ())
    simp

/- A session identifier names one created session. -/
theorem minted_unique
    {left right : Nat}
    {query query' : AuthorizeQuery}
    {sessionId : String}
    {created created' : OAuthSession}
    (hRecorded : Recorded P cfg history)
    (hLeft :
      Minted P cfg history left query sessionId created)
    (hRight :
      Minted P cfg history right query' sessionId created') :
    left = right ∧ query = query' ∧ created = created' := by
  rcases hLeft.position with
    ⟨later, earlier, ttl, req, hSplit, hArrive, hCreated⟩
  rcases hRight.position with
    ⟨later', earlier', ttl', req', hSplit', hArrive',
      hCreated'⟩
  have hLift :
      ∀ {entry : ServiceEntry}, entry ∈ earlier →
        entry ∈ history := by
    intro entry hMem
    rw [hSplit]
    exact List.mem_append_right _
      (List.mem_cons_of_mem _ hMem)
  have hLift' :
      ∀ {entry : ServiceEntry}, entry ∈ earlier' →
        entry ∈ history := by
    intro entry hMem
    rw [hSplit']
    exact List.mem_append_right _
      (List.mem_cons_of_mem _ hMem)
  have hThread : left = right :=
    random_unique hRecorded.faithful
      (hLift (mem_of_past hCreated.sessionId))
      (hLift' (mem_of_past hCreated'.sessionId))
  subst hThread
  have hRequest :=
    hRecorded.request_unique (hLift hArrive)
      (hLift' hArrive')
  simp only [Request.authorize.injEq] at hRequest
  rcases write_unique (hSplit.symm.trans hSplit')
      (by rw [hCreated.first]; simp)
      (by rw [hCreated'.first]; simp) with
    ⟨_, hValue, _⟩
  simp only [RedisValue.session.injEq] at hValue
  exact ⟨rfl, hRequest.1, hValue⟩

end KisAuth
