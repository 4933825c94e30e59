import KisAuth.Guarantees.Brokerage
import KisAuth.Guarantees.SessionCompletion
import KisAuth.Guarantees.SessionCookie
import KisAuth.Runtime.AlikeWorlds
import KisAuth.Service.RunProtocol

/-
  Sessions stay with their browser.

  The name of a session is known to the browser whose
  request to /authorize created it, which gets it in its
  cookie. A browser that sends back only the cookies it was
  given has to do with its own sessions only; and as long as
  nobody else sends one of their names, nobody else has.

  Key definitions include:
    * `CookieGiven`, `SendsGiven`, `KeepsCookies`
    * `SessionsIsolated`

  Key theorems include:
    * `given_of_cookie`
    * `touches_session`
    * `sessions_isolated`
-/

------------------------------------------------------------
-- Browsers
------------------------------------------------------------

namespace KisAuth

open Interaction

/- A response to one of these requests set the cookie. -/
def CookieGiven
    (own : Nat → Prop)
    (history : History)
    (cookie : String) : Prop :=
  ∃ thread response,
    own thread ∧
      Entry.respond thread (.ok response) ∈ history ∧
      response.setCookie = some cookie

/-
  The header is joined from cookies, and those with the
  session's name are as responses have set them.
-/
def SendsGiven
    (own : Nat → Prop)
    (history : History)
    (req : BrowserRequest) : Prop :=
  ∀ header,
    req.cookie = some header →
      ∃ parts,
        header = cookieHeader parts ∧
          (∀ part ∈ parts, ';' ∉ part) ∧
          ∀ part ∈ parts, ∀ value,
            partSets part =
                some (sessionCookieName.toList, value) →
              ∃ cookie,
                CookieGiven own history cookie ∧
                  part = cookiePair cookie

/-
  What a browser does with its cookies: its own requests
  send only what it was given, and the requests of others
  name no session that was named for one of its requests.
-/
structure KeepsCookies
    (own : Nat → Prop)
    (history : History) : Prop where
  given :
    ∀ later earlier thread q req,
      history = later ++ .arrive thread q :: earlier →
        own thread →
          q.browser = some req → SendsGiven own earlier req
  secret :
    ∀ thread drawer q sessionId,
      Entry.arrive thread q ∈ history →
        ¬own thread →
          own drawer →
            q.held = some sessionId →
              Entry.answer drawer ⟨.random, sessionId⟩ ∉
                history

/- A request of the browser drew the name of the session. -/
def NamedFor
    (own : Nat → Prop)
    (history : History)
    (sessionId : String) : Prop :=
  ∃ drawer,
    own drawer ∧
      Entry.answer drawer ⟨.random, sessionId⟩ ∈ history

/- A request created the session, for this browser or not. -/
def CreatedBy
    (P : Platform)
    (cfg : KisAuthConfig)
    (history : History)
    (minter : Nat)
    (sessionId : String)
    (created : OAuthSession) : Prop :=
  ∃ query, Minted P cfg history minter query sessionId created

end KisAuth

------------------------------------------------------------
-- Cookies That Are Sent Back
------------------------------------------------------------

namespace KisAuth

open Interaction

variable {P : Platform} {cfg : KisAuthConfig}
variable {own : Nat → Prop} {history : History}

/- The request that creates a session draws its name. -/
theorem Minted.drawn
    {minter : Nat}
    {query : AuthorizeQuery}
    {sessionId : String}
    {created : OAuthSession}
    (hMinted :
      Minted P cfg history minter query sessionId created) :
    Entry.answer minter ⟨.random, sessionId⟩ ∈ history := by
  rcases hMinted.position with
    ⟨later, earlier, ttl, req, rfl, _, hCreated⟩
  exact
    List.mem_append_right _
      (List.mem_cons_of_mem _ (mem_of_past hCreated.sessionId))

/-
  The session a request stores under a name that it drew was
  created by it, also where it was read back in between.
-/
theorem created_of_write
    {thread : Nat}
    {sessionId : String}
    {session : OAuthSession}
    {ttl : ℚ}
    (hRecorded : Recorded P cfg history)
    (hDrawn :
      Entry.answer thread ⟨.random, sessionId⟩ ∈ history)
    (hStored :
      Entry.answer thread
          ⟨.redisSet (sessionKey sessionId)
              (.session session) ttl, .ok ()⟩ ∈
        history) :
    ∃ created,
      CreatedBy P cfg history thread sessionId created := by
  rcases hRecorded.step hStored with
    ⟨after, before, writer, rfl, hStep⟩
  rcases hStep.allowed with
    ⟨other, hKey, hWritten⟩
  have hId : sessionId = other :=
    ((storeKey_inj _ _ _ _).mp hKey).2
  subst hId
  rcases hWritten with ⟨query, req, rfl, hCreated⟩ | hRestarted
  · exact
      ⟨session, query,
        ⟨after, before, ttl, req, rfl, hStep.arrived,
          hCreated⟩⟩
  · rcases hRestarted.read with ⟨old, codeVerifier, hRead, _⟩
    rcases
        session_read_origin hRecorded
          (List.mem_append_right _
            (List.mem_cons_of_mem _ (mem_of_past hRead))) with
      ⟨minter, query, created, hMinted, _⟩
    have hMinter : minter = thread :=
      random_unique hRecorded.faithful hMinted.drawn hDrawn
    subst hMinter
    exact ⟨created, query, hMinted⟩

/- A cookie that was set names the session just created. -/
theorem created_of_cookie
    {thread : Nat}
    {response : Response}
    {cookie : String}
    (hRecorded : Recorded P cfg history)
    (hHolds : HoldsSessions cfg history)
    (hRespond :
      Entry.respond thread (.ok response) ∈ history)
    (hCookie : response.setCookie = some cookie) :
    ∃ sessionId created,
      Entry.answer thread ⟨.random, sessionId⟩ ∈ history ∧
        CreatedBy P cfg history thread sessionId created ∧
        cookie = cookieOf cfg sessionId := by
  rcases List.append_of_mem hRespond with
    ⟨later, earlier, rfl⟩
  rcases hHolds.split.1 with ⟨q, _, hSets⟩
  rcases hSets cookie hCookie with
    ⟨sessionId, session, ttl, hDrawn, hStored, hSame⟩
  have hLift :
      ∀ {answer : Answer Eff Eff.Res},
        answer ∈ answersOf thread earlier →
          Entry.answer thread answer ∈
            later ++ .respond thread (.ok response) ::
              earlier :=
    fun hMem =>
      List.mem_append_right _
        (List.mem_cons_of_mem _ (mem_of_past hMem))
  rcases
      created_of_write hRecorded (hLift hDrawn)
        (hLift hStored) with
    ⟨created, hCreated⟩
  exact ⟨sessionId, created, hLift hDrawn, hCreated, hSame⟩

/- What a given cookie sets is the name of its session. -/
theorem partSets_cookieOf (sessionId : String) :
    partSets (cookiePair (cookieOf cfg sessionId)) =
      some (sessionCookieName.toList,
        (encodeURIComponent sessionId).toList) :=
  partSets_pair sessionCookieName_isToken

theorem decodeChars_encoded (text : String) :
    decodeChars (encodeURIComponent text).toList =
      some text.toList := by
  rw [toList_encodeURIComponent, decodeChars_encode]

/- The session cookie is read from a part that sets it. -/
theorem part_of_sessionCookie
    {parts : List (List Char)}
    {req : BrowserRequest}
    {sessionId : String}
    (hClean : ∀ part ∈ parts, ';' ∉ part)
    (hHeader : req.cookie = some (cookieHeader parts))
    (hCookie : sessionCookie req = some (some sessionId)) :
    ∃ part ∈ parts,
      ∃ value,
        partSets part =
            some (sessionCookieName.toList, value) ∧
          (decodeChars value).map String.ofList =
            some sessionId := by
  rw [sessionCookie, Option.map_eq_some_iff] at hCookie
  rcases hCookie with ⟨entries, hParsed, hValue⟩
  rw [hHeader] at hParsed
  by_cases hEmpty : cookieHeader parts = ""
  · rw [hEmpty] at hParsed
    cases hParsed
    cases hValue
  · rcases
        (parseCookieHeader_eq_some_iff hClean hEmpty).mp
          hParsed with
      ⟨hReadable, rfl⟩
    rw [cookieValue_entries (by decide) hReadable,
      Option.bind_eq_some_iff] at hValue
    rcases hValue with ⟨value, hLast, hDecoded⟩
    obtain ⟨before, after, hSplit, -⟩ :=
      List.lookup_eq_some_iff.mp hLast
    have hMem :
        (sessionCookieName.toList, value) ∈
          parts.filterMap partSets := by
      rw [← List.mem_reverse, hSplit]
      simp
    obtain ⟨part, hPart, hSets⟩ :=
      List.mem_filterMap.mp hMem
    exact ⟨part, hPart, value, hSets, hDecoded⟩

/- The session a browser names was created for it. -/
theorem given_of_cookie
    {earlier later : History}
    {req : BrowserRequest}
    {sessionId : String}
    (hRecorded : Recorded P cfg (later ++ earlier))
    (hHolds : HoldsSessions cfg (later ++ earlier))
    (hSends : SendsGiven own earlier req)
    (hCookie : sessionCookie req = some (some sessionId)) :
    ∃ minter created,
      own minter ∧
        CreatedBy P cfg (later ++ earlier) minter sessionId
          created := by
  cases hHeader : req.cookie with
  | none =>
      rw [sessionCookie, hHeader] at hCookie
      cases hCookie
  | some header =>
      rcases hSends header hHeader with
        ⟨parts, rfl, hClean, hGiven⟩
      rcases part_of_sessionCookie hClean hHeader hCookie with
        ⟨part, hPart, value, hSets, hDecoded⟩
      rcases hGiven part hPart value hSets with
        ⟨cookie, ⟨thread, response, hOwn, hRespond, hSet⟩, rfl⟩
      rcases
          created_of_cookie hRecorded hHolds
            (List.mem_append_right _ hRespond) hSet with
        ⟨named, created, _, hCreated, rfl⟩
      rw [partSets_cookieOf, Option.some.injEq,
        Prod.mk.injEq] at hSets
      rw [← hSets.2, decodeChars_encoded, Option.map_some,
        String.ofList_toList, Option.some.injEq] at hDecoded
      subst hDecoded
      exact ⟨thread, created, hOwn, hCreated⟩

end KisAuth

------------------------------------------------------------
-- Who Touches A Session
------------------------------------------------------------

namespace KisAuth

open Interaction

variable {P : Platform} {cfg : KisAuthConfig}
variable {own : Nat → Prop} {history : History}

/- What is written under the key of a session. -/
theorem session_write
    {past : Past}
    {q : Request}
    {stored : RedisValue}
    {sessionId : String}
    (hAllowed :
      WriteAllowed P cfg q past (sessionKey sessionId)
        stored) :
    (∃ query req,
        q = .authorize query req ∧
          ∃ session,
            stored = .session session ∧
              SessionCreated P cfg query past sessionId
                session) ∨
      q.held = some sessionId := by
  cases stored with
  | session session =>
      rcases hAllowed with
        ⟨other, hKey, ⟨query, req, hRoute, hCreated⟩ |
          hRestarted⟩
      · have hId : sessionId = other :=
          ((storeKey_inj _ _ _ _).mp hKey).2
        subst hId
        exact
          Or.inl ⟨query, req, hRoute, session, rfl, hCreated⟩
      · have hId : sessionId = other :=
          ((storeKey_inj _ _ _ _).mp hKey).2
        subst hId
        rcases hRestarted.route with
          ⟨req, hCookie, rfl | ⟨partnerSlug, rfl, _⟩⟩
        · exact Or.inr (congrArg Option.join hCookie)
        · exact Or.inr (congrArg Option.join hCookie)
  | challenge record =>
      rcases hAllowed with
        ⟨challengeId, _, _, _, _, _, hKey, _⟩
      simp [sessionKey, challengeKey] at hKey
  | code payload =>
      rcases hAllowed with ⟨_, _, _, _, _, hIssued⟩
      rcases hIssued.code with ⟨code, hKey, _⟩
      simp [sessionKey, codeKey] at hKey
  | ticket payload =>
      rcases hAllowed with ⟨_, _, _, _, _, hIssued⟩
      rcases hIssued.code with ⟨code, hKey, _⟩
      simp [sessionKey, regTicketKey] at hKey
  | claimed => exact hAllowed.elim
  | count hits => exact hAllowed.elim

/-
  A call on the key of a session is made for the session of
  the cookie, or for one that the request has just named.
-/
theorem touches_session
    {earlier : History}
    {thread : Nat}
    {q : Request}
    {answer : Answer Eff Eff.Res}
    {sessionId : String}
    (hStep : Step P cfg earlier thread q answer)
    (hOwn : OwnSession q.held answer.effect)
    (hKey :
      redisKey answer.effect = some (sessionKey sessionId)) :
    q.held = some sessionId ∨
      ⟨.random, sessionId⟩ ∈ answersOf thread earlier := by
  have hAllowed := hStep.allowed
  rcases answer with ⟨effect, value⟩
  cases effect with
  | redisGet key =>
      exact Or.inl (hOwn _ (Option.some.inj hKey))
  | redisTtl key =>
      exact Or.inl (hOwn _ (Option.some.inj hKey))
  | redisDel key =>
      exact Or.inl (hOwn _ (Option.some.inj hKey))
  | redisSet key stored ttl =>
      cases Option.some.inj hKey
      rcases session_write hAllowed with
        ⟨query, req, rfl, session, rfl, hCreated⟩ | hHeld
      · exact Or.inr hCreated.sessionId
      · exact Or.inl hHeld
  | redisSetNx key ttl =>
      cases Option.some.inj hKey
      rcases hAllowed with ⟨nonce, hNonce⟩
      simp [sessionKey, linkNonceKey] at hNonce
  | redisConsume key =>
      cases Option.some.inj hKey
      rcases hAllowed with
        ⟨route, family, post, code, hRedeems, _, _, hCode⟩
      have hFamily := ((storeKey_inj _ _ _ _).mp hCode).1
      subst hFamily
      cases q <;> simp [Request.redeems] at hRedeems
  | redisIncr key windowSeconds =>
      cases Option.some.inj hKey
      rcases counter_key hAllowed with
        ⟨scope, identifier, hCounter⟩
      simp [sessionKey, rateLimitKey] at hCounter
  | _ => cases hKey

end KisAuth

------------------------------------------------------------
-- Isolation
------------------------------------------------------------

namespace KisAuth

open Interaction

variable {P : Platform} {cfg : KisAuthConfig}
variable {own : Nat → Prop} {history : History}

/-
  What a browser has to do with sessions: a request is one
  of the browser exactly where the session it touches, reads,
  or stores a code or ticket for, is one of the browser's.
-/
structure SessionsIsolated
    (P : Platform)
    (cfg : KisAuthConfig)
    (own : Nat → Prop)
    (history : History) : Prop where
  cookies :
    ∀ thread response cookie,
      Entry.respond thread (.ok response) ∈ history →
        response.setCookie = some cookie →
          ∃ sessionId created,
            CreatedBy P cfg history thread sessionId created ∧
              cookie = cookieOf cfg sessionId
  touched :
    ∀ thread answer sessionId,
      Entry.answer thread answer ∈ history →
        redisKey answer.effect =
            some (sessionKey sessionId) →
          (own thread ↔ NamedFor own history sessionId)
  read :
    ∀ thread sessionId session,
      Entry.answer thread
            ⟨.redisGet (sessionKey sessionId),
              some (.session session)⟩ ∈
          history →
        ∃ minter created,
          CreatedBy P cfg history minter sessionId created ∧
            SameSession session created ∧
            (own thread ↔ own minter)
  granted :
    ∀ later earlier thread key value ttl,
      history =
          later ++
            .answer thread
                ⟨.redisSet key value ttl, .ok ()⟩ ::
              earlier →
        value.isGrant →
          ∃ minter sessionId session created,
            ⟨.redisGet (sessionKey sessionId),
                some (.session session)⟩ ∈
              answersOf thread earlier ∧
              CreatedBy P cfg history minter sessionId
                  created ∧
                SameSession session created ∧
                  FitsSession created value ∧
                    (own thread ↔ own minter)

/- A session is the browser's if the one who named it is. -/
theorem namedFor_of_drawn
    {thread : Nat}
    {sessionId : String}
    (hRecorded : Recorded P cfg history)
    (hDrawn :
      Entry.answer thread ⟨.random, sessionId⟩ ∈ history) :
    NamedFor own history sessionId ↔ own thread := by
  constructor
  · rintro ⟨drawer, hOwn, hOther⟩
    have hSame : drawer = thread :=
      random_unique hRecorded.faithful hOther hDrawn
    rw [← hSame]
    exact hOwn
  · intro hOwn
    exact ⟨thread, hOwn, hDrawn⟩

/- A session is the browser's if its creator is. -/
theorem namedFor_iff
    {minter : Nat}
    {sessionId : String}
    {created : OAuthSession}
    (hRecorded : Recorded P cfg history)
    (hCreated :
      CreatedBy P cfg history minter sessionId created) :
    NamedFor own history sessionId ↔ own minter := by
  rcases hCreated with ⟨query, hMinted⟩
  exact namedFor_of_drawn hRecorded hMinted.drawn

/- Which requests touch the sessions of the browser. -/
theorem touched_iff
    {thread : Nat}
    {answer : Answer Eff Eff.Res}
    {sessionId : String}
    (hRecorded : Recorded P cfg history)
    (hHolds : HoldsSessions cfg history)
    (hKeeps : KeepsCookies own history)
    (hMem : Entry.answer thread answer ∈ history)
    (hKey :
      redisKey answer.effect = some (sessionKey sessionId)) :
    own thread ↔ NamedFor own history sessionId := by
  rcases hRecorded.step hMem with
    ⟨later, earlier, q, rfl, hStep⟩
  rcases hHolds.split.1 with ⟨other, hArrive, hOwn⟩
  have hSame : other = q :=
    hStep.recorded.request_unique hArrive hStep.arrived
  subst hSame
  rcases touches_session hStep hOwn hKey with hHeld | hDrawn
  · have hArrived :
        Entry.arrive thread other ∈
          later ++ .answer thread answer :: earlier :=
      List.mem_append_right _
        (List.mem_cons_of_mem _ hStep.arrived)
    constructor
    · intro hThread
      rcases List.append_of_mem hArrived with
        ⟨after, before, hSplit⟩
      rcases Option.bind_eq_some_iff.mp hHeld with
        ⟨req, hBrowser, hCookie⟩
      have hSends :=
        hKeeps.given after before thread other req hSplit
          hThread hBrowser
      have hWhole :
          later ++ .answer thread answer :: earlier =
            (after ++ [.arrive thread other]) ++ before := by
        rw [hSplit, List.append_assoc]
        rfl
      rw [hWhole] at hRecorded hHolds ⊢
      rcases
          given_of_cookie hRecorded hHolds hSends
            (Option.join_eq_some_iff.mp hCookie) with
        ⟨minter, created, hMinter, hCreated⟩
      exact (namedFor_iff hRecorded hCreated).mpr hMinter
    · rintro ⟨drawer, hDrawer, hDrawn⟩
      by_contra hThread
      exact
        hKeeps.secret thread drawer other sessionId hArrived
          hThread hDrawer hHeld hDrawn
  · have hOwnDraw :
        Entry.answer thread ⟨.random, sessionId⟩ ∈
          later ++ .answer thread answer :: earlier :=
      List.mem_append_right _
        (List.mem_cons_of_mem _ (mem_of_past hDrawn))
    exact (namedFor_of_drawn hRecorded hOwnDraw).symm

/-
  Sessions stay with their browser, whatever requests are
  served beside its own and in whatever order.
-/
theorem sessions_isolated
    (run : Run P cfg)
    (own : Nat → Prop)
    (hKeeps : KeepsCookies own run.history) :
    SessionsIsolated P cfg own run.history := by
  have hRecorded := run.recorded
  have hHolds := run.holdsSessions
  have hRead :
      ∀ thread sessionId session,
        Entry.answer thread
              ⟨.redisGet (sessionKey sessionId),
                some (.session session)⟩ ∈
            run.history →
          ∃ minter created,
            CreatedBy P cfg run.history minter sessionId
                created ∧
              SameSession session created ∧
              (own thread ↔ own minter) := by
    intro thread sessionId session hMem
    rcases session_read_origin hRecorded hMem with
      ⟨minter, query, created, hMinted, hSame⟩
    have hCreated :
        CreatedBy P cfg run.history minter sessionId created :=
      ⟨query, hMinted⟩
    have hTouched :=
      touched_iff hRecorded hHolds hKeeps hMem rfl
    exact
      ⟨minter, created, hCreated, hSame,
        hTouched.trans (namedFor_iff hRecorded hCreated)⟩
  refine ⟨?_, ?_, hRead, ?_⟩
  · intro thread response cookie hRespond hCookie
    rcases
        created_of_cookie hRecorded hHolds hRespond hCookie with
      ⟨sessionId, created, _, hCreated, hSame⟩
    exact ⟨sessionId, created, hCreated, hSame⟩
  · intro thread answer sessionId hMem hKey
    exact touched_iff hRecorded hHolds hKeeps hMem hKey
  · intro later earlier thread key value ttl hSplit hGrant
    have hWhole := hRecorded
    rw [hSplit] at hWhole
    rcases hWhole.step_at with ⟨q, hStep⟩
    rcases granted_read hStep hGrant with
      ⟨sessionId, session, hSession, hFits⟩
    have hEntry :
        Entry.answer thread
            ⟨.redisGet (sessionKey sessionId),
              some (.session session)⟩ ∈
          run.history := by
      rw [hSplit]
      exact
        List.mem_append_right _
          (List.mem_cons_of_mem _ (mem_of_past hSession))
    rcases hRead thread sessionId session hEntry with
      ⟨minter, created, hCreated, hSame, hIff⟩
    exact
      ⟨minter, sessionId, session, created, hSession,
        hCreated, hSame, hFits.created hSame, hIff⟩

end KisAuth

------------------------------------------------------------
-- Two Browsers
------------------------------------------------------------

namespace KisAuth

open Interaction

variable {own : Nat → Prop} {history : History}

/- A browser that has the one cookie it was given. -/
theorem sendsGiven_own
    {cookie : String}
    {req : BrowserRequest}
    (hGiven : CookieGiven own history cookie)
    (hClean : ';' ∉ cookiePair cookie)
    (hCookie :
      req.cookie = some (cookieHeader [cookiePair cookie])) :
    SendsGiven own history req := by
  intro header hHeader
  rw [hCookie] at hHeader
  cases hHeader
  refine ⟨[cookiePair cookie], rfl, ?_, ?_⟩
  · intro part hPart
    rw [List.mem_singleton.mp hPart]
    exact hClean
  · intro part hPart value _
    exact ⟨cookie, hGiven, List.mem_singleton.mp hPart⟩

/- Two browsers make every other request. -/
def isFirst (thread : Nat) : Bool :=
  decide (thread % 2 = 0)

/- The requests of the first browser, or of the second. -/
def ofBrowser (first : Bool) (thread : Nat) : Prop :=
  isFirst thread = first

/- The name of its session. -/
def nameOf (first : Bool) : String :=
  if first then "s1" else "s2"

/- The cookie of its session is given to it. -/
def givesCookie (first : Bool) : ServiceEntry → Bool
| .respond thread (.ok response) =>
    decide (isFirst thread = first) &&
      decide
        (response.setCookie =
          some (cookieOf testConfig (nameOf first)))
| _ => false

/-
  Each browser sends no cookie, or the one it was given, and
  does not draw the name of the other's session.
-/
def ownCookies : ServiceEntry → History → Bool
| .arrive thread q, earlier =>
    match q.browser with
    | none => true
    | some req =>
        decide (req.cookie = none) ||
          (decide
              (req.cookie =
                some
                  (cookieHeader
                    [cookiePair
                      (cookieOf testConfig
                        (nameOf (isFirst thread)))])) &&
            earlier.any (givesCookie (isFirst thread)))
| .answer thread ⟨.random, name⟩, _ =>
    decide (name ≠ nameOf (!isFirst thread))
| _, _ => true

theorem given_of_any
    {first : Bool}
    (hAny : history.any (givesCookie first) = true) :
    CookieGiven (ofBrowser first) history
      (cookieOf testConfig (nameOf first)) := by
  rcases List.any_eq_true.mp hAny with ⟨entry, hMem, hGives⟩
  unfold givesCookie at hGives
  split at hGives
  · next thread response =>
      simp only [Bool.and_eq_true, decide_eq_true_eq] at hGives
      exact ⟨thread, response, hGives.1, hMem, hGives.2⟩
  · cases hGives

/- What a browser of a checked history sends. -/
theorem sent_of_ownCookies
    {earlier later : History}
    {thread : Nat}
    {q : Request}
    {req : BrowserRequest}
    (hChecked :
      Always
        (fun entry earlier => ownCookies entry earlier = true)
        (later ++ .arrive thread q :: earlier))
    (hBrowser : q.browser = some req) :
    req.cookie = none ∨
      req.cookie =
          some
            (cookieHeader
              [cookiePair
                (cookieOf testConfig
                  (nameOf (isFirst thread)))]) ∧
        earlier.any (givesCookie (isFirst thread)) = true := by
  have hOwn := hChecked.split.1
  simpa only [ownCookies, hBrowser, Bool.or_eq_true,
    decide_eq_true_eq, Bool.and_eq_true] using hOwn

/- The session that the cookie of a browser names. -/
theorem sessionCookie_nameOf
    {first : Bool}
    {req : BrowserRequest}
    (hCookie :
      req.cookie =
        some
          (cookieHeader
            [cookiePair
              (cookieOf testConfig (nameOf first))])) :
    sessionCookie req = some (some (nameOf first)) := by
  rw [sessionCookie, hCookie]
  cases first <;> decide +kernel

theorem keepsCookies_of_ownCookies
    (first : Bool)
    (hChecked :
      Always
        (fun entry earlier => ownCookies entry earlier = true)
        history) :
    KeepsCookies (ofBrowser first) history where
  given := by
    rintro later earlier thread q req rfl rfl hBrowser
    rcases sent_of_ownCookies hChecked hBrowser with
      hNone | ⟨hCookie, hAny⟩
    · intro header hHeader
      rw [hNone] at hHeader
      cases hHeader
    · apply sendsGiven_own (given_of_any hAny) _ hCookie
      cases isFirst thread <;> decide +kernel
  secret := by
    rintro thread drawer q sessionId hArrive hOther rfl hHeld
      hDrawn
    rcases Option.bind_eq_some_iff.mp hHeld with
      ⟨req, hBrowser, hSession⟩
    have hApart : isFirst thread = !isFirst drawer :=
      Bool.eq_not.mpr hOther
    have hNamed : sessionId = nameOf (!isFirst drawer) := by
      rcases List.append_of_mem hArrive with
        ⟨later, earlier, rfl⟩
      rcases sent_of_ownCookies hChecked hBrowser with
        hNone | ⟨hCookie, _⟩
      · rw [sessionCookie, hNone] at hSession
        cases hSession
      · rw [sessionCookie_nameOf hCookie, hApart] at hSession
        exact (Option.some.inj hSession).symm
    rcases List.append_of_mem hDrawn with
      ⟨later, earlier, rfl⟩
    have hNot := hChecked.split.1
    simp only [ownCookies, decide_eq_true_eq] at hNot
    exact hNot hNamed

/- A browser begins a session with these random values. -/
def beginActions
    (thread : Nat)
    (state nonce name : String) : FlowActions :=
  (authorizeActions thread none).take 3 ++
    [.run thread (.random state), .run thread (.random nonce),
      .run thread (.random name), .run thread .none,
      .run thread .none]

/- Its start route reads the session. -/
def resumeActions
    (thread : Nat)
    (name : String) : FlowActions :=
  [.arrive
      (.googleStart
        { ip := "10.0.0.1"
          cookie := some ("kisauth_session=" ++ name) }),
    .run thread .none, .run thread .none]

/-
  Both browsers begin a session and start to sign in, and the
  first one gets a ticket.
-/
def twoBrowsers : FlowActions :=
  beginActions 0 "st" "no" "s1" ++
    beginActions 1 "st2" "no2" "s2" ++
      resumeActions 2 "s1" ++ resumeActions 3 "s2" ++
        startActions 3 "v2" ++ startActions 2 "v1" ++
          enterActions 4 "c1" ++ completeActions 4 "t1"

/- Each session stays with its browser. -/
theorem two_browsers_isolated :
    ∃ run : Run flowPlatform testConfig,
      completions run.history = ["s1"] ∧
        KeepsCookies (ofBrowser true) run.history ∧
        KeepsCookies (ofBrowser false) run.history ∧
        SessionsIsolated flowPlatform testConfig
          (ofBrowser true) run.history ∧
        SessionsIsolated flowPlatform testConfig
          (ofBrowser false) run.history := by
  have hChecked :
      (flowRun twoBrowsers).map
          (fun state =>
            (completions state.history,
              decide
                (Always
                  (fun entry earlier =>
                    ownCookies entry earlier = true)
                  state.history))) =
        some (["s1"], true) := by
    decide +kernel
  rcases Option.map_eq_some_iff.mp hChecked with
    ⟨state, hRun, hBoth⟩
  simp only [Prod.mk.injEq, decide_eq_true_eq] at hBoth
  let run : Run flowPlatform testConfig :=
    ⟨flowClients, state, Reachable.of_run hRun⟩
  have hFirst : KeepsCookies (ofBrowser true) run.history :=
    keepsCookies_of_ownCookies true hBoth.2
  have hSecond : KeepsCookies (ofBrowser false) run.history :=
    keepsCookies_of_ownCookies false hBoth.2
  exact
    ⟨run, hBoth.1, hFirst, hSecond,
      sessions_isolated run (ofBrowser true) hFirst,
      sessions_isolated run (ofBrowser false) hSecond⟩

end KisAuth
