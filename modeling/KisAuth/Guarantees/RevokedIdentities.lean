import KisAuth.Guarantees.ClaimShapes
import KisAuth.Provenance.Identities

/-
  What a request does for a revoked identity it reads.

  The exchange compares the status of the row it reads. No
  other request does: a returning user is issued a code, and
  a link that finds the row bound to its user succeeds. A
  revoked identity gets nothing from the requests that refuse
  for another reason.

  Key definitions include:
    * `readsRevoked`, `favours`, `RevokedRejected`
    * `Refuses`, `RefusesRevoked`

  Key theorems include:
    * `Refuser.not_earned`
    * `revoked_rejected`, `revoked_user_returns`
-/

------------------------------------------------------------
-- Revoked Identities
------------------------------------------------------------

namespace KisAuth

open Interaction Store

/- A request that read a revoked row, and the row. -/
def readsRevoked :
    ServiceEntry → Option (Nat × AuthIdentity)
| .answer thread ⟨.selectIdentity _ _, .ok (some row)⟩ =>
    if row.status = .revoked then some (thread, row)
    else none
| .answer thread ⟨.selectIdentityById _, .ok (some row)⟩ =>
    if row.status = .revoked then some (thread, row)
    else none
| _ => none

/-
  A request that does something for a row, and the row's id:
  it issues a challenge, a code or a token for it, reports it
  as linked or changes its fields.
-/
def favours : ServiceEntry → Option (Nat × String)
| .answer thread ⟨.redisSet _ (.challenge record) _, _⟩ =>
    record.authIdentityId.map (fun id => (thread, id))
| .answer thread ⟨.redisSet _ (.code payload) _, _⟩ =>
    some (thread, payload.authIdentityId)
| .answer thread ⟨.updateIdentity _ _ id, .ok _⟩ =>
    (uuidIn id).map (fun id => (thread, id))
| .answer thread ⟨.touchIdentity id, .ok _⟩ =>
    (uuidIn id).map (fun id => (thread, id))
| .respond thread (.ok (.token token)) =>
    token.authIdentityId.map (fun id => (thread, id))
| .respond thread (.ok (.linked id)) => some (thread, id)
| _ => none

/-
  No request does anything for a row it reads as revoked.
-/
def RevokedRejected (history : History) : Prop :=
  ∀ reader ∈ history.filterMap readsRevoked,
    (reader.1, reader.2.id) ∉ history.filterMap favours

instance (history : History) :
    Decidable (RevokedRejected history) :=
  inferInstanceAs
    (Decidable
      (∀ reader ∈ history.filterMap readsRevoked,
        (reader.1, reader.2.id) ∉
          history.filterMap favours))

end KisAuth

------------------------------------------------------------
-- Refusals For Another Reason
------------------------------------------------------------

namespace KisAuth

open Interaction Store

/- A session read under a key. -/
def sessionAt
    (key : String) :
    Answer Eff Eff.Res → Option OAuthSession
| ⟨.redisGet other, some (.session session)⟩ =>
    if other = key then some session else none
| _ => none

/- The session a callback read by its cookie. -/
def presentedSession
    (callback : Callback)
    (past : Past) : Option OAuthSession :=
  match sessionCookie callback.req with
  | some (some sessionId) =>
      past.findSome? (sessionAt (sessionKey sessionId))
  | _ => none

/- The identity a request to identity/link names. -/
def Request.links
    (P : Platform) : Request → Option NewIdentity
| .identityLink post => requestedLink P post.body
| _ => none

/-
  A request refuses a row that is there: a link for another
  user, or a callback of a registration or of a link for
  another user.
-/
def Refuses
    (P : Platform)
    (q : Request)
    (past : Past)
    (row : AuthIdentity) : Prop :=
  (∀ args ∈ q.links P, args.kisUserId ≠ row.kisUserId) ∧
    ∀ callback ∈ q.callback,
      ∃ session ∈ presentedSession callback past,
        session.purpose = "registration" ∨
          (session.purpose = "link" ∧
            session.linkKisUserId ≠ some row.kisUserId)

instance
    (P : Platform)
    (q : Request)
    (past : Past)
    (row : AuthIdentity) :
    Decidable (Refuses P q past row) :=
  inferInstanceAs (Decidable (_ ∧ _))

/- The reader of a revoked row refuses it in any case. -/
def RefusesRevoked
    (P : Platform)
    (entry : ServiceEntry)
    (earlier : History) : Prop :=
  ∀ reader ∈ readsRevoked entry,
    ∀ q ∈ requestOf reader.1 earlier,
      Refuses P q (answersOf reader.1 earlier) reader.2

instance
    (P : Platform)
    (entry : ServiceEntry)
    (earlier : History) :
    Decidable (RefusesRevoked P entry earlier) :=
  inferInstanceAs
    (Decidable
      (∀ reader ∈ readsRevoked entry,
        ∀ q ∈ requestOf reader.1 earlier,
          Refuses P q (answersOf reader.1 earlier)
            reader.2))

end KisAuth

------------------------------------------------------------
-- Requests That Refuse
------------------------------------------------------------

namespace KisAuth

open Interaction Store

/- A request that looked a row up and refuses it. -/
structure Refuser
    (P : Platform)
    (cfg : KisAuthConfig)
    (history : History)
    (thread : Nat)
    (q : Request)
    (row : AuthIdentity) : Prop where
  recorded : Recorded P cfg history
  arrived : Entry.arrive thread q ∈ history
  lookup :
    .ok (some row) ∈ lookups (answersOf thread history)
  links :
    ∀ args,
      q.links P = some args → args.kisUserId ≠ row.kisUserId
  calledBack :
    ∀ callback,
      q.callback = some callback →
        ∃ sessionId session,
          ReadsSession callback.req (answersOf thread history)
              sessionId session ∧
            (session.purpose = "registration" ∨
              (session.purpose = "link" ∧
                session.linkKisUserId ≠
                  some row.kisUserId))

variable {P : Platform} {cfg : KisAuthConfig}
variable {history : History} {thread : Nat} {q : Request}
variable {row : AuthIdentity}

/- The presented session is one the callback read. -/
theorem reads_of_presented
    {callback : Callback}
    {past : Past}
    {session : OAuthSession}
    (hPresented :
      presentedSession callback past = some session) :
    ∃ sessionId,
      ReadsSession callback.req past sessionId session := by
  unfold presentedSession at hPresented
  split at hPresented
  · next sessionId hCookie =>
      rcases List.exists_of_findSome?_eq_some hPresented with
        ⟨answer, hMem, hAt⟩
      refine ⟨sessionId, hCookie, ?_⟩
      unfold sessionAt at hAt
      split at hAt
      · split at hAt
        · next hKey =>
            rw [Option.some.injEq] at hAt
            subst hAt
            subst hKey
            exact hMem
        · simp at hAt
      · simp at hAt
  · simp at hPresented

/- Two sessions read by one cookie are one session. -/
theorem reads_same
    {req : BrowserRequest}
    {sessionId sessionId' : String}
    {session session' : OAuthSession}
    (hRecorded : Recorded P cfg history)
    (hReads :
      ReadsSession req (answersOf thread history) sessionId
        session)
    (hReads' :
      ReadsSession req (answersOf thread history) sessionId'
        session') :
    session.purpose = session'.purpose ∧
      session.linkKisUserId = session'.linkKisUserId := by
  have hCookie := hReads.cookie
  rw [hReads'.cookie, Option.some.injEq, Option.some.injEq]
    at hCookie
  subst hCookie
  rcases session_read_origin hRecorded
      (mem_of_past hReads.read) with
    ⟨_, _, created, hMinted, hSame⟩
  rcases session_read_origin hRecorded
      (mem_of_past hReads'.read) with
    ⟨_, _, created', hMinted', hSame'⟩
  rcases minted_unique hRecorded hMinted hMinted' with
    ⟨_, _, rfl⟩
  rcases hSame.fields with
    ⟨_, _, hPurpose, _, _, hUser, _⟩
  rcases hSame'.fields with
    ⟨_, _, hPurpose', _, _, hUser', _⟩
  exact
    ⟨hPurpose.trans hPurpose'.symm, hUser.trans hUser'.symm⟩

namespace Refuser

/- Every lookup of the request answered with the row. -/
theorem lookup_eq
    (hRefuser : Refuser P cfg history thread q row)
    {provider providerSubject : String}
    {result : Except SqlError (Option AuthIdentity)}
    (hMem :
      ⟨.selectIdentity provider providerSubject, result⟩ ∈
        answersOf thread history) :
    result = .ok (some row) := by
  apply hRefuser.recorded.lookup_unique _ hRefuser.lookup
  exact List.mem_filterMap.mpr ⟨_, hMem, rfl⟩

/- A link of the request was for the user of the row. -/
theorem linked_user
    (hRefuser : Refuser P cfg history thread q row)
    {provider providerSubject kisUserId : String}
    {linked : AuthIdentity}
    (hLinked :
      LinkedRow (answersOf thread history) provider
        providerSubject kisUserId linked) :
    kisUserId = row.kisUserId := by
  rcases hLinked with
    ⟨args, hInsert, _⟩ |
    ⟨existing, email, verified, hSelect, hUser, _⟩
  · rcases hRefuser.recorded.step_of_arrive hRefuser.arrived
        (mem_of_past hInsert) with
      ⟨_, earlier, _, hLater, hStep⟩
    have hSame :=
      hRefuser.lookup_eq (hLater hStep.allowed.2)
    simp at hSame
  · have hSame := hRefuser.lookup_eq hSelect
    simp only [Except.ok.injEq, Option.some.injEq] at hSame
    rw [← hUser, hSame]

/- No session it read is one that links the row's user. -/
theorem not_link
    (hRefuser : Refuser P cfg history thread q row)
    {callback : Callback}
    {sessionId : String}
    {session : OAuthSession}
    (hCallback : q.callback = some callback)
    (hReads :
      ReadsSession callback.req (answersOf thread history)
        sessionId session)
    (hPurpose : session.purpose = "link")
    (hUser : session.linkKisUserId = some row.kisUserId) :
    False := by
  rcases hRefuser.calledBack callback hCallback with
    ⟨sessionId', session', hReads', hCase⟩
  rcases reads_same hRefuser.recorded hReads hReads' with
    ⟨hSamePurpose, hSameUser⟩
  rw [hPurpose] at hSamePurpose
  rw [hUser] at hSameUser
  rcases hCase with hRegistration | ⟨_, hOther⟩
  · rw [hRegistration] at hSamePurpose
    simp at hSamePurpose
  · exact hOther hSameUser.symm

/- Nor is it one of a returning user. -/
theorem not_returning
    (hRefuser : Refuser P cfg history thread q row)
    {callback : Callback}
    {sessionId : String}
    {session : OAuthSession}
    (hCallback : q.callback = some callback)
    (hReads :
      ReadsSession callback.req (answersOf thread history)
        sessionId session)
    (hLink : session.purpose ≠ "link")
    (hRegistered : session.purpose ≠ "registration") :
    False := by
  rcases hRefuser.calledBack callback hCallback with
    ⟨sessionId', session', hReads', hCase⟩
  rcases reads_same hRefuser.recorded hReads hReads' with
    ⟨hSamePurpose, _⟩
  rw [hSamePurpose] at hLink hRegistered
  rcases hCase with hRegistration | ⟨hLinks, _⟩
  · exact hRegistered hRegistration
  · exact hLink hLinks

/- So the request earned no challenge. -/
theorem not_earned
    (hRefuser : Refuser P cfg history thread q row)
    {past : Past}
    {callback : Callback}
    {sessionId : String}
    {session : OAuthSession}
    {token : VerifiedIdToken}
    {record : ChallengeRecord}
    (hSubset : past ⊆ answersOf thread history)
    (hCallback : q.callback = some callback)
    (hReads :
      ReadsSession callback.req past sessionId session)
    (hEarned : Earned callback past session token record) :
    False := by
  have hAll := hReads.extend hSubset
  cases hEarned.extend hSubset with
  | link kisUserId linked hPurpose hUser hRow hRecord =>
      rw [hRefuser.linked_user hRow] at hUser
      exact hRefuser.not_link hCallback hAll hPurpose hUser
  | returning found hPurpose hRegistered hRow hRecord =>
      exact
        hRefuser.not_returning hCallback hAll hPurpose
          hRegistered

/- And it was not authorized to link the row's user. -/
theorem not_retried
    (hRefuser : Refuser P cfg history thread q row)
    {past : Past}
    {args : NewIdentity}
    (hSubset : past ⊆ answersOf thread history)
    (hAuthorized : LinkAuthorized P cfg q past args)
    (hUser : args.kisUserId = row.kisUserId) :
    False := by
  rcases hAuthorized with
    ⟨post, rfl, hRequested⟩ |
    ⟨callback, sessionId, session, token, hCallback,
      hEarned⟩
  · exact hRefuser.links args hRequested.2 hUser
  · have hNamed := hEarned.kisUserId
    rw [hUser] at hNamed
    exact
      hRefuser.not_link hCallback
        (hEarned.verified.reads.extend hSubset)
        hEarned.purpose hNamed

end Refuser

end KisAuth

------------------------------------------------------------
-- They Do Nothing For The Row
------------------------------------------------------------

namespace KisAuth

open Interaction Store

variable {P : Platform} {cfg : KisAuthConfig}
variable {history : History} {thread : Nat} {q : Request}
variable {row : AuthIdentity}

/- What a request that refuses a row was not allowed. -/
theorem refuser_not_allowed
    {past : Past}
    {effect : Eff}
    (hRefuser : Refuser P cfg history thread q row)
    (hSubset : past ⊆ answersOf thread history)
    (hAllowed : Allowed P cfg q past effect) :
    (∀ key record ttl,
        effect ≠ .redisSet key (.challenge record) ttl) ∧
      (∀ key payload ttl,
        effect ≠ .redisSet key (.code payload) ttl) ∧
      (∀ email verified id,
        effect ≠ .updateIdentity email verified id) ∧
      ∀ id, effect ≠ .touchIdentity id := by
  refine ⟨?_, ?_, ?_, ?_⟩
  · rintro key record ttl rfl
    rcases hAllowed with
      ⟨_, callback, sessionId, session, token, first, _, _,
        hCallback, hVerified, hEarned, _⟩
    exact
      hRefuser.not_earned hSubset hCallback hVerified.reads
        hEarned
  · rintro key payload ttl rfl
    rcases hAllowed with
      ⟨callback, sessionId, session, token, hCallback,
        hIssued⟩
    rcases hIssued.challenge with
      ⟨_, first, _, _, hEarned, _⟩
    exact
      hRefuser.not_earned hSubset hCallback
        hIssued.verified.reads hEarned
  · rintro email verified id rfl
    rcases hAllowed with
      ⟨args, found, hAuthorized, hSelect, hUser, _⟩
    have hSame := hRefuser.lookup_eq (hSubset hSelect)
    simp only [Except.ok.injEq, Option.some.injEq] at hSame
    subst hSame
    exact
      hRefuser.not_retried hSubset hAuthorized hUser.symm
  · rintro id rfl
    rcases hAllowed with
      ⟨callback, sessionId, session, token, _, hCallback,
        hVerified, hPurpose, hRegistered, _⟩
    exact
      hRefuser.not_returning hCallback
        (hVerified.reads.extend hSubset) hPurpose hRegistered

/- What it was not answered with, if the row is revoked. -/
theorem refuser_not_answered
    {past : Past}
    {response : Response}
    (hRefuser : Refuser P cfg history thread q row)
    (hRevoked : row.status = .revoked)
    (hSubset : past ⊆ answersOf thread history)
    (hAnswered : Answered P cfg q past response) :
    (∀ token,
        response = .token token →
          token.authIdentityId = none) ∧
      ∀ id, response ≠ .linked id := by
  constructor
  · rintro token rfl
    rcases hAnswered with
      ⟨_, _, _, identity, _, hRedeemed⟩ |
      ⟨_, _, _, _, hRedeemed⟩
    · have hSame :
          (.ok (some identity) :
              Except SqlError (Option AuthIdentity)) =
            .ok (some row) := by
        apply
          hRefuser.recorded.lookup_unique _ hRefuser.lookup
        exact
          List.mem_filterMap.mpr
            ⟨_, hSubset hRedeemed.read, rfl⟩
      simp only [Except.ok.injEq, Option.some.injEq] at hSame
      have hCurrent := hRedeemed.current
      rw [hSame] at hCurrent
      simp [redeemable, hRevoked] at hCurrent
    · exact hRedeemed.authIdentityId
  · rintro id rfl
    rcases hAnswered with
      ⟨post, args, linked, rfl, hRequested, hLinked, _⟩
    have hUser :=
      hRefuser.linked_user (hLinked.extend hSubset)
    exact hRefuser.links args hRequested.2 hUser

/- So nothing it did was for a revoked row. -/
theorem refuser_favours_nothing
    {entry : ServiceEntry}
    (hRefuser : Refuser P cfg history thread q row)
    (hRevoked : row.status = .revoked)
    (hMem : entry ∈ history) :
    favours entry ≠ some (thread, row.id) := by
  intro hFavours
  have hStepped :
      ∀ {answer : Answer Eff Eff.Res},
        entry = .answer thread answer →
          ∃ past,
            past ⊆ answersOf thread history ∧
              Allowed P cfg q past answer.effect := by
    rintro answer rfl
    rcases hRefuser.recorded.step_of_arrive hRefuser.arrived
        hMem with
      ⟨_, earlier, _, hSubset, hStep⟩
    exact ⟨_, hSubset, hStep.allowed⟩
  unfold favours at hFavours
  split at hFavours
  · rcases Option.map_eq_some_iff.mp hFavours with
      ⟨_, _, hThread⟩
    rw [Prod.mk.injEq] at hThread
    rcases hThread with ⟨rfl, _⟩
    rcases hStepped rfl with ⟨past, hSubset, hAllowed⟩
    exact
      (refuser_not_allowed hRefuser hSubset
        hAllowed).1 _ _ _ rfl
  · rw [Option.some.injEq, Prod.mk.injEq] at hFavours
    rcases hFavours with ⟨rfl, _⟩
    rcases hStepped rfl with ⟨past, hSubset, hAllowed⟩
    exact
      (refuser_not_allowed hRefuser hSubset
        hAllowed).2.1 _ _ _ rfl
  · rcases Option.map_eq_some_iff.mp hFavours with
      ⟨_, _, hThread⟩
    rw [Prod.mk.injEq] at hThread
    rcases hThread with ⟨rfl, _⟩
    rcases hStepped rfl with ⟨past, hSubset, hAllowed⟩
    exact
      (refuser_not_allowed hRefuser hSubset
        hAllowed).2.2.1 _ _ _ rfl
  · rcases Option.map_eq_some_iff.mp hFavours with
      ⟨_, _, hThread⟩
    rw [Prod.mk.injEq] at hThread
    rcases hThread with ⟨rfl, _⟩
    rcases hStepped rfl with ⟨past, hSubset, hAllowed⟩
    exact
      (refuser_not_allowed hRefuser hSubset
        hAllowed).2.2.2 _ rfl
  · rcases Option.map_eq_some_iff.mp hFavours with
      ⟨_, hToken, hThread⟩
    rw [Prod.mk.injEq] at hThread
    rcases hThread with ⟨rfl, _⟩
    rcases hRefuser.recorded.outcome_of_arrive
        hRefuser.arrived hMem with
      ⟨past, hSubset, _, hAnswered⟩
    rw [(refuser_not_answered hRefuser hRevoked hSubset
      hAnswered).1 _ rfl] at hToken
    simp at hToken
  · rw [Option.some.injEq, Prod.mk.injEq] at hFavours
    rcases hFavours with ⟨rfl, _⟩
    rcases hRefuser.recorded.outcome_of_arrive
        hRefuser.arrived hMem with
      ⟨past, hSubset, _, hAnswered⟩
    exact
      (refuser_not_answered hRefuser hRevoked hSubset
        hAnswered).2 _ rfl
  · simp at hFavours

end KisAuth

------------------------------------------------------------
-- Revoked Identities Over Runs
------------------------------------------------------------

namespace KisAuth

open Interaction Store

variable {P : Platform} {cfg : KisAuthConfig}
variable {history : History}

/- The reader of a revoked row, as a request that refuses. -/
theorem refuser_of_reader
    {reader : Nat × AuthIdentity}
    (hRecorded : Recorded P cfg history)
    (hRefuses : Always (RefusesRevoked P) history)
    (hReader : reader ∈ history.filterMap readsRevoked) :
    reader.2.status = .revoked ∧
      ∃ q, Refuser P cfg history reader.1 q reader.2 := by
  rcases List.mem_filterMap.mp hReader with
    ⟨entry, hEntry, hReads⟩
  rcases List.append_of_mem hEntry with
    ⟨later, earlier, hSplit⟩
  have hLookup :
      reader.2.status = .revoked ∧
        ∃ answer : Answer Eff Eff.Res,
          entry = .answer reader.1 answer ∧
            lookedUpBy answer = some (.ok (some reader.2)) := by
    unfold readsRevoked at hReads
    split at hReads
    · split at hReads
      · next hRevoked =>
          rw [Option.some.injEq] at hReads
          subst hReads
          exact ⟨hRevoked, _, rfl, rfl⟩
      · simp at hReads
    · split at hReads
      · next hRevoked =>
          rw [Option.some.injEq] at hReads
          subst hReads
          exact ⟨hRevoked, _, rfl, rfl⟩
      · simp at hReads
    · simp at hReads
  rcases hLookup with ⟨hRevoked, answer, rfl, hAnswer⟩
  refine ⟨hRevoked, ?_⟩
  have hAll := hRecorded
  rw [hSplit] at hRefuses hAll
  rcases hAll.step_at with ⟨q, hStep⟩
  have hServed :=
    requestOf_of_arrive hStep.recorded.conforms hStep.arrived
  rcases hRefuses.split.1 reader hReads q hServed with
    ⟨hLinks, hCallbacks⟩
  have hSubset :=
    answersOf_subset reader.1
      (later ++ [.answer reader.1 answer]) earlier
  rw [← List.append_cons, ← hSplit] at hSubset
  refine
    ⟨q,
      { recorded := hRecorded
        arrived := ?_
        lookup := ?_
        links := hLinks
        calledBack := ?_ }⟩
  · rw [hSplit]
    exact List.mem_append_right _
      (List.mem_cons_of_mem _ hStep.arrived)
  · exact
      List.mem_filterMap.mpr
        ⟨answer, past_of_mem hEntry, hAnswer⟩
  · intro callback hCallback
    rcases hCallbacks callback hCallback with
      ⟨session, hPresented, hCase⟩
    rcases reads_of_presented hPresented with
      ⟨sessionId, hReadsSession⟩
    exact
      ⟨sessionId, session, hReadsSession.extend hSubset,
        hCase⟩

/-
  In every run in which the readers of revoked rows refuse
  them in any case, nothing is done for a revoked row.
-/
theorem revoked_rejected
    (run : Run P cfg)
    (hRefuses : Always (RefusesRevoked P) run.history) :
    RevokedRejected run.history := by
  intro reader hReader hFavoured
  rcases refuser_of_reader run.recorded hRefuses hReader with
    ⟨hRevoked, q, hRefuser⟩
  rcases List.mem_filterMap.mp hFavoured with
    ⟨entry, hMem, hFavours⟩
  exact
    refuser_favours_nothing hRefuser hRevoked hMem hFavours

end KisAuth

------------------------------------------------------------
-- A Revoked User Who Returns
------------------------------------------------------------

namespace KisAuth

open Interaction

/- An operator revokes the linked identity. -/
def revokeActions : FlowActions :=
  [.env (.setIdentityStatus signedRow .revoked)]

/- Google answers with a subject that is registered. -/
def knownActions (thread : Nat) : FlowActions :=
  (returnActions thread).take 3 ++
    [.run thread .none, .run thread .none, .run thread .none]

/- Its user returns for a purpose. -/
def revokedActions
    (purpose : String)
    (answers : Nat → FlowActions) : FlowActions :=
  linkActions 0 ++ revokeActions ++ askActions 1 purpose ++
    readActions 2 ++ startActions 2 "v1" ++
      enterActions 3 "c1" ++ answers 3

/- A returning user whose identity is revoked gets a code. -/
theorem revoked_user_returns :
    ∃ run : Run signedPlatform testConfig,
      ¬RevokedRejected run.history := by
  have hFavoured :
      (signedRun "recovery"
          (revokedActions "recovery" returnActions)).map
          (fun state =>
            decide (RevokedRejected state.history)) =
        some false := by
    decide +kernel
  rcases Option.map_eq_some_iff.mp hFavoured with
    ⟨state, hRun, hRejected⟩
  rw [decide_eq_false_iff_not] at hRejected
  exact ⟨⟨_, state, Reachable.of_run hRun⟩, hRejected⟩

/- One who asks to register gets nothing. -/
theorem revoked_user_unregistered :
    ∃ run : Run signedPlatform testConfig,
      (run.history.filterMap readsRevoked).map
            (fun reader => reader.2.id) =
          [signedRow] ∧
        RevokedRejected run.history := by
  have hRefused :
      (signedRun "registration"
          (revokedActions "registration" knownActions)).map
          (fun state =>
            ((state.history.filterMap readsRevoked).map
                (fun reader => reader.2.id),
              decide
                (Always (RefusesRevoked signedPlatform)
                  state.history))) =
        some ([signedRow], true) := by
    decide +kernel
  rcases Option.map_eq_some_iff.mp hRefused with
    ⟨state, hRun, hBoth⟩
  simp only [Prod.mk.injEq, decide_eq_true_eq] at hBoth
  exact
    ⟨⟨_, state, Reachable.of_run hRun⟩, hBoth.1,
      revoked_rejected
        ⟨_, state, Reachable.of_run hRun⟩ hBoth.2⟩

end KisAuth
