import KisAuth.Guarantees.CodeDelivery
import KisAuth.Guarantees.SingleRedemption
import KisAuth.Guarantees.SessionLifetime
import KisAuth.Interaction.OneTimeGrants

/-
  The service as a broker of grants that are spent once.

  A session is what is asked for, a code or ticket is a grant
  for it, a consumption spends the grant, and a token is the
  credential. Whatever else is stored, read or sent, every
  run of the service is a run of the broker.

  Key definitions include:
    * `brokerRules`, `grantEvent`

  Key theorems include:
    * `service_refines_broker`
    * `tokens_conserved`
-/

------------------------------------------------------------
-- The Broker
------------------------------------------------------------

namespace KisAuth

open Interaction

/-
  What a code or ticket is for, beside its session. A ticket
  of a tenant is for a session of this tenant. A ticket of
  Google says nothing of one.
-/
def FitsSession
    (session : OAuthSession) : RedisValue → Prop
| .code payload =>
    payload.clientId = session.clientId ∧
      payload.redirectUri = session.redirectUri ∧
      payload.purpose = session.purpose ∧
      session.purpose ≠ "registration" ∧
      (session.purpose = "link" →
        session.linkKisUserId = some payload.kisUserId)
| .ticket payload =>
    payload.clientId = session.clientId ∧
      payload.redirectUri = session.redirectUri ∧
      session.purpose = "registration" ∧
      (payload.partnerSlug = none →
        payload.purpose = "registration") ∧
      (∀ partnerSlug,
        payload.partnerSlug = some partnerSlug →
          payload.purpose = "enterprise_sso_registration" ∧
            session.partnerSlug = some partnerSlug)
| _ => False

/- What a token says of the code or ticket it is for. -/
def YieldsToken : RedisValue → AuthorizationJwt → Prop
| .code payload, token =>
    token.aud = payload.clientId ∧
      token.purpose = payload.purpose ∧
      token.sub = truthyText (some payload.kisUserId) ∧
      token.authIdentityId = some payload.authIdentityId ∧
      token.providerSubject = none
| .ticket payload, token =>
    token.aud = payload.clientId ∧
      token.purpose = payload.purpose ∧
      token.sub = none ∧
      token.authIdentityId = none ∧
      token.providerSubject = some payload.providerSubject ∧
      token.provider = truthyText (some payload.provider) ∧
      token.partnerSlug = truthyText payload.partnerSlug
| _, _ => False

def brokerRules :
    GrantRules OAuthSession RedisValue AuthorizationJwt where
  Fits := FitsSession
  Yields := YieldsToken

abbrev BrokerEvent :=
  GrantEvent String OAuthSession String RedisValue Nat
    AuthorizationJwt

/-
  What an entry of a history is to the broker. A session
  with a code verifier is an old one that is written back.
-/
def grantEvent : ServiceEntry → Option BrokerEvent
| .answer _ ⟨.redisSet key (.session session) _, .ok _⟩ =>
    if session.codeVerifier = none then
      some (.asked key session)
    else
      none
| .answer _ ⟨.redisSet key (.code payload) _, .ok _⟩ =>
    some (.granted key (.code payload))
| .answer _ ⟨.redisSet key (.ticket payload) _, .ok _⟩ =>
    some (.granted key (.ticket payload))
| .answer thread ⟨.redisConsume key, some _⟩ =>
    some (.spent thread key)
| .respond thread (.ok (.token token)) =>
    some (.issued thread token)
| _ => none

/- The entries that are events, and of which kind. -/
theorem grantEvent_cases
    {entry : ServiceEntry}
    {event : BrokerEvent}
    (hEvent : grantEvent entry = some event) :
    (∃ thread key session ttl,
        entry =
            .answer thread
              ⟨.redisSet key (.session session) ttl, .ok ()⟩ ∧
          session.codeVerifier = none ∧
          event = .asked key session) ∨
      (∃ thread key value ttl,
        entry =
            .answer thread ⟨.redisSet key value ttl, .ok ()⟩ ∧
          value.isGrant ∧ event = .granted key value) ∨
      (∃ thread key value,
        entry =
            .answer thread ⟨.redisConsume key, some value⟩ ∧
          event = .spent thread key) ∨
      ∃ thread token,
        entry = .respond thread (.ok (.token token)) ∧
          event = .issued thread token := by
  unfold grantEvent at hEvent
  split at hEvent
  · next thread key session ttl done =>
      split at hEvent
      · next hNew =>
          cases hEvent
          exact
            Or.inl ⟨thread, key, session, ttl, rfl, hNew, rfl⟩
      · cases hEvent
  · next thread key payload ttl done =>
      cases hEvent
      exact
        Or.inr
          (Or.inl ⟨thread, key, _, ttl, rfl, trivial, rfl⟩)
  · next thread key payload ttl done =>
      cases hEvent
      exact
        Or.inr
          (Or.inl ⟨thread, key, _, ttl, rfl, trivial, rfl⟩)
  · next thread key value =>
      cases hEvent
      exact
        Or.inr (Or.inr (Or.inl ⟨thread, key, value, rfl, rfl⟩))
  · next thread token =>
      cases hEvent
      exact Or.inr (Or.inr (Or.inr ⟨thread, token, rfl, rfl⟩))
  · cases hEvent

theorem grantEvent_asked
    {entry : ServiceEntry}
    {key : String}
    {session : OAuthSession} :
    grantEvent entry = some (.asked key session) ↔
      session.codeVerifier = none ∧
        ∃ thread ttl,
          entry =
            .answer thread
              ⟨.redisSet key (.session session) ttl,
                .ok ()⟩ := by
  constructor
  · intro hEvent
    rcases grantEvent_cases hEvent with
      ⟨thread, _, _, ttl, rfl, hNew, hSame⟩ |
        ⟨_, _, _, _, _, _, hSame⟩ | ⟨_, _, _, _, hSame⟩ |
          ⟨_, _, _, hSame⟩
    · cases hSame
      exact ⟨hNew, thread, ttl, rfl⟩
    all_goals cases hSame
  · rintro ⟨hNew, thread, ttl, rfl⟩
    exact if_pos hNew

theorem grantEvent_granted
    {entry : ServiceEntry}
    {key : String}
    {value : RedisValue} :
    grantEvent entry = some (.granted key value) ↔
      value.isGrant ∧
        ∃ thread ttl,
          entry =
            .answer thread
              ⟨.redisSet key value ttl, .ok ()⟩ := by
  constructor
  · intro hEvent
    rcases grantEvent_cases hEvent with
      ⟨_, _, _, _, _, _, hSame⟩ |
        ⟨thread, _, _, ttl, rfl, hGrant, hSame⟩ |
          ⟨_, _, _, _, hSame⟩ | ⟨_, _, _, hSame⟩
    · cases hSame
    · cases hSame
      exact ⟨hGrant, thread, ttl, rfl⟩
    all_goals cases hSame
  · rintro ⟨hGrant, thread, ttl, rfl⟩
    cases value with
    | code payload => rfl
    | ticket payload => rfl
    | session session => exact hGrant.elim
    | challenge record => exact hGrant.elim
    | claimed => exact hGrant.elim
    | count hits => exact hGrant.elim

theorem grantEvent_spent
    {entry : ServiceEntry}
    {thread : Nat}
    {key : String} :
    grantEvent entry = some (.spent thread key) ↔
      ∃ value,
        entry =
          .answer thread ⟨.redisConsume key, some value⟩ := by
  constructor
  · intro hEvent
    rcases grantEvent_cases hEvent with
      ⟨_, _, _, _, _, _, hSame⟩ | ⟨_, _, _, _, _, _, hSame⟩ |
        ⟨_, _, value, rfl, hSame⟩ | ⟨_, _, _, hSame⟩
    · cases hSame
    · cases hSame
    · cases hSame
      exact ⟨value, rfl⟩
    · cases hSame
  · rintro ⟨value, rfl⟩
    rfl

theorem grantEvent_issued
    {entry : ServiceEntry}
    {thread : Nat}
    {token : AuthorizationJwt} :
    grantEvent entry = some (.issued thread token) ↔
      entry = .respond thread (.ok (.token token)) := by
  constructor
  · intro hEvent
    rcases grantEvent_cases hEvent with
      ⟨_, _, _, _, _, _, hSame⟩ | ⟨_, _, _, _, _, _, hSame⟩ |
        ⟨_, _, _, _, hSame⟩ | ⟨_, _, rfl, hSame⟩
    · cases hSame
    · cases hSame
    · cases hSame
    · cases hSame
      rfl
  · rintro rfl
    rfl

/- The events of a history, newest first. -/
def brokerEvents (history : History) : List BrokerEvent :=
  history.filterMap grantEvent

variable {history : History}

theorem mem_brokerEvents
    {event : BrokerEvent} :
    event ∈ brokerEvents history ↔
      ∃ entry ∈ history, grantEvent entry = some event :=
  List.mem_filterMap

end KisAuth

------------------------------------------------------------
-- Each Event
------------------------------------------------------------

namespace KisAuth

open Interaction

variable {P : Platform} {cfg : KisAuthConfig}
variable {history earlier : History} {thread : Nat}

/- A created session was asked for. -/
theorem Minted.asked
    {query : AuthorizeQuery}
    {sessionId : String}
    {created : OAuthSession}
    (hMinted :
      Minted P cfg history thread query sessionId created) :
    .asked (sessionKey sessionId) created ∈
      brokerEvents history := by
  rcases hMinted.position with
    ⟨later, before, ttl, req, hSplit, _, hCreated⟩
  apply mem_brokerEvents.mpr
  refine
    ⟨_, ?_,
      grantEvent_asked.mpr
        ⟨hCreated.codeVerifier, thread, ttl, rfl⟩⟩
  rw [hSplit]
  exact List.mem_append_right _ List.mem_cons_self

/- The session of a callback was asked for. -/
theorem asked_of_read
    {sessionId : String}
    {session : OAuthSession}
    (hRecorded : Recorded P cfg history)
    (hRead :
      Entry.answer thread
          ⟨.redisGet (sessionKey sessionId),
            some (.session session)⟩ ∈
        history) :
    ∃ created,
      .asked (sessionKey sessionId) created ∈
          brokerEvents history ∧
        SameSession session created := by
  rcases session_read_origin hRecorded hRead with
    ⟨minter, query, created, hMinted, hSame⟩
  exact ⟨created, hMinted.asked, hSame⟩

/- A session is asked for under a new name. -/
theorem asked_new
    {key : String}
    {session : OAuthSession}
    {ttl : ℚ}
    (hRecorded :
      Recorded P cfg
        (.answer thread
            ⟨.redisSet key (.session session) ttl, .ok ()⟩ ::
          earlier))
    (hNew : session.codeVerifier = none)
    (other : OAuthSession) :
    GrantEvent.asked key other ∉ brokerEvents earlier := by
  intro hAsked
  rcases hRecorded.step_head with ⟨q, hStep⟩
  rcases hStep.allowed with
    ⟨sessionId, rfl, ⟨query, req, rfl, hCreated⟩ | hRestarted⟩
  · rcases mem_brokerEvents.mp hAsked with
      ⟨entry, hMem, hEvent⟩
    rcases grantEvent_asked.mp hEvent with
      ⟨_, writer, ttl', rfl⟩
    exact
      unwritten_before_creation hRecorded hStep.arrived
        hCreated writer other ttl' hMem
  · rcases hRestarted.read with ⟨old, codeVerifier, _, rfl⟩
    cases hNew

/- What fits a session fits the session as it was created. -/
theorem FitsSession.created
    {session created : OAuthSession}
    {value : RedisValue}
    (hFits : FitsSession session value)
    (hSame : SameSession session created) :
    FitsSession created value := by
  rcases hSame.fields with
    ⟨hClient, hRedirect, hPurpose, _, _, hUser, hSlug⟩
  cases value with
  | code payload =>
      unfold FitsSession at hFits ⊢
      rw [← hClient, ← hRedirect, ← hPurpose, ← hUser]
      exact hFits
  | ticket payload =>
      unfold FitsSession at hFits ⊢
      rw [← hClient, ← hRedirect, ← hPurpose, ← hSlug]
      exact hFits
  | session session => exact hFits
  | challenge record => exact hFits
  | claimed => exact hFits
  | count hits => exact hFits

/- A code or ticket fits the session its callback read. -/
theorem granted_read
    {key : String}
    {value : RedisValue}
    {ttl : ℚ}
    {q : Request}
    (hStep :
      Step P cfg earlier thread q
        ⟨.redisSet key value ttl, .ok ()⟩)
    (hGrant : value.isGrant) :
    ∃ sessionId session,
      ⟨.redisGet (sessionKey sessionId),
          some (.session session)⟩ ∈
          answersOf thread earlier ∧
        FitsSession session value := by
  have hAllowed := hStep.allowed
  cases value with
  | code payload =>
      rcases hAllowed with
        ⟨callback, sessionId, session, token, _, hIssued⟩
      have hEntitled := code_entitled hStep.recorded hIssued
      refine
        ⟨sessionId, session, hIssued.verified.reads.read,
          hEntitled.clientId, hEntitled.redirectUri,
          hEntitled.purpose, hEntitled.registered, ?_⟩
      intro hLink
      rcases hEntitled.row with
        ⟨row, _, ⟨_, hUser, _⟩ | ⟨hOther, _⟩⟩
      · exact hUser
      · exact absurd hLink hOther
  | ticket payload =>
      rcases hAllowed with
        ⟨callback, sessionId, session, token, _, hIssued⟩
      refine
        ⟨sessionId, session, hIssued.verified.reads.read,
          hIssued.clientId, hIssued.redirectUri,
          hIssued.purpose, ?_, ?_⟩
      · intro hNone
        rw [hIssued.partnerSlug] at hNone
        rw [hIssued.registration, Callback.registrationPurpose,
          hNone]
      · intro partnerSlug hSlug
        rw [hIssued.partnerSlug] at hSlug
        refine ⟨?_, hIssued.verified.tenant _ hSlug⟩
        rw [hIssued.registration, Callback.registrationPurpose,
          hSlug]
  | session session => exact hGrant.elim
  | challenge record => exact hGrant.elim
  | claimed => exact hGrant.elim
  | count hits => exact hGrant.elim

/- A code or ticket fits a session that was asked for. -/
theorem granted_fits
    {key : String}
    {value : RedisValue}
    {ttl : ℚ}
    (hRecorded :
      Recorded P cfg
        (.answer thread ⟨.redisSet key value ttl, .ok ()⟩ ::
          earlier))
    (hGrant : value.isGrant) :
    ∃ name created,
      .asked name created ∈ brokerEvents earlier ∧
        FitsSession created value := by
  rcases hRecorded.step_head with ⟨q, hStep⟩
  rcases granted_read hStep hGrant with
    ⟨sessionId, session, hRead, hFits⟩
  rcases asked_of_read hStep.recorded (mem_of_past hRead) with
    ⟨created, hAsked, hSame⟩
  exact ⟨_, created, hAsked, hFits.created hSame⟩

/- The family and text a grant is stored under. -/
theorem grant_key
    {key : String}
    {value : RedisValue}
    {ttl : ℚ}
    (hRecorded :
      Recorded P cfg
        (.answer thread ⟨.redisSet key value ttl, .ok ()⟩ ::
          earlier))
    (hGrant : value.isGrant) :
    ∃ family code,
      family.holdsGrants ∧ key = storeKey family code := by
  have hSplit :
      Entry.answer thread ⟨.redisSet key value ttl, .ok ()⟩ ::
          earlier =
        [] ++
          .answer thread ⟨.redisSet key value ttl, .ok ()⟩ ::
            earlier :=
    rfl
  rcases granted_of_write hRecorded hSplit hGrant with
    ⟨callback, code, _, _, _, hKey, _⟩
  rw [grantKey_eq] at hKey
  refine ⟨grantFamily value, code, ?_, hKey⟩
  cases value with
  | code payload => exact Or.inl rfl
  | ticket payload => exact Or.inr rfl
  | session session => exact hGrant.elim
  | challenge record => exact hGrant.elim
  | claimed => exact hGrant.elim
  | count hits => exact hGrant.elim

/- It is granted under a new code. -/
theorem granted_new
    {key : String}
    {value : RedisValue}
    {ttl : ℚ}
    (hRecorded :
      Recorded P cfg
        (.answer thread ⟨.redisSet key value ttl, .ok ()⟩ ::
          earlier))
    (hGrant : value.isGrant)
    (other : RedisValue) :
    GrantEvent.granted key other ∉ brokerEvents earlier := by
  intro hGranted
  rcases grant_key hRecorded hGrant with
    ⟨family, code, hFamily, rfl⟩
  rcases mem_brokerEvents.mp hGranted with
    ⟨entry, hMem, hEvent⟩
  rcases grantEvent_granted.mp hEvent with
    ⟨_, writer, ttl', rfl⟩
  rcases List.append_of_mem hMem with ⟨newer, older, rfl⟩
  have hTouch :
      ∀ writer value ttl,
        touch
            (.answer writer
              ⟨.redisSet (storeKey family code) value ttl,
                .ok ()⟩)
            (storeKey family code) =
          some (some value) := by
    simp [touch, touchOf]
  have hSame :=
    issued_unique hRecorded (List.nil_append _).symm
      (List.cons_append ..).symm hFamily hFamily
      (hTouch thread value ttl) (hTouch writer other ttl')
  have hLength := congrArg List.length hSame.2
  simp only [List.length_append, List.length_cons] at hLength
  omega

/- What is consumed was granted before. -/
theorem granted_before_spent
    {key : String}
    {value : RedisValue}
    (hRecorded :
      Recorded P cfg
        (.answer thread ⟨.redisConsume key, some value⟩ ::
          earlier)) :
    ∃ grant, .granted key grant ∈ brokerEvents earlier := by
  rcases hRecorded.step_head with ⟨q, hStep⟩
  rcases hStep.allowed with
    ⟨route, family, post, code, hRedeems, _, _, rfl⟩
  have hFamily := redeems_holdsGrants hRedeems
  have hStored := hStep.faithful value rfl
  rcases (issued_of_stored hStep.recorded hFamily
      hStored).touched with
    ⟨later, entry, before, granted, rfl, hTouch⟩
  rcases grant_of_touch hStep.recorded hFamily hTouch with
    ⟨rfl, writer, callback, sessionId, session, token,
      hGranted⟩
  rcases hGranted.split with ⟨later', ttl, hSplit⟩
  refine ⟨granted, mem_brokerEvents.mpr ?_⟩
  refine
    ⟨_, ?_,
      grantEvent_granted.mpr
        ⟨hGranted.grant, writer, ttl, rfl⟩⟩
  rw [hSplit, grantKey_eq]
  exact List.mem_append_right _ List.mem_cons_self

/- It was not consumed before. -/
theorem unspent_before
    {key : String}
    {value : RedisValue}
    (hRecorded :
      Recorded P cfg
        (.answer thread ⟨.redisConsume key, some value⟩ ::
          earlier))
    (other : Nat) :
    GrantEvent.spent other key ∉ brokerEvents earlier := by
  intro hSpent
  rcases hRecorded.step_head with ⟨q, hStep⟩
  rcases hStep.allowed with
    ⟨route, family, post, code, hRedeems, _, _, rfl⟩
  have hFamily := redeems_holdsGrants hRedeems
  rcases mem_brokerEvents.mp hSpent with
    ⟨entry, hMem, hEvent⟩
  rcases grantEvent_spent.mp hEvent with ⟨found, rfl⟩
  rcases List.append_of_mem hMem with ⟨newer, older, rfl⟩
  have hOlder :
      Recorded P cfg
        (.answer other
            ⟨.redisConsume (storeKey family code),
              some found⟩ ::
          older) :=
    Recorded.drop hStep.recorded
  rcases hOlder.step_head with ⟨q', hStep'⟩
  have hIssued :=
    issued_of_stored hStep'.recorded hFamily
      (hStep'.faithful found rfl)
  rw [← List.cons_append] at hRecorded
  exact
    not_consumed_later hRecorded hFamily hFamily hIssued
      List.mem_cons_self

/- A request consumes one code or ticket. -/
theorem holds_nothing_before
    {key : String}
    {value : RedisValue}
    (hRecorded :
      Recorded P cfg
        (.answer thread ⟨.redisConsume key, some value⟩ ::
          earlier))
    (other : String) :
    GrantEvent.spent thread other ∉ brokerEvents earlier := by
  intro hSpent
  have hUnspent := unspent_before hRecorded thread
  rcases hRecorded.step_head with ⟨q, hStep⟩
  rcases mem_brokerEvents.mp hSpent with
    ⟨entry, hMem, hEvent⟩
  rcases grantEvent_spent.mp hEvent with ⟨found, rfl⟩
  rcases hStep.recorded.step_of_arrive hStep.arrived hMem with
    ⟨later, before, _, _, hStep'⟩
  rcases hStep.allowed with
    ⟨route, family, post, code, hRedeems, _, hNamed, rfl⟩
  rcases hStep'.allowed with
    ⟨route', family', post', code', hRedeems', _, hNamed', rfl⟩
  rw [hRedeems] at hRedeems'
  cases hRedeems'
  rw [hNamed] at hNamed'
  cases hNamed'
  exact hUnspent hSpent

/- A token is issued for what its request holds. -/
theorem issued_for_spent
    {token : AuthorizationJwt}
    (hRecorded :
      Recorded P cfg
        (.respond thread (.ok (.token token)) :: earlier)) :
    ∃ key grant,
      .spent thread key ∈ brokerEvents earlier ∧
        .granted key grant ∈ brokerEvents earlier ∧
        YieldsToken grant token := by
  have hHead :
      Recorded P cfg
        ([] ++ .respond thread (.ok (.token token)) ::
          earlier) :=
    hRecorded
  rcases hHead.ended with ⟨q, hEarlier, _, hOutcome⟩
  have hFound :
      ∀ key grant,
        grant.isGrant → grant.isRecord →
          ⟨.redisConsume key, some grant⟩ ∈
            answersOf thread earlier →
            .spent thread key ∈ brokerEvents earlier ∧
              .granted key grant ∈ brokerEvents earlier := by
    intro key grant hGrant hRecord hConsumed
    have hMem := mem_of_past hConsumed
    rcases written_of_consumed hEarlier hMem hRecord with
      ⟨writer, ttl, hWritten⟩
    constructor
    · exact
        mem_brokerEvents.mpr
          ⟨_, hMem, grantEvent_spent.mpr ⟨grant, rfl⟩⟩
    · exact
        mem_brokerEvents.mpr
          ⟨_, hWritten,
            grantEvent_granted.mpr ⟨hGrant, writer, ttl, rfl⟩⟩
  rcases hOutcome.2 with
    ⟨post, code, payload, identity, rfl, hRedeemed⟩ |
      ⟨post, code, payload, rfl, hRedeemed⟩
  · rcases hFound (codeKey code) (.code payload) trivial trivial
        hRedeemed.consumed with
      ⟨hSpent, hGranted⟩
    exact
      ⟨_, _, hSpent, hGranted, hRedeemed.aud,
        hRedeemed.purpose, hRedeemed.sub,
        hRedeemed.authIdentityId, hRedeemed.providerSubject⟩
  · rcases hFound (regTicketKey code) (.ticket payload) trivial
        trivial hRedeemed.consumed with
      ⟨hSpent, hGranted⟩
    exact
      ⟨_, _, hSpent, hGranted, hRedeemed.aud,
        hRedeemed.purpose, hRedeemed.sub,
        hRedeemed.authIdentityId, hRedeemed.providerSubject,
        hRedeemed.provider, hRedeemed.partnerSlug⟩

end KisAuth

------------------------------------------------------------
-- The Refinement
------------------------------------------------------------

namespace KisAuth

open Interaction

variable {P : Platform} {cfg : KisAuthConfig}

/-
  A recorded history is a run of the broker. The induction
  is on the history, whose newest entry is no event or one
  that the broker's state permits.
-/
theorem broker_run
    {history : History}
    (hRecorded : Recorded P cfg history) :
    ∃ state,
      GrantRun brokerRules (brokerEvents history) state := by
  induction history with
  | nil => exact ⟨_, .init⟩
  | cons entry earlier ih =>
      rcases ih hRecorded.tail with ⟨state, hRun⟩
      cases hEvent : grantEvent entry with
      | none =>
          rw [brokerEvents, List.filterMap_cons_none hEvent]
          exact ⟨state, hRun⟩
      | some event =>
          rw [brokerEvents, List.filterMap_cons_some hEvent]
          cases event with
          | asked key session =>
              rcases grantEvent_asked.mp hEvent with
                ⟨hNew, thread, ttl, rfl⟩
              exact hRun.ask (asked_new hRecorded hNew)
          | granted key value =>
              rcases grantEvent_granted.mp hEvent with
                ⟨hGrant, thread, ttl, rfl⟩
              rcases granted_fits hRecorded hGrant with
                ⟨name, created, hAsked, hFits⟩
              exact
                hRun.grant hAsked hFits
                  (granted_new hRecorded hGrant)
          | spent thread key =>
              rcases grantEvent_spent.mp hEvent with
                ⟨value, rfl⟩
              rcases granted_before_spent hRecorded with
                ⟨grant, hGranted⟩
              exact
                hRun.spend hGranted (unspent_before hRecorded)
                  (holds_nothing_before hRecorded)
          | issued thread token =>
              rw [grantEvent_issued] at hEvent
              subst hEvent
              rcases issued_for_spent hRecorded with
                ⟨key, grant, hSpent, hGranted, hYields⟩
              apply hRun.issue hSpent hGranted hYields
              intro other hIssued
              rcases mem_brokerEvents.mp hIssued with
                ⟨entry, hMem, hOther⟩
              rw [grantEvent_issued] at hOther
              subst hOther
              exact hRecorded.conforms.1.1 _ hMem

end KisAuth

------------------------------------------------------------
-- The Broker's View Of The Store
------------------------------------------------------------

namespace KisAuth

open Interaction Store

abbrev BrokerState :=
  GrantState String OAuthSession String RedisValue Nat

/-
  A stored session was asked for, and a stored code or ticket
  is a grant that is not spent.
-/
structure BrokerSees
    (redis : Expiring String RedisValue)
    (state : BrokerState) : Prop where
  sessions :
    ∀ sessionId session deadline,
      redis (sessionKey sessionId) =
          some ⟨.session session, deadline⟩ →
        ∃ created,
          state.asks (sessionKey sessionId) = some created ∧
            SameSession session created
  grants :
    ∀ family code item,
      family.holdsGrants →
        redis (storeKey family code) = some item →
          state.grants (storeKey family code) =
              some item.value ∧
            state.isSpent (storeKey family code) = false

variable {P : Platform} {cfg : KisAuthConfig}
variable {history : History}

/- What is stored as a code or ticket was granted so. -/
theorem granted_of_stored
    {family : KeyFamily}
    {code : String}
    {value : RedisValue}
    (hRecorded : Recorded P cfg history)
    (hFamily : family.holdsGrants)
    (hStored :
      stored history (storeKey family code) = some value) :
    .granted (storeKey family code) value ∈
      brokerEvents history := by
  rcases lastWrite_eq_some hStored with
    ⟨later, entry, earlier, rfl, hTouch, _⟩
  rcases grant_of_touch hRecorded hFamily hTouch with
    ⟨rfl, writer, callback, sessionId, session, token,
      hGranted⟩
  rcases hGranted.split with ⟨later', ttl, hSplit⟩
  rw [hSplit, ← grantKey_eq]
  apply mem_brokerEvents.mpr
  exact
    ⟨_, List.mem_append_right _ List.mem_cons_self,
      grantEvent_granted.mpr
        ⟨hGranted.grant, writer, ttl, rfl⟩⟩

/- And it has not been consumed. -/
theorem unspent_of_stored
    {family : KeyFamily}
    {code : String}
    {value : RedisValue}
    (hRecorded : Recorded P cfg history)
    (hFamily : family.holdsGrants)
    (hStored :
      stored history (storeKey family code) = some value)
    (thread : Nat) :
    GrantEvent.spent thread (storeKey family code) ∉
      brokerEvents history := by
  intro hSpent
  rcases mem_brokerEvents.mp hSpent with
    ⟨entry, hMem, hEvent⟩
  rcases grantEvent_spent.mp hEvent with ⟨found, rfl⟩
  rcases List.append_of_mem hMem with ⟨later, earlier, rfl⟩
  have hHead :
      Recorded P cfg
        (.answer thread
            ⟨.redisConsume (storeKey family code),
              some found⟩ ::
          earlier) :=
    Recorded.drop hRecorded
  rcases hHead.step_head with ⟨q, hStep⟩
  have hIssued :=
    issued_of_stored hStep.recorded hFamily
      (hStep.faithful found rfl)
  rw [stored_spent hRecorded hFamily hIssued] at hStored
  cases hStored

/-
  Every run of the service is a run of the broker, and what
  is in its store the broker knows of.
-/
theorem service_refines_broker (run : Run P cfg) :
    ∃ state : BrokerState,
      GrantRun brokerRules (brokerEvents run.history) state ∧
        BrokerSees run.state.world.redis state := by
  have hRecorded := run.recorded
  have hMirrors := run.mirrors.redis
  rcases broker_run hRecorded with ⟨state, hRun⟩
  refine ⟨state, hRun, ?_, ?_⟩
  · intro sessionId session deadline hItem
    have hStored := hMirrors _ _ hItem
    rcases session_origin hRecorded hStored with
      ⟨minter, query, created, hMinted, hSame⟩
    refine ⟨created, ?_, hSame⟩
    rw [hRun.told.asks]
    exact hMinted.asked
  · intro family code item hFamily hItem
    have hStored := hMirrors _ _ hItem
    constructor
    · rw [hRun.told.grants]
      exact granted_of_stored hRecorded hFamily hStored
    · rw [← Bool.not_eq_true, hRun.told.isSpent]
      rintro ⟨thread, hSpent⟩
      exact
        unspent_of_stored hRecorded hFamily hStored thread
          hSpent

end KisAuth

------------------------------------------------------------
-- Tokens And Their Grants
------------------------------------------------------------

namespace KisAuth

open Interaction

/- A code or ticket for a client and a purpose. -/
def RedisValue.isFor
    (clientId purpose : String) : RedisValue → Bool
| .code payload =>
    payload.clientId == clientId && payload.purpose == purpose
| .ticket payload =>
    payload.clientId == clientId && payload.purpose == purpose
| _ => false

def AuthorizationJwt.isFor
    (clientId purpose : String)
    (token : AuthorizationJwt) : Bool :=
  token.aud == clientId && token.purpose == purpose

/- The requests that were answered with such a token. -/
def tokenFor
    (clientId purpose : String) : ServiceEntry → Option Nat
| .respond thread (.ok (.token token)) =>
    if token.isFor clientId purpose then some thread else none
| _ => none

/- The consumptions of such a code or ticket. -/
def consumedFor
    (clientId purpose : String) :
    ServiceEntry → Option (Nat × String)
| .answer thread ⟨.redisConsume key, some value⟩ =>
    if value.isFor clientId purpose then some (thread, key)
    else none
| _ => none

/- The keys such codes and tickets were stored under. -/
def storedFor
    (clientId purpose : String) : ServiceEntry → Option String
| .answer _ ⟨.redisSet key value _, .ok _⟩ =>
    if value.isFor clientId purpose then some key else none
| _ => none

/-
  Every token goes back to a session that was asked for, and
  there are no more tokens for a client and a purpose than
  codes and tickets for them were consumed, and no more of
  these than were stored.
-/
structure TokensConserved (history : History) : Prop where
  traced : Always (Traced brokerRules) (brokerEvents history)
  consumed :
    ∀ clientId purpose,
      (history.filterMap (tokenFor clientId purpose)).length ≤
        (history.filterMap
          (consumedFor clientId purpose)).length
  stored :
    ∀ clientId purpose,
      (history.filterMap
            (consumedFor clientId purpose)).length ≤
        (history.filterMap (storedFor clientId purpose)).length

variable {P : Platform} {cfg : KisAuthConfig}
variable {history : History} {clientId purpose : String}

/- A token is for what its code or ticket is for. -/
theorem isFor_of_yields
    (clientId purpose : String)
    (grant : RedisValue)
    (token : AuthorizationJwt)
    (hYields : YieldsToken grant token)
    (hFor : token.isFor clientId purpose = true) :
    grant.isFor clientId purpose = true := by
  cases grant with
  | code payload =>
      rw [AuthorizationJwt.isFor, hYields.1, hYields.2.1]
        at hFor
      exact hFor
  | ticket payload =>
      rw [AuthorizationJwt.isFor, hYields.1, hYields.2.1]
        at hFor
      exact hFor
  | session session => exact hYields.elim
  | challenge record => exact hYields.elim
  | claimed => exact hYields.elim
  | count hits => exact hYields.elim

theorem tokenFor_eq (entry : ServiceEntry) :
    (grantEvent entry).bind
        (GrantEvent.issuedFor
          (AuthorizationJwt.isFor clientId purpose)) =
      tokenFor clientId purpose entry := by
  cases hToken : tokenFor clientId purpose entry with
  | some thread =>
      unfold tokenFor at hToken
      split at hToken
      · exact hToken
      · cases hToken
  | none =>
      rw [Option.bind_eq_none_iff]
      intro event hEvent
      cases event with
      | issued thread token =>
          rw [grantEvent_issued] at hEvent
          subst hEvent
          exact hToken
      | asked key session => rfl
      | granted key value => rfl
      | spent thread key => rfl

theorem storedFor_eq (entry : ServiceEntry) :
    (grantEvent entry).bind
        (GrantEvent.grantedFor
          (RedisValue.isFor clientId purpose)) =
      storedFor clientId purpose entry := by
  cases hStored : storedFor clientId purpose entry with
  | some key =>
      unfold storedFor at hStored
      split at hStored
      · next thread key' value ttl done =>
          cases value with
          | code payload => exact hStored
          | ticket payload => exact hStored
          | session session => cases hStored
          | challenge record => cases hStored
          | claimed => cases hStored
          | count hits => cases hStored
      · cases hStored
  | none =>
      rw [Option.bind_eq_none_iff]
      intro event hEvent
      cases event with
      | granted key value =>
          rcases grantEvent_granted.mp hEvent with
            ⟨_, thread, ttl, rfl⟩
          exact hStored
      | asked key session => rfl
      | issued thread token => rfl
      | spent thread key => rfl

/- A consumption is answered with the grant it spends. -/
theorem granted_of_consumed
    {thread : Nat}
    {key : String}
    {value : RedisValue}
    (hRecorded : Recorded P cfg history)
    (hMem :
      Entry.answer thread ⟨.redisConsume key, some value⟩ ∈
        history) :
    .granted key value ∈ brokerEvents history := by
  rcases hRecorded.step hMem with
    ⟨later, earlier, q, rfl, hStep⟩
  rcases hStep.allowed with
    ⟨route, family, post, code, hRedeems, _, _, rfl⟩
  have hGranted :=
    granted_of_stored hStep.recorded
      (redeems_holdsGrants hRedeems)
      (hStep.faithful value rfl)
  rcases mem_brokerEvents.mp hGranted with
    ⟨entry, hEntry, hEvent⟩
  exact
    mem_brokerEvents.mpr
      ⟨entry,
        List.mem_append_right _
          (List.mem_cons_of_mem _ hEntry),
        hEvent⟩

theorem consumedFor_eq
    {state : BrokerState}
    (hRecorded : Recorded P cfg history)
    (hRun : GrantRun brokerRules (brokerEvents history) state)
    {entry : ServiceEntry}
    (hMem : entry ∈ history) :
    (grantEvent entry).bind
        (GrantEvent.spentFor state
          (RedisValue.isFor clientId purpose)) =
      consumedFor clientId purpose entry := by
  have hSpends :
      ∀ thread key value,
        entry =
            .answer thread ⟨.redisConsume key, some value⟩ →
          GrantEvent.spentFor state
              (RedisValue.isFor clientId purpose)
              (.spent thread key : BrokerEvent) =
            consumedFor clientId purpose entry := by
    rintro thread key value rfl
    have hGrant :=
      (hRun.told.grants key value).mpr
        (granted_of_consumed hRecorded hMem)
    simp only [GrantEvent.spentFor, hGrant, Option.any_some]
    rfl
  cases hConsumed : consumedFor clientId purpose entry with
  | some consumption =>
      have hEntry := hConsumed
      unfold consumedFor at hEntry
      split at hEntry
      · next thread key value =>
          rw [← hConsumed]
          exact hSpends thread key value rfl
      · cases hEntry
  | none =>
      rw [Option.bind_eq_none_iff]
      intro event hEvent
      cases event with
      | spent thread key =>
          rcases grantEvent_spent.mp hEvent with ⟨value, hSame⟩
          rw [hSpends thread key value hSame]
          exact hConsumed
      | asked key session => rfl
      | granted key value => rfl
      | issued thread token => rfl

/-
  Tokens are conserved: none comes from nowhere, and none
  comes twice from one code or ticket.
-/
theorem tokens_conserved (run : Run P cfg) :
    TokensConserved run.history := by
  have hRecorded := run.recorded
  rcases broker_run hRecorded with ⟨state, hRun⟩
  have hCounts :
      ∀ clientId purpose,
        (run.history.filterMap
              (tokenFor clientId purpose)).length ≤
            (run.history.filterMap
              (consumedFor clientId purpose)).length ∧
          (run.history.filterMap
                (consumedFor clientId purpose)).length ≤
            (run.history.filterMap
              (storedFor clientId purpose)).length := by
    intro clientId purpose
    have hLe :=
      hRun.issued_le_granted (isFor_of_yields clientId purpose)
    simp only [brokerEvents, List.filterMap_filterMap] at hLe
    rw [List.filterMap_congr
        (fun entry _ => tokenFor_eq entry),
      List.filterMap_congr
        (fun entry hMem => consumedFor_eq hRecorded hRun hMem),
      List.filterMap_congr
        (fun entry _ => storedFor_eq entry)] at hLe
    exact hLe
  exact
    { traced := hRun.traced
      consumed := fun clientId purpose =>
        (hCounts clientId purpose).1
      stored := fun clientId purpose =>
        (hCounts clientId purpose).2 }

end KisAuth
