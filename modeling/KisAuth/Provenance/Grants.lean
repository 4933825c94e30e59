import KisAuth.Provenance.Identities
import KisAuth.Provenance.Sessions

/-
  Authorization codes and registration tickets: which
  callback issued them, and what for.

  Key definitions include:
    * `CodeGranted`, `TicketGranted`, `Entitled`

  Key theorems include:
    * `code_origin`, `ticket_origin`
    * `code_entitled`
    * `grant_unique`
-/

------------------------------------------------------------
-- Origins Of Codes And Tickets
------------------------------------------------------------

namespace KisAuth

open Interaction Store

/- A callback issued the code, at this point of the history. -/
structure CodeGranted
    (P : Platform)
    (cfg : KisAuthConfig)
    (history : History)
    (thread : Nat)
    (callback : Callback)
    (code : String)
    (payload : AuthorizationCodePayload)
    (sessionId : String)
    (session : OAuthSession)
    (token : VerifiedIdToken)
    (later earlier : History) : Prop where
  split :
    ∃ ttl,
      history =
        later ++
          .answer thread
              ⟨.redisSet (codeKey code) (.code payload) ttl,
                .ok ()⟩ ::
            earlier
  arrived :
    ∃ q, Entry.arrive thread q ∈ earlier ∧
      q.callback = some callback
  issued :
    CodeIssued P cfg callback (answersOf thread earlier)
      (codeKey code) payload sessionId session token

/- A callback issued the ticket. -/
structure TicketGranted
    (P : Platform)
    (cfg : KisAuthConfig)
    (history : History)
    (thread : Nat)
    (callback : Callback)
    (code : String)
    (payload : RegistrationTicketPayload)
    (sessionId : String)
    (session : OAuthSession)
    (token : VerifiedIdToken)
    (later earlier : History) : Prop where
  split :
    ∃ ttl,
      history =
        later ++
          .answer thread
              ⟨.redisSet (regTicketKey code)
                (.ticket payload) ttl, .ok ()⟩ ::
            earlier
  arrived :
    ∃ q, Entry.arrive thread q ∈ earlier ∧
      q.callback = some callback
  issued :
    TicketIssued P cfg callback (answersOf thread earlier)
      (regTicketKey code) payload sessionId session token

variable {P : Platform} {cfg : KisAuthConfig}
variable {history : History}

/- A stored code was issued by a callback. -/
theorem code_origin
    {code : String}
    {payload : AuthorizationCodePayload}
    (hRecorded : Recorded P cfg history)
    (hStored :
      stored history (codeKey code) =
        some (.code payload)) :
    ∃ thread callback sessionId session token later earlier,
      CodeGranted P cfg history thread callback code payload
        sessionId session token later earlier := by
  rcases stored_origin hRecorded hStored trivial with
    ⟨later, earlier, thread, ttl, q, hSplit, hStep⟩
  rcases hStep.allowed with
    ⟨callback, sessionId, session, token, hCallback,
      hIssued⟩
  exact
    ⟨thread, callback, sessionId, session, token, later,
      earlier, ⟨ttl, hSplit⟩, ⟨q, hStep.arrived, hCallback⟩,
      hIssued⟩

/- A stored ticket was issued by a callback. -/
theorem ticket_origin
    {code : String}
    {payload : RegistrationTicketPayload}
    (hRecorded : Recorded P cfg history)
    (hStored :
      stored history (regTicketKey code) =
        some (.ticket payload)) :
    ∃ thread callback sessionId session token later earlier,
      TicketGranted P cfg history thread callback code
        payload sessionId session token later earlier := by
  rcases stored_origin hRecorded hStored trivial with
    ⟨later, earlier, thread, ttl, q, hSplit, hStep⟩
  rcases hStep.allowed with
    ⟨callback, sessionId, session, token, hCallback,
      hIssued⟩
  exact
    ⟨thread, callback, sessionId, session, token, later,
      earlier, ⟨ttl, hSplit⟩, ⟨q, hStep.arrived, hCallback⟩,
      hIssued⟩

/- A code that was consumed was issued before. -/
theorem consumed_code_origin
    {redeemer : Nat}
    {code : String}
    {payload : AuthorizationCodePayload}
    (hRecorded : Recorded P cfg history)
    (hConsumed :
      Entry.answer redeemer
          ⟨.redisConsume (codeKey code),
            some (.code payload)⟩ ∈ history) :
    ∃ rest earlier issuer q callback sessionId session token,
      history = rest ++ earlier ∧
        Recorded P cfg earlier ∧
        Entry.arrive issuer q ∈ earlier ∧
        q.callback = some callback ∧
        CodeIssued P cfg callback (answersOf issuer earlier)
          (codeKey code) payload sessionId session token := by
  rcases stored_of_consumed hRecorded hConsumed with
    ⟨later, before, rfl, hBefore, hStored⟩
  rcases code_origin hBefore hStored with
    ⟨issuer, callback, sessionId, session, token, middle,
      earlier, hGranted⟩
  rcases hGranted.split with ⟨ttl, rfl⟩
  rcases hGranted.arrived with ⟨q, hArrive, hCallback⟩
  refine
    ⟨later ++
        .answer redeemer
            ⟨.redisConsume (codeKey code),
              some (.code payload)⟩ ::
          (middle ++
            [.answer issuer
              ⟨.redisSet (codeKey code) (.code payload) ttl,
                .ok ()⟩]),
      earlier, issuer, q, callback, sessionId, session, token,
      ?_, hBefore.drop.tail, hArrive, hCallback,
      hGranted.issued⟩
  simp

/- A ticket that was consumed was stored by a callback. -/
theorem consumed_ticket_origin
    {redeemer : Nat}
    {code : String}
    {payload : RegistrationTicketPayload}
    (hRecorded : Recorded P cfg history)
    (hConsumed :
      Entry.answer redeemer
          ⟨.redisConsume (regTicketKey code),
            some (.ticket payload)⟩ ∈ history) :
    ∃ since middle earlier issuer ttl q callback sessionId
        session token,
      history =
          since ++
            .answer redeemer
                ⟨.redisConsume (regTicketKey code),
                  some (.ticket payload)⟩ ::
              (middle ++
                .answer issuer
                    ⟨.redisSet (regTicketKey code)
                      (.ticket payload) ttl, .ok ()⟩ ::
                  earlier) ∧
        Recorded P cfg earlier ∧
        Entry.arrive issuer q ∈ earlier ∧
        q.callback = some callback ∧
        TicketIssued P cfg callback (answersOf issuer earlier)
          (regTicketKey code) payload sessionId session
          token := by
  rcases stored_of_consumed hRecorded hConsumed with
    ⟨since, before, rfl, hBefore, hStored⟩
  rcases ticket_origin hBefore hStored with
    ⟨issuer, callback, sessionId, session, token, middle,
      earlier, hGranted⟩
  rcases hGranted.split with ⟨ttl, rfl⟩
  rcases hGranted.arrived with ⟨q, hArrive, hCallback⟩
  exact
    ⟨since, middle, earlier, issuer, ttl, q, callback,
      sessionId, session, token, rfl, hBefore.drop.tail,
      hArrive, hCallback, hGranted.issued⟩

end KisAuth

------------------------------------------------------------
-- What A Code Stands For
------------------------------------------------------------

namespace KisAuth

open Interaction Store

/-
  A code carries its session's purpose, client and redirect
  URI, and the user of the row its callback was answered.
-/
structure Entitled
    (callback : Callback)
    (past : Past)
    (session : OAuthSession)
    (token : VerifiedIdToken)
    (payload : AuthorizationCodePayload) : Prop where
  purpose : payload.purpose = session.purpose
  clientId : payload.clientId = session.clientId
  redirectUri : payload.redirectUri = session.redirectUri
  named : payload.kisUserId ≠ ""
  registered : session.purpose ≠ "registration"
  row :
    ∃ row : AuthIdentity,
      payload.authIdentityId = row.id ∧
        ((session.purpose = "link" ∧
            session.linkKisUserId = some payload.kisUserId ∧
            LinkedRow past callback.provider
              (callback.subject token.sub) payload.kisUserId
              row) ∨
          (session.purpose ≠ "link" ∧
            row.kisUserId = payload.kisUserId ∧
            ⟨.selectIdentity callback.provider
                (callback.subject token.sub),
              .ok (some row)⟩ ∈ past))

variable {P : Platform} {cfg : KisAuthConfig}
variable {history : History}

/- What a confirmed challenge and its payload agree on. -/
theorem confirmedPayload_spec
    {record : ChallengeRecord}
    {redirectUri : String}
    {payload : AuthorizationCodePayload}
    (hPayload :
      confirmedPayload (some record) redirectUri =
        some payload) :
    record.used = false ∧
      payload.purpose = record.purpose ∧
      payload.clientId = record.clientId ∧
      record.kisUserId = some payload.kisUserId ∧
      record.authIdentityId = some payload.authIdentityId ∧
      payload.kisUserId ≠ "" ∧
      payload.redirectUri = redirectUri := by
  unfold confirmedPayload at hPayload
  simp only at hPayload
  split at hPayload
  · simp at hPayload
  · next hUsed =>
      unfold confirmedSubject at hPayload
      cases hUser : record.kisUserId with
      | none => simp [hUser] at hPayload
      | some kisUserId =>
          cases hIdentity : record.authIdentityId with
          | none => simp [hUser, hIdentity] at hPayload
          | some authIdentityId =>
              simp only [hUser, hIdentity] at hPayload
              split at hPayload
              · simp at hPayload
              · next found hFound =>
                  split at hFound
                  · simp at hFound
                  · next hNamed =>
                      simp only [Option.some.injEq,
                        Prod.mk.injEq] at hFound
                      rcases hFound with ⟨rfl, rfl⟩
                      split at hPayload
                      · simp at hPayload
                      · simp only [Option.some.injEq]
                          at hPayload
                        subst hPayload
                        exact
                          ⟨by simpa using hUsed, rfl, rfl,
                            rfl, rfl,
                            fun hEmpty =>
                              hNamed (Or.inl hEmpty),
                            rfl⟩

/-
  A challenge a callback reads under an identifier it drew
  is one it wrote itself: nobody else draws the identifier.
-/
theorem challenge_written
    {thread : Nat}
    {challengeId : String}
    {record : ChallengeRecord}
    (hRecorded : Recorded P cfg history)
    (hRandom :
      ⟨.random, challengeId⟩ ∈ answersOf thread history)
    (hRead :
      ⟨.redisGet (challengeKey challengeId),
          some (.challenge record)⟩ ∈
        answersOf thread history) :
    ∃ ttl,
      (⟨.redisSet (challengeKey challengeId)
            (.challenge record) ttl, .ok ()⟩ :
          Answer Eff Eff.Res) ∈
        answersOf thread history := by
  rcases stored_of_read hRecorded (mem_of_past hRead) with
    ⟨later, earlier, rfl, hEarlier, hStored⟩
  rcases stored_origin hEarlier hStored trivial with
    ⟨middle, before, writer, ttl, q, rfl, hStep⟩
  rcases hStep.allowed with
    ⟨other, _, _, _, _, _, hKey, hDrawn, _⟩
  have hId : challengeId = other :=
    ((storeKey_inj _ _ _ _).mp hKey).2
  subst hId
  have hWriter : writer = thread := by
    apply random_unique hRecorded.faithful _
      (mem_of_past hRandom)
    have hMem := mem_of_past hDrawn
    simp [hMem]
  subst hWriter
  refine ⟨ttl, ?_⟩
  rw [mem_answersOf_iff]
  simp

/- The challenge it confirms is the one it was issued. -/
theorem challenge_own
    {thread : Nat}
    {challengeId : String}
    {first record : ChallengeRecord}
    (hRecorded : Recorded P cfg history)
    (hRandom :
      ⟨.random, challengeId⟩ ∈ answersOf thread history)
    (hOnly :
      ChallengesOnly (answersOf thread history) challengeId
        first)
    (hRead :
      ⟨.redisGet (challengeKey challengeId),
          some (.challenge record)⟩ ∈
        answersOf thread history)
    (hUnused : record.used = false) :
    record = first := by
  rcases challenge_written hRecorded hRandom hRead with
    ⟨ttl, hWrite⟩
  have hMem := mem_writes ttl (.ok ()) (mem_of_past hWrite)
  rcases (hOnly _ _ hMem).2 with
    hFirst | ⟨marked, hMarked, hUsed⟩
  · simpa using hFirst
  · simp only [RedisValue.challenge.injEq] at hMarked
    subst hMarked
    rw [hUsed] at hUnused
    simp at hUnused

/- An issued code is for what its session asked. -/
theorem code_entitled
    {thread : Nat}
    {callback : Callback}
    {key : String}
    {payload : AuthorizationCodePayload}
    {sessionId : String}
    {session : OAuthSession}
    {token : VerifiedIdToken}
    (hRecorded : Recorded P cfg history)
    (hIssued :
      CodeIssued P cfg callback (answersOf thread history)
        key payload sessionId session token) :
    Entitled callback (answersOf thread history) session
      token payload := by
  rcases hIssued.challenge with
    ⟨challengeId, first, record, hRandom, hEarned, hOnly,
      hRead, hConfirmed⟩
  rcases confirmedPayload_spec hConfirmed with
    ⟨hUnused, hPurpose, hClient, hUser, hIdentity, hNamed,
      hUri⟩
  have hFirst :=
    challenge_own hRecorded hRandom hOnly hRead hUnused
  subst hFirst
  cases hEarned with
  | link kisUserId row hLink hSession hRow hRecord =>
      rcases hRecord with
        ⟨hRecPurpose, hRecClient, hRecUser, hRecRow⟩
      have hSameUser : kisUserId = payload.kisUserId := by
        rw [hRecUser] at hUser
        exact Option.some.inj hUser
      have hSameRow : row.id = payload.authIdentityId := by
        rw [hRecRow] at hIdentity
        exact Option.some.inj hIdentity
      subst hSameUser
      exact
        { purpose := hPurpose.trans hRecPurpose
          clientId := hClient.trans hRecClient
          redirectUri := hUri
          named := hNamed
          registered := by rw [hLink]; decide
          row :=
            ⟨row, hSameRow.symm,
              Or.inl ⟨hLink, hSession, hRow⟩⟩ }
  | returning row hNotLink hRegistered hRow hRecord =>
      rcases hRecord with
        ⟨hRecPurpose, hRecClient, hRecUser, hRecRow⟩
      have hSameUser : row.kisUserId = payload.kisUserId := by
        rw [hRecUser] at hUser
        exact Option.some.inj hUser
      have hSameRow : row.id = payload.authIdentityId := by
        rw [hRecRow] at hIdentity
        exact Option.some.inj hIdentity
      exact
        { purpose := hPurpose.trans hRecPurpose
          clientId := hClient.trans hRecClient
          redirectUri := hUri
          named := hNamed
          registered := hRegistered
          row :=
            ⟨row, hSameRow.symm,
              Or.inr ⟨hNotLink, hSameUser, hRow⟩⟩ }

/- The row a code is for is a row of the verified subject. -/
theorem entitled_row
    {thread : Nat}
    {callback : Callback}
    {session : OAuthSession}
    {token : VerifiedIdToken}
    {payload : AuthorizationCodePayload}
    (hRecorded : Recorded P cfg history)
    (hEntitled :
      Entitled callback (answersOf thread history) session
        token payload) :
    ∃ row : AuthIdentity,
      payload.authIdentityId = row.id ∧
        row.binding ∈ bindings history ∧
        row.provider = callback.provider ∧
        row.providerSubject = callback.subject token.sub := by
  rcases hEntitled.row with
    ⟨row, hId, ⟨_, _, hLinked⟩ | ⟨_, _, hSelect⟩⟩
  · exact ⟨row, hId, linked_binding hRecorded hLinked⟩
  · exact
      ⟨row, hId,
        selected_binding hRecorded (mem_of_past hSelect)⟩

end KisAuth

------------------------------------------------------------
-- One Grant
------------------------------------------------------------

namespace KisAuth

open Interaction Store

/-
  A callback completed its session with a code or a ticket,
  its first one, after it deleted the session.
-/
structure Granted
    (P : Platform)
    (cfg : KisAuthConfig)
    (history : History)
    (thread : Nat)
    (callback : Callback)
    (code : String)
    (value : RedisValue)
    (sessionId : String)
    (session : OAuthSession)
    (token : VerifiedIdToken)
    (earlier : History) : Prop where
  split :
    ∃ later ttl,
      history =
        later ++
          .answer thread
              ⟨.redisSet (grantKey value code) value ttl,
                .ok ()⟩ ::
            earlier
  grant : value.isGrant
  arrived :
    ∃ q, Entry.arrive thread q ∈ earlier ∧
      q.callback = some callback
  verified :
    Verified P cfg callback (answersOf thread earlier)
      sessionId session token
  drawn : ⟨.random, code⟩ ∈ answersOf thread earlier
  deleted :
    ⟨.redisDel (sessionKey sessionId), ()⟩ ∈
      answersOf thread earlier
  first :
    ∀ key other,
      (key, other) ∈ writes (answersOf thread earlier) →
        ¬other.isGrant

variable {P : Platform} {cfg : KisAuthConfig}
variable {history : History}
variable {thread : Nat} {callback : Callback} {code : String}
variable {sessionId : String} {session : OAuthSession}
variable {token : VerifiedIdToken}
variable {later earlier : History}

theorem CodeGranted.granted
    {payload : AuthorizationCodePayload}
    (hGranted :
      CodeGranted P cfg history thread callback code payload
        sessionId session token later earlier) :
    Granted P cfg history thread callback code
      (.code payload) sessionId session token earlier where
  split := ⟨later, hGranted.split⟩
  grant := trivial
  arrived := hGranted.arrived
  verified := hGranted.issued.verified
  drawn := by
    rcases hGranted.issued.code with ⟨other, hKey, hDrawn⟩
    have hCode : code = other :=
      ((storeKey_inj _ _ _ _).mp hKey).2
    rw [hCode]
    exact hDrawn
  deleted := hGranted.issued.deleted
  first := by
    intro key other hMem hGrant
    rcases hGranted.issued.challenge with
      ⟨challengeId, first, record, _, _, hOnly, _, _⟩
    rcases (hOnly key other hMem).2 with
      rfl | ⟨marked, rfl, _⟩
    · exact hGrant
    · exact hGrant

theorem TicketGranted.granted
    {payload : RegistrationTicketPayload}
    (hGranted :
      TicketGranted P cfg history thread callback code
        payload sessionId session token later earlier) :
    Granted P cfg history thread callback code
      (.ticket payload) sessionId session token
      earlier where
  split := ⟨later, hGranted.split⟩
  grant := trivial
  arrived := hGranted.arrived
  verified := hGranted.issued.verified
  drawn := by
    rcases hGranted.issued.code with ⟨other, hKey, hDrawn⟩
    have hCode : code = other :=
      ((storeKey_inj _ _ _ _).mp hKey).2
    rw [hCode]
    exact hDrawn
  deleted := hGranted.issued.deleted
  first := by
    intro key other hMem
    rw [hGranted.issued.first] at hMem
    simp at hMem

/- Every SET of a code or ticket is a grant. -/
theorem granted_of_write
    {key : String}
    {value : RedisValue}
    {ttl : ℚ}
    (hRecorded : Recorded P cfg history)
    (hSplit :
      history =
        later ++
          .answer thread ⟨.redisSet key value ttl, .ok ()⟩ ::
            earlier)
    (hGrant : value.isGrant) :
    ∃ callback code sessionId session token,
      key = grantKey value code ∧
        Granted P cfg history thread callback code value
          sessionId session token earlier := by
  subst hSplit
  rcases hRecorded.step_at with ⟨q, hStep⟩
  have hAllowed := hStep.allowed
  cases value with
  | code payload =>
      rcases hAllowed with
        ⟨callback, sessionId, session, token, hCallback,
          hIssued⟩
      rcases hIssued.code with ⟨code, rfl, hDrawn⟩
      have hCode :
          CodeGranted P cfg _ thread callback code payload
            sessionId session token later earlier :=
        ⟨⟨ttl, rfl⟩, ⟨q, hStep.arrived, hCallback⟩, hIssued⟩
      exact ⟨callback, code, sessionId, session, token, rfl,
        hCode.granted⟩
  | ticket payload =>
      rcases hAllowed with
        ⟨callback, sessionId, session, token, hCallback,
          hIssued⟩
      rcases hIssued.code with ⟨code, rfl, hDrawn⟩
      have hTicket :
          TicketGranted P cfg _ thread callback code payload
            sessionId session token later earlier :=
        ⟨⟨ttl, rfl⟩, ⟨q, hStep.arrived, hCallback⟩, hIssued⟩
      exact ⟨callback, code, sessionId, session, token, rfl,
        hTicket.granted⟩
  | session session => exact absurd hGrant id
  | challenge record => exact absurd hGrant id
  | claimed => exact absurd hGrant id
  | count hits => exact absurd hGrant id

/- What holds before a grant holds in the history. -/
theorem Granted.lift
    {value : RedisValue}
    (hGranted :
      Granted P cfg history thread callback code value
        sessionId session token earlier)
    {entry : ServiceEntry}
    (hMem : entry ∈ earlier) :
    entry ∈ history := by
  rcases hGranted.split with ⟨later, ttl, rfl⟩
  exact List.mem_append_right _
    (List.mem_cons_of_mem _ hMem)

theorem Granted.recorded
    {value : RedisValue}
    (hGranted :
      Granted P cfg history thread callback code value
        sessionId session token earlier)
    (hRecorded : Recorded P cfg history) :
    Recorded P cfg earlier := by
  rcases hGranted.split with ⟨later, ttl, rfl⟩
  exact hRecorded.drop.tail

/- A callback completes its session once. -/
theorem granted_once
    {callback' : Callback}
    {code' sessionId' : String}
    {value value' : RedisValue}
    {session' : OAuthSession}
    {token' : VerifiedIdToken}
    {earlier' : History}
    (hLeft :
      Granted P cfg history thread callback code value
        sessionId session token earlier)
    (hRight :
      Granted P cfg history thread callback' code' value'
        sessionId' session' token' earlier') :
    grantKey value code = grantKey value' code' ∧
      value = value' ∧ earlier = earlier' := by
  rcases hLeft.split with ⟨later, ttl, hSplit⟩
  rcases hRight.split with ⟨later', ttl', hSplit'⟩
  exact write_unique (hSplit.symm.trans hSplit')
    (fun hMem => hLeft.first _ _ hMem hRight.grant)
    (fun hMem => hRight.first _ _ hMem hLeft.grant)

/- A random text is the code of one grant. -/
theorem grant_unique
    {thread' : Nat}
    {callback' : Callback}
    {sessionId' : String}
    {value value' : RedisValue}
    {session' : OAuthSession}
    {token' : VerifiedIdToken}
    {earlier' : History}
    (hRecorded : Recorded P cfg history)
    (hLeft :
      Granted P cfg history thread callback code value
        sessionId session token earlier)
    (hRight :
      Granted P cfg history thread' callback' code value'
        sessionId' session' token' earlier') :
    thread = thread' ∧ value = value' ∧
      earlier = earlier' := by
  have hThread : thread = thread' :=
    random_unique hRecorded.faithful
      (hLeft.lift (mem_of_past hLeft.drawn))
      (hRight.lift (mem_of_past hRight.drawn))
  subst hThread
  exact ⟨rfl, (granted_once hLeft hRight).2⟩

/- So it is stored once. -/
theorem grant_write_unique
    {left right : Nat}
    {code : String}
    {value value' : RedisValue}
    {ttl ttl' : ℚ}
    (hRecorded : Recorded P cfg history)
    (hGrant : value.isGrant)
    (hGrant' : value'.isGrant)
    (hLeft :
      Entry.answer left
          ⟨.redisSet (grantKey value code) value ttl,
            .ok ()⟩ ∈ history)
    (hRight :
      Entry.answer right
          ⟨.redisSet (grantKey value' code) value' ttl',
            .ok ()⟩ ∈ history) :
    value = value' := by
  have hNamed :
      ∀ {thread : Nat} {found : RedisValue} {ttl : ℚ},
        found.isGrant →
          Entry.answer thread
              ⟨.redisSet (grantKey found code) found ttl,
                .ok ()⟩ ∈ history →
            ∃ callback sessionId session token earlier,
              Granted P cfg history thread callback code found
                sessionId session token earlier := by
    intro thread found ttl hFound hMem
    rcases List.append_of_mem hMem with
      ⟨later, earlier, hSplit⟩
    rcases granted_of_write hRecorded hSplit hFound with
      ⟨callback, other, sessionId, session, token, hKey,
        hGranted⟩
    have hCode : code = other := by
      cases found <;>
        exact ((storeKey_inj _ _ _ _).mp hKey).2
    subst hCode
    exact
      ⟨callback, sessionId, session, token, earlier,
        hGranted⟩
  rcases hNamed hGrant hLeft with
    ⟨_, _, _, _, _, hGranted⟩
  rcases hNamed hGrant' hRight with
    ⟨_, _, _, _, _, hGranted'⟩
  exact (grant_unique hRecorded hGranted hGranted').2.1

/- And it stands for one payload. -/
theorem consumed_code_unique
    {left right : Nat}
    {payload payload' : AuthorizationCodePayload}
    (hRecorded : Recorded P cfg history)
    (hLeft :
      Entry.answer left
          ⟨.redisConsume (codeKey code),
            some (.code payload)⟩ ∈ history)
    (hRight :
      Entry.answer right
          ⟨.redisConsume (codeKey code),
            some (.code payload')⟩ ∈ history) :
    payload = payload' := by
  rcases written_of_consumed hRecorded hLeft trivial with
    ⟨writer, ttl, hWrite⟩
  rcases written_of_consumed hRecorded hRight trivial with
    ⟨writer', ttl', hWrite'⟩
  have hValues :
      RedisValue.code payload = .code payload' :=
    @grant_write_unique P cfg history writer writer' code _ _
      ttl ttl' hRecorded trivial trivial hWrite hWrite'
  exact RedisValue.code.inj hValues

end KisAuth
