import KisAuth.Interaction.Positions
import KisAuth.Service.ServiceTimeline
import KisAuth.Service.Terms

/-
  When a token is issued, and for how long it is valid.

  A code or ticket is redeemed within its lifetime, counted
  from the moment it was stored. The token's own times are
  read after that, and no two tokens have one identifier.

  Key definitions include:
    * `GrantsToken`, `TokenSigned`
    * `TokenTimely`, `TokensTimely`

  Key theorems include:
    * `stored_since`, `handler_signed`
    * `tokens_timely`
-/

------------------------------------------------------------
-- Signed Tokens
------------------------------------------------------------

namespace KisAuth

open Interaction Prog

/- What a token takes over from its code or ticket. -/
def GrantsToken
    (token : AuthorizationJwt) : RedisValue → Prop
| .code payload =>
    token.aud = payload.clientId ∧
      token.purpose = payload.purpose ∧
      token.authIdentityId = some payload.authIdentityId
| .ticket payload =>
    token.aud = payload.clientId ∧
      token.purpose = payload.purpose ∧
      token.providerSubject = some payload.providerSubject
| _ => False

/-
  The clock was read for a token after its code or ticket
  had been consumed.
-/
structure TokenSigned
    (cfg : KisAuthConfig)
    (past : Past)
    (token : AuthorizationJwt) : Prop where
  granted :
    ∃ after clock before family code value,
      past = after ++ ⟨.dateNow, clock⟩ :: before ∧
        ⟨.redisConsume (storeKey family code), some value⟩ ∈
          before ∧
        GrantsToken token value ∧ token.iat = clock / 1000
  drawn : ⟨.random, token.jti⟩ ∈ past
  kid : token.kid = cfg.jwtKid
  iss : token.iss = issuerBase
  exp : token.exp = token.iat + cfg.authCodeTtlSeconds

def SignedOutcome
    (cfg : KisAuthConfig)
    (past : Past) : Except HttpError Response → Prop
| .ok (.token token) => TokenSigned cfg past token
| _ => True

variable {P : Platform} {cfg : KisAuthConfig}

/- A token is signed once its grant was consumed. -/
theorem sign_signed
    {claims : AuthorizationClaims}
    {event : SecurityEvent}
    {past : Past}
    {family : KeyFamily}
    {code : String}
    {value : RedisValue}
    (hConsumed :
      ⟨.redisConsume (storeKey family code), some value⟩ ∈
        past)
    (hGrants :
      ∀ token : AuthorizationJwt,
        token.aud = claims.aud →
          token.purpose = claims.purpose →
            token.authIdentityId = claims.authIdentityId →
              token.providerSubject =
                  claims.providerSubject →
                GrantsToken token value) :
    Obeys (fun _ _ => True) (SignedOutcome cfg)
      (do
        let token ←
          AuthorizationJwtService.sign P cfg claims
            cfg.authCodeTtlSeconds
        emit event
        return .token token)
      past := by
  unfold AuthorizationJwtService.sign
  split
  case isFalse => trivial
  refine ⟨trivial, fun clock => ?_⟩
  refine ⟨trivial, fun jti => ?_⟩
  simp only [bind_eq, bind_ret]
  split
  case isFalse => trivial
  refine ⟨trivial, fun _ => ?_⟩
  exact
    { granted :=
        ⟨[⟨.emit event, ()⟩, ⟨.random, jti⟩], clock, past,
          family, code, value, rfl, hConsumed,
          hGrants _ rfl rfl rfl rfl, rfl⟩
      drawn := by simp
      kid := rfl
      iss := rfl
      exp := rfl }

/- A refusal issues no token. -/
theorem refused_signed
    (event : SecurityEvent)
    (past : Past) :
    Obeys (fun _ _ => True) (SignedOutcome cfg)
      (do
        emit event
        badRequest : KisM Response)
      past :=
  ⟨trivial, fun _ => trivial⟩

theorem asCode_eq_some
    {raw : Option RedisValue}
    {payload : AuthorizationCodePayload}
    (hPayload : ChallengeStore.asCode raw = some payload) :
    raw = some (.code payload) := by
  unfold ChallengeStore.asCode at hPayload
  split at hPayload
  · rw [Option.some.injEq] at hPayload
    rw [hPayload]
  · simp at hPayload

theorem asTicket_eq_some
    {raw : Option RedisValue}
    {payload : RegistrationTicketPayload}
    (hPayload : ChallengeStore.asTicket raw = some payload) :
    raw = some (.ticket payload) := by
  unfold ChallengeStore.asTicket at hPayload
  split at hPayload
  · rw [Option.some.injEq] at hPayload
    rw [hPayload]
  · simp at hPayload

theorem exchange_signed (post : InternalPost) :
    Obeys (fun _ _ => True) (SignedOutcome cfg)
      (ExchangeController.exchange P cfg post) [] := by
  apply obeys_then _ (fun _ _ => trivial)
  intro pastBody body _
  apply obeys_then _ (fun _ _ => trivial)
  intro pastCode code _
  refine ⟨trivial, fun raw => ?_⟩
  simp only [pure_eq, bind_ret]
  split
  · exact refused_signed _ _
  · next payload hPayload =>
      split
      · apply obeys_then _ (fun _ _ => trivial)
        intro later identity hLater
        split
        · exact refused_signed _ _
        · apply sign_signed
          · apply hLater
            rw [asCode_eq_some hPayload]
            exact List.mem_cons_self
          · exact fun token hAud hPurpose hId _ =>
              ⟨hAud, hPurpose, hId⟩
      · exact refused_signed _ _

theorem registrationExchange_signed (post : InternalPost) :
    Obeys (fun _ _ => True) (SignedOutcome cfg)
      (RegistrationExchangeController.exchange P cfg post)
      [] := by
  apply obeys_then _ (fun _ _ => trivial)
  intro pastBody body _
  apply obeys_then _ (fun _ _ => trivial)
  intro pastCode code _
  refine ⟨trivial, fun raw => ?_⟩
  simp only [pure_eq, bind_ret]
  split
  · exact refused_signed _ _
  · next payload hPayload =>
      split
      · apply sign_signed
        · rw [asTicket_eq_some hPayload]
          exact List.mem_cons_self
        · exact fun token hAud hPurpose _ hSubject =>
            ⟨hAud, hPurpose, hSubject⟩
      · exact refused_signed _ _

/- Only the two exchanges answer with a token. -/
theorem no_token
    {q : Request}
    (hOther : q.redeems = none) :
    Obeys (fun _ _ => True) (SignedOutcome cfg)
      (handler P cfg q) [] := by
  apply (handler_obeys q).mono (fun _ _ _ => trivial)
  rintro past (error | response) hOutcome
  · trivial
  · cases response with
    | token token =>
        rcases hOutcome.2 with
          ⟨_, _, _, _, rfl, _⟩ | ⟨_, _, _, rfl, _⟩
        · simp [Request.redeems] at hOther
        · simp [Request.redeems] at hOther
    | _ => trivial

theorem handler_signed (q : Request) :
    Obeys (fun _ _ => True) (SignedOutcome cfg)
      (handler P cfg q) [] := by
  cases hRedeems : q.redeems with
  | none => exact no_token hRedeems
  | some redemption =>
      cases q with
      | authorizationExchange post => exact exchange_signed post
      | registrationExchange post =>
          exact registrationExchange_signed post
      | _ => simp [Request.redeems] at hRedeems

end KisAuth

------------------------------------------------------------
-- Since When A Record Is Stored
------------------------------------------------------------

namespace KisAuth

open Interaction Store

variable {P : Platform} {cfg : KisAuthConfig}
variable {timeline earlier : Timeline}
variable {moment : ServiceMoment} {key : String}

/-
  The moment an item that is there was written. The induction
  is on the timeline: its newest moment leaves the key alone,
  or wrote the item.
-/
theorem stored_since
    {item : Item RedisValue}
    (hReplays : Always Replays timeline)
    (hItem : itemsAt timeline key = some item)
    (hRecord : item.value.isRecord) :
    ∃ after written before writer ttlSeconds deadline,
      timeline = after ++ written :: before ∧
        written.entry =
          .answer writer
            ⟨.redisSet key item.value ttlSeconds, .ok ()⟩ ∧
        validExpire written.stamp ttlSeconds = some deadline ∧
        item.deadline = some deadline := by
  induction timeline generalizing item with
  | nil => simp [itemsAt] at hItem
  | cons moment earlier ih =>
      cases hTouch : touch moment.entry key with
      | none =>
          rw [itemsAt_untouched hReplays.1 hTouch] at hItem
          rcases ih hReplays.2 hItem hRecord with
            ⟨after, written, before, writer, ttlSeconds,
              deadline, rfl, hRest⟩
          exact
            ⟨moment :: after, written, before, writer,
              ttlSeconds, deadline, rfl, hRest⟩
      | some content =>
          rcases itemsAt_cases hReplays.1 with
            ⟨_, hNone⟩ | ⟨changed, stored, hItems, hTouches⟩
          · simp [hNone] at hTouch
          · have hKey : key = changed := by
              by_contra hNe
              rw [hTouches, if_neg hNe] at hTouch
              simp at hTouch
            subst hKey
            rw [hItems, Expiring.write_self] at hItem
            subst hItem
            rcases touch_record
                ((hTouches key).trans (if_pos rfl)) hRecord with
              ⟨writer, ttlSeconds, hEntry⟩
            rcases itemsAt_set hReplays.1 hEntry with
              ⟨deadline, hDeadline, hSet⟩
            rw [hItems, Expiring.write_self, Option.some.injEq]
              at hSet
            exact
              ⟨[], moment, earlier, writer, ttlSeconds, deadline,
                rfl, hEntry, hDeadline, by rw [hSet]⟩

/- A value that is consumed is one there is. -/
theorem item_of_consumed
    {thread : Nat}
    {value : RedisValue}
    (hReplays : Replays moment earlier)
    (hEntry :
      moment.entry =
        .answer thread ⟨.redisConsume key, some value⟩) :
    ∃ item,
      itemsAt earlier key = some item ∧
        item.live moment.stamp = true ∧
        item.value = value := by
  rcases hReplays.redis thread _ _ hEntry rfl with
    ⟨after, hExec⟩
  simp only [World.execRedis, redisWorld, Option.some.injEq,
    Prod.mk.injEq] at hExec
  exact Expiring.exists_item_of_read hExec.1

end KisAuth

------------------------------------------------------------
-- Timely Tokens
------------------------------------------------------------

namespace KisAuth

open Interaction Store

/- A clock reading tells the time of its moment. -/
def TellsTime (timeline : Timeline) : Prop :=
  ∀ moment ∈ timeline,
    ∀ thread clock,
      moment.entry = .answer thread ⟨.dateNow, clock⟩ →
        clock = moment.stamp

/-
  The code or ticket of a token was stored, consumed before
  its lifetime was over, and then the token was signed, valid
  for that lifetime from the second of its signing.
-/
structure TokenTimely
    (cfg : KisAuthConfig)
    (earlier : Timeline)
    (thread : Nat)
    (token : AuthorizationJwt)
    (issued consumed signed : ServiceMoment) : Prop where
  order : [signed, consumed, issued].Sublist earlier
  granted :
    ∃ writer family code value,
      issued.entry =
          .answer writer
            ⟨.redisSet (storeKey family code) value
              cfg.authCodeTtlSeconds, .ok ()⟩ ∧
        consumed.entry =
          .answer thread
            ⟨.redisConsume (storeKey family code),
              some value⟩ ∧
        GrantsToken token value
  read :
    signed.entry = .answer thread ⟨.dateNow, signed.stamp⟩
  issuedFirst : issued.stamp ≤ consumed.stamp
  consumedFirst : consumed.stamp ≤ signed.stamp
  inTime :
    (consumed.stamp : ℚ) <
      issued.stamp + cfg.authCodeTtlSeconds * 1000
  iat : token.iat = signed.stamp / 1000
  exp : token.exp = token.iat + cfg.authCodeTtlSeconds

/- All tokens are timely, and each has its own identifier. -/
structure TokensTimely
    (cfg : KisAuthConfig)
    (timeline : Timeline) : Prop where
  timely :
    Always
      (fun moment earlier =>
        ∀ thread token,
          moment.entry = .respond thread (.ok (.token token)) →
            ∃ issued consumed signed,
              TokenTimely cfg earlier thread token issued
                consumed signed)
      timeline
  distinct :
    ∀ left right token token',
      Entry.respond left (.ok (.token token)) ∈
          entriesOf timeline →
        Entry.respond right (.ok (.token token')) ∈
            entriesOf timeline →
          token.jti = token'.jti → left = right

variable {P : Platform} {cfg : KisAuthConfig}
variable {timeline : Timeline}

/- Every clock reading of a run tells its time. -/
theorem TimedRun.tellsTime (run : TimedRun P cfg) :
    TellsTime run.timeline := by
  have hCons :
      ∀ {moment : ServiceMoment} {timeline : Timeline},
        TellsTime timeline →
          (∀ thread clock,
            moment.entry = .answer thread ⟨.dateNow, clock⟩ →
              clock = moment.stamp) →
            TellsTime (moment :: timeline) := by
    intro moment timeline hTells hHead other hMem
    rcases List.mem_cons.mp hMem with rfl | hEarlier
    · exact hHead
    · exact hTells other hEarlier
  apply
    Timed.invariant (fun _ timeline => TellsTime timeline)
      _ _ _ _ run.timed
  · exact fun moment hMem => by simp at hMem
  · intro world timeline entry hNoAnswer _ hTells
    exact
      hCons hTells
        (fun thread clock hEntry =>
          absurd hEntry (hNoAnswer _ _))
  · intro world timeline thread effect ext value world' hExec
      hTells
    apply hCons hTells
    intro other clock hEntry
    rw [Entry.answer.injEq] at hEntry
    rcases hEntry with ⟨_, hAnswer⟩
    cases hAnswer
    simp only [worldSemantics, World.exec, World.backend,
      World.execOther, Option.some.injEq, Prod.mk.injEq]
      at hExec
    exact hExec.1.symm
  · intro world timeline op world' _ hTells
    exact hCons hTells (by simp)

/- A code or ticket is stored for its whole lifetime. -/
theorem grant_ttl
    {writer : Nat}
    {key : String}
    {value : RedisValue}
    {ttlSeconds : ℚ}
    {later earlier : History}
    (hRecorded :
      Recorded P cfg
        (later ++
          .answer writer
            ⟨.redisSet key value ttlSeconds, .ok ()⟩ ::
          earlier))
    (hTerms :
      Always (Keeps (OnTerms P cfg) (StartOutcome P cfg))
        (later ++
          .answer writer
            ⟨.redisSet key value ttlSeconds, .ok ()⟩ ::
          earlier))
    (hGrant : value.isGrant) :
    ttlSeconds = cfg.authCodeTtlSeconds := by
  rcases hRecorded.step_at with ⟨q, hStep⟩
  rcases hTerms.split.1 with ⟨other, _, hOnTerms⟩
  have hKey :
      ∃ code,
        key = storeKey value.family code ∧
          value.family.term cfg =
            some cfg.authCodeTtlSeconds := by
    have hAllowed := hStep.allowed
    cases value with
    | code payload =>
        rcases hAllowed with ⟨_, _, _, _, _, hIssued⟩
        rcases hIssued.code with ⟨code, hKey, _⟩
        exact ⟨code, hKey, rfl⟩
    | ticket payload =>
        rcases hAllowed with ⟨_, _, _, _, _, hIssued⟩
        rcases hIssued.code with ⟨code, hKey, _⟩
        exact ⟨code, hKey, rfl⟩
    | _ => exact hGrant.elim
  rcases hKey with ⟨code, hKey, hTerm⟩
  rcases hOnTerms.1 with hFull | ⟨left, _, hTtl, _⟩
  · rw [hTerm, Option.some.injEq] at hFull
    exact hFull.symm
  · -- Nobody asks how long a code or ticket has left.
    rcases hStep.recorded.step (mem_of_past hTtl) with
      ⟨_, _, _, _, hAsked⟩
    rcases hAsked.allowed with ⟨id, hOther⟩ | ⟨id, hOther⟩
    · rw [hKey, sessionKey, storeKey_inj] at hOther
      cases value with
      | code payload => cases hOther.1
      | ticket payload => cases hOther.1
      | _ => exact hGrant.elim
    · rw [hKey, challengeKey, storeKey_inj] at hOther
      cases value with
      | code payload => cases hOther.1
      | ticket payload => cases hOther.1
      | _ => exact hGrant.elim

theorem GrantsToken.isGrant
    {token : AuthorizationJwt}
    {value : RedisValue}
    (hGrants : GrantsToken token value) :
    value.isGrant ∧ value.isRecord := by
  cases value with
  | code payload => exact ⟨trivial, trivial⟩
  | ticket payload => exact ⟨trivial, trivial⟩
  | _ => exact hGrants.elim

end KisAuth

------------------------------------------------------------
-- Every Timed Run
------------------------------------------------------------

namespace KisAuth

open Interaction Store

variable {P : Platform} {cfg : KisAuthConfig}

/- What is known of every timeline of a run. -/
structure Chronicled
    (P : Platform)
    (cfg : KisAuthConfig)
    (timeline : Timeline) : Prop where
  recorded : Recorded P cfg (entriesOf timeline)
  terms :
    Always (Keeps (OnTerms P cfg) (StartOutcome P cfg))
      (entriesOf timeline)
  replays : Always Replays timeline
  tellsTime : TellsTime timeline

theorem TimedRun.chronicled (run : TimedRun P cfg) :
    Chronicled P cfg run.timeline where
  recorded := by
    rw [run.entriesOf_eq]
    exact run.run.recorded
  terms := by
    rw [run.entriesOf_eq]
    exact run.run.terms
  replays := run.replayed.always
  tellsTime := run.tellsTime

theorem Chronicled.drop
    (later : Timeline)
    {earlier : Timeline}
    (hChronicled : Chronicled P cfg (later ++ earlier)) :
    Chronicled P cfg earlier where
  recorded := by
    have hRecorded := hChronicled.recorded
    rw [entriesOf, List.map_append] at hRecorded
    exact hRecorded.drop
  terms := by
    have hTerms := hChronicled.terms
    rw [entriesOf, List.map_append] at hTerms
    exact hTerms.drop
  replays := hChronicled.replays.drop
  tellsTime := fun moment hMem =>
    hChronicled.tellsTime moment
      (List.mem_append_right _ hMem)

/- A moment is no earlier than those before it. -/
theorem Chronicled.stamp_le
    {later earlier : Timeline}
    {moment other : ServiceMoment}
    (hChronicled :
      Chronicled P cfg (later ++ moment :: earlier))
    (hMem : other ∈ earlier) :
    other.stamp ≤ moment.stamp :=
  hChronicled.replays.split.1.later other hMem

/- The moment a consumed code or ticket was stored. -/
theorem Chronicled.issued
    {earlier : Timeline}
    {consumed : ServiceMoment}
    {thread : Nat}
    {key : String}
    {value : RedisValue}
    (hChronicled : Chronicled P cfg (consumed :: earlier))
    (hEntry :
      consumed.entry =
        .answer thread ⟨.redisConsume key, some value⟩)
    (hGrant : value.isGrant ∧ value.isRecord) :
    ∃ issued ∈ earlier,
      ∃ writer,
        issued.entry =
            .answer writer
              ⟨.redisSet key value cfg.authCodeTtlSeconds,
                .ok ()⟩ ∧
          (consumed.stamp : ℚ) <
            issued.stamp + cfg.authCodeTtlSeconds * 1000 := by
  rcases item_of_consumed hChronicled.replays.1 hEntry with
    ⟨item, hItem, hLive, rfl⟩
  rcases stored_since hChronicled.replays.2 hItem hGrant.2 with
    ⟨after, issued, before, writer, ttlSeconds, deadline, rfl,
      hWritten, hValid, hDeadline⟩
  have hBefore : Chronicled P cfg (after ++ issued :: before) :=
    Chronicled.drop [consumed] hChronicled
  have hTtl : ttlSeconds = cfg.authCodeTtlSeconds := by
    have hRecorded := hBefore.recorded
    have hTerms := hBefore.terms
    rw [entriesOf, List.map_append, List.map_cons, hWritten]
      at hRecorded hTerms
    exact grant_ttl hRecorded hTerms hGrant.1
  subst hTtl
  refine
    ⟨issued, by simp, writer, hWritten, ?_⟩
  rw [← validExpire_spec hValid]
  have hNow : consumed.stamp < deadline := by
    simpa [Item.live, hDeadline] using hLive
  exact_mod_cast hNow

/- What precedes the answer of a token. -/
theorem token_timely
    {later earlier : Timeline}
    {moment : ServiceMoment}
    {thread : Nat}
    {token : AuthorizationJwt}
    (hChronicled :
      Chronicled P cfg (later ++ moment :: earlier))
    (hSigned :
      TokenSigned cfg (answersOf thread (entriesOf earlier))
        token) :
    ∃ issued consumed signed,
      TokenTimely cfg earlier thread token issued consumed
        signed := by
  rcases hSigned.granted with
    ⟨after, clock, before, family, code, value, hPast, hConsumed,
      hGrants, hIat⟩
  have hEarlier : Chronicled P cfg earlier :=
    Chronicled.drop (later ++ [moment])
      (by simpa using hChronicled)
  rcases exists_split_at_answer hPast with
    ⟨newer, older, hHistory, hBefore⟩
  rcases exists_moment hHistory with
    ⟨newerMoments, signed, olderMoments, rfl, hRead, rfl⟩
  have hTime : clock = signed.stamp :=
    hEarlier.tellsTime signed (by simp) thread clock hRead
  subst hTime
  rw [← hBefore] at hConsumed
  rcases List.append_of_mem (mem_of_past hConsumed) with
    ⟨between, first, hOlder⟩
  rcases exists_moment hOlder with
    ⟨betweenMoments, consumed, firstMoments, rfl, hConsumes,
      rfl⟩
  have hAt : Chronicled P cfg (consumed :: firstMoments) :=
    Chronicled.drop (newerMoments ++ signed :: betweenMoments)
      (by simpa using hEarlier)
  rcases hAt.issued hConsumes hGrants.isGrant with
    ⟨issued, hIssued, writer, hWritten, hInTime⟩
  refine
    ⟨issued, consumed, signed,
      { order := ?_
        granted :=
          ⟨writer, family, code, value, hWritten, hConsumes,
            hGrants⟩
        read := hRead
        issuedFirst := hAt.replays.1.later issued hIssued
        consumedFirst :=
          hEarlier.stamp_le (by simp)
        inTime := hInTime
        iat := hIat
        exp := hSigned.exp }⟩
  apply List.Sublist.trans _ (List.sublist_append_right _ _)
  apply List.Sublist.cons_cons
  apply List.Sublist.trans _ (List.sublist_append_right _ _)
  apply List.Sublist.cons_cons
  exact List.singleton_sublist.mpr hIssued

/- A token that is answered was signed by its request. -/
theorem TimedRun.token_signed
    (run : TimedRun P cfg)
    {later earlier : History}
    {thread : Nat}
    {token : AuthorizationJwt}
    (hSplit :
      entriesOf run.timeline =
        later ++ .respond thread (.ok (.token token)) ::
          earlier) :
    TokenSigned cfg (answersOf thread earlier) token := by
  have hSigned :
      Always
        (Keeps (fun _ _ _ => True)
          (fun _ => SignedOutcome cfg))
        (entriesOf run.timeline) := by
    rw [run.entriesOf_eq]
    exact Reachable.obeys handler_signed run.run.reachable
  rw [hSplit] at hSigned
  rcases hSigned.split.1 with ⟨q, _, hToken⟩
  exact hToken

/-
  In every run, every token was issued for a code or ticket
  within its lifetime, and has an identifier of its own.
-/
theorem tokens_timely (run : TimedRun P cfg) :
    TokensTimely cfg run.timeline := by
  have hChronicled := run.chronicled
  refine ⟨?_, ?_⟩
  · apply always_of_split
    intro later moment earlier hSplit thread token hEntry
    have hToken :
        TokenSigned cfg (answersOf thread (entriesOf earlier))
          token := by
      apply run.token_signed
      rw [hSplit, entriesOf, List.map_append, List.map_cons,
        hEntry]
      rfl
    rw [hSplit] at hChronicled
    exact token_timely hChronicled hToken
  · intro left right token token' hLeft hRight hSame
    have hDrawn :
        ∀ {thread : Nat} {given : AuthorizationJwt},
          Entry.respond thread (.ok (.token given)) ∈
              entriesOf run.timeline →
            Entry.answer thread ⟨.random, given.jti⟩ ∈
              entriesOf run.timeline := by
      intro thread given hMem
      rcases List.append_of_mem hMem with
        ⟨later, earlier, hSplit⟩
      have hToken := run.token_signed hSplit
      rw [hSplit]
      exact
        List.mem_append_right _
          (List.mem_cons_of_mem _ (mem_of_past hToken.drawn))
    have hJti := hDrawn hLeft
    rw [hSame] at hJti
    exact
      random_unique hChronicled.recorded.faithful hJti
        (hDrawn hRight)

end KisAuth
