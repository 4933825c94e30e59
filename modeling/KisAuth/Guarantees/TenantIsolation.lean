import KisAuth.Guarantees.ClaimShapes
import KisAuth.Provenance.Completions
import KisAuth.Provenance.Tenants

/-
  Isolation of tenants' identities.

  All enterprise identities share one provider value, and
  their subjects are chosen by the tenants' own providers.
  The key of an identity still tells the tenant and the
  subject it was established with, so no callback comes
  across an identity of another tenant or subject.

  Key definitions include:
    * `CalledBack`, `Established`, `Concerns`
    * `RepeatsClaims`, `TenantsIsolated`

  Key theorems include:
    * `asserted_once`
    * `established_key`
    * `tenant_isolation`, `acme_isolated`
-/

------------------------------------------------------------
-- Established Identities
------------------------------------------------------------

namespace KisAuth

open Interaction

/- The provider asserted the subject. -/
def Asserts (past : Past) (sub : String) : Prop :=
  ∃ payload,
    some payload ∈ asserted past ∧ payload.sub = .str sub

/- A callback of the tenant was asserted the subject. -/
def CalledBack
    (earlier : History)
    (thread : Nat)
    (tenant : Option String)
    (sub : String) : Prop :=
  ∃ callback,
    callbackOf thread earlier = some callback ∧
      callback.tenant = tenant ∧
      Asserts (answersOf thread earlier) sub

/- A registration token was answered with these claims. -/
def TokenAnswered
    (history : History)
    (redeemer : Nat)
    (provider providerSubject : String) : Prop :=
  ∃ post token,
    Entry.arrive redeemer (.registrationExchange post) ∈
        history ∧
      Entry.respond redeemer (.ok (.token token)) ∈
        history ∧
      token.provider = some provider ∧
      token.providerSubject = some providerSubject

/-
  The identity was inserted by a callback of the tenant, or
  by a link request that repeats the claims of a token whose
  ticket was issued by a callback of the tenant.
-/
inductive Established
    (history : History)
    (binding : IdentityBinding)
    (tenant : Option String)
    (sub : String) : Prop where
  | linked
      (later earlier : History)
      (thread : Nat)
      (args : NewIdentity)
      (row : AuthIdentity)
      (hSplit :
        history =
          later ++
            .answer thread ⟨.insertIdentity args, .ok row⟩ ::
              earlier)
      (hRow : row.binding = binding)
      (hCalledBack : CalledBack earlier thread tenant sub)
  | registered
      (later earlier : History)
      (thread redeemer issuer : Nat)
      (args : NewIdentity)
      (row : AuthIdentity)
      (code : String)
      (payload : RegistrationTicketPayload)
      (ttl : ℚ)
      (hInsert :
        Entry.answer thread
            ⟨.insertIdentity args, .ok row⟩ ∈ history)
      (hRow : row.binding = binding)
      (hToken :
        TokenAnswered history redeemer args.provider
          args.providerSubject)
      (hConsumed :
        Entry.answer redeemer
            ⟨.redisConsume (regTicketKey code),
              some (.ticket payload)⟩ ∈ history)
      (hClaims :
        payload.provider = args.provider ∧
          payload.providerSubject = args.providerSubject)
      (hSplit :
        history =
          later ++
            .answer issuer
                ⟨.redisSet (regTicketKey code)
                    (.ticket payload) ttl, .ok ()⟩ ::
              earlier)
      (hCalledBack : CalledBack earlier issuer tenant sub)

/-
  The identities a call is about: the one it looks up,
  links or registers, and the row it reads, refreshes, marks
  as used or issues a code for.
-/
inductive Concerns
    (earlier : History) : Eff → String × String → Prop where
  | lookup
      (provider providerSubject : String) :
      Concerns earlier
        (.selectIdentity provider providerSubject)
        (provider, providerSubject)
  | link
      (args : NewIdentity) :
      Concerns earlier (.insertIdentity args)
        (args.provider, args.providerSubject)
  | register
      (key : String)
      (payload : RegistrationTicketPayload)
      (ttl : ℚ) :
      Concerns earlier (.redisSet key (.ticket payload) ttl)
        (payload.provider, payload.providerSubject)
  | read
      (id : String)
      (binding : IdentityBinding)
      (hRow : binding ∈ bindings earlier)
      (hId : uuidIn id = some binding.id) :
      Concerns earlier (.selectIdentityById id)
        (binding.provider, binding.providerSubject)
  | refresh
      (email : Option String)
      (verified : Option Bool)
      (id : String)
      (binding : IdentityBinding)
      (hRow : binding ∈ bindings earlier)
      (hId : uuidIn id = some binding.id) :
      Concerns earlier (.updateIdentity email verified id)
        (binding.provider, binding.providerSubject)
  | touch
      (id : String)
      (binding : IdentityBinding)
      (hRow : binding ∈ bindings earlier)
      (hId : uuidIn id = some binding.id) :
      Concerns earlier (.touchIdentity id)
        (binding.provider, binding.providerSubject)
  | signIn
      (key : String)
      (payload : AuthorizationCodePayload)
      (ttl : ℚ)
      (binding : IdentityBinding)
      (hRow : binding ∈ bindings earlier)
      (hId : binding.id = payload.authIdentityId) :
      Concerns earlier (.redisSet key (.code payload) ttl)
        (binding.provider, binding.providerSubject)

/-
  Every call of a callback about identities is about the
  one of its tenant and of the subject it was asserted, and
  so about no identity that was established otherwise.
-/
def Isolated
    (entry : ServiceEntry)
    (earlier : History) : Prop :=
  ∀ thread answer callback key,
    entry = .answer thread answer →
      callbackOf thread earlier = some callback →
        Concerns earlier answer.effect key →
          ∃ sub,
            (∀ other,
              Asserts (answersOf thread earlier) other ↔
                other = sub) ∧
              key = identityKey callback.tenant sub ∧
              ∀ binding tenant' sub',
                (binding.provider,
                    binding.providerSubject) = key →
                  Established earlier binding tenant' sub' →
                    tenant' = callback.tenant ∧ sub' = sub

/-
  Link requests insert only what registration tokens of this
  service claim.
-/
def RepeatsClaims
    (entry : ServiceEntry)
    (earlier : History) : Prop :=
  ∀ thread args row post,
    entry =
        .answer thread ⟨.insertIdentity args, .ok row⟩ →
      Entry.arrive thread (.identityLink post) ∈ earlier →
        ∃ redeemer,
          TokenAnswered earlier redeemer args.provider
            args.providerSubject

/-
  Keys tell tenants and subjects apart, every identity was
  established by a callback of some tenant, and callbacks
  are isolated.
-/
structure TenantsIsolated (history : History) : Prop where
  keys :
    ∀ tenant tenant' sub sub',
      ValidTenant tenant →
        ValidTenant tenant' →
          identityKey tenant sub = identityKey tenant' sub' →
            tenant = tenant' ∧ sub = sub'
  established :
    ∀ binding ∈ bindings history,
      ∃ tenant sub,
        ValidTenant tenant ∧
          Established history binding tenant sub
  isolated : Always Isolated history

end KisAuth

------------------------------------------------------------
-- Asserted Subjects
------------------------------------------------------------

namespace KisAuth

open Interaction Store

variable {P : Platform} {cfg : KisAuthConfig}
variable {history : History}
variable {thread : Nat} {callback : Callback} {q : Request}
variable {sessionId : String} {session : OAuthSession}
variable {token : VerifiedIdToken}

/- A request asks the ID token library once. -/
theorem asserted_once
    (hRecorded : Recorded P cfg history)
    (thread : Nat) :
    (asserted (answersOf thread history)).length ≤ 1 := by
  apply hRecorded.once assertedBy
  intro q past answer found hAllowed hObserved
  unfold assertedBy at hObserved
  split at hObserved
  · exact hAllowed
  · simp at hObserved

/- What a verified callback was asserted is its subject. -/
theorem asserts_iff
    {later earlier : History}
    (hRecorded : Recorded P cfg (later ++ earlier))
    (hVerified :
      Verified P cfg callback (answersOf thread earlier)
        sessionId session token)
    (other : String) :
    Asserts (answersOf thread (later ++ earlier)) other ↔
      other = token.sub := by
  rcases hVerified.token with
    ⟨text, jwksUri, issuer, audience, payload, hMem, _,
      hChecked, _⟩
  have hSub := (checkPayload_spec hChecked).2.1
  have hAsserted :
      some payload ∈
        asserted (answersOf thread (later ++ earlier)) :=
    List.mem_filterMap.mpr
      ⟨_, answersOf_subset thread later earlier hMem, rfl⟩
  constructor
  · rintro ⟨payload', hMem', hSub'⟩
    have hOnce := asserted_once hRecorded thread
    have hSame : payload = payload' := by
      cases hList :
          asserted (answersOf thread (later ++ earlier)) with
      | nil => simp [hList] at hAsserted
      | cons first rest =>
          rw [hList] at hOnce hAsserted hMem'
          have hRest : rest = [] := by simpa using hOnce
          subst hRest
          simp only [List.mem_singleton] at hAsserted hMem'
          exact Option.some.inj (hAsserted.trans hMem'.symm)
    subst hSame
    rw [hSub, JsValue.str.injEq] at hSub'
    exact hSub'.symm
  · rintro rfl
    exact ⟨payload, hAsserted, hSub⟩

/- The tenant and subject a verified callback came with. -/
theorem CalledBack.unique
    {tenant : Option String}
    {sub : String}
    (hRecorded : Recorded P cfg history)
    (hArrive : Entry.arrive thread q ∈ history)
    (hCallback : q.callback = some callback)
    (hVerified :
      Verified P cfg callback (answersOf thread history)
        sessionId session token)
    (hCalledBack : CalledBack history thread tenant sub) :
    tenant = callback.tenant ∧ sub = token.sub := by
  rcases hCalledBack with ⟨other, hFound, rfl, hAsserts⟩
  rw [callbackOf_eq_some hRecorded hArrive hCallback,
    Option.some.injEq] at hFound
  subst hFound
  have hAll : Recorded P cfg ([] ++ history) := hRecorded
  exact ⟨rfl, (asserts_iff hAll hVerified sub).mp hAsserts⟩

end KisAuth

------------------------------------------------------------
-- The Key Of An Established Identity
------------------------------------------------------------

namespace KisAuth

open Interaction Store

variable {P : Platform} {cfg : KisAuthConfig}
variable {history : History}

/- The key a registration ticket is issued for. -/
theorem ticket_key
    {later earlier : History}
    {issuer : Nat}
    {key sub : String}
    {payload : RegistrationTicketPayload}
    {ttl : ℚ}
    {tenant : Option String}
    (hRecorded :
      Recorded P cfg
        (later ++
          .answer issuer
              ⟨.redisSet key (.ticket payload) ttl, .ok ()⟩ ::
            earlier))
    (hCalledBack : CalledBack earlier issuer tenant sub) :
    ValidTenant tenant ∧
      (payload.provider, payload.providerSubject) =
        identityKey tenant sub := by
  rcases hRecorded.step_at with ⟨q, hStep⟩
  rcases hStep.allowed with
    ⟨callback, sessionId, session, token, hCallback,
      hIssued⟩
  rcases hCalledBack.unique hStep.recorded hStep.arrived
      hCallback hIssued.verified with ⟨rfl, rfl⟩
  refine
    ⟨verified_tenant hStep.recorded hIssued.verified, ?_⟩
  rw [hIssued.provider, hIssued.providerSubject]
  exact callback.key_eq token.sub

/- The key an identity is linked under by a callback. -/
theorem linked_key
    {later earlier : History}
    {thread : Nat}
    {args : NewIdentity}
    {row : AuthIdentity}
    {tenant : Option String}
    {sub : String}
    (hRecorded :
      Recorded P cfg
        (later ++
          .answer thread ⟨.insertIdentity args, .ok row⟩ ::
            earlier))
    (hCalledBack : CalledBack earlier thread tenant sub) :
    ValidTenant tenant ∧
      (args.provider, args.providerSubject) =
        identityKey tenant sub := by
  rcases hRecorded.step_at with ⟨q, hStep⟩
  have hAgain := hCalledBack
  rcases hAgain with ⟨callback, hFound, _, _⟩
  rcases exists_of_callbackOf hFound with
    ⟨q', hArrive, hCallback⟩
  have hSame :=
    hStep.recorded.request_unique hArrive hStep.arrived
  subst hSame
  rcases hStep.allowed.1.verified hCallback with
    ⟨sessionId, session, token, hVerified, hProvider,
      hSubject⟩
  rcases hCalledBack.unique hStep.recorded hArrive hCallback
      hVerified with ⟨rfl, rfl⟩
  refine ⟨verified_tenant hStep.recorded hVerified, ?_⟩
  rw [hProvider, hSubject]
  exact callback.key_eq token.sub

/- A row is inserted under the key it is requested for. -/
theorem inserted_key
    {thread : Nat}
    {args : NewIdentity}
    {row : AuthIdentity}
    (hRecorded : Recorded P cfg history)
    (hInsert :
      Entry.answer thread ⟨.insertIdentity args, .ok row⟩ ∈
        history) :
    row.binding.provider = args.provider ∧
      row.binding.providerSubject =
        args.providerSubject := by
  rcases hRecorded.step hInsert with
    ⟨later, earlier, q, rfl, hStep⟩
  have hInserted := hStep.faithful row rfl
  exact ⟨hInserted.provider, hInserted.providerSubject⟩

/- An identity is kept under the key of its tenant. -/
theorem established_key
    {binding : IdentityBinding}
    {tenant : Option String}
    {sub : String}
    (hRecorded : Recorded P cfg history)
    (hEstablished :
      Established history binding tenant sub) :
    ValidTenant tenant ∧
      (binding.provider, binding.providerSubject) =
        identityKey tenant sub := by
  cases hEstablished with
  | linked later earlier thread args row hSplit hRow
      hCalledBack =>
      subst hRow
      have hInsert :
          Entry.answer thread
              ⟨.insertIdentity args, .ok row⟩ ∈ history := by
        rw [hSplit]
        exact List.mem_append_right later List.mem_cons_self
      rcases inserted_key hRecorded hInsert with
        ⟨hProvider, hSubject⟩
      rw [hSplit] at hRecorded
      rcases linked_key hRecorded hCalledBack with
        ⟨hValid, hKey⟩
      rw [hProvider, hSubject]
      exact ⟨hValid, hKey⟩
  | registered later earlier thread redeemer issuer args row
      code payload ttl hInsert hRow hToken hConsumed hClaims
      hSplit hCalledBack =>
      subst hRow
      rcases inserted_key hRecorded hInsert with
        ⟨hProvider, hSubject⟩
      rw [hSplit] at hRecorded
      rcases ticket_key hRecorded hCalledBack with
        ⟨hValid, hKey⟩
      rw [hProvider, hSubject, ← hClaims.1, ← hClaims.2]
      exact ⟨hValid, hKey⟩

end KisAuth

------------------------------------------------------------
-- Every Identity Is Established
------------------------------------------------------------

namespace KisAuth

open Interaction Store

variable {P : Platform} {cfg : KisAuthConfig}
variable {history : History}

theorem called_back_of_verified
    {thread : Nat}
    {q : Request}
    {callback : Callback}
    {sessionId : String}
    {session : OAuthSession}
    {token : VerifiedIdToken}
    (hRecorded : Recorded P cfg history)
    (hArrive : Entry.arrive thread q ∈ history)
    (hCallback : q.callback = some callback)
    (hVerified :
      Verified P cfg callback (answersOf thread history)
        sessionId session token) :
    CalledBack history thread callback.tenant token.sub := by
  have hAll : Recorded P cfg ([] ++ history) := hRecorded
  exact
    ⟨callback,
      callbackOf_eq_some hRecorded hArrive hCallback, rfl,
      (asserts_iff hAll hVerified token.sub).mpr rfl⟩

/- The ticket a registration token was answered for. -/
theorem ticket_of_token
    {redeemer : Nat}
    {provider providerSubject : String}
    (hRecorded : Recorded P cfg history)
    (hToken :
      TokenAnswered history redeemer provider
        providerSubject) :
    ∃ later earlier issuer callback sessionId session token
        code payload ttl,
      history =
          later ++
            .answer issuer
                ⟨.redisSet (regTicketKey code)
                    (.ticket payload) ttl, .ok ()⟩ ::
              earlier ∧
        Entry.answer redeemer
            ⟨.redisConsume (regTicketKey code),
              some (.ticket payload)⟩ ∈ history ∧
        payload.provider = provider ∧
        payload.providerSubject = providerSubject ∧
        Recorded P cfg earlier ∧
        (∃ q,
          Entry.arrive issuer q ∈ earlier ∧
            q.callback = some callback) ∧
        Verified P cfg callback (answersOf issuer earlier)
          sessionId session token := by
  rcases hToken with
    ⟨post, token, hArrive, hRespond, hProvider, hSubject⟩
  rcases List.append_of_mem hRespond with
    ⟨later, ended, rfl⟩
  have hEnded : Recorded P cfg ended := hRecorded.drop.tail
  rcases hRecorded.ended_of_arrive hArrive with
    ⟨_, _, hAnswered⟩
  rcases hAnswered with
    ⟨_, _, _, _, hOther, _⟩ |
    ⟨_, code, payload, _, hRedeemed⟩
  · simp at hOther
  have hConsumed := mem_of_past hRedeemed.consumed
  rcases stored_of_consumed hEnded hConsumed with
    ⟨middle, before, rfl, hBefore, hStored⟩
  rcases ticket_origin hBefore hStored with
    ⟨issuer, callback, sessionId, session, idToken, newer,
      earlier, hGranted⟩
  rcases hGranted.split with ⟨ttl, rfl⟩
  have hProviders :
      payload.provider = provider := by
    rw [hRedeemed.provider, truthyText_eq_some_iff]
      at hProvider
    exact Option.some.inj hProvider.1
  have hSubjects :
      payload.providerSubject = providerSubject := by
    rw [hRedeemed.providerSubject] at hSubject
    exact Option.some.inj hSubject
  refine
    ⟨later ++
        .respond redeemer (.ok (.token token)) ::
          (middle ++
            .answer redeemer
                ⟨.redisConsume (regTicketKey code),
                  some (.ticket payload)⟩ ::
              newer), earlier, issuer, callback, sessionId,
      session, idToken, code, payload, ttl, ?_, ?_,
      hProviders, hSubjects, hBefore.drop.tail,
      hGranted.arrived, hGranted.issued.verified⟩
  · simp
  · simp

/- Every identity was established by some callback. -/
theorem established_of_binding
    {binding : IdentityBinding}
    (hRecorded : Recorded P cfg history)
    (hRepeats : Always RepeatsClaims history)
    (hMem : binding ∈ bindings history) :
    ∃ tenant sub,
      ValidTenant tenant ∧
        Established history binding tenant sub := by
  rcases (mem_bindings_iff _ _).mp hMem with
    ⟨thread, args, row, hInsert, rfl⟩
  rcases hRecorded.step hInsert with
    ⟨later, earlier, q, hSplit, hStep⟩
  rcases hStep.allowed.1 with
    ⟨post, rfl, _⟩ |
    ⟨callback, sessionId, session, token, hCallback,
      hEarned⟩
  · rw [hSplit] at hRepeats
    rcases hRepeats.split.1 thread args row post rfl
        hStep.arrived with ⟨redeemer, hToken⟩
    rcases ticket_of_token hStep.recorded hToken with
      ⟨middle, before, issuer, callback, sessionId, session,
        token, code, payload, ttl, hTicket, hConsumed,
        hProvider, hSubject, hBefore,
        ⟨q, hArrive, hCallback⟩, hVerified⟩
    have hLift :
        ∀ {entry : ServiceEntry}, entry ∈ earlier →
          entry ∈ history := by
      intro entry hEntry
      rw [hSplit]
      exact List.mem_append_right _
        (List.mem_cons_of_mem _ hEntry)
    have hAnswered :
        TokenAnswered history redeemer args.provider
          args.providerSubject := by
      rcases hToken with
        ⟨post', jwt, hRedeemer, hRespond, hClaims⟩
      exact
        ⟨post', jwt, hLift hRedeemer, hLift hRespond,
          hClaims⟩
    refine
      ⟨callback.tenant, token.sub,
        verified_tenant hBefore hVerified, ?_⟩
    apply Established.registered
      (later ++
        .answer thread ⟨.insertIdentity args, .ok row⟩ ::
          middle)
      before thread redeemer issuer args row code payload ttl
      hInsert rfl hAnswered (hLift hConsumed)
      ⟨hProvider, hSubject⟩
    · rw [hSplit, hTicket]
      simp
    · exact
        called_back_of_verified hBefore hArrive hCallback
          hVerified
  · refine
      ⟨callback.tenant, token.sub,
        verified_tenant hStep.recorded hEarned.verified, ?_⟩
    exact
      .linked later earlier thread args row hSplit rfl
        (called_back_of_verified hStep.recorded
          hStep.arrived hCallback hEarned.verified)

end KisAuth

------------------------------------------------------------
-- Isolation
------------------------------------------------------------

namespace KisAuth

open Interaction Store

variable {P : Platform} {cfg : KisAuthConfig}
variable {history : History}
variable {thread : Nat} {callback : Callback} {q : Request}

/- The identity of a callback's tenant and subject. -/
def OwnKey
    (history : History)
    (thread : Nat)
    (callback : Callback)
    (key : String × String) : Prop :=
  ValidTenant callback.tenant ∧
    ∃ sub,
      (∀ other,
        Asserts (answersOf thread history) other ↔
          other = sub) ∧
        key = identityKey callback.tenant sub

theorem ownKey_of_verified
    {later earlier : History}
    {sessionId : String}
    {session : OAuthSession}
    {token : VerifiedIdToken}
    {key : String × String}
    (hRecorded : Recorded P cfg (later ++ earlier))
    (hVerified :
      Verified P cfg callback (answersOf thread earlier)
        sessionId session token)
    (hProvider : key.1 = callback.provider)
    (hSubject : key.2 = callback.subject token.sub) :
    OwnKey (later ++ earlier) thread callback key := by
  refine
    ⟨verified_tenant hRecorded.drop hVerified, token.sub,
      asserts_iff hRecorded hVerified, ?_⟩
  rw [← callback.key_eq, ← hProvider, ← hSubject]

/- A row of which the callback knows the id. -/
theorem ownKey_of_lookedUp
    {id : String}
    {binding : IdentityBinding}
    (hRecorded : Recorded P cfg history)
    (hArrive : Entry.arrive thread q ∈ history)
    (hCallback : q.callback = some callback)
    (hLookedUp : RowLookedUp (answersOf thread history) id)
    (hRow : binding ∈ bindings history)
    (hId : uuidIn id = some binding.id) :
    OwnKey history thread callback
      (binding.provider, binding.providerSubject) := by
  rcases hLookedUp.verified hRecorded hArrive hCallback with
    ⟨newer, before, sessionId, session, token, row, rfl, _, _,
      hVerified, hSelect, hSame⟩
  rcases selected_binding hRecorded hSelect with
    ⟨hFound, hProvider, hSubject⟩
  have hCanonical := binding_canonical hRecorded hFound
  have hIds : row.binding.id = binding.id := by
    have hBoth : some row.binding.id = some binding.id := by
      rw [← hCanonical, ← hId, ← hSame]
      rfl
    exact Option.some.inj hBoth
  have hBinding :=
    binding_unique hRecorded.faithful hFound hRow hIds
  rw [← hBinding]
  exact
    ownKey_of_verified hRecorded hVerified hProvider hSubject

/- What a callback does concerns its own identity. -/
theorem concerns_own
    {later earlier : History}
    {answer : Answer Eff Eff.Res}
    {key : String × String}
    (hRecorded :
      Recorded P cfg
        (later ++ .answer thread answer :: earlier))
    (hFound : callbackOf thread earlier = some callback)
    (hConcerns : Concerns earlier answer.effect key) :
    OwnKey earlier thread callback key := by
  rcases hRecorded.step_at with ⟨q, hStep⟩
  have hEarlier := hStep.recorded
  have hArrive := hStep.arrived
  have hAll : Recorded P cfg ([] ++ earlier) := hEarlier
  rcases exists_of_callbackOf hFound with
    ⟨q', hArrive', hCallback⟩
  have hSame := hEarlier.request_unique hArrive' hArrive
  subst hSame
  have hAllowed := hStep.allowed
  rcases answer with ⟨effect, value⟩
  cases hConcerns with
  | lookup provider providerSubject =>
      rcases LookupAuthorized.verified hAllowed.2
          hCallback with
        ⟨sessionId, session, token, hVerified, hProvider,
          hSubject⟩
      exact
        ownKey_of_verified hAll hVerified hProvider hSubject
  | link args =>
      rcases LinkAuthorized.verified hAllowed.1 hCallback with
        ⟨sessionId, session, token, hVerified, hProvider,
          hSubject⟩
      exact
        ownKey_of_verified hAll hVerified hProvider hSubject
  | register key payload ttl =>
      rcases hAllowed with
        ⟨other, sessionId, session, token, hOther, hIssued⟩
      rw [hCallback, Option.some.injEq] at hOther
      subst hOther
      exact
        ownKey_of_verified hAll hIssued.verified
          hIssued.provider hIssued.providerSubject
  | read id binding hRow hId =>
      have hNone : q'.callback = none := hAllowed.2
      rw [hCallback] at hNone
      simp at hNone
  | refresh email verified id binding hRow hId =>
      exact
        ownKey_of_lookedUp hEarlier hArrive hCallback
          (RetryAuthorized.lookedUp hAllowed) hRow hId
  | touch id binding hRow hId =>
      exact
        ownKey_of_lookedUp hEarlier hArrive hCallback
          (ReturnAuthorized.lookedUp hAllowed) hRow hId
  | signIn key payload ttl binding hRow hId =>
      rcases hAllowed with
        ⟨other, sessionId, session, token, hOther, hIssued⟩
      rw [hCallback, Option.some.injEq] at hOther
      subst hOther
      have hEntitled := code_entitled hEarlier hIssued
      rcases entitled_row hEarlier hEntitled with
        ⟨row, hRowId, hFoundRow, hProvider, hSubject⟩
      have hIds : binding.id = row.binding.id :=
        hId.trans hRowId
      have hBinding :=
        binding_unique hEarlier.faithful hRow hFoundRow hIds
      rw [hBinding]
      exact
        ownKey_of_verified hAll hIssued.verified hProvider
          hSubject

/-
  Whatever requests are served, and in whatever order their
  calls are answered, tenants are isolated, as long as link
  requests repeat the claims of registration tokens.
-/
theorem tenant_isolation
    (run : Run P cfg)
    (hRepeats : Always RepeatsClaims run.history) :
    TenantsIsolated run.history where
  keys := fun tenant tenant' sub sub' hTenant hTenant' hEq =>
    identityKey_inj hTenant hTenant' hEq
  established := fun binding hMem =>
    established_of_binding run.recorded hRepeats hMem
  isolated := by
    apply run.recorded.always
    rintro later entry earlier hRecorded thread answer
      callback key rfl hFound hConcerns
    rcases concerns_own hRecorded hFound hConcerns with
      ⟨hValid, sub, hAsserts, hKey⟩
    refine ⟨sub, hAsserts, hKey, ?_⟩
    intro binding tenant' sub' hSame hEstablished
    rcases established_key hRecorded.drop.tail hEstablished
      with ⟨hValid', hKey'⟩
    exact
      identityKey_inj hValid' hValid
        (hKey'.symm.trans (hSame.trans hKey))

end KisAuth

------------------------------------------------------------
-- A Tenant's User
------------------------------------------------------------

namespace KisAuth

open Interaction

/- Who redeems a registration. -/
def registers : ServiceEntry → Option Nat
| .arrive thread (.registrationExchange _) => some thread
| _ => none

/- Who was answered a token, for which provider's subject. -/
def claimsOf :
    ServiceEntry →
      Option (Nat × Option String × Option String)
| .respond thread (.ok (.token token)) =>
    some (thread, token.provider, token.providerSubject)
| _ => none

/- What was inserted. -/
def insertionOf : ServiceEntry → Option NewIdentity
| .answer _ ⟨.insertIdentity args, .ok _⟩ => some args
| _ => none

/- Every insertion repeats what some registration claims. -/
def InsertsClaimed
    (entry : ServiceEntry)
    (earlier : History) : Prop :=
  ∀ args ∈ insertionOf entry,
    ∃ claim ∈ earlier.filterMap claimsOf,
      claim.1 ∈ earlier.filterMap registers ∧
        claim.2 =
          (some args.provider, some args.providerSubject)

instance
    (entry : ServiceEntry)
    (earlier : History) :
    Decidable (InsertsClaimed entry earlier) :=
  inferInstanceAs
    (Decidable
      (∀ args ∈ insertionOf entry,
        ∃ claim ∈ earlier.filterMap claimsOf,
          claim.1 ∈ earlier.filterMap registers ∧
            claim.2 =
              (some args.provider,
                some args.providerSubject)))

theorem InsertsClaimed.repeats
    {entry : ServiceEntry}
    {earlier : History}
    (hInserts : InsertsClaimed entry earlier) :
    RepeatsClaims entry earlier := by
  rintro thread args row post rfl _
  rcases hInserts args rfl with
    ⟨⟨redeemer, claims⟩, hClaim, hRegisters, hSame⟩
  dsimp only at hRegisters hSame
  subst hSame
  rcases List.mem_filterMap.mp hClaim with
    ⟨answered, hAnswered, hToken⟩
  rcases List.mem_filterMap.mp hRegisters with
    ⟨arrived, hArrived, hRedeemer⟩
  unfold claimsOf at hToken
  split at hToken
  · next thread token =>
      simp only [Option.some.injEq, Prod.mk.injEq] at hToken
      rcases hToken with ⟨rfl, hProvider, hSubject⟩
      unfold registers at hRedeemer
      split at hRedeemer
      · next other post =>
          rw [Option.some.injEq] at hRedeemer
          subst hRedeemer
          exact
            ⟨other, post, token, hArrived, hAnswered,
              hProvider, hSubject⟩
      · cases hRedeemer
  · cases hToken

/- A site answers with a body. -/
def replied (members : List (String × JsValue)) : External :=
  .reply (some { status := 200, body := some (.obj members) })

/- The start route resolves the tenant and its provider. -/
def acmeStartActions (thread : Nat) : FlowActions :=
  [.arrive (.enterpriseStart "acme" flowBrowser),
    .run thread .none, .run thread .none, .run thread .none,
    .run thread .none, .run thread .none,
    .run thread (.random "a1"),
    .run thread
      (replied
        [("partner_id", .str "p1"),
          ("partner_slug", .str "acme"),
          ("issuer", .str "https://idp.acme.test"),
          ("client_id", .str "kis"),
          ("client_secret", .str "acme-secret"),
          ("discovery_url",
            .str "https://idp.acme.test/discovery")]),
    .run thread .none, .run thread .none, .run thread .none,
    .run thread .none,
    .run thread
      (replied
        [("authorization_endpoint",
            .str "https://idp.acme.test/authorize"),
          ("token_endpoint",
            .str "https://idp.acme.test/token"),
          ("jwks_uri", .str "https://idp.acme.test/jwks")]),
    .run thread .none, .run thread .none,
    .run thread (.random "v1"), .run thread .none,
    .run thread .none, .run thread .none]

/- The tenant vouches for a subject, who gets a ticket. -/
def acmeCallbackActions (thread : Nat) : FlowActions :=
  [.arrive
      (.enterpriseCallback "acme"
        { code := some "c1"
          state := some "st"
          error := none }
        flowBrowser),
    .run thread .none, .run thread .none, .run thread .none,
    .run thread .none, .run thread .none, .run thread .none,
    .run thread (replied [("id_token", .str "t")]),
    .run thread
      (.payload
        (some
          { iss := .str "https://idp.acme.test"
            aud := .str "kis"
            nonce := .str "no"
            sub := .str "x1"
            email := .undefined
            emailVerified := .undefined })),
    .run thread .none, .run thread .none,
    .run thread (.random "t1"), .run thread .none,
    .run thread .none, .run thread .none]

/- The ticket is redeemed. -/
def acmeExchangeActions (thread : Nat) : FlowActions :=
  [.arrive (.registrationExchange (ticketText.post "10.0.0.9")),
    .run thread .none, .run thread .none,
    .run thread (.elapsed 0), .run thread .none,
    .run thread .none, .run thread (.random "j1"),
    .run thread .none, .run thread .none]

/- Django links what the token claims. -/
def acmeLinkActions (thread : Nat) : FlowActions :=
  [.arrive (.identityLink (tenantLinkText.post "10.0.0.9")),
    .run thread (.elapsed 0), .run thread .none,
    .run thread (.random signedRow), .run thread .none,
    .run thread .none]

/- A user of a tenant registers. -/
def acmeActions : FlowActions :=
  [.env (.tick 1700000000000)] ++
    authorizeActions 0 (some "acme") ++ acmeStartActions 1 ++
      acmeCallbackActions 2 ++ acmeExchangeActions 3 ++
        acmeLinkActions 4

/- The identity of the user is kept apart from all others. -/
theorem acme_isolated :
    ∃ run : Run signedPlatform testConfig,
      (bindings run.history).map
            (fun binding =>
              (binding.provider, binding.providerSubject)) =
          [("oidc", "acme:x1")] ∧
        TenantsIsolated run.history := by
  have hFacts :
      (signedRun "registration" acmeActions).map
          (fun state =>
            decide
              ((bindings state.history).map
                    (fun binding =>
                      (binding.provider,
                        binding.providerSubject)) =
                  [("oidc", "acme:x1")] ∧
                Always InsertsClaimed state.history)) =
        some true := by
    decide +kernel
  rcases Option.map_eq_some_iff.mp hFacts with
    ⟨state, hRun, hTrue⟩
  rcases of_decide_eq_true hTrue with ⟨hBindings, hClaimed⟩
  exact
    ⟨⟨_, state, Reachable.of_run hRun⟩, hBindings,
      tenant_isolation ⟨_, state, Reachable.of_run hRun⟩
        (hClaimed.mono
          (fun _ _ hInserts => hInserts.repeats))⟩

end KisAuth
