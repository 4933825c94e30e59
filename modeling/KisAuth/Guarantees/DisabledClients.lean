import KisAuth.Guarantees.ClaimShapes
import KisAuth.Guarantees.CodeDelivery
import KisAuth.Provenance.Registry

/-
  What a disabled client still gets.

  The status of a client is read when /authorize begins a
  session for it, and never again. What is completed later
  is cut off only if the client was not disabled since then.

  Key definitions include:
    * `served`, `CutOff`
    * `Began`, `Screened`, `Undisturbed`

  Key theorems include:
    * `began_screened`
    * `cut_off_iff`, `disabled_client_served`
-/

------------------------------------------------------------
-- Serving A Client
------------------------------------------------------------

namespace KisAuth

open Interaction Store

/-
  The client an entry creates a session, stores a code or
  ticket or returns a token for. A session without a code
  verifier is a new one.
-/
def served : ServiceEntry → Option String
| .answer _ ⟨.redisSet _ (.session session) _, .ok ()⟩ =>
    if session.codeVerifier = none then
      some session.clientId
    else
      none
| .answer _ ⟨.redisSet _ (.code payload) _, .ok ()⟩ =>
    some payload.clientId
| .answer _ ⟨.redisSet _ (.ticket payload) _, .ok ()⟩ =>
    some payload.clientId
| .respond _ (.ok (.token token)) => some token.aud
| _ => none

/- No client is served while it is disabled. -/
def CutOff
    (clients : String → Option RegisteredClient)
    (history : History) : Prop :=
  Always
    (fun entry earlier =>
      ∀ clientId ∈ served entry,
        ¬IsDisabled (registryAt clients earlier clientId))
    history

instance
    (clients : String → Option RegisteredClient)
    (history : History) :
    Decidable (CutOff clients history) :=
  inferInstanceAs (Decidable (Always _ history))

/- The last change to the client left it disabled. -/
def LeftDisabled
    (since : History)
    (clientId : String) : Prop :=
  ∃ client,
    changedTo since clientId = some client ∧
      IsDisabled client

/-
  The request to /authorize that began what an entry serves:
  a session by creating it, a code or ticket by creating the
  session its callback presented, a token by beginning the
  code or ticket that was redeemed for it.
-/
inductive Began
    (P : Platform)
    (cfg : KisAuthConfig) :
    History → ServiceEntry → Nat → Prop where
  | session
      (earlier : History)
      (minter : Nat)
      (key : String)
      (session : OAuthSession)
      (ttl : ℚ) :
      Began P cfg earlier
        (.answer minter
          ⟨.redisSet key (.session session) ttl, .ok ()⟩)
        minter
  | grant
      (earlier : History)
      (thread minter : Nat)
      (q : Request)
      (callback : Callback)
      (query : AuthorizeQuery)
      (key sessionId : String)
      (created : OAuthSession)
      (value : RedisValue)
      (ttl : ℚ)
      (hGrant : value.isGrant)
      (hArrive : Entry.arrive thread q ∈ earlier)
      (hCallback : q.callback = some callback)
      (hCookie :
        sessionCookie callback.req = some (some sessionId))
      (hMinted :
        Minted P cfg earlier minter query sessionId created) :
      Began P cfg earlier
        (.answer thread ⟨.redisSet key value ttl, .ok ()⟩)
        minter
  | token
      (later before : History)
      (thread writer minter : Nat)
      (token : AuthorizationJwt)
      (key : String)
      (value : RedisValue)
      (ttl : ℚ)
      (hConsumed :
        Entry.answer thread
            ⟨.redisConsume key, some value⟩ ∈ later)
      (hBegan :
        Began P cfg before
          (.answer writer ⟨.redisSet key value ttl, .ok ()⟩)
          minter) :
      Began P cfg
        (later ++
          .answer writer ⟨.redisSet key value ttl, .ok ()⟩ ::
            before)
        (.respond thread (.ok (.token token)))
        minter

/-
  The entry began with a request to /authorize that read the
  client while it was registered and active.
-/
def BegunActive
    (P : Platform)
    (cfg : KisAuthConfig)
    (clients : String → Option RegisteredClient)
    (entry : ServiceEntry)
    (earlier : History)
    (clientId : String) : Prop :=
  ∃ minter query req client since before,
    Began P cfg earlier entry minter ∧
      Entry.arrive minter (.authorize query req) ∈
        earlier ∧
      earlier =
        since ++
          .answer minter
              ⟨.selectClient clientId,
                .ok (some client)⟩ ::
            before ∧
      registryAt clients before clientId = some client ∧
      client.status = .active

/- So did whatever is served for a client. -/
def Screened
    (P : Platform)
    (cfg : KisAuthConfig)
    (clients : String → Option RegisteredClient)
    (entry : ServiceEntry)
    (earlier : History) : Prop :=
  ∀ clientId ∈ served entry,
    BegunActive P cfg clients entry earlier clientId

/-
  No client was left disabled since the request to /authorize
  that began what is served read it.
-/
def Undisturbed
    (P : Platform)
    (cfg : KisAuthConfig)
    (entry : ServiceEntry)
    (earlier : History) : Prop :=
  ∀ clientId ∈ served entry,
    ∀ minter client since before,
      Began P cfg earlier entry minter →
        earlier =
            since ++
              .answer minter
                  ⟨.selectClient clientId,
                    .ok (some client)⟩ ::
                before →
          ¬LeftDisabled since clientId

end KisAuth

------------------------------------------------------------
-- Where Service Begins
------------------------------------------------------------

namespace KisAuth

open Interaction Store

variable {P : Platform} {cfg : KisAuthConfig}
variable {clients : String → Option RegisteredClient}
variable {history earlier : History}

/- A redirect URI is allowed for active clients only. -/
theorem active_of_allowed
    {client : RegisteredClient}
    {redirectUri : String}
    (hAllowed :
      isRedirectUriAllowed client redirectUri = true) :
    client.status = .active := by
  unfold isRedirectUriAllowed at hAllowed
  rw [Bool.and_eq_true, decide_eq_true_eq] at hAllowed
  exact hAllowed.1

/- A read of an active client, as a position. -/
theorem screened_of_read
    {entry : ServiceEntry}
    {minter : Nat}
    {query : AuthorizeQuery}
    {req : BrowserRequest}
    {clientId : String}
    {client : RegisteredClient}
    (hRegistry : Always (ClientRead clients) earlier)
    (hBegan : Began P cfg earlier entry minter)
    (hArrive :
      Entry.arrive minter (.authorize query req) ∈ earlier)
    (hRead :
      Entry.answer minter
          ⟨.selectClient clientId, .ok (some client)⟩ ∈
        earlier)
    (hActive : client.status = .active) :
    BegunActive P cfg clients entry earlier clientId := by
  rcases List.append_of_mem hRead with
    ⟨since, before, hSplit⟩
  have hRegistered :
      registryAt clients before clientId = some client := by
    rw [hSplit] at hRegistry
    exact hRegistry.split.1 minter clientId client rfl
  exact
    ⟨minter, query, req, client, since, before, hBegan,
      hArrive, hSplit, hRegistered, hActive⟩

/- A session is created for a client that was read. -/
theorem session_screened
    {thread : Nat}
    {q : Request}
    {key : String}
    {session : OAuthSession}
    {ttl : ℚ}
    (hRegistry : Always (ClientRead clients) earlier)
    (hStep :
      Step P cfg earlier thread q
        ⟨.redisSet key (.session session) ttl, .ok ()⟩) :
    Screened P cfg clients
      (.answer thread
        ⟨.redisSet key (.session session) ttl, .ok ()⟩)
      earlier := by
  intro clientId hServed
  simp only [served] at hServed
  split at hServed
  · next hNew =>
      rw [Option.mem_some_iff] at hServed
      subst hServed
      rcases hStep.allowed with
        ⟨sessionId, _, ⟨query, req, rfl, hCreated⟩ |
          hRestarted⟩
      · rcases hCreated.approved with
          ⟨client, hSelect, hAllowed, _⟩
        exact
          screened_of_read hRegistry (.session _ _ _ _ _)
            hStep.arrived (mem_of_past hSelect)
            (active_of_allowed hAllowed)
      · rcases hRestarted.read with
          ⟨old, codeVerifier, _, rfl⟩
        simp at hNew
  · simp at hServed

/- A code or ticket is for the client of a session. -/
theorem grant_screened
    {thread : Nat}
    {q : Request}
    {key clientId redirectUri : String}
    {value : RedisValue}
    {ttl : ℚ}
    (hRegistry : Always (ClientRead clients) earlier)
    (hStep :
      Step P cfg earlier thread q
        ⟨.redisSet key value ttl, .ok ()⟩)
    (hGrant : value.isGrant)
    (hGrantee : value.grantee = some (clientId, redirectUri)) :
    BegunActive P cfg clients
      (.answer thread ⟨.redisSet key value ttl, .ok ()⟩)
      earlier clientId := by
  rcases granted_session hGrant hStep with
    ⟨callback, sessionId, session, hCallback, hCookie,
      hHolds, hOwn⟩
  rcases session_held_origin hStep.recorded hHolds with
    ⟨minter, query, created, hMinted, hSame⟩
  have hBegan :=
    Began.grant earlier thread minter q callback query key
      sessionId created value ttl hGrant hStep.arrived
      hCallback hCookie hMinted
  rw [hGrantee, Option.some.injEq, Prod.mk.injEq,
    hSame.fields.1] at hOwn
  rcases hMinted.approvedFor.registry with
    ⟨client, hSelect, hAllowed, _⟩
  rcases hMinted.position with
    ⟨_, _, _, req, hPosition, hArrive, _⟩
  rw [← hOwn.1] at hSelect
  have hAsked :
      Entry.arrive minter (.authorize query req) ∈
        earlier := by
    rw [hPosition]
    exact List.mem_append_right _
      (List.mem_cons_of_mem _ hArrive)
  exact
    screened_of_read hRegistry hBegan hAsked hSelect
      (active_of_allowed hAllowed)

/- A token is for the client of what was redeemed. -/
theorem token_screened
    {thread : Nat}
    {key clientId redirectUri : String}
    {value : RedisValue}
    {token : AuthorizationJwt}
    (hRecorded : Recorded P cfg earlier)
    (hRegistry : Always (ClientRead clients) earlier)
    (hConsumed :
      Entry.answer thread ⟨.redisConsume key, some value⟩ ∈
        earlier)
    (hGrant : value.isGrant)
    (hGrantee : value.grantee = some (clientId, redirectUri)) :
    BegunActive P cfg clients
      (.respond thread (.ok (.token token))) earlier
      clientId := by
  have hRecord : value.isRecord := by
    cases value with
    | code payload => trivial
    | ticket payload => trivial
    | _ => exact absurd hGrant id
  rcases stored_of_consumed hRecorded hConsumed with
    ⟨newer, between, rfl, hBetween, hStored⟩
  rcases stored_origin hBetween hStored hRecord with
    ⟨middle, before, writer, ttl, q, rfl, hStep⟩
  have hRegistered : Always (ClientRead clients) before := by
    rw [List.append_cons, ← List.append_assoc] at hRegistry
    exact hRegistry.split.2
  rcases @grant_screened P cfg clients before writer q key
      clientId redirectUri value ttl hRegistered hStep hGrant
      hGrantee with
    ⟨minter, query, req, client, since, rest, hBegan,
      hArrive, hSplit, hClient, hActive⟩
  have hToken :=
    Began.token
      (newer ++
        .answer thread ⟨.redisConsume key, some value⟩ ::
          middle)
      before thread writer minter token key value ttl
      (by simp) hBegan
  rw [List.append_assoc, List.cons_append] at hToken
  refine
    ⟨minter, query, req, client,
      newer ++
        .answer thread ⟨.redisConsume key, some value⟩ ::
          (middle ++
            .answer writer
                ⟨.redisSet key value ttl, .ok ()⟩ ::
              since),
      rest, hToken, ?_, ?_, hClient, hActive⟩
  · simp [hArrive]
  · rw [hSplit]
    simp

end KisAuth

------------------------------------------------------------
-- Disabled Clients Over Runs
------------------------------------------------------------

namespace KisAuth

open Interaction Store

variable {P : Platform} {cfg : KisAuthConfig}

/- Everything that is served was begun for an active client. -/
theorem began_screened (run : Run P cfg) :
    Always (Screened P cfg run.clients) run.history := by
  apply always_of_split
  intro later entry earlier hSplit
  have hRecorded := run.recorded
  have hRegistry := run.registry
  rw [hSplit] at hRecorded hRegistry
  have hBefore := hRegistry.split.2
  intro clientId hServed
  have hAgain := hServed
  unfold served at hAgain
  split at hAgain
  · rcases hRecorded.step_at with ⟨q, hStep⟩
    exact session_screened hBefore hStep clientId hServed
  · rw [Option.mem_some_iff] at hAgain
    subst hAgain
    rcases hRecorded.step_at with ⟨q, hStep⟩
    exact grant_screened hBefore hStep trivial rfl
  · rw [Option.mem_some_iff] at hAgain
    subst hAgain
    rcases hRecorded.step_at with ⟨q, hStep⟩
    exact grant_screened hBefore hStep trivial rfl
  · rw [Option.mem_some_iff] at hAgain
    subst hAgain
    rcases hRecorded.ended with
      ⟨q, hEarlier, _, _, hAnswered⟩
    rcases hAnswered with
      ⟨post, code, payload, identity, rfl, hRedeemed⟩ |
      ⟨post, code, payload, rfl, hRedeemed⟩
    · rw [hRedeemed.aud]
      exact
        token_screened hEarlier hBefore
          (mem_of_past hRedeemed.consumed) trivial rfl
    · rw [hRedeemed.aud]
      exact
        token_screened hEarlier hBefore
          (mem_of_past hRedeemed.consumed) trivial rfl
  · simp at hAgain

/- The status since a read is what the changes left. -/
theorem disabled_since_iff
    {clients : String → Option RegisteredClient}
    {minter : Nat}
    {clientId : String}
    {client : RegisteredClient}
    {since before : History}
    (hClient :
      registryAt clients before clientId = some client)
    (hActive : client.status = .active) :
    IsDisabled
        (registryAt clients
          (since ++
            .answer minter
                ⟨.selectClient clientId,
                  .ok (some client)⟩ ::
              before)
          clientId) ↔
      LeftDisabled since clientId := by
  rw [registryAt_append, registryAt_cons_of_unset rfl,
    hClient]
  unfold LeftDisabled
  cases changedTo since clientId with
  | none => simp [IsDisabled, hActive]
  | some changed => simp

/-
  Whatever requests are served, and whatever operators do in
  between, what is served was begun for an active client, and
  clients are cut off if and only if none of them was left
  disabled since.
-/
theorem cut_off_iff (run : Run P cfg) :
    Always (Screened P cfg run.clients) run.history ∧
      (CutOff run.clients run.history ↔
        Always (Undisturbed P cfg) run.history) := by
  have hScreened := began_screened run
  refine ⟨hScreened, ?_, ?_⟩
  · intro hCutOff
    apply always_of_split
    intro later entry earlier hSplit clientId hServed minter
      client since before hBegan hRead hLeft
    have hRegistry := run.registry
    unfold CutOff at hCutOff
    rw [hSplit] at hCutOff hRegistry
    apply hCutOff.split.1 clientId hServed
    subst hRead
    rw [registryAt_append]
    rcases hLeft with ⟨changed, hChanged, hDisabled⟩
    rw [hChanged]
    exact hDisabled
  · intro hUndisturbed
    apply always_of_split
    intro later entry earlier hSplit clientId hServed
    rw [hSplit] at hScreened hUndisturbed
    rcases hScreened.split.1 clientId hServed with
      ⟨minter, query, req, client, since, before, hBegan, _,
        hRead, hClient, hActive⟩
    have hKept :=
      hUndisturbed.split.1 clientId hServed minter client
        since before hBegan hRead
    subst hRead
    rw [disabled_since_iff hClient hActive]
    exact hKept

end KisAuth

------------------------------------------------------------
-- A Disabled Client That Is Served
------------------------------------------------------------

namespace KisAuth

open Interaction

/- The client, after an operator disabled it. -/
def disabledClient : RegisteredClient where
  clientId := "kis-web"
  name := "KIS"
  status := .disabled
  allowedRedirectUris := ["https://kis.test/cb"]
  allowedScopes := []
  allowedPurposes := ["registration"]

/- Django redeems the ticket. -/
def registerActions (thread : Nat) : FlowActions :=
  [.arrive
      (.registrationExchange (ticketText.post "10.0.0.9")),
    .run thread .none, .run thread .none,
    .run thread (.elapsed 0), .run thread .none,
    .run thread .none, .run thread (.random "j1"),
    .run thread .none, .run thread .none]

/- The client is disabled between the start and callback. -/
def disabledActions : FlowActions :=
  [.env (.tick 1700000000000)] ++
    askActions 0 "registration" ++ readActions 1 ++
      startActions 1 "v1" ++
        [.env (.setClient "kis-web" (some disabledClient))] ++
          enterActions 2 "c1" ++ completeActions 2 "t1" ++
            registerActions 3

/- It still gets a ticket, and a token for it. -/
theorem disabled_client_served :
    ∃ run : Run signedPlatform testConfig,
      (tokensOf run.history).map AuthorizationJwt.aud =
          ["kis-web"] ∧
        ¬CutOff run.clients run.history := by
  have hServed :
      (signedRun "registration" disabledActions).map
          (fun state =>
            ((tokensOf state.history).map
                AuthorizationJwt.aud,
              decide
                (CutOff (purposeClients "registration")
                  state.history))) =
        some (["kis-web"], false) := by
    decide +kernel
  rcases Option.map_eq_some_iff.mp hServed with
    ⟨state, hRun, hBoth⟩
  simp only [Prod.mk.injEq, decide_eq_false_iff_not]
    at hBoth
  exact
    ⟨⟨_, state, Reachable.of_run hRun⟩, hBoth.1, hBoth.2⟩

end KisAuth
