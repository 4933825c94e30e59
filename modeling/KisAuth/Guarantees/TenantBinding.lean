import KisAuth.Guarantees.SessionCompletion
import KisAuth.Provenance.Tenants

/-
  A session is completed by the provider it was minted for.

  The enterprise routes check that the session is their
  tenant's. The Google routes do not check that it is no
  tenant's, so a session of a tenant can be completed with a
  Google identity.

  Key definitions include:
    * `EntersOwn`, `OwnIdentity`, `OwnProvider`

  Key theorems include:
    * `completed_by_own_provider`
    * `tenant_completed_by_google`
-/

------------------------------------------------------------
-- The Provider Of A Session
------------------------------------------------------------

namespace KisAuth

open Interaction

/- A Google callback enters no session of a tenant. -/
def EntersOwn
    (entry : ServiceEntry)
    (earlier : History) : Prop :=
  ∀ reader ∈ entering entry earlier,
    reader.tenant = none → reader.session.partnerSlug = none

instance
    (entry : ServiceEntry)
    (earlier : History) :
    Decidable (EntersOwn entry earlier) :=
  inferInstanceAs
    (Decidable
      (∀ reader ∈ entering entry earlier,
        reader.tenant = none →
          reader.session.partnerSlug = none))

/-
  The thread that is answered a code, a ticket or a linked
  identity.
-/
def yields : ServiceEntry → Option Nat
| .answer thread ⟨.redisSet _ value _, .ok ()⟩ =>
    if value.isGrant then some thread else none
| .answer thread ⟨.insertIdentity _, .ok _⟩ => some thread
| .answer thread ⟨.updateIdentity _ _ _, .ok (some _)⟩ =>
    some thread
| _ => none

variable (P : Platform) (cfg : KisAuthConfig)

/-
  The keys and names are Google's for no tenant, and for a
  tenant those of the configuration that Django serves for
  it and of the discovery document named there.
-/
def TrustedFor
    (history : History)
    (tenant : Option String)
    (jwksUri : String)
    (issuer : List String)
    (audience : String) : Prop :=
  match tenant with
  | none =>
      jwksUri = googleJwksUrl ∧ issuer = googleIssuers ∧
        audience = cfg.googleClientId
  | some partnerSlug =>
      ∃ config doc fetcher fetcher',
        ConfigFetched P cfg (answersOf fetcher history)
            partnerSlug config ∧
          DocFetched (answersOf fetcher' history)
            config.discoveryUrl doc ∧
          jwksUri = doc.jwksUri ∧
          issuer = [config.issuer] ∧
          audience = config.clientId

/-
  The callback came in on the route of the provider its
  session was created for, and verified an identity of that
  provider.
-/
structure OwnIdentity
    (history : History)
    (thread : Nat)
    (callback : Callback)
    (sessionId : String)
    (created : OAuthSession) : Prop where
  cookie : sessionCookie callback.req = some (some sessionId)
  minted :
    ∃ minter query,
      Minted P cfg history minter query sessionId created
  route : callback.tenant = created.partnerSlug
  token :
    ∃ text jwksUri issuer audience payload token,
      Entry.answer thread
          ⟨.jwtVerify text jwksUri issuer audience,
            some payload⟩ ∈ history ∧
        checkPayload created.nonce payload = some token ∧
        TrustedFor P cfg history created.partnerSlug jwksUri
          issuer audience

/- What a callback makes of a session is its provider's. -/
def OwnProvider
    (entry : ServiceEntry)
    (earlier : History) : Prop :=
  ∀ thread ∈ yields entry, ∀ callback,
    callbackOf thread earlier = some callback →
      ∃ sessionId created,
        OwnIdentity P cfg earlier thread callback sessionId
          created

end KisAuth

------------------------------------------------------------
-- Own Identities
------------------------------------------------------------

namespace KisAuth

open Interaction Store

variable {P : Platform} {cfg : KisAuthConfig}
variable {history later earlier : History}
variable {thread : Nat} {callback : Callback}
variable {sessionId : String} {session : OAuthSession}
variable {token : VerifiedIdToken}

theorem TrustedFor.append
    {tenant : Option String}
    {jwksUri audience : String}
    {issuer : List String}
    (hTrusted :
      TrustedFor P cfg earlier tenant jwksUri issuer
        audience)
    (later : History) :
    TrustedFor P cfg (later ++ earlier) tenant jwksUri issuer
      audience := by
  unfold TrustedFor at hTrusted ⊢
  cases tenant with
  | none => exact hTrusted
  | some partnerSlug =>
      rcases hTrusted with
        ⟨config, doc, fetcher, fetcher', hConfig, hDoc,
          hNames⟩
      exact
        ⟨config, doc, fetcher, fetcher',
          hConfig.extend (answersOf_subset _ _ _),
          hDoc.extend (answersOf_subset _ _ _), hNames⟩

theorem OwnIdentity.append
    {created : OAuthSession}
    (hOwn :
      OwnIdentity P cfg earlier thread callback sessionId
        created)
    (later : History) :
    OwnIdentity P cfg (later ++ earlier) thread callback
      sessionId created where
  cookie := hOwn.cookie
  minted := by
    rcases hOwn.minted with ⟨minter, query, hMinted⟩
    exact ⟨minter, query, hMinted.append later⟩
  route := hOwn.route
  token := by
    rcases hOwn.token with
      ⟨text, jwksUri, issuer, audience, payload, token, hMem,
        hPayload, hTrusted⟩
    exact
      ⟨text, jwksUri, issuer, audience, payload, token,
        List.mem_append_right later hMem, hPayload,
        hTrusted.append later⟩

/- What a token was verified against, as history shows it. -/
theorem trustedFor_of_trusted
    {tenant : Option String}
    {jwksUri audience : String}
    {issuer : List String}
    (hRecorded : Recorded P cfg history)
    (hTrusted :
      Trusted P cfg (answersOf thread history) tenant jwksUri
        issuer audience) :
    TrustedFor P cfg history tenant jwksUri issuer
      audience := by
  unfold Trusted at hTrusted
  unfold TrustedFor
  cases tenant with
  | none => exact hTrusted
  | some partnerSlug =>
      rcases hTrusted with ⟨config, doc, hConfig, hDoc, hNames⟩
      rcases config_origin hRecorded hConfig with
        ⟨fetcher, hFetched⟩
      rcases doc_origin hRecorded hDoc with
        ⟨fetcher', hFetched'⟩
      exact
        ⟨config, doc, fetcher, fetcher', hFetched, hFetched',
          hNames⟩

/- A verified callback that entered its own session. -/
theorem own_of_verified
    {q : Request}
    (hRecorded : Recorded P cfg history)
    (hOwn : Always EntersOwn history)
    (hArrive : Entry.arrive thread q ∈ history)
    (hCallback : q.callback = some callback)
    (hVerified :
      Verified P cfg callback (answersOf thread history)
        sessionId session token) :
    ∃ created,
      OwnIdentity P cfg history thread callback sessionId
        created := by
  rcases session_read_origin hRecorded
      (mem_of_past hVerified.reads.read) with
    ⟨minter, query, created, hMinted, hSame⟩
  rcases hSame.fields with
    ⟨_, _, _, _, hNonce, _, hSlug⟩
  have hRoute : callback.tenant = session.partnerSlug := by
    cases hTenant : callback.tenant with
    | none =>
        rcases hVerified.entered hRecorded hArrive
            hCallback with
          ⟨later, before, rfl, hEntering⟩
        exact (hOwn.split.1 _ hEntering hTenant).symm
    | some partnerSlug =>
        exact (hVerified.tenant partnerSlug hTenant).symm
  rcases hVerified.token with
    ⟨text, jwksUri, issuer, audience, payload, hMem, _,
      hPayload, hTrusted⟩
  refine ⟨created, ?_⟩
  exact
    { cookie := hVerified.reads.cookie
      minted := ⟨minter, query, hMinted⟩
      route := hRoute.trans hSlug
      token := by
        refine
          ⟨text, jwksUri, issuer, audience, payload, token,
            mem_of_past hMem, ?_, ?_⟩
        · rw [← hNonce]
          exact hPayload
        · rw [← hSlug, ← hRoute]
          exact trustedFor_of_trusted hRecorded hTrusted }

end KisAuth

------------------------------------------------------------
-- Completed By The Own Provider
------------------------------------------------------------

namespace KisAuth

open Interaction Store

variable {P : Platform} {cfg : KisAuthConfig}

/-
  In every run in which Google callbacks enter no session of
  a tenant, every code, ticket and linked identity comes
  from the provider its session was created for.
-/
theorem completed_by_own_provider
    (run : Run P cfg)
    (hOwn : Always EntersOwn run.history) :
    Always (OwnProvider P cfg) run.history := by
  apply always_of_split
  intro later entry earlier hSplit thread hThread callback
    hFound
  have hRecorded := run.recorded
  rw [hSplit] at hRecorded hOwn
  have hEarlier : Recorded P cfg earlier :=
    hRecorded.drop.tail
  have hOwnEarlier := hOwn.split.2
  rcases exists_of_callbackOf hFound with
    ⟨q, hArrive, hCallback⟩
  unfold yields at hThread
  split at hThread
  · next other key value ttl =>
      split at hThread
      · next hGrant =>
          simp only [Option.mem_def, Option.some.injEq]
            at hThread
          subst hThread
          rcases granted_of_write hRecorded rfl hGrant with
            ⟨callback', code, sessionId, session, token, _,
              hGranted⟩
          rcases hGranted.arrived with
            ⟨q', hArrive', hCallback'⟩
          have hSame :=
            hEarlier.request_unique hArrive' hArrive
          subst hSame
          rw [hCallback, Option.some.injEq] at hCallback'
          subst hCallback'
          exact
            ⟨sessionId,
              own_of_verified hEarlier hOwnEarlier hArrive
                hCallback hGranted.verified⟩
      · simp at hThread
  · next other args row =>
      simp only [Option.mem_def, Option.some.injEq]
        at hThread
      subst hThread
      rcases hRecorded.step_at with ⟨q', hStep⟩
      have hSame :=
        hEarlier.request_unique hStep.arrived hArrive
      subst hSame
      rcases hStep.allowed.1.verified hCallback with
        ⟨sessionId, session, token, hVerified, _⟩
      exact
        ⟨sessionId,
          own_of_verified hEarlier hOwnEarlier hArrive
            hCallback hVerified⟩
  · next other email verified id row =>
      simp only [Option.mem_def, Option.some.injEq]
        at hThread
      subst hThread
      rcases hRecorded.step_at with ⟨q', hStep⟩
      have hSame :=
        hEarlier.request_unique hStep.arrived hArrive
      subst hSame
      rcases hStep.allowed.lookedUp.verified hEarlier hArrive
          hCallback with
        ⟨newer, before, sessionId, session, token, _, rfl,
          hBefore, hArrive', hVerified, _⟩
      rcases own_of_verified hBefore hOwnEarlier.drop
          hArrive' hCallback hVerified with
        ⟨created, hIdentity⟩
      exact ⟨sessionId, created, hIdentity.append newer⟩
  · simp at hThread

end KisAuth

------------------------------------------------------------
-- A Tenant's Session At Google
------------------------------------------------------------

namespace KisAuth

open Interaction Store

/- The tenant of a session an entry stores. -/
def storedTenant : ServiceEntry → Option (Option String)
| .answer _ ⟨.redisSet _ (.session session) _, _⟩ =>
    some session.partnerSlug
| _ => none

/- All sessions so far are of one tenant. -/
def OneTenant
    (partnerSlug : String)
    (history : History) : Prop :=
  ∀ tenant ∈ history.filterMap storedTenant,
    tenant = some partnerSlug

instance (partnerSlug : String) (history : History) :
    Decidable (OneTenant partnerSlug history) :=
  inferInstanceAs
    (Decidable (∀ tenant ∈ history.filterMap storedTenant, _))

/- The threads of Google callbacks an entry yields to. -/
def googleYields
    (entry : ServiceEntry)
    (earlier : History) : Option Nat :=
  (yields entry).filter (fun thread =>
    (callbackOf thread earlier).map Callback.tenant =
      some none)

/- Where there is one tenant, Google yields nothing. -/
def TenantKept
    (partnerSlug : String)
    (entry : ServiceEntry)
    (earlier : History) : Prop :=
  OneTenant partnerSlug earlier →
    googleYields entry earlier = none

instance
    (partnerSlug : String)
    (entry : ServiceEntry)
    (earlier : History) :
    Decidable (TenantKept partnerSlug entry earlier) :=
  inferInstanceAs (Decidable (_ → _))

theorem OwnProvider.tenantKept
    {P : Platform}
    {cfg : KisAuthConfig}
    {entry : ServiceEntry}
    {earlier : History}
    (partnerSlug : String)
    (hOwn : OwnProvider P cfg entry earlier) :
    TenantKept partnerSlug entry earlier := by
  intro hOne
  by_contra hYields
  rcases Option.ne_none_iff_exists'.mp hYields with
    ⟨thread, hThread⟩
  unfold googleYields at hThread
  rw [Option.filter_eq_some_iff] at hThread
  rcases hThread with ⟨hThread, hGoogle⟩
  simp only [decide_eq_true_eq, Option.map_eq_some_iff]
    at hGoogle
  rcases hGoogle with ⟨callback, hFound, hNone⟩
  rcases hOwn thread hThread callback hFound with
    ⟨sessionId, created, hIdentity⟩
  rcases hIdentity.minted with ⟨minter, query, hMinted⟩
  rcases hMinted.position with
    ⟨later, before, ttl, req, hSplit, _⟩
  have hEntry :
      .answer minter
          ⟨.redisSet (sessionKey sessionId)
            (.session created) ttl, .ok ()⟩ ∈ earlier := by
    rw [hSplit]
    exact List.mem_append_right later List.mem_cons_self
  have hStored :
      created.partnerSlug ∈ earlier.filterMap storedTenant :=
    List.mem_filterMap.mpr ⟨_, hEntry, rfl⟩
  have hSlug := hOne _ hStored
  rw [← hIdentity.route, hNone] at hSlug
  simp at hSlug

/- A tenant's session goes through the routes of Google. -/
def crossingActions : FlowActions :=
  authorizeActions 0 (some "acme") ++ readActions 1 ++
    startActions 1 "v1" ++ enterActions 2 "c1" ++
      completeActions 2 "t1"

/- The Google callback issues a ticket for it. -/
theorem tenant_completed_by_google :
    ∃ run : Run flowPlatform testConfig,
      ¬Always (OwnProvider flowPlatform testConfig)
        run.history := by
  have hCrossed :
      (flowRun crossingActions).map
          (fun state =>
            decide
              (Always (TenantKept "acme") state.history)) =
        some false := by
    decide +kernel
  rcases Option.map_eq_some_iff.mp hCrossed with
    ⟨state, hRun, hNot⟩
  refine ⟨⟨flowClients, state, Reachable.of_run hRun⟩, ?_⟩
  intro hOwn
  rw [decide_eq_false_iff_not] at hNot
  apply hNot
  exact hOwn.mono
    (fun entry earlier => OwnProvider.tenantKept "acme")

/- A session without a tenant is completed by Google. -/
theorem google_completed_by_google :
    ∃ run : Run flowPlatform testConfig,
      completions run.history = ["s1"] ∧
        Always (OwnProvider flowPlatform testConfig)
          run.history := by
  have hOwn :
      (flowRun sequentialActions).map
          (fun state =>
            (completions state.history,
              decide (Always EntersOwn state.history))) =
        some (["s1"], true) := by
    decide +kernel
  rcases Option.map_eq_some_iff.mp hOwn with
    ⟨state, hRun, hBoth⟩
  simp only [Prod.mk.injEq, decide_eq_true_eq] at hBoth
  exact
    ⟨⟨flowClients, state, Reachable.of_run hRun⟩, hBoth.1,
      completed_by_own_provider
        ⟨flowClients, state, Reachable.of_run hRun⟩ hBoth.2⟩

end KisAuth
