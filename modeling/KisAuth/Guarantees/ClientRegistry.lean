import KisAuth.Clients.ClientService
import KisAuth.Guarantees.SessionCompletion
import KisAuth.Provenance.Registry
import KisAuth.Provenance.Sessions

/-
  A registry that is changed by registrations, and by
  operators who set the status of a client.

  Key definitions include:
    * `RegistryOp`, `Administered`
    * `lastRegistration`, `lastStatus`
    * `AllowedBy`, `RegistryObeyed`

  Key theorems include:
    * `registryAt_administered`
    * `enabled_again`
    * `registry_obeyed`
-/

------------------------------------------------------------
-- Operations
------------------------------------------------------------

namespace KisAuth

/- A registration, or the status an operator sets. -/
inductive RegistryOp where
  | register (client : ClientRegistration)
  | setStatus (clientId : String) (status : ClientStatus)
  deriving DecidableEq

def RegistryOp.clientId : RegistryOp → String
| .register client => client.clientId
| .setStatus clientId _ => clientId

/- The client's row after the operation. -/
def RegistryOp.after
    (row : Option RegisteredClient) :
    RegistryOp → Option RegisteredClient
| .register client => some (ClientService.register client row)
| .setStatus _ status =>
    row.map (fun client => { client with status := status })

/- What an operation registers a client with. -/
def RegistryOp.registers
    (clientId : String) :
    RegistryOp → Option ClientRegistration
| .register client =>
    if client.clientId = clientId then some client else none
| .setStatus _ _ => none

/- The newest registration of a client. -/
def lastRegistration
    (ops : List RegistryOp)
    (clientId : String) : Option ClientRegistration :=
  ops.findSome? (RegistryOp.registers clientId)

/-
  The status an operator set last, once the client was
  registered. It is active where none was set.
-/
def lastStatus :
    List RegistryOp → String → ClientStatus
| [], _ => .active
| .register _ :: ops, clientId => lastStatus ops clientId
| .setStatus changed status :: ops, clientId =>
    if changed = clientId ∧
        (lastRegistration ops clientId).isSome then
      status
    else
      lastStatus ops clientId

/- The row that the newest registration describes. -/
def ClientRegistration.row
    (client : ClientRegistration)
    (status : ClientStatus) : RegisteredClient where
  clientId := client.clientId
  name := client.name
  status := status
  allowedRedirectUris := client.allowedRedirectUris
  allowedScopes := client.allowedScopes
  allowedPurposes := client.allowedPurposes

/- What the operations, newest first, make of a client. -/
def registryRow
    (ops : List RegistryOp)
    (clientId : String) : Option RegisteredClient :=
  (lastRegistration ops clientId).map (fun client =>
    client.row (lastStatus ops clientId))

/- Other clients are left alone. -/
theorem registryRow_other
    {op : RegistryOp}
    {clientId : String}
    (hOther : op.clientId ≠ clientId)
    (ops : List RegistryOp) :
    registryRow (op :: ops) clientId =
      registryRow ops clientId := by
  have hNone : op.registers clientId = none := by
    cases op with
    | register client => exact if_neg hOther
    | setStatus changed status => rfl
  have hLast :
      lastRegistration (op :: ops) clientId =
        lastRegistration ops clientId := by
    unfold lastRegistration
    rw [List.findSome?_cons, hNone]
  have hStatus :
      lastStatus (op :: ops) clientId =
        lastStatus ops clientId := by
    cases op with
    | register client => rfl
    | setStatus changed status =>
        exact if_neg (fun hBoth => hOther hBoth.1)
  unfold registryRow
  rw [hLast, hStatus]

/- A client that was never registered has no status set. -/
theorem lastStatus_unregistered
    {ops : List RegistryOp}
    {clientId : String}
    (hNone : lastRegistration ops clientId = none) :
    lastStatus ops clientId = .active := by
  induction ops with
  | nil => rfl
  | cons op ops ih =>
      have hRest : lastRegistration ops clientId = none := by
        rw [lastRegistration,
          List.findSome?_eq_none_iff] at hNone
        exact
          List.findSome?_eq_none_iff.mpr
            (fun other hOther =>
              hNone other (List.mem_cons_of_mem _ hOther))
      cases op with
      | register client => exact ih hRest
      | setStatus changed status =>
          rw [lastStatus, hRest, if_neg (by simp)]
          exact ih hRest

/- The own row is what the operation makes of it. -/
theorem registryRow_self
    (op : RegistryOp)
    (ops : List RegistryOp) :
    registryRow (op :: ops) op.clientId =
      op.after (registryRow ops op.clientId) := by
  cases op with
  | register client =>
      have hLast :
          lastRegistration (.register client :: ops)
              client.clientId =
            some client := by
        simp [lastRegistration, RegistryOp.registers]
      unfold registryRow RegistryOp.clientId RegistryOp.after
      rw [hLast]
      cases hOld : lastRegistration ops client.clientId with
      | none =>
          have hActive :
              lastStatus ops client.clientId = .active :=
            lastStatus_unregistered hOld
          simp [lastStatus, hActive, ClientRegistration.row,
            ClientService.register]
      | some old => rfl
  | setStatus changed status =>
      have hLast :
          lastRegistration (.setStatus changed status :: ops)
              changed =
            lastRegistration ops changed := rfl
      unfold registryRow RegistryOp.clientId RegistryOp.after
      rw [hLast]
      cases hOld : lastRegistration ops changed with
      | none => rfl
      | some old =>
          simp [lastStatus, hOld, ClientRegistration.row]

end KisAuth

------------------------------------------------------------
-- Administration
------------------------------------------------------------

namespace KisAuth

open Interaction

/- A registry without clients. -/
def noClients : String → Option RegisteredClient :=
  fun _ => none

/-
  What changes the registry in the history are these
  operations, newest first, each on the row it finds.
-/
def Administered :
    History → List RegistryOp → Prop
| [], ops => ops = []
| .env (.setClient changed client) :: earlier, ops =>
    match ops with
    | [] => False
    | op :: older =>
        op.clientId = changed ∧
          op.after (registryAt noClients earlier changed) =
            client ∧
          Administered earlier older
| _ :: earlier, ops => Administered earlier ops

/- The entries that change nothing do not matter. -/
theorem administered_cons
    {entry : ServiceEntry}
    {earlier : History}
    {ops : List RegistryOp}
    (hAdministered : Administered (entry :: earlier) ops) :
    ((∀ clientId, clientSet clientId entry = none) ∧
        Administered earlier ops) ∨
      ∃ op older,
        ops = op :: older ∧
          entry =
            .env
              (.setClient op.clientId
                (op.after
                  (registryAt noClients earlier
                    op.clientId))) ∧
          Administered earlier older := by
  cases entry with
  | arrive thread q =>
      exact Or.inl ⟨fun _ => rfl, hAdministered⟩
  | answer thread answer =>
      exact Or.inl ⟨fun _ => rfl, hAdministered⟩
  | respond thread outcome =>
      exact Or.inl ⟨fun _ => rfl, hAdministered⟩
  | env op =>
      cases op with
      | tick milliseconds =>
          exact Or.inl ⟨fun _ => rfl, hAdministered⟩
      | setIdentityStatus id status =>
          exact Or.inl ⟨fun _ => rfl, hAdministered⟩
      | setClient changed client =>
          cases ops with
          | nil => exact hAdministered.elim
          | cons op older =>
              rcases hAdministered with ⟨rfl, rfl, hEarlier⟩
              exact Or.inr ⟨op, older, rfl, rfl, hEarlier⟩

/- The table is what the operations make of it. -/
theorem registryAt_administered
    {history : History}
    {ops : List RegistryOp}
    (hAdministered : Administered history ops)
    (clientId : String) :
    registryAt noClients history clientId =
      registryRow ops clientId := by
  induction history generalizing ops with
  | nil =>
      rw [Administered] at hAdministered
      subst hAdministered
      rfl
  | cons entry earlier ih =>
      rcases administered_cons hAdministered with
        ⟨hUnset, hEarlier⟩ | ⟨op, older, rfl, rfl, hEarlier⟩
      · rw [registryAt_cons_of_unset (hUnset clientId)]
        exact ih hEarlier
      · by_cases hSame : clientId = op.clientId
        · subst hSame
          rw [registryRow_self, ← ih hEarlier]
          simp [registryAt, changedTo, clientSet]
        · rw [registryAt_cons_of_unset
              (by simp [clientSet, hSame]),
            registryRow_other (fun hOp => hSame hOp.symm)]
          exact ih hEarlier

/- An earlier history was administered by earlier operations. -/
theorem Administered.before
    {since before : History}
    {ops : List RegistryOp}
    (hAdministered : Administered (since ++ before) ops) :
    ∃ newer older,
      ops = newer ++ older ∧ Administered before older := by
  induction since generalizing ops with
  | nil => exact ⟨[], ops, rfl, hAdministered⟩
  | cons entry since ih =>
      rcases administered_cons hAdministered with
        ⟨_, hEarlier⟩ | ⟨op, rest, rfl, _, hEarlier⟩
      · exact ih hEarlier
      · rcases ih hEarlier with
          ⟨newer, older, rfl, hBefore⟩
        exact ⟨op :: newer, older, rfl, hBefore⟩

end KisAuth

------------------------------------------------------------
-- What The Registry Allows
------------------------------------------------------------

namespace KisAuth

open Interaction

/-
  The client's last registration lists the redirect URI and
  purpose, and whenever it was disabled before, an operator
  has enabled it since: registering it again does not.
-/
structure AllowedBy
    (ops : List RegistryOp)
    (session : OAuthSession) : Prop where
  registered :
    ∃ client,
      lastRegistration ops session.clientId = some client ∧
        session.redirectUri ∈ client.allowedRedirectUris ∧
        session.purpose ∈ client.allowedPurposes
  active : lastStatus ops session.clientId = .active
  enabled :
    ∀ since rest,
      ops =
          since ++
            .setStatus session.clientId .disabled :: rest →
        (lastRegistration rest session.clientId).isSome →
          .setStatus session.clientId .active ∈ since

/- A disabled client is active after it was enabled only. -/
theorem enabled_again
    {since rest : List RegistryOp}
    {clientId : String}
    (hRegistered : (lastRegistration rest clientId).isSome)
    (hActive :
      lastStatus
          (since ++ .setStatus clientId .disabled :: rest)
          clientId =
        .active) :
    .setStatus clientId .active ∈ since := by
  induction since with
  | nil =>
      rw [List.nil_append, lastStatus,
        if_pos ⟨rfl, hRegistered⟩] at hActive
      cases hActive
  | cons op since ih =>
      cases op with
      | register client =>
          exact List.mem_cons_of_mem _ (ih hActive)
      | setStatus changed status =>
          rw [List.cons_append, lastStatus] at hActive
          split at hActive
          · next hSet =>
              rw [hSet.1, hActive]
              exact List.mem_cons_self
          · exact List.mem_cons_of_mem _ (ih hActive)

/- What a row allows is what its operations allow. -/
theorem allowedBy_of_row
    {ops : List RegistryOp}
    {session : OAuthSession}
    {client : RegisteredClient}
    (hRow : registryRow ops session.clientId = some client)
    (hUri :
      isRedirectUriAllowed client session.redirectUri = true)
    (hPurpose :
      isPurposeAllowed client session.purpose = true) :
    AllowedBy ops session := by
  rcases Option.map_eq_some_iff.mp hRow with
    ⟨registration, hLast, rfl⟩
  simp only [isRedirectUriAllowed, ClientRegistration.row,
    Bool.and_eq_true, decide_eq_true_eq,
    List.contains_eq_mem] at hUri
  simp only [isPurposeAllowed, ClientRegistration.row,
    Bool.and_eq_true, decide_eq_true_eq,
    List.contains_eq_mem] at hPurpose
  have hActive := of_decide_eq_true hUri.1
  refine
    ⟨⟨registration, hLast, hUri.2, hPurpose.2⟩, hActive, ?_⟩
  rintro since rest rfl hRegistered
  exact enabled_again hRegistered hActive

/-
  The table is what the operations make of it, and each
  session was created for what the operations until its
  client was looked up allow.
-/
structure RegistryObeyed
    {P : Platform}
    {cfg : KisAuthConfig}
    (run : Run P cfg)
    (ops : List RegistryOp) : Prop where
  table :
    ∀ clientId,
      run.state.world.tables.clients clientId =
        registryRow ops clientId
  created :
    ∀ minter query sessionId session,
      Minted P cfg run.history minter query sessionId
          session →
        ∃ since before newer older client,
          run.history =
              since ++
                .answer minter
                    ⟨.selectClient session.clientId,
                      .ok (some client)⟩ ::
                  before ∧
            ops = newer ++ older ∧
            Administered before older ∧
            AllowedBy older session

variable {P : Platform} {cfg : KisAuthConfig}

/-
  Whatever is registered, enabled and disabled in the course
  of a run, and however requests come in between.
-/
theorem registry_obeyed
    (run : Run P cfg)
    (ops : List RegistryOp)
    (hEmpty : run.clients = noClients)
    (hAdministered : Administered run.history ops) :
    RegistryObeyed run ops := by
  have hTable :
      ∀ clientId,
        run.state.world.tables.clients clientId =
          registryRow ops clientId := by
    intro clientId
    rw [run.clientTable, hEmpty]
    exact registryAt_administered hAdministered clientId
  refine ⟨hTable, ?_⟩
  intro minter query sessionId session hMinted
  rcases hMinted.position with
    ⟨later, earlier, ttl, req, hSplit, _, hCreated⟩
  rcases hCreated.approved with
    ⟨client, hSelect, hUri, hPurpose⟩
  have hMem :
      Entry.answer minter
          ⟨.selectClient session.clientId,
            .ok (some client)⟩ ∈
        run.history := by
    rw [hSplit]
    exact
      List.mem_append_right _
        (List.mem_cons_of_mem _ (mem_of_past hSelect))
  rcases List.append_of_mem hMem with
    ⟨since, before, hWhole⟩
  have hRegistry := run.registry
  rw [hWhole, hEmpty] at hRegistry
  have hRow :=
    hRegistry.split.1 minter session.clientId client rfl
  rw [hWhole, List.append_cons] at hAdministered
  rcases hAdministered.before with
    ⟨newer, older, hOps, hBefore⟩
  rw [registryAt_administered hBefore] at hRow
  exact
    ⟨since, before, newer, older, client, hWhole, hOps,
      hBefore, allowedBy_of_row hRow hUri hPurpose⟩

end KisAuth

------------------------------------------------------------
-- Registered Again
------------------------------------------------------------

namespace KisAuth

open Interaction

/- The registration of one client. -/
def webRegistration : ClientRegistration where
  clientId := "kis-web"
  name := "KIS"
  allowedRedirectUris := ["https://kis.test/cb"]
  allowedScopes := []
  allowedPurposes := ["registration"]

/- It is disabled later, and registered again. -/
def webOps : List RegistryOp :=
  [.register webRegistration, .setStatus "kis-web" .disabled,
    .register webRegistration]

instance decidableAdministered :
    (history : History) →
      (ops : List RegistryOp) →
        Decidable (Administered history ops)
| [], ops => inferInstanceAs (Decidable (ops = []))
| .env (.setClient _ _) :: _, [] =>
    inferInstanceAs (Decidable False)
| .env (.setClient changed client) :: earlier, op :: older =>
    have := decidableAdministered earlier older
    inferInstanceAs
      (Decidable
        (op.clientId = changed ∧
          op.after (registryAt noClients earlier changed) =
            client ∧
          Administered earlier older))
| .env (.tick _) :: earlier, ops =>
    decidableAdministered earlier ops
| .env (.setIdentityStatus _ _) :: earlier, ops =>
    decidableAdministered earlier ops
| .arrive _ _ :: earlier, ops =>
    decidableAdministered earlier ops
| .answer _ _ :: earlier, ops =>
    decidableAdministered earlier ops
| .respond _ _ :: earlier, ops =>
    decidableAdministered earlier ops

/- A session is created before the client is disabled. -/
def webActions : FlowActions :=
  [.env
      (.setClient "kis-web"
        (some (webRegistration.row .active)))] ++
    authorizeActions 0 none ++
      [.env
          (.setClient "kis-web"
            (some (webRegistration.row .disabled))),
        .env
          (.setClient "kis-web"
            (some (webRegistration.row .disabled)))]

/- The client stays disabled, and its session was allowed. -/
theorem registered_again_obeyed :
    ∃ run : Run flowPlatform testConfig,
      run.clients = noClients ∧
        Administered run.history webOps ∧
        RegistryObeyed run webOps := by
  have hChecked :
      (Interaction.run (worldSemantics flowPlatform testConfig)
          (handler flowPlatform testConfig)
          (.init (World.empty noClients)) webActions).map
          (fun state =>
            decide (Administered state.history webOps)) =
        some true := by
    decide +kernel
  rcases Option.map_eq_some_iff.mp hChecked with
    ⟨state, hRun, hAll⟩
  have hAdministered := of_decide_eq_true hAll
  exact
    ⟨⟨noClients, state, Reachable.of_run hRun⟩, rfl,
      hAdministered,
      registry_obeyed
        ⟨noClients, state, Reachable.of_run hRun⟩ webOps rfl
        hAdministered⟩

end KisAuth
