import KisAuth.Provenance.Record

/-
  The client registry, as operators change it in the course
  of a history.

  Key definitions include:
    * `clientSet`, `changedTo`, `registryAt`
    * `KeepsRegistry`

  Key theorems include:
    * `registryAt_append`
    * `Run.clientTable`
    * `Run.registry`
-/

------------------------------------------------------------
-- The Registry Of A History
------------------------------------------------------------

namespace KisAuth

open Interaction

/- What an entry makes of a client. -/
def clientSet
    (clientId : String) :
    ServiceEntry → Option (Option RegisteredClient)
| .env (.setClient changed client) =>
    if clientId = changed then some client else none
| _ => none

/- What the newest change in a history made of a client. -/
def changedTo
    (history : History)
    (clientId : String) : Option (Option RegisteredClient) :=
  history.findSome? (clientSet clientId)

/- The registered client after a history. -/
def registryAt
    (clients : String → Option RegisteredClient)
    (history : History)
    (clientId : String) : Option RegisteredClient :=
  (changedTo history clientId).getD (clients clientId)

/- The client is registered and disabled. -/
def IsDisabled : Option RegisteredClient → Prop
| some client => client.status = .disabled
| none => False

instance :
    (client : Option RegisteredClient) →
      Decidable (IsDisabled client)
| some client =>
    inferInstanceAs (Decidable (client.status = .disabled))
| none => inferInstanceAs (Decidable False)

variable {clients : String → Option RegisteredClient}

/- Later changes prevail over earlier ones. -/
theorem registryAt_append
    (since before : History)
    (clientId : String) :
    registryAt clients (since ++ before) clientId =
      (changedTo since clientId).getD
        (registryAt clients before clientId) := by
  unfold registryAt changedTo
  rw [List.findSome?_append]
  cases since.findSome? (clientSet clientId) with
  | none => rfl
  | some client => rfl

theorem registryAt_cons_of_unset
    {entry : ServiceEntry}
    {clientId : String}
    (hUnset : clientSet clientId entry = none)
    (earlier : History) :
    registryAt clients (entry :: earlier) clientId =
      registryAt clients earlier clientId := by
  unfold registryAt changedTo
  rw [List.findSome?_cons, hUnset]

end KisAuth

------------------------------------------------------------
-- Reads Of The Registry
------------------------------------------------------------

namespace KisAuth

open Interaction

variable {P : Platform} {cfg : KisAuthConfig}
variable {world world' : World}

/- No call of the service changes a client. -/
theorem exec_clients
    {ext : External}
    {effect : Eff}
    {value : effect.Res}
    (hExec :
      world.exec P cfg effect ext = some (value, world')) :
    world'.tables.clients = world.tables.clients := by
  unfold World.exec at hExec
  split at hExec
  · rw [execRedis_frame hExec]
    rfl
  · exact (execSql_frame hExec).2.2.2
  · rw [(execOther_frame hExec).2.1]

/- An operator changes a client, or none. -/
theorem registryAt_env
    {clients : String → Option RegisteredClient}
    {history : History}
    {op : EnvOp}
    (hClients :
      ∀ clientId,
        world.tables.clients clientId =
          registryAt clients history clientId)
    (hEnv : world.env op = some world')
    (clientId : String) :
    world'.tables.clients clientId =
      registryAt clients (.env op :: history) clientId := by
  cases op with
  | tick milliseconds =>
      simp only [World.env, Option.some.injEq] at hEnv
      rw [← hEnv, registryAt_cons_of_unset rfl]
      exact hClients clientId
  | setIdentityStatus id status =>
      simp only [World.env, Option.some.injEq] at hEnv
      rw [← hEnv, registryAt_cons_of_unset rfl]
      exact hClients clientId
  | setClient changed client =>
      simp only [World.env, Option.some.injEq] at hEnv
      subst hEnv
      by_cases hSame : clientId = changed
      · simp [World.withTables, registryAt, changedTo,
          clientSet, hSame]
      · rw [registryAt_cons_of_unset
          (by simp [clientSet, hSame])]
        simp only [World.withTables, hSame, if_false]
        exact hClients clientId

/- A client that was read was registered as it was read. -/
def ClientRead
    (clients : String → Option RegisteredClient)
    (entry : ServiceEntry)
    (earlier : History) : Prop :=
  ∀ thread clientId client,
    entry =
        .answer thread
          ⟨.selectClient clientId, .ok (some client)⟩ →
      registryAt clients earlier clientId = some client

theorem clientRead_exec
    {clients : String → Option RegisteredClient}
    {history : History}
    {thread : Nat}
    {ext : External}
    {effect : Eff}
    {value : effect.Res}
    (hClients :
      ∀ clientId,
        world.tables.clients clientId =
          registryAt clients history clientId)
    (hExec :
      world.exec P cfg effect ext = some (value, world')) :
    ClientRead clients (.answer thread ⟨effect, value⟩)
      history := by
  intro other clientId client hEntry
  simp only [Entry.answer.injEq, Answer.mk.injEq] at hEntry
  rcases hEntry with ⟨_, rfl, hValue⟩
  have hSame := eq_of_heq hValue
  subst hSame
  rw [← hClients clientId]
  simp only [World.exec, World.backend, World.execSql,
    Tables.selectClient, Option.some.injEq, Prod.mk.injEq]
    at hExec
  split at hExec
  · exact Except.ok.inj hExec.1
  · simp at hExec

/-
  The table of a run is the registry of its history, which
  is what it reads.
-/
structure KeepsRegistry
    (clients : String → Option RegisteredClient)
    (world : World)
    (history : History) : Prop where
  table :
    ∀ clientId,
      world.tables.clients clientId =
        registryAt clients history clientId
  read : Always (ClientRead clients) history

/- Nothing was changed, and no client was read. -/
theorem KeepsRegistry.unset
    {clients : String → Option RegisteredClient}
    {history : History}
    {entry : ServiceEntry}
    (hKept : KeepsRegistry clients world history)
    (hSame : world'.tables.clients = world.tables.clients)
    (hUnset : ∀ clientId, clientSet clientId entry = none)
    (hRead : ClientRead clients entry history) :
    KeepsRegistry clients world' (entry :: history) := by
  refine ⟨?_, hRead, hKept.read⟩
  intro clientId
  rw [registryAt_cons_of_unset (hUnset clientId), hSame]
  exact hKept.table clientId

theorem Run.keepsRegistry (run : Run P cfg) :
    KeepsRegistry run.clients run.state.world run.history := by
  apply Reachable.invariant (KeepsRegistry run.clients)
    ⟨fun _ => rfl, trivial⟩ ?_ ?_ ?_ ?_ run.reachable
  · rintro world history thread request hKept
    refine hKept.unset rfl (fun _ => rfl) ?_
    intro _ _ _ hEntry
    simp at hEntry
  · rintro world history thread effect ext value world' _ _
      hExec hKept
    exact
      hKept.unset (exec_clients hExec) (fun _ => rfl)
        (clientRead_exec hKept.table hExec)
  · rintro world history thread outcome hKept
    refine hKept.unset rfl (fun _ => rfl) ?_
    intro _ _ _ hEntry
    simp at hEntry
  · rintro world history op world' hEnv hKept
    refine ⟨registryAt_env hKept.table hEnv, ?_, hKept.read⟩
    intro _ _ _ hEntry
    simp at hEntry

/- The clients of a run are those of its history. -/
theorem Run.clientTable
    (run : Run P cfg)
    (clientId : String) :
    run.state.world.tables.clients clientId =
      registryAt run.clients run.history clientId :=
  run.keepsRegistry.table clientId

/- What every run reads of the registry. -/
theorem Run.registry (run : Run P cfg) :
    Always (ClientRead run.clients) run.history :=
  run.keepsRegistry.read

end KisAuth
