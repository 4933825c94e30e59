import KisAuth.Interaction.Played
import KisAuth.Security.InternalSigning
import KisAuth.Store.Transactions

/-
  The migration runner: every `.sql` file of the directory
  in filename order, each with the row that records it
  between a BEGIN and a COMMIT. Every query goes to the pool,
  which serves it on any of its connections.

  Key definitions include:
    * `Change`, `Query`, `Migrations`
    * `Migrate.main`, `serve`
    * `MigrationRun`, `performRun`, `afterRuns`
-/

------------------------------------------------------------
-- Queries
------------------------------------------------------------

namespace KisAuth

namespace Migrate

open Interaction Transactions

variable {S : Type}

/-
  What a statement may change: `schema_migrations` itself,
  a statement of a file elsewhere, and the row of a file.
-/
inductive Change (S : Type) where
  | table
  | ran (file : String) (sql : S)
  | recorded (file : String)
deriving DecidableEq

/- What each file of the directory says. -/
abbrev Migrations (S : Type) :=
  String → List (Statement (Change S))

inductive Query where
  | createTable
  | selectApplied (file : String)
  | begin
  | apply (file : String)
  | record (file : String)
  | commit
  | rollback
deriving DecidableEq

/- Whether there are rows, where the query succeeds. -/
abbrev Reply (_ : Query) := Option Bool

/- The row of the file is the change. -/
@[simp] def Change.records (file : String) : Change S → Bool
| .recorded other => other = file
| _ => false

/- The file has its row. -/
def isRecorded
    (file : String)
    (log : List (Change S)) : Bool :=
  log.any (Change.records file)

/- `filename` is the primary key of `schema_migrations`. -/
def admitsChange
    (log : List (Change S)) : Change S → Bool
| .recorded file => !isRecorded file log
| _ => true

/- The statements of each query. -/
@[simp] def statements
    (contents : Migrations S) :
    Query → List (Statement (Change S))
| .createTable => [.change .table]
| .selectApplied _ => [.read]
| .begin => [.begin]
| .apply file => contents file
| .record file => [.change (.recorded file)]
| .commit => [.commit]
| .rollback => [.rollback]

/- The rows of a query, as its session sees them. -/
def rowsOf
    (log : List (Change S)) : Query → Bool
| .selectApplied file => isRecorded file log
| _ => false

/- One `pool.query`, on the session that the pool takes. -/
@[simp] def serve
    (contents : Migrations S)
    (service : Service)
    (query : Query)
    (db : Database (Change S)) :
    Reply query × Database (Change S) :=
  let session := db.sessions service.session
  let sent :=
    db.send admitsChange service (statements contents query)
  (if sent.1 then
      some (rowsOf (session.visible db.committed) query)
    else
      none,
    sent.2)

end Migrate

end KisAuth

------------------------------------------------------------
-- The Runner
------------------------------------------------------------

namespace KisAuth

namespace Migrate

open Interaction Transactions

variable {S : Type}

abbrev Runner (α : Type) := Prog Query Reply Unit α

/- A query that is awaited: a rejection is thrown. -/
def query (query : Query) : Runner Bool :=
  .call query (fun reply =>
    match reply with
    | some rows => .ret rows
    | none => .throw ())

/- The names that are migrations, in their order. -/
def migrationFiles (entries : List String) : List String :=
  let files :=
    entries.filter (fun entry =>
      ".sql".toList.isSuffixOf entry.toList)
  files.insertionSort codeUnitLe

/- One file and its row, between BEGIN and COMMIT. -/
def applyFile (file : String) : Runner Unit := do
  let _ ← query .begin
  let body : Runner Unit := do
    let _ ← query (.apply file)
    let _ ← query (.record file)
    let _ ← query .commit
    return ()
  let rolledBack : Unit → Runner Unit := fun error => do
    let _ ← query .rollback
    .throw error
  body.handle rolledBack

/- The files in order, less those that have their row. -/
def applyFiles : List String → Runner Unit
| [] => return ()
| file :: files => do
    let rows ← query (.selectApplied file)
    if rows then
      applyFiles files
    else
      applyFile file
      applyFiles files

def main (entries : List String) : Runner Unit := do
  let _ ← query .createTable
  applyFiles (migrationFiles entries)

end Migrate

end KisAuth

------------------------------------------------------------
-- Runs
------------------------------------------------------------

namespace KisAuth

namespace Migrate

open Interaction Transactions

variable {S : Type}

/-
  A run over the directory, with how each of its queries is
  served. A run with too few of them is killed at the query
  after the last.
-/
structure MigrationRun where
  entries : List String
  services : List Service

abbrev Step := Exchange Query Reply Service

/- A run of the runner by itself, on sessions of its own. -/
def performRun
    (contents : Migrations S)
    (run : MigrationRun)
    (committed : List (Change S)) :
    List Step × Database (Change S) :=
  (main run.entries).play (serve contents) run.services []
    { committed := committed, sessions := fun _ => .idle }

/- What is committed after the runs, the latest first. -/
def afterRuns
    (contents : Migrations S) :
    List MigrationRun → List (Change S)
| [] => []
| run :: earlier =>
    (performRun contents run
      (afterRuns contents earlier)).2.close.committed

end Migrate

end KisAuth
