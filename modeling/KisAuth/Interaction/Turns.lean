import KisAuth.Interaction.System

/-
  A process that takes turns.

  A turn begins when a program is started, or when the call
  it waits for is answered. The program then runs on until
  it waits again or has ended, and nothing else happens
  meanwhile. The environment acts between two turns.

  Whoever starts a program gives it a number that is new.
  Turns are recorded newest first.

  Key definitions include:
    * `settle`, `Turn`, `Process`
    * `Move`, `takeTurn`, `runTurns`
    * `EndsTurn`, `InPlace`

  Key theorems include:
    * `takeTurn_cases`, `runTurns_invariant`
    * `EndsTurn.settle`, `settle_alike`
    * `runTurns_reachable`
-/

------------------------------------------------------------
-- Turns
------------------------------------------------------------

namespace Interaction

variable {T E : Type} {R : E → Type}
variable {X Q ρ W Ext Op : Type}

/-
  Run a program on until it has ended or waits for a call
  that is awaited. The other calls are answered at once.
-/
def settle
    (sem : Semantics E R W Ext Op)
    (awaited : E → Bool) :
    Prog E R X ρ → W → List Ext → Option (Prog E R X ρ × W)
| .ret value, world, _ => some (.ret value, world)
| .throw error, world, _ => some (.throw error, world)
| .call effect next, world, exts =>
    if awaited effect then some (.call effect next, world)
    else
      match exts with
      | [] => none
      | ext :: exts =>
          match sem.exec world effect ext with
          | none => none
          | some (value, world) =>
              settle sem awaited (next value) world exts

variable {sem : Semantics E R W Ext Op}
variable {awaited : E → Bool}

theorem settle_awaited
    {effect : E}
    (hAwaited : awaited effect = true)
    (next : R effect → Prog E R X ρ)
    (world : W)
    (exts : List Ext) :
    settle sem awaited (.call effect next) world exts =
      some (.call effect next, world) := by
  unfold settle
  exact if_pos hAwaited

/- A call that is answered at once, and the rest. -/
theorem settle_cases
    {effect : E}
    {next : R effect → Prog E R X ρ}
    {world : W}
    {exts : List Ext}
    {settled : Prog E R X ρ × W}
    (hAwaited : awaited effect ≠ true)
    (hSettle :
      settle sem awaited (.call effect next) world exts =
        some settled) :
    ∃ ext later value world',
      exts = ext :: later ∧
        sem.exec world effect ext = some (value, world') ∧
        settle sem awaited (next value) world' later =
          some settled := by
  unfold settle at hSettle
  rw [if_neg hAwaited] at hSettle
  split at hSettle
  · simp at hSettle
  · next ext later =>
      split at hSettle
      · simp at hSettle
      · next value world' hExec =>
          exact
            ⟨ext, later, value, world', rfl, hExec, hSettle⟩

theorem settle_answered
    {effect : E}
    {next : R effect → Prog E R X ρ}
    {world world' : W}
    {ext : Ext}
    {value : R effect}
    (hAwaited : awaited effect ≠ true)
    (hExec : sem.exec world effect ext = some (value, world'))
    (exts : List Ext) :
    settle sem awaited (.call effect next) world
        (ext :: exts) =
      settle sem awaited (next value) world' exts := by
  rw [settle, if_neg hAwaited]
  simp only [hExec]

/- The outcome of a program that has ended. -/
def Prog.outcome : Prog E R X ρ → Option (Except X ρ)
| .ret value => some (.ok value)
| .throw error => some (.error error)
| .call _ _ => none

/-
  What one turn records: when it began, the answer it began
  with, which is none for the first of a program, and the
  outcome, where the program has ended.
-/
structure Turn
    (T E : Type) (R : E → Type) (X Q ρ : Type) where
  call : Nat
  request : Q
  time : T
  answer : Option (Answer E R)
  outcome : Option (Except X ρ)

/- The state of the process between two turns. -/
structure Process
    (T E : Type) (R : E → Type) (X Q ρ W : Type) where
  world : W
  waiting : Nat → Option (Thread E R X Q ρ)
  turns : List (Turn T E R X Q ρ)

/- Nothing has been started yet. -/
def Process.init (world : W) : Process T E R X Q ρ W where
  world := world
  waiting := fun _ => none
  turns := []

/- What the scheduler may do next. -/
inductive Move (Q Ext Op : Type) where
  | start (call : Nat) (request : Q) (exts : List Ext)
  | resume (call : Nat) (ext : Ext) (exts : List Ext)
  | env (op : Op)

/- The move is one of the environment or of a kept call. -/
def Move.isKept (kept : Nat → Bool) : Move Q Ext Op → Bool
| .start call _ _ => kept call
| .resume call _ _ => kept call
| .env _ => true

/- The process after a turn that left a program so. -/
def Process.turned
    (process : Process T E R X Q ρ W)
    (call : Nat)
    (request : Q)
    (time : T)
    (answer : Option (Answer E R))
    (settled : Prog E R X ρ × W) : Process T E R X Q ρ W where
  world := settled.2
  waiting := setThread process.waiting call
    (if settled.1.outcome.isSome then none
    else some ⟨request, settled.1⟩)
  turns :=
    ⟨call, request, time, answer, settled.1.outcome⟩ ::
      process.turns

/-
  One move. It is undefined when the scheduler starts a
  number again, resumes what does not wait, or supplies what
  the world refuses.
-/
def takeTurn
    (sem : Semantics E R W Ext Op)
    (awaited : E → Bool)
    (handler : Q → Prog E R X ρ)
    (stamp : W → T)
    (process : Process T E R X Q ρ W) :
    Move Q Ext Op → Option (Process T E R X Q ρ W)
| .start call request exts =>
    if ∃ turn ∈ process.turns, turn.call = call then none
    else
      (settle sem awaited (handler request) process.world
          exts).map
        (process.turned call request (stamp process.world)
          none)
| .resume call ext exts =>
    match process.waiting call with
    | some ⟨request, .call effect next⟩ =>
        (sem.exec process.world effect ext).bind
          (fun answered =>
            (settle sem awaited (next answered.1) answered.2
                exts).map
              (process.turned call request
                (stamp process.world)
                (some ⟨effect, answered.1⟩)))
    | _ => none
| .env op =>
    (sem.env process.world op).map
      (fun world => { process with world := world })

/- Make a list of moves, first to last. -/
def runTurns
    (sem : Semantics E R W Ext Op)
    (awaited : E → Bool)
    (handler : Q → Prog E R X ρ)
    (stamp : W → T) :
    Process T E R X Q ρ W → List (Move Q Ext Op) →
      Option (Process T E R X Q ρ W)
| process, [] => some process
| process, move :: moves =>
    (takeTurn sem awaited handler stamp process move).bind
      (runTurns sem awaited handler stamp · moves)

variable {sem : Semantics E R W Ext Op}
variable {awaited : E → Bool}
variable {handler : Q → Prog E R X ρ}
variable {stamp : W → T}
variable {process process' : Process T E R X Q ρ W}

/- The three kinds of move, with all that each one changes. -/
theorem takeTurn_cases
    {move : Move Q Ext Op}
    (hTurn :
      takeTurn sem awaited handler stamp process move =
        some process') :
    (∃ call request exts settled,
        move = .start call request exts ∧
          (∀ turn ∈ process.turns, turn.call ≠ call) ∧
          settle sem awaited (handler request) process.world
              exts =
            some settled ∧
          process' =
            process.turned call request
              (stamp process.world) none settled) ∨
      (∃ call ext exts request effect next value world settled,
        move = .resume call ext exts ∧
          process.waiting call =
            some ⟨request, .call effect next⟩ ∧
          sem.exec process.world effect ext =
            some (value, world) ∧
          settle sem awaited (next value) world exts =
            some settled ∧
          process' =
            process.turned call request
              (stamp process.world) (some ⟨effect, value⟩)
              settled) ∨
      ∃ op world,
        move = .env op ∧
          sem.env process.world op = some world ∧
          process' = { process with world := world } := by
  cases move with
  | start call request exts =>
      left
      simp only [takeTurn] at hTurn
      split at hTurn
      · simp at hTurn
      · next hNew =>
          obtain ⟨settled, hSettle, hEq⟩ :=
            Option.map_eq_some_iff.mp hTurn
          refine
            ⟨call, request, exts, settled, rfl, ?_, hSettle,
              hEq.symm⟩
          intro turn hMem hCall
          exact hNew ⟨turn, hMem, hCall⟩
  | resume call ext exts =>
      right; left
      simp only [takeTurn] at hTurn
      split at hTurn
      · next request effect next hWaiting =>
          obtain ⟨⟨value, world⟩, hExec, hRest⟩ :=
            Option.bind_eq_some_iff.mp hTurn
          obtain ⟨settled, hSettle, hEq⟩ :=
            Option.map_eq_some_iff.mp hRest
          exact
            ⟨call, ext, exts, request, effect, next, value,
              world, settled, rfl, hWaiting, hExec, hSettle,
              hEq.symm⟩
      · simp at hTurn
  | env op =>
      right; right
      obtain ⟨world, hEnv, hEq⟩ :=
        Option.map_eq_some_iff.mp hTurn
      exact ⟨op, world, rfl, hEnv, hEq.symm⟩

/- What every move keeps holds after all of them. -/
theorem runTurns_invariant
    {I : Process T E R X Q ρ W → Prop}
    {moves : List (Move Q Ext Op)}
    (hMove :
      ∀ {process process' move},
        I process →
          takeTurn sem awaited handler stamp process move =
              some process' →
            I process')
    (hStart : I process)
    (hRun :
      runTurns sem awaited handler stamp process moves =
        some process') :
    I process' := by
  induction moves generalizing process with
  | nil =>
      simp only [runTurns, Option.some.injEq] at hRun
      exact hRun ▸ hStart
  | cons move moves ih =>
      obtain ⟨next, hTurn, hRest⟩ :=
        Option.bind_eq_some_iff.mp hRun
      exact ih (hMove hStart hTurn) hRest

/- Turns are never forgotten. -/
theorem runTurns_turns
    {moves : List (Move Q Ext Op)}
    (hRun :
      runTurns sem awaited handler stamp process moves =
        some process') :
    process.turns ⊆ process'.turns := by
  refine
    runTurns_invariant
      (I := fun later => process.turns ⊆ later.turns) ?_
      (List.Subset.refl _) hRun
  intro middle later move hSub hTurn
  rcases takeTurn_cases hTurn with
    ⟨_, _, _, _, _, _, _, rfl⟩ |
    ⟨_, _, _, _, _, _, _, _, _, _, _, _, _, rfl⟩ |
    ⟨_, _, _, _, rfl⟩
  · exact List.subset_cons_of_subset _ hSub
  · exact List.subset_cons_of_subset _ hSub
  · exact hSub

end Interaction

------------------------------------------------------------
-- What A Turn Ends In
------------------------------------------------------------

namespace Interaction

variable {E : Type} {R : E → Type} {X ρ W Ext Op : Type}
variable {sem : Semantics E R W Ext Op}
variable {awaited : E → Bool}

/-
  However the calls that are not awaited are answered, the
  program and the world after the turn are as `post` says.
-/
def EndsTurn
    (sem : Semantics E R W Ext Op)
    (awaited : E → Bool)
    (post : Prog E R X ρ → W → Prop) :
    Prog E R X ρ → W → Prop
| .ret value, world => post (.ret value) world
| .throw error, world => post (.throw error) world
| .call effect next, world =>
    if awaited effect then post (.call effect next) world
    else
      ∀ ext value world',
        sem.exec world effect ext = some (value, world') →
          EndsTurn sem awaited post (next value) world'

variable {post : Prog E R X ρ → W → Prop}
variable {effect : E} {next : R effect → Prog E R X ρ}
variable {world : W}

/- A call that is awaited ends the turn. -/
theorem endsTurn_awaited
    (hAwaited : awaited effect = true)
    (hPost : post (.call effect next) world) :
    EndsTurn sem awaited post (.call effect next) world := by
  rw [EndsTurn, if_pos hAwaited]
  exact hPost

/- Any other call is answered within the turn. -/
theorem endsTurn_answered
    (hAwaited : awaited effect ≠ true)
    (hNext :
      ∀ ext value world',
        sem.exec world effect ext = some (value, world') →
          EndsTurn sem awaited post (next value) world') :
    EndsTurn sem awaited post (.call effect next) world := by
  rw [EndsTurn, if_neg hAwaited]
  exact hNext

theorem EndsTurn.settle
    {program : Prog E R X ρ}
    {exts : List Ext}
    {settled : Prog E R X ρ × W}
    (hEnds : EndsTurn sem awaited post program world)
    (hSettle :
      settle sem awaited program world exts = some settled) :
    post settled.1 settled.2 := by
  induction program generalizing world exts with
  | ret value =>
      obtain rfl := Option.some.inj hSettle
      exact hEnds
  | throw error =>
      obtain rfl := Option.some.inj hSettle
      exact hEnds
  | call effect next ih =>
      by_cases hAwaited : awaited effect
      · rw [settle_awaited hAwaited] at hSettle
        obtain rfl := Option.some.inj hSettle
        rw [EndsTurn, if_pos hAwaited] at hEnds
        exact hEnds
      · obtain ⟨ext, later, value, world', rfl, hExec, hRest⟩ :=
          settle_cases hAwaited hSettle
        rw [EndsTurn, if_neg hAwaited] at hEnds
        exact ih value (hEnds ext value world' hExec) hRest

end Interaction

------------------------------------------------------------
-- Turns In Worlds That Answer Alike
------------------------------------------------------------

namespace Interaction

variable {E : Type} {R : E → Type} {X ρ W Ext Op : Type}
variable {sem : Semantics E R W Ext Op}
variable {awaited : E → Bool}

/-
  Two worlds that answer the calls of a program alike, and
  are related after it, leave the program in the same place.
-/
theorem settle_alike
    {Allowed : E → Prop}
    {Related : W → W → Prop}
    {final : List (Answer E R) → Except X ρ → Prop}
    (hAlike :
      ∀ {world base world' : W} {effect ext value},
        Allowed effect →
          Related world base →
            sem.exec world effect ext =
                some (value, world') →
              ∃ base',
                sem.exec base effect ext =
                    some (value, base') ∧
                  Related world' base')
    {program program' : Prog E R X ρ}
    {past : List (Answer E R)}
    {world world' base : W}
    {exts : List Ext}
    (hObeys :
      program.Obeys (fun _ => Allowed) final past)
    (hRelated : Related world base)
    (hSettle :
      settle sem awaited program world exts =
        some (program', world')) :
    ∃ base',
      settle sem awaited program base exts =
          some (program', base') ∧
        Related world' base' := by
  induction program generalizing world base exts past with
  | ret value =>
      simp only [settle, Option.some.injEq, Prod.mk.injEq]
        at hSettle
      obtain ⟨rfl, rfl⟩ := hSettle
      exact ⟨base, rfl, hRelated⟩
  | throw error =>
      simp only [settle, Option.some.injEq, Prod.mk.injEq]
        at hSettle
      obtain ⟨rfl, rfl⟩ := hSettle
      exact ⟨base, rfl, hRelated⟩
  | call effect next ih =>
      by_cases hAwaited : awaited effect
      · rw [settle_awaited hAwaited, Option.some.injEq,
          Prod.mk.injEq] at hSettle
        obtain ⟨rfl, rfl⟩ := hSettle
        exact ⟨base, settle_awaited hAwaited _ _ _, hRelated⟩
      · obtain ⟨ext, later, value, middle, rfl, hExec, hRest⟩ :=
          settle_cases hAwaited hSettle
        obtain ⟨base', hBase, hMiddle⟩ :=
          hAlike hObeys.1 hRelated hExec
        obtain ⟨last, hLater, hLast⟩ :=
          ih value (hObeys.2 value) hMiddle hRest
        refine ⟨last, ?_, hLast⟩
        rw [settle_answered hAwaited hBase]
        exact hLater

end Interaction

------------------------------------------------------------
-- Turns As Interleaved Steps
------------------------------------------------------------

namespace Interaction

variable {T E : Type} {R : E → Type}
variable {X Q ρ W Ext Op : Type}
variable {sem : Semantics E R W Ext Op}
variable {awaited : E → Bool}
variable {handler : Q → Prog E R X ρ}
variable {stamp : W → T}
variable {process process' : Process T E R X Q ρ W}
variable {state state' : State E R X Q ρ W Op}

/- What a thread does alone, and what that leaves alone. -/
structure StepsAlone
    (thread : Nat)
    (entry : Option (Thread E R X Q ρ))
    (world : W)
    (state state' : State E R X Q ρ W Op) : Prop where
  world : state'.world = world
  threads :
    state'.threads = setThread state.threads thread entry
  next : state'.next = state.next
  history : state.history ⊆ state'.history

theorem setThread_setThread
    (threads : Nat → Option (Thread E R X Q ρ))
    (thread : Nat)
    (entry entry' : Option (Thread E R X Q ρ)) :
    setThread (setThread threads thread entry) thread entry' =
      setThread threads thread entry' := by
  funext other
  by_cases hSame : other = thread
  · simp [setThread, hSame]
  · simp [setThread, hSame]

theorem setThread_self
    {threads : Nat → Option (Thread E R X Q ρ)}
    {thread : Nat}
    {entry : Option (Thread E R X Q ρ)}
    (hThread : threads thread = entry) :
    setThread threads thread entry = threads := by
  funext other
  by_cases hSame : other = thread
  · simp [setThread, hSame, hThread]
  · simp [setThread, hSame]

/- One call of a thread, answered. -/
theorem act_answered
    (handler : Q → Prog E R X ρ)
    {thread : Nat}
    {request : Q}
    {effect : E}
    {next : R effect → Prog E R X ρ}
    {ext : Ext}
    {value : R effect}
    {world : W}
    (hThread :
      state.threads thread = some ⟨request, .call effect next⟩)
    (hExec :
      sem.exec state.world effect ext = some (value, world)) :
    act sem handler state (.run thread ext) =
      some
        (advance state thread request effect next value
          world) := by
  simp only [act, hThread, hExec]

/- A program that settles takes some steps of its thread. -/
theorem settle_run
    {thread : Nat}
    {request : Q}
    {program : Prog E R X ρ}
    {settled : Prog E R X ρ × W}
    {exts : List Ext}
    (hThread : state.threads thread = some ⟨request, program⟩)
    (hSettle :
      settle sem awaited program state.world exts =
        some settled) :
    ∃ (used : List Ext) (state' : State E R X Q ρ W Op),
      run sem handler state (used.map (.run thread)) =
          some state' ∧
        StepsAlone thread (some ⟨request, settled.1⟩) settled.2
          state state' := by
  have hNothing :
      StepsAlone thread (some ⟨request, program⟩) state.world
        state state :=
    ⟨rfl, (setThread_self hThread).symm, rfl,
      List.Subset.refl _⟩
  induction program generalizing state exts with
  | ret value =>
      obtain rfl := Option.some.inj hSettle
      exact ⟨[], state, rfl, hNothing⟩
  | throw error =>
      obtain rfl := Option.some.inj hSettle
      exact ⟨[], state, rfl, hNothing⟩
  | call effect next ih =>
      by_cases hAwaited : awaited effect
      · rw [settle_awaited hAwaited] at hSettle
        obtain rfl := Option.some.inj hSettle
        exact ⟨[], state, rfl, hNothing⟩
      · obtain ⟨ext, later, value, world, rfl, hExec, hRest⟩ :=
          settle_cases hAwaited hSettle
        have hAct :=
          act_answered handler hThread hExec
        have hAdvanced :
            (advance state thread request effect next value
                world).threads thread =
              some ⟨request, next value⟩ := by
          simp [advance, setThread]
        obtain ⟨used, last, hRun, hAlone⟩ :=
          ih value hAdvanced hRest
            ⟨rfl, (setThread_self hAdvanced).symm, rfl,
              List.Subset.refl _⟩
        refine ⟨ext :: used, last, ?_, ?_⟩
        · simp only [List.map_cons, run, hAct]
          exact hRun
        · exact
            ⟨hAlone.world,
              hAlone.threads.trans (setThread_setThread _ _ _ _),
              hAlone.next,
              List.Subset.trans (List.subset_cons_self _ _)
                hAlone.history⟩

/- The call has had a turn. -/
def Process.Began
    (process : Process T E R X Q ρ W)
    (call : Nat) : Prop :=
  ∃ turn ∈ process.turns, turn.call = call

theorem Process.began_turned
    {call other : Nat}
    {request : Q}
    {time : T}
    {answer : Option (Answer E R)}
    {settled : Prog E R X ρ × W} :
    (process.turned call request time answer settled).Began
        other ↔
      other = call ∨ process.Began other := by
  constructor
  · rintro ⟨turn, hMem, rfl⟩
    rcases List.mem_cons.mp hMem with rfl | hMem
    · exact Or.inl rfl
    · exact Or.inr ⟨turn, hMem, rfl⟩
  · rintro (rfl | ⟨turn, hMem, hCall⟩)
    · exact ⟨_, List.mem_cons_self, rfl⟩
    · exact ⟨turn, List.mem_cons_of_mem _ hMem, hCall⟩

/-
  The interleaved system is where the process is: each call
  has a thread of its own, which waits where the call waits
  and has ended as the call has.
-/
structure InPlace
    (place : Nat → Nat)
    (process : Process T E R X Q ρ W)
    (state : State E R X Q ρ W Op) : Prop where
  world : state.world = process.world
  waiting :
    ∀ call entry,
      process.waiting call = some entry →
        process.Began call ∧
          state.threads (place call) = some entry
  bounded :
    ∀ call, process.Began call → place call < state.next
  apart :
    ∀ call other,
      process.Began call →
        process.Began other →
          place call = place other → call = other
  ended :
    ∀ turn ∈ process.turns,
      ∀ outcome,
        turn.outcome = some outcome →
          Entry.respond (place turn.call) outcome ∈
            state.history

/- A program that has ended, as a program. -/
theorem eq_ofOutcome
    {program : Prog E R X ρ}
    {outcome : Except X ρ}
    (hOutcome : program.outcome = some outcome) :
    program = Prog.ofOutcome outcome := by
  cases program with
  | ret value =>
      obtain rfl := Option.some.inj hOutcome
      rfl
  | throw error =>
      obtain rfl := Option.some.inj hOutcome
      rfl
  | call effect next => simp [Prog.outcome] at hOutcome

/- A thread that settles, and leaves if it has ended. -/
theorem settle_turned
    {start : W}
    {thread : Nat}
    {request : Q}
    {program : Prog E R X ρ}
    {settled : Prog E R X ρ × W}
    {exts : List Ext}
    (hReachable : Reachable sem handler start state)
    (ext : Ext)
    (hThread : state.threads thread = some ⟨request, program⟩)
    (hSettle :
      settle sem awaited program state.world exts =
        some settled) :
    ∃ state',
      Reachable sem handler start state' ∧
        StepsAlone thread
            (if settled.1.outcome.isSome then none
            else some ⟨request, settled.1⟩)
            settled.2 state state' ∧
          ∀ outcome,
            settled.1.outcome = some outcome →
              Entry.respond thread outcome ∈
                state'.history := by
  obtain ⟨used, state', hRun, hAlone⟩ :=
    @settle_run _ _ _ _ _ _ _ _ _ _ handler _ _ _ _ _ _
      hThread hSettle
  have hReached := hReachable.run hRun
  cases hOutcome : settled.1.outcome with
  | none =>
      refine ⟨state', hReached, ?_, by simp⟩
      simpa [hOutcome] using hAlone
  | some outcome =>
      have hLast :
          state'.threads thread =
            some ⟨request, Prog.ofOutcome outcome⟩ := by
        rw [hAlone.threads, ← eq_ofOutcome hOutcome]
        simp [setThread]
      have hAct :
          act sem handler state' (.run thread ext) =
            some (finish state' thread outcome) := by
        cases outcome with
        | ok value => simp [act, hLast, Prog.ofOutcome]
        | error error => simp [act, hLast, Prog.ofOutcome]
      refine ⟨_, hReached.step _ hAct, ?_, ?_⟩
      · refine
          ⟨hAlone.world, ?_, hAlone.next,
            List.Subset.trans hAlone.history
              (List.subset_cons_self _ _)⟩
        simp only [finish, hAlone.threads, setThread_setThread,
          Option.isSome_some, if_true]
      · rintro other hOther
        obtain rfl := Option.some.inj hOther
        exact List.mem_cons_self

/-
  A turn of one call leaves all in place, where its thread
  stepped alone and the others were in place before.
-/
theorem InPlace.turned
    {place : Nat → Nat}
    {call : Nat}
    {request : Q}
    {answer : Option (Answer E R)}
    {settled : Prog E R X ρ × W}
    (time : T)
    (hAlone :
      StepsAlone (place call)
        (if settled.1.outcome.isSome then none
        else some ⟨request, settled.1⟩)
        settled.2 state state')
    (hLeft :
      ∀ outcome,
        settled.1.outcome = some outcome →
          Entry.respond (place call) outcome ∈
            state'.history)
    (hOthers :
      ∀ other entry,
        other ≠ call →
          process.waiting other = some entry →
            process.Began other ∧
              state.threads (place other) = some entry)
    (hBounded :
      ∀ other,
        other = call ∨ process.Began other →
          place other < state.next)
    (hApart :
      ∀ other another,
        other = call ∨ process.Began other →
          another = call ∨ process.Began another →
            place other = place another → other = another)
    (hEnded :
      ∀ turn ∈ process.turns,
        ∀ outcome,
          turn.outcome = some outcome →
            Entry.respond (place turn.call) outcome ∈
              state.history) :
    InPlace place
      (process.turned call request time answer settled)
      state' := by
  refine
    { world := hAlone.world
      waiting := ?_
      bounded := ?_
      apart := ?_
      ended := ?_ }
  · intro other entry hWaiting
    rw [Process.began_turned, hAlone.threads]
    by_cases hSame : other = call
    · subst hSame
      refine ⟨Or.inl rfl, ?_⟩
      simpa [Process.turned, setThread] using hWaiting
    · have hBefore : process.waiting other = some entry := by
        simpa [Process.turned, setThread, hSame]
          using hWaiting
      obtain ⟨hBegan, hThread⟩ :=
        hOthers other entry hSame hBefore
      have hNe : place other ≠ place call := fun hEq =>
        hSame
          (hApart other call (Or.inr hBegan) (Or.inl rfl) hEq)
      refine ⟨Or.inr hBegan, ?_⟩
      simpa only [setThread, hNe, if_false] using hThread
  · intro other hBegan
    rw [hAlone.next]
    exact hBounded other (Process.began_turned.mp hBegan)
  · intro other another hBegan hBegan'
    exact
      hApart other another (Process.began_turned.mp hBegan)
        (Process.began_turned.mp hBegan')
  · intro turn hMem outcome hOutcome
    rcases List.mem_cons.mp hMem with rfl | hMem
    · exact hLeft outcome hOutcome
    · exact hAlone.history (hEnded turn hMem outcome hOutcome)

/- A new call has a new thread. -/
theorem InPlace.start
    [Inhabited Ext]
    {start : W}
    {place : Nat → Nat}
    {call : Nat}
    {request : Q}
    {exts : List Ext}
    {settled : Prog E R X ρ × W}
    (time : T)
    (hPlace : InPlace place process state)
    (hReachable : Reachable sem handler start state)
    (hNew : ¬process.Began call)
    (hSettle :
      settle sem awaited (handler request) state.world exts =
        some settled) :
    ∃ state',
      Reachable sem handler start state' ∧
        InPlace (Function.update place call state.next)
          (process.turned call request time none settled)
          state' := by
  have hArrive :
      Reachable sem handler start
        (admitRequest handler state request) :=
    hReachable.step (.arrive request) rfl
  have hThread :
      (admitRequest handler state request).threads state.next =
        some ⟨request, handler request⟩ := by
    simp [admitRequest, setThread]
  obtain ⟨state', hReached, hAlone, hLeft⟩ :=
    settle_turned hArrive default hThread hSettle
  have hSelf :
      Function.update place call state.next call =
        state.next :=
    Function.update_self ..
  have hOther :
      ∀ other,
        process.Began other →
          Function.update place call state.next other =
            place other := by
    intro other hBegan
    apply Function.update_of_ne
    rintro rfl
    exact hNew hBegan
  refine ⟨state', hReached, ?_⟩
  apply InPlace.turned time
  · rw [hSelf]
    exact hAlone
  · rw [hSelf]
    exact hLeft
  · intro other entry hNe hWaiting
    obtain ⟨hBegan, hThread⟩ := hPlace.waiting _ _ hWaiting
    have hBound := hPlace.bounded other hBegan
    refine ⟨hBegan, ?_⟩
    rw [hOther other hBegan]
    simp only [admitRequest, setThread]
    rw [if_neg (by omega)]
    exact hThread
  · rintro other (rfl | hBegan)
    · rw [hSelf]
      exact Nat.lt_succ_self _
    · rw [hOther other hBegan]
      exact Nat.lt_succ_of_lt (hPlace.bounded other hBegan)
  · rintro other another (rfl | hBegan) (rfl | hBegan') hEq
    · rfl
    · rw [hSelf, hOther another hBegan'] at hEq
      have hBound := hPlace.bounded another hBegan'
      omega
    · rw [hSelf, hOther other hBegan] at hEq
      have hBound := hPlace.bounded other hBegan
      omega
    · rw [hOther other hBegan, hOther another hBegan'] at hEq
      exact hPlace.apart other another hBegan hBegan' hEq
  · intro turn hMem outcome hOutcome
    rw [hOther _ ⟨turn, hMem, rfl⟩]
    exact
      List.mem_cons_of_mem _
        (hPlace.ended turn hMem outcome hOutcome)

/- A call that waits goes on in its thread. -/
theorem InPlace.resume
    [Inhabited Ext]
    {start : W}
    {place : Nat → Nat}
    {call : Nat}
    {request : Q}
    {effect : E}
    {next : R effect → Prog E R X ρ}
    {ext : Ext}
    {value : R effect}
    {world : W}
    {exts : List Ext}
    {settled : Prog E R X ρ × W}
    (time : T)
    (hPlace : InPlace place process state)
    (hReachable : Reachable sem handler start state)
    (hWaiting :
      process.waiting call =
        some ⟨request, .call effect next⟩)
    (hExec :
      sem.exec state.world effect ext = some (value, world))
    (hSettle :
      settle sem awaited (next value) world exts =
        some settled) :
    ∃ state',
      Reachable sem handler start state' ∧
        InPlace place
          (process.turned call request time
            (some ⟨effect, value⟩) settled)
          state' := by
  obtain ⟨hBegan, hThread⟩ := hPlace.waiting _ _ hWaiting
  have hAdvanced :
      (advance state (place call) request effect next value
          world).threads (place call) =
        some ⟨request, next value⟩ := by
    simp [advance, setThread]
  obtain ⟨state', hReached, hAlone, hLeft⟩ :=
    settle_turned
      (hReachable.step _ (act_answered handler hThread hExec))
      ext hAdvanced hSettle
  have hKnown :
      ∀ other,
        other = call ∨ process.Began other →
          process.Began other := by
    rintro other (rfl | hOther)
    · exact hBegan
    · exact hOther
  refine ⟨state', hReached, ?_⟩
  apply InPlace.turned time hAlone hLeft
  · intro other entry hNe hOther
    obtain ⟨hOtherBegan, hOtherThread⟩ :=
      hPlace.waiting _ _ hOther
    have hPlaces : place other ≠ place call := fun hEq =>
      hNe (hPlace.apart other call hOtherBegan hBegan hEq)
    refine ⟨hOtherBegan, ?_⟩
    simpa only [advance, setThread, hPlaces, if_false]
      using hOtherThread
  · intro other hOther
    exact hPlace.bounded other (hKnown other hOther)
  · intro other another hOther hAnother
    exact
      hPlace.apart other another (hKnown other hOther)
        (hKnown another hAnother)
  · intro turn hMem outcome hOutcome
    exact
      List.mem_cons_of_mem _
        (hPlace.ended turn hMem outcome hOutcome)

/-
  A process that takes turns is the interleaved system, under
  a scheduler that leaves a thread alone in its turn.
-/
theorem runTurns_reachable
    [Inhabited Ext]
    {start : W}
    {moves : List (Move Q Ext Op)}
    (hRun :
      runTurns sem awaited handler stamp (.init start) moves =
        some process) :
    ∃ (place : Nat → Nat) (state : State E R X Q ρ W Op),
      Reachable sem handler start state ∧
        InPlace place process state := by
  refine
    runTurns_invariant
      (I := fun process =>
        ∃ (place : Nat → Nat) (state : State E R X Q ρ W Op),
          Reachable sem handler start state ∧
            InPlace place process state) ?_ ?_ hRun
  · rintro process process' move
      ⟨place, state, hReachable, hPlace⟩ hTurn
    rcases takeTurn_cases hTurn with
      ⟨call, request, exts, settled, rfl, hNew, hSettle, rfl⟩ |
      ⟨call, ext, exts, request, effect, next, value, world,
        settled, rfl, hWaiting, hExec, hSettle, rfl⟩ |
      ⟨op, world, rfl, hEnv, rfl⟩
    · rw [← hPlace.world] at hSettle
      have hUnknown : ¬process.Began call :=
        fun ⟨turn, hMem, hCall⟩ => hNew turn hMem hCall
      exact
        ⟨_, hPlace.start _ hReachable hUnknown hSettle⟩
    · rw [← hPlace.world] at hExec
      exact
        ⟨place,
          hPlace.resume _ hReachable hWaiting hExec hSettle⟩
    · rw [← hPlace.world] at hEnv
      have hAct :
          act sem handler state (.env op) =
            some
              { state with
                world := world
                history := .env op :: state.history } := by
        simp only [act, hEnv]
      refine ⟨place, _, hReachable.step _ hAct, ?_⟩
      exact
        { world := rfl
          waiting := hPlace.waiting
          bounded := hPlace.bounded
          apart := hPlace.apart
          ended := fun turn hMem outcome hOutcome =>
            List.mem_cons_of_mem _
              (hPlace.ended turn hMem outcome hOutcome) }
  · refine ⟨id, .init start, .init, ?_⟩
    exact
      { world := rfl
        waiting := by simp [Process.init]
        bounded := by simp [Process.Began, Process.init]
        apart := by simp [Process.Began, Process.init]
        ended := by simp [Process.init] }

end Interaction
