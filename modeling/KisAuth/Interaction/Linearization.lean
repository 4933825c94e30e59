import KisAuth.Interaction.Timeline

/-
  Linearizable interleavings.

  A specification says what one call may do to an abstract
  state when nothing else happens during it. A history is
  linearizable where its calls can be put in one order that
  the specification explains and real time allows.

  Programs that take effect with their last answer are
  linearized by the order of these answers.

  Key definitions include:
    * `Served`, `Explains`
    * `EndedBefore`, `Linearizes`

  Key theorems include:
    * `Explains.invariant`
    * `Timed.linearized`, `Timed.pairwise_stamps`
-/

------------------------------------------------------------
-- Sequential Orders
------------------------------------------------------------

namespace Interaction

/- A call that took effect: who made it, and its outcome. -/
structure Served (X Q ρ : Type) where
  thread : Nat
  request : Q
  outcome : Except X ρ

/-
  The states an order of calls can lead to. The order is kept
  newest first, and the state may drift between two calls.
-/
inductive Explains
    {X Q ρ S : Type}
    (spec : S → Q → Except X ρ → S → Prop)
    (drift : S → S → Prop)
    (start : S) : List (Served X Q ρ) → S → Prop where
  | start : Explains spec drift start [] start
  | serve
      {order : List (Served X Q ρ)}
      {state state' : S}
      (hOrder : Explains spec drift start order state)
      (served : Served X Q ρ)
      (hSpec :
        spec state served.request served.outcome state') :
      Explains spec drift start (served :: order) state'
  | drift
      {order : List (Served X Q ρ)}
      {state state' : S}
      (hOrder : Explains spec drift start order state)
      (hDrift : drift state state') :
      Explains spec drift start order state'

variable {X Q ρ S : Type}
variable {spec : S → Q → Except X ρ → S → Prop}
variable {drift : S → S → Prop}

/- What holds of every order and the state it leads to. -/
theorem Explains.invariant
    {start state : S}
    {order : List (Served X Q ρ)}
    (I : List (Served X Q ρ) → S → Prop)
    (hStart : I [] start)
    (hServe :
      ∀ order state served state',
        spec state served.request served.outcome state' →
        I order state →
          I (served :: order) state')
    (hDrift :
      ∀ order state state',
        drift state state' → I order state → I order state')
    (hOrder : Explains spec drift start order state) :
    I order state := by
  induction hOrder with
  | start => exact hStart
  | serve _ served hSpec ih =>
      exact hServe _ _ served _ hSpec ih
  | drift _ hMoved ih => exact hDrift _ _ _ hMoved ih

end Interaction

------------------------------------------------------------
-- Linearized Histories
------------------------------------------------------------

namespace Interaction

variable {E : Type} {R : E → Type} {X Q ρ Op : Type}

/- The first thread had ended when the second arrived. -/
def EndedBefore
    (first second : Nat) :
    List (Entry E R X Q ρ Op) → Prop
| [] => False
| .arrive thread _ :: earlier =>
    (thread = second ∧
        ∃ outcome, Entry.respond first outcome ∈ earlier) ∨
      EndedBefore first second earlier
| .answer _ _ :: earlier => EndedBefore first second earlier
| .respond _ _ :: earlier => EndedBefore first second earlier
| .env _ :: earlier => EndedBefore first second earlier

theorem EndedBefore.responded
    {first second : Nat}
    {history : List (Entry E R X Q ρ Op)}
    (hEnded : EndedBefore first second history) :
    ∃ outcome, Entry.respond first outcome ∈ history := by
  induction history with
  | nil => exact hEnded.elim
  | cons entry earlier ih =>
      have hEarlier :
          ∃ outcome,
            Entry.respond first outcome ∈ earlier := by
        cases entry with
        | arrive thread request =>
            rcases hEnded with ⟨_, hResponded⟩ | hEnded
            · exact hResponded
            · exact ih hEnded
        | answer thread answer => exact ih hEnded
        | respond thread outcome => exact ih hEnded
        | env op => exact ih hEnded
      rcases hEarlier with ⟨outcome, hMem⟩
      exact ⟨outcome, List.mem_cons_of_mem _ hMem⟩

/- Only an arrival can end the wait of a thread. -/
theorem endedBefore_cons
    {first second : Nat}
    {entry : Entry E R X Q ρ Op}
    {earlier : List (Entry E R X Q ρ Op)}
    (hEnded : EndedBefore first second (entry :: earlier))
    (hOther :
      ∀ request, entry ≠ Entry.arrive second request) :
    EndedBefore first second earlier := by
  cases entry with
  | arrive thread request =>
      rcases hEnded with ⟨rfl, _⟩ | hEnded
      · exact absurd rfl (hOther request)
      · exact hEnded
  | answer thread answer => exact hEnded
  | respond thread outcome => exact hEnded
  | env op => exact hEnded

/-
  An order of the calls of a history: of calls that arrived,
  each at most once and every one that ended with its
  outcome, in which a call that ended before another arrived
  comes first.
-/
structure Linearizes
    (history : List (Entry E R X Q ρ Op))
    (order : List (Served X Q ρ)) : Prop where
  arrived :
    ∀ served ∈ order,
      Entry.arrive served.thread served.request ∈ history
  once : (order.map Served.thread).Nodup
  ended :
    ∀ thread outcome,
      Entry.respond thread outcome ∈ history →
        ∃ served ∈ order,
          served.thread = thread ∧ served.outcome = outcome
  realTime :
    order.Pairwise (fun newer older =>
      ¬EndedBefore newer.thread older.thread history)

variable {order : List (Served X Q ρ)}
variable {history : List (Entry E R X Q ρ Op)}

/- An entry that neither admits nor ends a thread. -/
theorem Linearizes.cons
    {entry : Entry E R X Q ρ Op}
    (hOrder : Linearizes history order)
    (hArrive :
      ∀ served ∈ order,
        ∀ request, entry ≠ .arrive served.thread request)
    (hEnded :
      ∀ thread outcome,
        entry = .respond thread outcome →
          ∃ served ∈ order,
            served.thread = thread ∧
              served.outcome = outcome) :
    Linearizes (entry :: history) order where
  arrived := fun served hMem =>
    List.mem_cons_of_mem _ (hOrder.arrived served hMem)
  once := hOrder.once
  ended := by
    intro thread outcome hMem
    rcases List.mem_cons.mp hMem with hHead | hEarlier
    · exact hEnded thread outcome hHead.symm
    · exact hOrder.ended thread outcome hEarlier
  realTime := by
    apply hOrder.realTime.imp_of_mem
    intro newer older _ hOlder hNot hBefore
    exact hNot (endedBefore_cons hBefore (hArrive older hOlder))

/- An answer, or a step of the surroundings. -/
theorem Linearizes.between
    {entry : Entry E R X Q ρ Op}
    (hOrder : Linearizes history order)
    (hArrive :
      ∀ thread request, entry ≠ .arrive thread request)
    (hEnd :
      ∀ thread outcome, entry ≠ .respond thread outcome) :
    Linearizes (entry :: history) order := by
  apply hOrder.cons
  · intro served _ request
    exact hArrive served.thread request
  · intro thread outcome hSame
    exact absurd hSame (hEnd thread outcome)

/- A running thread that takes effect now comes last. -/
theorem Linearizes.serve
    {served : Served X Q ρ}
    (hOrder : Linearizes history order)
    (hArrived :
      Entry.arrive served.thread served.request ∈ history)
    (hRunning :
      ∀ outcome,
        Entry.respond served.thread outcome ∉ history)
    (hNew : ∀ other ∈ order, other.thread ≠ served.thread) :
    Linearizes history (served :: order) where
  arrived := by
    intro other hMem
    rcases List.mem_cons.mp hMem with rfl | hOlder
    · exact hArrived
    · exact hOrder.arrived other hOlder
  once := by
    rw [List.map_cons, List.nodup_cons]
    refine ⟨?_, hOrder.once⟩
    intro hMem
    rcases List.mem_map.mp hMem with ⟨other, hOther, hSame⟩
    exact hNew other hOther hSame
  ended := by
    intro thread outcome hMem
    rcases hOrder.ended thread outcome hMem with
      ⟨other, hOther, hSame⟩
    exact ⟨other, List.mem_cons_of_mem _ hOther, hSame⟩
  realTime := by
    refine List.Pairwise.cons ?_ hOrder.realTime
    intro older _ hBefore
    rcases hBefore.responded with ⟨outcome, hResponded⟩
    exact hRunning outcome hResponded

end Interaction

------------------------------------------------------------
-- Programs That Take Effect Last
------------------------------------------------------------

namespace Interaction

variable {E : Type} {R : E → Type} {X Q ρ W Ext Op S : Type}
variable {sem : Semantics E R W Ext Op}
variable {handler : Q → Prog E R X ρ}
variable {start : W}
variable {state : State E R X Q ρ W Op}
variable {order : List (Served X Q ρ)}

/-
  The calls that took effect are those of the threads that
  only have to return what they got.
-/
structure TookEffect
    (state : State E R X Q ρ W Op)
    (order : List (Served X Q ρ)) : Prop where
  linearizes : Linearizes state.history order
  settled :
    ∀ thread request outcome,
      state.threads thread =
          some ⟨request, Prog.ofOutcome outcome⟩ →
        ⟨thread, request, outcome⟩ ∈ order
  calling :
    ∀ thread request effect rest,
      state.threads thread =
          some ⟨request, .call effect rest⟩ →
        ∀ served ∈ order, served.thread ≠ thread

theorem ofOutcome_ne_call
    {α : Type}
    {outcome : Except X α}
    {effect : E}
    {rest : R effect → Prog E R X α} :
    Prog.ofOutcome outcome ≠ .call effect rest := by
  cases outcome with
  | ok value => simp [Prog.ofOutcome]
  | error error => simp [Prog.ofOutcome]

/- A program has ended, or calls. -/
theorem ends_or_calls
    {α : Type}
    (program : Prog E R X α) :
    (∃ outcome, program = Prog.ofOutcome outcome) ∨
      ∃ effect rest, program = .call effect rest := by
  cases program with
  | ret value => exact Or.inl ⟨.ok value, rfl⟩
  | throw error => exact Or.inl ⟨.error error, rfl⟩
  | call effect rest => exact Or.inr ⟨effect, rest, rfl⟩

theorem ofOutcome_inj
    {α : Type}
    {outcome outcome' : Except X α}
    (hSame :
      (Prog.ofOutcome outcome : Prog E R X α) =
        Prog.ofOutcome outcome') :
    outcome = outcome' := by
  cases outcome with
  | ok value =>
      cases outcome' with
      | ok value' => simpa [Prog.ofOutcome] using hSame
      | error error => simp [Prog.ofOutcome] at hSame
  | error error =>
      cases outcome' with
      | ok value => simp [Prog.ofOutcome] at hSame
      | error error' => simpa [Prog.ofOutcome] using hSame

/- The threads in the order are not those to come. -/
theorem TookEffect.old
    {served : Served X Q ρ}
    (hTook : TookEffect state order)
    (hTracks : Tracks handler state)
    (hMem : served ∈ order) :
    served.thread ≠ state.next := by
  intro hNext
  have hArrived := hTook.linearizes.arrived served hMem
  exact
    hTracks.unused served.thread (Nat.le_of_eq hNext.symm) _
      hArrived rfl

/- A request that begins with a call has no effect yet. -/
theorem TookEffect.admitRequest
    {request : Q}
    (hTook : TookEffect state order)
    (hTracks : Tracks handler state)
    (hCalls :
      ∀ outcome, handler request ≠ Prog.ofOutcome outcome) :
    TookEffect (Interaction.admitRequest handler state request)
      order where
  linearizes := by
    apply hTook.linearizes.cons
    · intro served hMem presented hSame
      rw [Entry.arrive.injEq] at hSame
      exact hTook.old hTracks hMem hSame.1.symm
    · intro thread outcome hSame
      simp at hSame
  settled := by
    intro thread presented outcome hThread
    simp only [Interaction.admitRequest, setThread]
      at hThread
    by_cases hNew : thread = state.next
    · rw [if_pos hNew, Option.some.injEq, Thread.mk.injEq]
        at hThread
      exact absurd hThread.2 (hCalls outcome)
    · rw [if_neg hNew] at hThread
      exact hTook.settled thread presented outcome hThread
  calling := by
    intro thread presented effect rest hThread served hMem
    simp only [Interaction.admitRequest, setThread]
      at hThread
    by_cases hNew : thread = state.next
    · rw [hNew]
      exact hTook.old hTracks hMem
    · rw [if_neg hNew] at hThread
      exact
        hTook.calling thread presented effect rest hThread
          served hMem

/- A thread that ends returns what it took effect with. -/
theorem TookEffect.finish
    {thread : Nat}
    {request : Q}
    {outcome : Except X ρ}
    (hTook : TookEffect state order)
    (hThread :
      state.threads thread =
        some ⟨request, Prog.ofOutcome outcome⟩) :
    TookEffect (Interaction.finish state thread outcome)
      order where
  linearizes := by
    apply hTook.linearizes.cons
    · intro served _ presented hSame
      simp at hSame
    · intro other ended hSame
      rw [Entry.respond.injEq] at hSame
      rcases hSame with ⟨rfl, rfl⟩
      exact
        ⟨_, hTook.settled thread request outcome hThread,
          rfl, rfl⟩
  settled := by
    intro other presented ended hOther
    simp only [Interaction.finish, setThread] at hOther
    by_cases hSame : other = thread
    · simp [hSame] at hOther
    · rw [if_neg hSame] at hOther
      exact hTook.settled other presented ended hOther
  calling := by
    intro other presented effect rest hOther
    simp only [Interaction.finish, setThread] at hOther
    by_cases hSame : other = thread
    · simp [hSame] at hOther
    · rw [if_neg hSame] at hOther
      exact hTook.calling other presented effect rest hOther

/- A thread that goes on calling has no effect yet. -/
theorem TookEffect.goOn
    {thread : Nat}
    {request : Q}
    {effect : E}
    {rest : R effect → Prog E R X ρ}
    {value : R effect}
    (hTook : TookEffect state order)
    (hThread :
      state.threads thread =
        some ⟨request, .call effect rest⟩)
    (hCalls :
      ∀ outcome, rest value ≠ Prog.ofOutcome outcome)
    (world : W) :
    TookEffect
      (advance state thread request effect rest value world)
      order where
  linearizes :=
    hTook.linearizes.between (by simp) (by simp)
  settled := by
    intro other presented outcome hOther
    simp only [advance, setThread] at hOther
    by_cases hSame : other = thread
    · rw [if_pos hSame, Option.some.injEq, Thread.mk.injEq]
        at hOther
      exact absurd hOther.2 (hCalls outcome)
    · rw [if_neg hSame] at hOther
      exact hTook.settled other presented outcome hOther
  calling := by
    intro other presented effect' rest' hOther
    simp only [advance, setThread] at hOther
    by_cases hSame : other = thread
    · rw [hSame]
      exact hTook.calling thread request effect rest hThread
    · rw [if_neg hSame] at hOther
      exact
        hTook.calling other presented effect' rest' hOther

/- A thread takes effect with the answer it ends after. -/
theorem TookEffect.serve
    {thread : Nat}
    {request : Q}
    {effect : E}
    {rest : R effect → Prog E R X ρ}
    {value : R effect}
    {outcome : Except X ρ}
    (hTook : TookEffect state order)
    (hTracks : Tracks handler state)
    (hThread :
      state.threads thread =
        some ⟨request, .call effect rest⟩)
    (hEnds : rest value = Prog.ofOutcome outcome)
    (world : W) :
    TookEffect
      (advance state thread request effect rest value world)
      (⟨thread, request, outcome⟩ :: order) := by
  have hRun := hTracks.running thread _ hThread
  have hNew :=
    hTook.calling thread request effect rest hThread
  have hBefore :
      Linearizes state.history
        (⟨thread, request, outcome⟩ :: order) :=
    hTook.linearizes.serve hRun.arrived hRun.open_ hNew
  constructor
  case linearizes =>
    exact hBefore.between (by simp) (by simp)
  case settled =>
    intro other presented ended hOther
    simp only [advance, setThread] at hOther
    by_cases hSame : other = thread
    · rw [if_pos hSame, Option.some.injEq, Thread.mk.injEq,
        hEnds] at hOther
      rcases hOther with ⟨rfl, hEnded⟩
      rw [hSame, ofOutcome_inj hEnded]
      exact List.mem_cons_self
    · rw [if_neg hSame] at hOther
      exact
        List.mem_cons_of_mem _
          (hTook.settled other presented ended hOther)
  case calling =>
    intro other presented effect' rest' hOther served hMem
    simp only [advance, setThread] at hOther
    by_cases hSame : other = thread
    · rw [if_pos hSame, Option.some.injEq, Thread.mk.injEq,
        hEnds] at hOther
      exact absurd hOther.2 ofOutcome_ne_call
    · rw [if_neg hSame] at hOther
      rcases List.mem_cons.mp hMem with rfl | hOlder
      · exact fun hThreads => hSame hThreads.symm
      · exact
          hTook.calling other presented effect' rest' hOther
            served hOlder

/- Before the first request, nothing took effect. -/
theorem TookEffect.init :
    TookEffect (State.init start : State E R X Q ρ W Op)
      [] where
  linearizes :=
    { arrived := by simp
      once := List.nodup_nil
      ended := by simp [State.init]
      realTime := List.Pairwise.nil }
  settled := by simp [State.init]
  calling := by simp [State.init]

/- What happens around the threads leaves them as they are. -/
theorem TookEffect.env
    (hTook : TookEffect state order)
    (op : Op)
    (world : W) :
    TookEffect
      { state with
        world := world
        history := .env op :: state.history }
      order where
  linearizes :=
    hTook.linearizes.between (by simp) (by simp)
  settled := hTook.settled
  calling := hTook.calling

/-
  An answer a thread gets: it takes effect where it ends the
  program, and drifts where the program goes on.
-/
theorem TookEffect.answer
    {thread : Nat}
    {request : Q}
    {effect : E}
    {rest : R effect → Prog E R X ρ}
    {value : R effect}
    {spec : S → Q → Except X ρ → S → Prop}
    {drift : S → S → Prop}
    {first before after : S}
    (hTook : TookEffect state order)
    (hTracks : Tracks handler state)
    (hThread :
      state.threads thread =
        some ⟨request, .call effect rest⟩)
    (hOrder : Explains spec drift first order before)
    (hEnds :
      ∀ outcome,
        rest value = Prog.ofOutcome outcome →
          spec before request outcome after)
    (hGoesOn :
      (∀ outcome, rest value ≠ Prog.ofOutcome outcome) →
        drift before after)
    (world : W) :
    ∃ order',
      TookEffect
          (advance state thread request effect rest value
            world)
          order' ∧
        Explains spec drift first order' after := by
  rcases ends_or_calls (rest value) with
    ⟨outcome, hEnded⟩ | ⟨effect', rest', hNext⟩
  · refine ⟨_, hTook.serve hTracks hThread hEnded world, ?_⟩
    exact hOrder.serve _ (hEnds outcome hEnded)
  · have hOn :
        ∀ outcome, rest value ≠ Prog.ofOutcome outcome := by
      intro outcome hEnded
      exact ofOutcome_ne_call (hEnded.symm.trans hNext)
    exact
      ⟨order, hTook.goOn hThread hOn world,
        hOrder.drift (hGoesOn hOn)⟩

/-
  Where every program takes effect with its last answer and
  leaves the state alone before, the order of these answers
  explains every run.
-/
theorem Timed.linearized
    {stamp : W → S}
    {timeline : List (Moment S E R X Q ρ Op)}
    {spec : S → Q → Except X ρ → S → Prop}
    {drift : S → S → Prop}
    (Good :
      Moment S E R X Q ρ Op →
        List (Moment S E R X Q ρ Op) → Prop)
    (hCalls :
      ∀ request outcome,
        handler request ≠ Prog.ofOutcome outcome)
    (hAnswer :
      ∀ world timeline thread request effect rest ext value
        world',
        requestOf thread (entriesOf timeline) =
            some request →
        (handler request).Reaches
            (answersOf thread (entriesOf timeline))
            (.call effect rest) →
        sem.exec world effect ext = some (value, world') →
        Good
            ⟨stamp world, .answer thread ⟨effect, value⟩⟩
            timeline →
          (∀ outcome,
              rest value = Prog.ofOutcome outcome →
                spec (stamp world) request outcome
                  (stamp world')) ∧
            ((∀ outcome,
                rest value ≠ Prog.ofOutcome outcome) →
              drift (stamp world) (stamp world')))
    (hEnv :
      ∀ world op world',
        sem.env world op = some world' →
          drift (stamp world) (stamp world'))
    (hTimed : Timed sem handler stamp start timeline state)
    (hGood : Always Good timeline) :
    ∃ order,
      TookEffect state order ∧
        Explains spec drift (stamp start) order
          (stamp state.world) := by
  induction hTimed with
  | init => exact ⟨[], .init, .start⟩
  | step hTimed action hAct hEntry ih =>
      rcases ih hGood.2 with ⟨order, hTook, hOrder⟩
      have hTracks := hTimed.reachable.tracks
      rcases act_cases hAct with
        ⟨request, rfl⟩ |
        ⟨thread, request, outcome, hThread, rfl⟩ |
        ⟨thread, request, effect, rest, ext, value, world,
          hThread, hExec, rfl⟩ |
        ⟨op, world, hOp, rfl⟩
      · exact
          ⟨order,
            hTook.admitRequest hTracks (hCalls request),
            hOrder⟩
      · exact ⟨order, hTook.finish hThread, hOrder⟩
      · have hHead := (List.cons.inj hEntry).1
        subst hHead
        have hRun := hTracks.running thread _ hThread
        have hRequest :=
          requestOf_of_arrive hTimed.reachable.conforms
            hRun.arrived
        have hReaches := hRun.reaches
        rw [← hTimed.entriesOf_eq] at hRequest hReaches
        have hStep :=
          hAnswer _ _ thread request effect rest ext value
            world hRequest hReaches hExec hGood.1
        exact
          hTook.answer hTracks hThread hOrder hStep.1
            hStep.2 world
      · exact
          ⟨order, hTook.env op world,
            hOrder.drift (hEnv _ _ _ hOp)⟩

/-
  What every step keeps relates any two states of a run: the
  one it is in, and those its steps found.
-/
theorem Timed.pairwise_stamps
    {stamp : W → S}
    {timeline : List (Moment S E R X Q ρ Op)}
    (keeps : S → S → Prop)
    (Good :
      Moment S E R X Q ρ Op →
        List (Moment S E R X Q ρ Op) → Prop)
    (hRefl : ∀ state, keeps state state)
    (hTrans :
      ∀ later middle earlier,
        keeps later middle →
          keeps middle earlier → keeps later earlier)
    (hAnswer :
      ∀ world timeline thread request effect rest ext value
        world',
        requestOf thread (entriesOf timeline) =
            some request →
        (handler request).Reaches
            (answersOf thread (entriesOf timeline))
            (.call effect rest) →
        sem.exec world effect ext = some (value, world') →
        Good
            ⟨stamp world, .answer thread ⟨effect, value⟩⟩
            timeline →
          keeps (stamp world') (stamp world))
    (hEnv :
      ∀ world op world',
        sem.env world op = some world' →
          keeps (stamp world') (stamp world))
    (hTimed : Timed sem handler stamp start timeline state)
    (hGood : Always Good timeline) :
    (stamp state.world ::
        timeline.map Moment.stamp).Pairwise keeps := by
  induction hTimed with
  | init => simp
  | step hTimed action hAct hEntry ih =>
      have hBefore := ih hGood.2
      have hTracks := hTimed.reachable.tracks
      -- The new state needs to be related to the last only.
      rw [List.map_cons]
      suffices hLast : keeps _ _ from
        List.Pairwise.cons
          (List.forall_mem_cons.mpr
            ⟨hLast, fun earlier hMem =>
              hTrans _ _ _ hLast
                (List.rel_of_pairwise_cons hBefore hMem)⟩)
          hBefore
      rcases act_cases hAct with
        ⟨request, rfl⟩ |
        ⟨thread, request, outcome, hThread, rfl⟩ |
        ⟨thread, request, effect, rest, ext, value, world,
          hThread, hExec, rfl⟩ |
        ⟨op, world, hOp, rfl⟩
      · exact hRefl _
      · exact hRefl _
      · have hHead := (List.cons.inj hEntry).1
        subst hHead
        have hRun := hTracks.running thread _ hThread
        have hRequest :=
          requestOf_of_arrive hTimed.reachable.conforms
            hRun.arrived
        have hReaches := hRun.reaches
        rw [← hTimed.entriesOf_eq] at hRequest hReaches
        exact
          hAnswer _ _ thread request effect rest ext value
            world hRequest hReaches hExec hGood.1
      · exact hEnv _ _ _ hOp

end Interaction
