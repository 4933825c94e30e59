import KisAuth.Interaction.Conformance

/-
  Runs without some of their threads.

  Erasing threads from a run drops their requests and their
  steps. What is left of such a step is what the environment
  does meanwhile. The other threads are numbered anew.

  Where a relation between worlds is kept by every step, and
  the programs tolerate the answers that differ, the other
  threads end in the same outcomes in both runs.

  Key definitions include:
    * `Prog.Tolerates`, `outcomesOf`
    * `rank`, `without`
    * `Ignores`, `Erased`

  Key theorems include:
    * `Prog.Tolerates.andThen`, `Prog.Tolerates.reaches`
    * `Ignores.act`
    * `Ignores.run`
-/

------------------------------------------------------------
-- Programs That Tolerate Other Answers
------------------------------------------------------------

namespace Interaction

namespace Prog

variable {E : Type} {R : E → Type} {X α β : Type}

/-
  Whatever the answers are, the program goes on alike from
  answers that agree.
-/
def Tolerates
    (Agree : (effect : E) → R effect → R effect → Prop) :
    Prog E R X α → Prop
| .ret _ => True
| .throw _ => True
| .call effect next =>
    (∀ value value',
        Agree effect value value' →
          next value = next value') ∧
      ∀ value, Tolerates Agree (next value)

variable {Agree : (effect : E) → R effect → R effect → Prop}

/- The rule for a sequence. -/
theorem Tolerates.andThen
    {program : Prog E R X α}
    {next : α → Prog E R X β}
    (hProgram : program.Tolerates Agree)
    (hNext : ∀ value, (next value).Tolerates Agree) :
    (program >>= next).Tolerates Agree := by
  rw [bind_eq]
  induction program with
  | ret value => exact hNext value
  | throw error => trivial
  | call effect cont ih =>
      refine ⟨?_, fun value => ih value (hProgram.2 value)⟩
      intro value value' hAgree
      simp only [hProgram.1 value value' hAgree]

/- A call whose answers agree only where they are the same. -/
theorem tolerates_perform
    {effect : E}
    (hExact :
      ∀ value value',
        Agree effect value value' → value = value') :
    (perform effect : Prog E R X (R effect)).Tolerates
      Agree := by
  refine ⟨?_, fun _ => trivial⟩
  intro value value' hAgree
  rw [hExact value value' hAgree]

/- Where no answers differ, there is nothing to tolerate. -/
theorem tolerates_of_exact
    (hExact :
      ∀ effect value value',
        Agree effect value value' → value = value')
    (program : Prog E R X α) :
    program.Tolerates Agree := by
  induction program with
  | ret value => trivial
  | throw error => trivial
  | call effect cont ih =>
      refine ⟨?_, ih⟩
      intro value value' hAgree
      rw [hExact effect value value' hAgree]

/- What a program becomes tolerates what it does. -/
theorem Tolerates.reaches
    {program rest : Prog E R X α}
    {past : List (Answer E R)}
    (hTolerates : program.Tolerates Agree)
    (hReaches : program.Reaches past rest) :
    rest.Tolerates Agree := by
  induction hReaches with
  | start => exact hTolerates
  | answer hPast value ih => exact ih.2 value

end Prog

end Interaction

------------------------------------------------------------
-- Outcomes
------------------------------------------------------------

namespace Interaction

variable {E : Type} {R : E → Type} {X Q ρ Op : Type}

/- The outcome of a thread, where an entry is about it. -/
def Entry.endedBy
    (thread : Nat) :
    Entry E R X Q ρ Op → Option (Except X ρ)
| .respond other outcome =>
    if other = thread then some outcome else none
| _ => none

/- What a thread ended in, if it has ended. -/
def outcomesOf
    (thread : Nat)
    (history : List (Entry E R X Q ρ Op)) :
    List (Except X ρ) :=
  history.filterMap (Entry.endedBy thread)

theorem mem_outcomesOf
    (thread : Nat)
    (history : List (Entry E R X Q ρ Op))
    (outcome : Except X ρ) :
    outcome ∈ outcomesOf thread history ↔
      Entry.respond thread outcome ∈ history := by
  unfold outcomesOf
  rw [List.mem_filterMap]
  constructor
  · rintro ⟨entry, hMem, hEnded⟩
    cases entry with
    | env op => simp [Entry.endedBy] at hEnded
    | arrive other request => simp [Entry.endedBy] at hEnded
    | answer other answer => simp [Entry.endedBy] at hEnded
    | respond other ended =>
        simp only [Entry.endedBy,
          Option.ite_none_right_eq_some, Option.some.injEq]
          at hEnded
        rcases hEnded with ⟨rfl, rfl⟩
        exact hMem
  · intro hMem
    exact ⟨_, hMem, by simp [Entry.endedBy]⟩

theorem endedBy_of_about_ne
    {thread : Nat}
    {entry : Entry E R X Q ρ Op}
    (hAbout : entry.about ≠ some thread) :
    entry.endedBy thread = none := by
  cases entry with
  | respond other outcome =>
      simpa [Entry.endedBy, Entry.about] using hAbout
  | _ => rfl

theorem outcomesOf_cons_of_about_ne
    {thread : Nat}
    {entry : Entry E R X Q ρ Op}
    (hAbout : entry.about ≠ some thread)
    (history : List (Entry E R X Q ρ Op)) :
    outcomesOf thread (entry :: history) =
      outcomesOf thread history :=
  List.filterMap_cons_none (endedBy_of_about_ne hAbout)

/- A thread has no outcome before it begins. -/
theorem outcomesOf_of_unused
    {thread : Nat}
    {history : List (Entry E R X Q ρ Op)}
    (hUnused : Unused thread history) :
    outcomesOf thread history = [] := by
  apply List.filterMap_eq_nil_iff.mpr
  intro entry hMem
  exact endedBy_of_about_ne (hUnused entry hMem)

end Interaction

------------------------------------------------------------
-- Erased Runs
------------------------------------------------------------

namespace Interaction

variable {E : Type} {R : E → Type} {X Q ρ W Ext Op : Type}

/- The number of a thread among those that are kept. -/
def rank (extra : Nat → Bool) : Nat → Nat
| 0 => 0
| thread + 1 =>
    if extra thread then rank extra thread
    else rank extra thread + 1

/- What the environment does while a thread is answered. -/
def pauseOf
    (pause : E → Ext → List Op)
    (state : State E R X Q ρ W Op)
    (thread : Nat)
    (ext : Ext) : List Op :=
  match state.threads thread with
  | some ⟨_, .call effect _⟩ => pause effect ext
  | _ => []

/- What is left of one action. -/
def erased
    (extra : Nat → Bool)
    (pause : E → Ext → List Op)
    (state : State E R X Q ρ W Op) :
    Action Q Ext Op → List (Action Q Ext Op)
| .arrive request =>
    if extra state.next then [] else [.arrive request]
| .run thread ext =>
    if extra thread then
      (pauseOf pause state thread ext).map .env
    else
      [.run (rank extra thread) ext]
| .env op => [.env op]

/- What is left of the actions of a run. -/
def without
    (sem : Semantics E R W Ext Op)
    (handler : Q → Prog E R X ρ)
    (extra : Nat → Bool)
    (pause : E → Ext → List Op) :
    State E R X Q ρ W Op → List (Action Q Ext Op) →
      List (Action Q Ext Op)
| _, [] => []
| state, action :: actions =>
    match act sem handler state action with
    | none => []
    | some next =>
        erased extra pause state action ++
          without sem handler extra pause next actions

variable {extra : Nat → Bool}

theorem rank_le
    {thread other : Nat}
    (hLe : thread ≤ other) :
    rank extra thread ≤ rank extra other := by
  induction hLe with
  | refl => exact Nat.le_refl _
  | step _ ih =>
      simp only [rank]
      split
      · exact ih
      · omega

/- Kept threads have different numbers. -/
theorem rank_lt
    {thread other : Nat}
    (hKept : extra thread = false)
    (hLt : thread < other) :
    rank extra thread < rank extra other := by
  have hNext : rank extra (thread + 1) ≤ rank extra other :=
    rank_le hLt
  simp only [rank, hKept, Bool.false_eq_true, if_false]
    at hNext
  omega

theorem rank_ne
    {thread other : Nat}
    (hThread : extra thread = false)
    (hOther : extra other = false)
    (hNe : thread ≠ other) :
    rank extra thread ≠ rank extra other := by
  rcases Nat.lt_or_gt_of_ne hNe with hLt | hGt
  · exact Nat.ne_of_lt (rank_lt hThread hLt)
  · exact (Nat.ne_of_lt (rank_lt hOther hGt)).symm

end Interaction

------------------------------------------------------------
-- What Erased Threads Leave Alone
------------------------------------------------------------

namespace Interaction

variable {E : Type} {R : E → Type} {X Q ρ W Ext Op : Type}

/- The environment acts several times. -/
def envs
    (sem : Semantics E R W Ext Op) :
    W → List Op → Option W
| world, [] => some world
| world, op :: ops => (sem.env world op).bind (envs sem · ops)

/-
  A relation between the worlds of a run and of the run
  without its extra threads, that every step keeps, with the
  answers of a call that both make in agreement. `Good` and
  `GoodBase` are what is known of the entries of the two.
-/
structure Ignores
    (sem : Semantics E R W Ext Op)
    (extra : Nat → Bool)
    (pause : E → Ext → List Op)
    (Related : W → W → Prop)
    (Agree :
      Q → (effect : E) → R effect → R effect → Prop)
    (Good GoodBase :
      Entry E R X Q ρ Op →
        List (Entry E R X Q ρ Op) → Prop) : Prop where
  kept :
    ∀ {world world' base base' request effect value value' ext
        thread other earlier earlier'},
      extra thread = false →
        Good (.answer thread ⟨effect, value⟩) earlier →
          GoodBase (.answer other ⟨effect, value'⟩)
              earlier' →
            Entry.arrive thread request ∈ earlier →
              Entry.arrive other request ∈ earlier' →
                Related world base →
                  sem.exec world effect ext =
                      some (value, world') →
                    sem.exec base effect ext =
                        some (value', base') →
                      Related world' base' ∧
                        Agree request effect value value'
  extra :
    ∀ {world world' base effect value ext thread earlier},
      extra thread = true →
        Good (.answer thread ⟨effect, value⟩) earlier →
          Related world base →
            sem.exec world effect ext =
                some (value, world') →
              ∃ base',
                envs sem base (pause effect ext) =
                    some base' ∧
                  Related world' base'
  env :
    ∀ {world world' base op},
      Related world base →
        sem.env world op = some world' →
          ∃ base',
            sem.env base op = some base' ∧
              Related world' base'

/-
  A state of the run without the extra threads: the kept
  threads are where they are in the full run, and those that
  have ended did so in the same outcomes.
-/
structure Erased
    (extra : Nat → Bool)
    (Related : W → W → Prop)
    (full base : State E R X Q ρ W Op) : Prop where
  world : Related full.world base.world
  next : base.next = rank extra full.next
  threads :
    ∀ thread,
      extra thread = false →
        thread < full.next →
          base.threads (rank extra thread) =
            full.threads thread
  outcomes :
    ∀ thread,
      extra thread = false →
        thread < full.next →
          outcomesOf (rank extra thread) base.history =
            outcomesOf thread full.history

variable {sem : Semantics E R W Ext Op}
variable {handler : Q → Prog E R X ρ}
variable {extra : Nat → Bool}
variable {pause : E → Ext → List Op}
variable {Related : W → W → Prop}
variable {full full' base : State E R X Q ρ W Op}

/- The environment's actions leave the threads alone. -/
theorem run_envs
    {ops : List Op}
    {world' : W}
    (handler : Q → Prog E R X ρ)
    (hEnvs : envs sem base.world ops = some world') :
    ∃ base',
      run sem handler base (ops.map .env) = some base' ∧
        base'.world = world' ∧
        base'.next = base.next ∧
        base'.threads = base.threads ∧
        ∀ thread,
          outcomesOf thread base'.history =
            outcomesOf thread base.history := by
  induction ops generalizing base with
  | nil =>
      rw [envs, Option.some.injEq] at hEnvs
      exact ⟨base, rfl, hEnvs, rfl, rfl, fun _ => rfl⟩
  | cons op ops ih =>
      simp only [envs, Option.bind_eq_some_iff] at hEnvs
      rcases hEnvs with ⟨middle, hOp, hOps⟩
      have hRest :=
        @ih
          { base with
            world := middle
            history := .env op :: base.history } hOps
      rcases hRest with
        ⟨base', hRun, hWorld, hNext, hThreads, hOutcomes⟩
      refine ⟨base', ?_, hWorld, hNext, hThreads, ?_⟩
      · simp only [List.map_cons, run, act, hOp]
        exact hRun
      · intro thread
        rw [hOutcomes thread]
        exact
          outcomesOf_cons_of_about_ne (by simp [Entry.about]) _

/- Where a kept thread is found in the base run. -/
theorem Erased.thread_eq
    {thread : Nat}
    {entry : Thread E R X Q ρ}
    (hErased : Erased extra Related full base)
    (hTracks : Tracks handler full)
    (hKept : extra thread = false)
    (hThread : full.threads thread = some entry) :
    base.threads (rank extra thread) = some entry := by
  rw [hErased.threads thread hKept
    (hTracks.bounded thread entry hThread)]
  exact hThread

/- A step of a kept thread, done by both. -/
theorem Erased.advance
    {thread : Nat}
    {world world' : W}
    {entry entry' : Entry E R X Q ρ Op}
    (hErased : Erased extra Related full base)
    (thread' : Option (Thread E R X Q ρ))
    (hKept : extra thread = false)
    (hWorld : Related world world')
    (hAbout : entry.about = some thread)
    (hAbout' : entry'.about = some (rank extra thread))
    (hEnded :
      entry'.endedBy (rank extra thread) =
        entry.endedBy thread) :
    Erased extra Related
      { world := world
        threads := setThread full.threads thread thread'
        next := full.next
        history := entry :: full.history }
      { world := world'
        threads :=
          setThread base.threads (rank extra thread) thread'
        next := base.next
        history := entry' :: base.history } where
  world := hWorld
  next := hErased.next
  threads := by
    intro other hOther hBound
    by_cases hSame : other = thread
    · subst hSame
      simp [setThread]
    · have hNe := rank_ne hOther hKept hSame
      simp only [setThread, hSame, hNe, if_false]
      exact hErased.threads other hOther hBound
  outcomes := by
    intro other hOther hBound
    have hBefore := hErased.outcomes other hOther hBound
    by_cases hSame : other = thread
    · subst hSame
      unfold outcomesOf at hBefore ⊢
      rw [List.filterMap_cons, List.filterMap_cons, hEnded,
        hBefore]
    · have hNe := rank_ne hOther hKept hSame
      rw [outcomesOf_cons_of_about_ne,
        outcomesOf_cons_of_about_ne]
      · exact hBefore
      · rw [hAbout]
        simpa using fun hEq => hSame hEq.symm
      · rw [hAbout']
        simpa using fun hEq => hNe hEq.symm

/- A step of an extra thread, which the base run leaves out. -/
theorem Erased.skip
    {base' : State E R X Q ρ W Op}
    {thread : Nat}
    {world : W}
    {thread' : Option (Thread E R X Q ρ)}
    {entry : Entry E R X Q ρ Op}
    (hErased : Erased extra Related full base)
    (hExtra : extra thread = true)
    (hAbout : entry.about = some thread)
    (hWorld : Related world base'.world)
    (hNext : base'.next = base.next)
    (hThreads : base'.threads = base.threads)
    (hOutcomes :
      ∀ thread,
        outcomesOf thread base'.history =
          outcomesOf thread base.history) :
    Erased extra Related
      { world := world
        threads := setThread full.threads thread thread'
        next := full.next
        history := entry :: full.history }
      base' where
  world := hWorld
  next := hNext.trans hErased.next
  threads := by
    intro other hOther hBound
    have hNe : other ≠ thread := by
      rintro rfl
      rw [hExtra] at hOther
      simp at hOther
    rw [hThreads]
    simp only [setThread, hNe, if_false]
    exact hErased.threads other hOther hBound
  outcomes := by
    intro other hOther hBound
    have hNe : thread ≠ other := by
      rintro rfl
      rw [hExtra] at hOther
      simp at hOther
    rw [hOutcomes, outcomesOf_cons_of_about_ne]
    · exact hErased.outcomes other hOther hBound
    · rw [hAbout]
      simpa using hNe

/- A request that is left out. -/
theorem Erased.arriveExtra
    {request : Q}
    (hErased : Erased extra Related full base)
    (hExtra : extra full.next = true) :
    Erased extra Related (admitRequest handler full request)
      base where
  world := hErased.world
  next := by
    have hNext := hErased.next
    simp only [admitRequest, rank, hExtra, if_true]
    exact hNext
  threads := by
    intro thread hKept hBound
    have hNe : thread ≠ full.next := by
      rintro rfl
      rw [hExtra] at hKept
      simp at hKept
    simp only [admitRequest] at hBound ⊢
    simp only [setThread, hNe, if_false]
    exact hErased.threads thread hKept (by omega)
  outcomes := by
    intro thread hKept hBound
    have hNe : thread ≠ full.next := by
      rintro rfl
      rw [hExtra] at hKept
      simp at hKept
    simp only [admitRequest] at hBound ⊢
    rw [outcomesOf_cons_of_about_ne]
    · exact hErased.outcomes thread hKept (by omega)
    · simpa [Entry.about] using hNe.symm

/- A request that both runs serve. -/
theorem Erased.arriveKept
    {request : Q}
    (hErased : Erased extra Related full base)
    (hFull : Tracks handler full)
    (hBase : Tracks handler base)
    (hKept : extra full.next = false) :
    Erased extra Related (admitRequest handler full request)
      (admitRequest handler base request) where
  world := hErased.world
  next := by
    have hNext := hErased.next
    simp only [admitRequest, rank, hKept, Bool.false_eq_true,
      if_false]
    omega
  threads := by
    intro thread hThread hBound
    simp only [admitRequest] at hBound ⊢
    rw [hErased.next]
    by_cases hSame : thread = full.next
    · subst hSame
      simp [setThread]
    · have hNe := rank_ne hThread hKept hSame
      simp only [setThread, hSame, hNe, if_false]
      exact hErased.threads thread hThread (by omega)
  outcomes := by
    intro thread hThread hBound
    simp only [admitRequest] at hBound ⊢
    rw [hErased.next]
    by_cases hSame : thread = full.next
    · subst hSame
      have hNone :=
        outcomesOf_of_unused (hFull.unused _ (Nat.le_refl _))
      have hNone' :=
        outcomesOf_of_unused (hBase.unused _ (Nat.le_refl _))
      rw [hErased.next] at hNone'
      unfold outcomesOf at hNone hNone' ⊢
      exact hNone'.trans hNone.symm
    · have hNe := rank_ne hThread hKept hSame
      rw [outcomesOf_cons_of_about_ne,
        outcomesOf_cons_of_about_ne]
      · exact hErased.outcomes thread hThread (by omega)
      · simpa [Entry.about] using fun hEq => hSame hEq.symm
      · simpa [Entry.about] using fun hEq => hNe hEq.symm

/- What the environment does in both runs. -/
theorem Erased.env
    {op : Op}
    {world world' : W}
    (hErased : Erased extra Related full base)
    (hWorld : Related world world') :
    Erased extra Related
      { full with
        world := world
        history := .env op :: full.history }
      { base with
        world := world'
        history := .env op :: base.history } where
  world := hWorld
  next := hErased.next
  threads := hErased.threads
  outcomes := by
    intro thread hKept hBound
    rw [outcomesOf_cons_of_about_ne (by simp [Entry.about]),
      outcomesOf_cons_of_about_ne (by simp [Entry.about])]
    exact hErased.outcomes thread hKept hBound

end Interaction

------------------------------------------------------------
-- Whole Runs
------------------------------------------------------------

namespace Interaction

variable {E : Type} {R : E → Type} {X Q ρ W Ext Op : Type}
variable {sem : Semantics E R W Ext Op}
variable {handler : Q → Prog E R X ρ}
variable {extra : Nat → Bool}
variable {pause : E → Ext → List Op}
variable {Related : W → W → Prop}
variable {Agree :
  Q → (effect : E) → R effect → R effect → Prop}
variable {Good GoodBase :
  Entry E R X Q ρ Op → List (Entry E R X Q ρ Op) → Prop}
variable {full full' base base' : State E R X Q ρ W Op}
variable {start start' : W}

theorem run_single
    {state state' : State E R X Q ρ W Op}
    {action : Action Q Ext Op}
    (hRun : run sem handler state [action] = some state') :
    act sem handler state action = some state' := by
  simp only [run] at hRun
  split at hRun
  · simp at hRun
  · next next hAct => rw [hAct, hRun]

theorem run_append
    (state : State E R X Q ρ W Op)
    (actions later : List (Action Q Ext Op)) :
    run sem handler state (actions ++ later) =
      (run sem handler state actions).bind
        (fun state' => run sem handler state' later) := by
  induction actions generalizing state with
  | nil => rfl
  | cons action actions ih =>
      simp only [List.cons_append, run]
      cases act sem handler state action with
      | none => rfl
      | some next => exact ih next

/- A run goes on from what was recorded. -/
theorem run_history
    {state state' : State E R X Q ρ W Op}
    {actions : List (Action Q Ext Op)}
    (hRun : run sem handler state actions = some state') :
    ∃ later, state'.history = later ++ state.history := by
  induction actions generalizing state with
  | nil =>
      simp only [run, Option.some.injEq] at hRun
      exact ⟨[], by rw [hRun]; rfl⟩
  | cons action actions ih =>
      simp only [run] at hRun
      cases hAct : act sem handler state action with
      | none => simp [hAct] at hRun
      | some next =>
          simp only [hAct] at hRun
          rcases act_history hAct with ⟨entry, hEntry⟩
          rcases ih hRun with ⟨later, hLater⟩
          refine ⟨later ++ [entry], ?_⟩
          rw [hLater, hEntry, List.append_cons]

/- What always holds of a run held of its beginning. -/
theorem always_before
    {Fact :
      Entry E R X Q ρ Op →
        List (Entry E R X Q ρ Op) → Prop}
    {state state' : State E R X Q ρ W Op}
    {actions : List (Action Q Ext Op)}
    (hFact : Always Fact state'.history)
    (hRun : run sem handler state actions = some state') :
    Always Fact state.history := by
  rcases run_history hRun with ⟨later, hLater⟩
  rw [hLater] at hFact
  exact hFact.drop

/- A thread that ends, in both runs or in the full one. -/
theorem Erased.finish
    {thread : Nat}
    {request : Q}
    {ext : Ext}
    (outcome : Except X ρ)
    (hErased : Erased extra Related full base)
    (hFull : Tracks handler full)
    (hThread :
      full.threads thread =
        some ⟨request, Prog.ofOutcome outcome⟩)
    (hRun :
      run sem handler base
          (erased extra pause full (.run thread ext)) =
        some base') :
    Erased extra Related
      (Interaction.finish full thread outcome) base' := by
  cases hExtra : extra thread with
  | true =>
      have hNothing : base = base' := by
        cases outcome with
        | ok value =>
            simpa [erased, hExtra, pauseOf, hThread,
              Prog.ofOutcome, run] using hRun
        | error error =>
            simpa [erased, hExtra, pauseOf, hThread,
              Prog.ofOutcome, run] using hRun
      subst hNothing
      exact
        hErased.skip hExtra rfl hErased.world rfl rfl
          (fun _ => rfl)
  | false =>
      have hBase := hErased.thread_eq hFull hExtra hThread
      simp only [erased, hExtra, Bool.false_eq_true,
        if_false] at hRun
      have hAct := run_single hRun
      have hFinish :
          Interaction.finish base (rank extra thread) outcome =
            base' := by
        cases outcome with
        | ok value =>
            simpa [Interaction.act, hBase, Prog.ofOutcome]
              using hAct
        | error error =>
            simpa [Interaction.act, hBase, Prog.ofOutcome]
              using hAct
      subst hFinish
      exact
        hErased.advance none hExtra hErased.world rfl rfl
          (by simp [Entry.endedBy])

/- A call that is answered, in both runs or the full one. -/
theorem Ignores.advance
    {thread : Nat}
    {request : Q}
    {effect : E}
    {rest : R effect → Prog E R X ρ}
    {ext : Ext}
    {value : R effect}
    {world : W}
    (hIgnores :
      Ignores sem extra pause Related Agree Good GoodBase)
    (hTolerates :
      ∀ request, (handler request).Tolerates (Agree request))
    (hErased : Erased extra Related full base)
    (hFull : Tracks handler full)
    (hBase : Tracks handler base)
    (hGood :
      Good (.answer thread ⟨effect, value⟩) full.history)
    (hGoodBase : Always GoodBase base'.history)
    (hThread :
      full.threads thread =
        some ⟨request, .call effect rest⟩)
    (hExec :
      sem.exec full.world effect ext = some (value, world))
    (hRun :
      run sem handler base
          (erased extra pause full (.run thread ext)) =
        some base') :
    Erased extra Related
      (Interaction.advance full thread request effect rest
        value world) base' := by
  cases hExtra : extra thread with
  | true =>
      rcases hIgnores.extra hExtra hGood hErased.world hExec
        with ⟨world', hEnvs, hWorld⟩
      rcases run_envs handler hEnvs with
        ⟨middle, hMiddle, hSame, hNext, hThreads, hOutcomes⟩
      simp only [erased, hExtra, if_true, pauseOf, hThread]
        at hRun
      rw [hMiddle, Option.some.injEq] at hRun
      subst hRun
      rw [← hSame] at hWorld
      exact
        hErased.skip hExtra rfl hWorld hNext hThreads hOutcomes
  | false =>
      have hThread' := hErased.thread_eq hFull hExtra hThread
      simp only [erased, hExtra, Bool.false_eq_true,
        if_false] at hRun
      have hAct := run_single hRun
      simp only [Interaction.act, hThread'] at hAct
      cases hExec' : sem.exec base.world effect ext with
      | none => simp [hExec'] at hAct
      | some answered =>
          rcases answered with ⟨value', world'⟩
          simp only [hExec', Option.some.injEq] at hAct
          subst hAct
          have hFollows := hFull.running _ _ hThread
          have hFollows' := hBase.running _ _ hThread'
          rcases hIgnores.kept hExtra hGood hGoodBase.1
              hFollows.arrived hFollows'.arrived hErased.world
              hExec hExec' with
            ⟨hWorld, hAgree⟩
          -- Both go on with the same program.
          have hSame : rest value = rest value' :=
            ((hTolerates request).reaches
              hFollows.reaches).1 value value' hAgree
          unfold Interaction.advance
          rw [hSame]
          exact
            hErased.advance _ hExtra hWorld rfl rfl
              (by simp [Entry.endedBy])

/- Runs keep track of the threads. -/
theorem Tracks.run
    {state state' : State E R X Q ρ W Op}
    {actions : List (Action Q Ext Op)}
    (hTracks : Tracks handler state)
    (hRun :
      Interaction.run sem handler state actions =
        some state') :
    Tracks handler state' := by
  induction actions generalizing state with
  | nil =>
      simp only [Interaction.run, Option.some.injEq] at hRun
      exact hRun ▸ hTracks
  | cons action actions ih =>
      simp only [Interaction.run] at hRun
      cases hAct :
          Interaction.act sem handler state action with
      | none => simp [hAct] at hRun
      | some next =>
          simp only [hAct] at hRun
          exact ih (hTracks.act hAct) hRun

/- One step of the full run, and what is left of it. -/
theorem Ignores.act
    {action : Action Q Ext Op}
    (hIgnores :
      Ignores sem extra pause Related Agree Good GoodBase)
    (hTolerates :
      ∀ request, (handler request).Tolerates (Agree request))
    (hErased : Erased extra Related full base)
    (hFull : Tracks handler full)
    (hBase : Tracks handler base)
    (hGood : Always Good full'.history)
    (hGoodBase : Always GoodBase base'.history)
    (hAct :
      Interaction.act sem handler full action = some full')
    (hRun :
      Interaction.run sem handler base
          (erased extra pause full action) =
        some base') :
    Erased extra Related full' base' := by
  cases action with
  | arrive request =>
      simp only [Interaction.act, Option.some.injEq] at hAct
      subst hAct
      cases hExtra : extra full.next with
      | true =>
          simp only [erased, hExtra, if_true,
            Interaction.run, Option.some.injEq] at hRun
          subst hRun
          exact hErased.arriveExtra hExtra
      | false =>
          simp only [erased, hExtra, Bool.false_eq_true,
            if_false] at hRun
          have hArrive := run_single hRun
          simp only [Interaction.act, Option.some.injEq]
            at hArrive
          subst hArrive
          exact hErased.arriveKept hFull hBase hExtra
  | env op =>
      have hOp' := run_single hRun
      simp only [Interaction.act] at hAct hOp'
      cases hOp : sem.env full.world op with
      | none => simp [hOp] at hAct
      | some world =>
          simp only [hOp, Option.some.injEq] at hAct
          subst hAct
          rcases hIgnores.env hErased.world hOp with
            ⟨world', hEnv, hWorld⟩
          simp only [hEnv, Option.some.injEq] at hOp'
          subst hOp'
          exact hErased.env hWorld
  | run thread ext =>
      simp only [Interaction.act] at hAct
      cases hThread : full.threads thread with
      | none => simp [hThread] at hAct
      | some entry =>
          rcases entry with ⟨request, program⟩
          simp only [hThread] at hAct
          cases program with
          | ret value =>
              simp only [Option.some.injEq] at hAct
              subst hAct
              exact
                Erased.finish (.ok value) hErased hFull hThread
                  hRun
          | throw error =>
              simp only [Option.some.injEq] at hAct
              subst hAct
              exact
                Erased.finish (.error error) hErased hFull
                  hThread hRun
          | call effect rest =>
              cases hExec : sem.exec full.world effect ext with
              | none => simp [hExec] at hAct
              | some answered =>
                  rcases answered with ⟨value, world⟩
                  simp only [hExec, Option.some.injEq] at hAct
                  subst hAct
                  exact
                    hIgnores.advance hTolerates hErased hFull
                      hBase hGood.1 hGoodBase hThread hExec hRun

/-
  Two runs that differ by the extra threads: the kept threads
  end in the same outcomes. The induction is on the actions
  of the full run.
-/
theorem Ignores.run_from
    {actions : List (Action Q Ext Op)}
    (hIgnores :
      Ignores sem extra pause Related Agree Good GoodBase)
    (hTolerates :
      ∀ request, (handler request).Tolerates (Agree request))
    (hErased : Erased extra Related full base)
    (hFull : Tracks handler full)
    (hBase : Tracks handler base)
    (hGood : Always Good full'.history)
    (hGoodBase : Always GoodBase base'.history)
    (hRun :
      Interaction.run sem handler full actions = some full')
    (hRun' :
      Interaction.run sem handler base
          (without sem handler extra pause full actions) =
        some base') :
    Erased extra Related full' base' := by
  induction actions generalizing full base with
  | nil =>
      simp only [Interaction.run, Option.some.injEq] at hRun
      simp only [without, Interaction.run, Option.some.injEq]
        at hRun'
      rw [← hRun, ← hRun']
      exact hErased
  | cons action actions ih =>
      simp only [Interaction.run] at hRun
      cases hAct : Interaction.act sem handler full action with
      | none => simp [hAct] at hRun
      | some next =>
          simp only [hAct] at hRun
          simp only [without, hAct, run_append,
            Option.bind_eq_some_iff] at hRun'
          rcases hRun' with ⟨middle, hMiddle, hRest⟩
          have hNext :=
            hIgnores.act hTolerates hErased hFull hBase
              (always_before hGood hRun)
              (always_before hGoodBase hRest) hAct hMiddle
          exact
            ih hNext (hFull.act hAct) (hBase.run hMiddle) hRun
              hRest

theorem Ignores.run
    {actions : List (Action Q Ext Op)}
    (hIgnores :
      Ignores sem extra pause Related Agree Good GoodBase)
    (hTolerates :
      ∀ request, (handler request).Tolerates (Agree request))
    (hStart : Related start start')
    (hGood : Always Good full.history)
    (hGoodBase : Always GoodBase base.history)
    (hRun :
      Interaction.run sem handler (.init start) actions =
        some full)
    (hRun' :
      Interaction.run sem handler (.init start')
          (without sem handler extra pause (.init start)
            actions) =
        some base) :
    Erased extra Related full base := by
  refine
    hIgnores.run_from hTolerates ?_ (tracks_init start)
      (tracks_init start') hGood hGoodBase hRun hRun'
  exact
    { world := hStart
      next := rfl
      threads := fun _ _ _ => rfl
      outcomes := fun _ _ _ => rfl }

end Interaction
