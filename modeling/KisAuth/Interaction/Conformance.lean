import KisAuth.Interaction.System

/-
  What a history says about the programs that made it.

  Each recorded answer belongs to a call that the thread's
  program makes after the answers recorded for that thread
  before. So a guard proved of every program on its own
  holds at every call of every interleaving.

  Key theorems include:
    * `Reachable.conforms`
    * `Reachable.obeys`
    * `arrive_unique_of_always`
    * `Reachable.invariant`
-/

------------------------------------------------------------
-- Conformance
------------------------------------------------------------

namespace Interaction

variable {E : Type} {R : E → Type} {X Q ρ W Ext Op : Type}
variable {sem : Semantics E R W Ext Op}
variable {handler : Q → Prog E R X ρ}
variable {start : W}

/-
  An entry agrees with the program of its thread: threads
  are new, answers answer the program's next call, and the
  outcome is the one the program ended in.
-/
def Conforms
    (handler : Q → Prog E R X ρ) :
    Entry E R X Q ρ Op →
      List (Entry E R X Q ρ Op) → Prop
| .arrive thread _, earlier => Unused thread earlier
| .answer thread answer, earlier =>
    (∀ outcome,
        Entry.respond thread outcome ∉ earlier) ∧
      ∃ request rest,
        Entry.arrive thread request ∈ earlier ∧
          (handler request).Reaches
            (answersOf thread earlier)
            (.call answer.effect rest)
| .respond thread outcome, earlier =>
    (∀ other, Entry.respond thread other ∉ earlier) ∧
      ∃ request,
        Entry.arrive thread request ∈ earlier ∧
          (handler request).Reaches
            (answersOf thread earlier)
            (Prog.ofOutcome outcome)
| .env _, _ => True

/-
  A running thread is where its recorded answers have
  brought it.
-/
structure Follows
    (handler : Q → Prog E R X ρ)
    (history : List (Entry E R X Q ρ Op))
    (thread : Nat)
    (entry : Thread E R X Q ρ) : Prop where
  open_ :
    ∀ outcome, Entry.respond thread outcome ∉ history
  arrived : Entry.arrive thread entry.request ∈ history
  reaches :
    (handler entry.request).Reaches
      (answersOf thread history) entry.program

/- Steps about other threads leave a thread where it is. -/
theorem Follows.cons
    {history : List (Entry E R X Q ρ Op)}
    {thread : Nat}
    {entry : Thread E R X Q ρ}
    (hFollows : Follows handler history thread entry)
    {head : Entry E R X Q ρ Op}
    (hAbout : head.about ≠ some thread) :
    Follows handler (head :: history) thread entry where
  open_ := by
    intro outcome hMem
    rcases List.mem_cons.mp hMem with hEq | hMem
    · exact hAbout (by rw [← hEq]; rfl)
    · exact hFollows.open_ outcome hMem
  arrived := List.mem_cons_of_mem _ hFollows.arrived
  reaches := by
    rw [answersOf_cons_of_about_ne hAbout]
    exact hFollows.reaches

/-
  All running threads follow the history, and later thread
  names are still unused.
-/
structure Tracks
    (handler : Q → Prog E R X ρ)
    (state : State E R X Q ρ W Op) : Prop where
  running :
    ∀ thread entry,
      state.threads thread = some entry →
        Follows handler state.history thread entry
  bounded :
    ∀ thread entry,
      state.threads thread = some entry →
        thread < state.next
  unused :
    ∀ thread,
      state.next ≤ thread → Unused thread state.history

theorem tracks_init
    (world : W) :
    Tracks handler
      (State.init world : State E R X Q ρ W Op) where
  running := by
    intro thread entry hEntry
    simp [State.init] at hEntry
  bounded := by
    intro thread entry hEntry
    simp [State.init] at hEntry
  unused := by
    intro thread _
    exact unused_nil thread

theorem Tracks.admitRequest
    {state : State E R X Q ρ W Op}
    (hTracks : Tracks handler state)
    (request : Q) :
    Tracks handler
      (Interaction.admitRequest handler state request) where
  running := by
    intro thread entry hEntry
    simp only [Interaction.admitRequest, setThread]
      at hEntry ⊢
    by_cases hThread : thread = state.next
    · subst hThread
      have hUnused := hTracks.unused state.next (Nat.le_refl _)
      simp only [if_true, Option.some.injEq] at hEntry
      subst hEntry
      refine ⟨?_, by simp, ?_⟩
      · intro outcome hMem
        rcases List.mem_cons.mp hMem with hEq | hMem
        · simp at hEq
        · exact hUnused _ hMem rfl
      · simp only [answersOf,
          answersOf_eq_nil_of_unused hUnused]
        exact Prog.Reaches.start
    · simp only [hThread, if_false] at hEntry
      apply (hTracks.running thread entry hEntry).cons
      simpa [Entry.about] using fun h => hThread h.symm
  bounded := by
    intro thread entry hEntry
    simp only [Interaction.admitRequest, setThread] at hEntry ⊢
    by_cases hThread : thread = state.next
    · omega
    · simp only [hThread, if_false] at hEntry
      have hBound := hTracks.bounded thread entry hEntry
      omega
  unused := by
    intro thread hNext
    simp only [Interaction.admitRequest] at hNext ⊢
    have hNe : state.next ≠ thread := by omega
    rw [unused_cons]
    exact ⟨by simpa [Entry.about] using hNe,
      hTracks.unused thread (by omega)⟩

theorem Tracks.finish
    {state : State E R X Q ρ W Op}
    {thread : Nat}
    {entry : Thread E R X Q ρ}
    (hTracks : Tracks handler state)
    (hThread : state.threads thread = some entry)
    (outcome : Except X ρ) :
    Tracks handler
      (Interaction.finish state thread outcome) where
  running := by
    intro other entry' hEntry
    simp only [Interaction.finish, setThread] at hEntry ⊢
    by_cases hOther : other = thread
    · simp [hOther] at hEntry
    · simp only [hOther, if_false] at hEntry
      apply (hTracks.running other entry' hEntry).cons
      simpa [Entry.about] using fun h => hOther h.symm
  bounded := by
    intro other entry' hEntry
    simp only [Interaction.finish, setThread] at hEntry ⊢
    by_cases hOther : other = thread
    · simp [hOther] at hEntry
    · simp only [hOther, if_false] at hEntry
      exact hTracks.bounded other entry' hEntry
  unused := by
    intro other hNext
    simp only [Interaction.finish] at hNext ⊢
    have hBound := hTracks.bounded thread entry hThread
    have hNe : thread ≠ other := by omega
    rw [unused_cons]
    exact ⟨by simpa [Entry.about] using hNe,
      hTracks.unused other hNext⟩

theorem Tracks.advance
    {state : State E R X Q ρ W Op}
    {thread : Nat}
    {request : Q}
    {effect : E}
    {rest : R effect → Prog E R X ρ}
    (hTracks : Tracks handler state)
    (hThread :
      state.threads thread =
        some ⟨request, .call effect rest⟩)
    (value : R effect)
    (world : W) :
    Tracks handler
      (Interaction.advance state thread request effect rest
        value world) where
  running := by
    intro other entry hEntry
    simp only [Interaction.advance, setThread] at hEntry ⊢
    by_cases hOther : other = thread
    · subst hOther
      simp only [if_true, Option.some.injEq] at hEntry
      subst hEntry
      have hOld := hTracks.running other _ hThread
      refine ⟨?_, List.mem_cons_of_mem _ hOld.arrived, ?_⟩
      · intro outcome hMem
        rcases List.mem_cons.mp hMem with hEq | hMem
        · simp at hEq
        · exact hOld.open_ outcome hMem
      · simp only [answersOf, if_true]
        exact hOld.reaches.answer value
    · simp only [hOther, if_false] at hEntry
      apply (hTracks.running other entry hEntry).cons
      simpa [Entry.about] using fun h => hOther h.symm
  bounded := by
    intro other entry hEntry
    simp only [Interaction.advance, setThread] at hEntry ⊢
    by_cases hOther : other = thread
    · subst hOther
      exact hTracks.bounded other _ hThread
    · simp only [hOther, if_false] at hEntry
      exact hTracks.bounded other entry hEntry
  unused := by
    intro other hNext
    simp only [Interaction.advance] at hNext ⊢
    have hBound := hTracks.bounded thread _ hThread
    have hNe : thread ≠ other := by omega
    rw [unused_cons]
    exact ⟨by simpa [Entry.about] using hNe,
      hTracks.unused other hNext⟩

theorem Tracks.env
    {state : State E R X Q ρ W Op}
    (hTracks : Tracks handler state)
    (op : Op)
    (world : W) :
    Tracks handler
      { state with
        world := world
        history := .env op :: state.history } where
  running := by
    intro thread entry hEntry
    apply (hTracks.running thread entry hEntry).cons
    simp [Entry.about]
  bounded := hTracks.bounded
  unused := by
    intro thread hNext
    rw [unused_cons]
    exact ⟨by simp [Entry.about],
      hTracks.unused thread hNext⟩

/- Every step keeps track of the threads. -/
theorem Tracks.act
    {state state' : State E R X Q ρ W Op}
    {action : Action Q Ext Op}
    (hTracks : Tracks handler state)
    (hAct :
      Interaction.act sem handler state action =
        some state') :
    Tracks handler state' := by
  rcases act_cases hAct with
    ⟨request, rfl⟩ |
    ⟨thread, request, outcome, hThread, rfl⟩ |
    ⟨thread, request, effect, rest, ext, value, world,
      hThread, hExec, rfl⟩ |
    ⟨op, world, hEnv, rfl⟩
  · exact hTracks.admitRequest request
  · exact hTracks.finish hThread outcome
  · exact hTracks.advance hThread value world
  · exact hTracks.env op world

theorem Reachable.tracks
    {state : State E R X Q ρ W Op}
    (hReachable : Reachable sem handler start state) :
    Tracks handler state := by
  induction hReachable with
  | init => exact tracks_init start
  | step hReachable action hAct ih => exact ih.act hAct

/- Every entry of a reachable history conforms. -/
theorem Reachable.conforms
    {state : State E R X Q ρ W Op}
    (hReachable : Reachable sem handler start state) :
    Always (Conforms handler) state.history := by
  induction hReachable with
  | init => trivial
  | step hReachable action hAct ih =>
      have hTracks := hReachable.tracks
      rcases act_cases hAct with
        ⟨request, rfl⟩ |
        ⟨thread, request, outcome, hThread, rfl⟩ |
        ⟨thread, request, effect, rest, ext, value, world,
          hThread, hExec, rfl⟩ |
        ⟨op, world, hEnv, rfl⟩
      · exact ⟨hTracks.unused _ (Nat.le_refl _), ih⟩
      · have hRun := hTracks.running thread _ hThread
        exact
          ⟨⟨hRun.open_, request, hRun.arrived,
            hRun.reaches⟩, ih⟩
      · have hRun := hTracks.running thread _ hThread
        exact
          ⟨⟨hRun.open_, request, rest, hRun.arrived,
            hRun.reaches⟩, ih⟩
      · exact ⟨trivial, ih⟩

end Interaction

------------------------------------------------------------
-- Guards Over Whole Runs
------------------------------------------------------------

namespace Interaction

variable {E : Type} {R : E → Type} {X Q ρ W Ext Op : Type}
variable {sem : Semantics E R W Ext Op}
variable {handler : Q → Prog E R X ρ}
variable {start : W}

/-
  An entry keeps the conditions of its thread's request: the
  guard at a call, the final condition at the end.
-/
def Keeps
    (guard : Q → List (Answer E R) → E → Prop)
    (final : Q → List (Answer E R) → Except X ρ → Prop) :
    Entry E R X Q ρ Op →
      List (Entry E R X Q ρ Op) → Prop
| .answer thread answer, earlier =>
    ∃ request,
      Entry.arrive thread request ∈ earlier ∧
        guard request (answersOf thread earlier)
          answer.effect
| .respond thread outcome, earlier =>
    ∃ request,
      Entry.arrive thread request ∈ earlier ∧
        final request (answersOf thread earlier) outcome
| .arrive _ _, _ => True
| .env _, _ => True

theorem Conforms.keeps
    {guard : Q → List (Answer E R) → E → Prop}
    {final : Q → List (Answer E R) → Except X ρ → Prop}
    {entry : Entry E R X Q ρ Op}
    {earlier : List (Entry E R X Q ρ Op)}
    (hObeys :
      ∀ request,
        (handler request).Obeys (guard request)
          (final request) [])
    (hConforms : Conforms handler entry earlier) :
    Keeps guard final entry earlier := by
  cases entry with
  | arrive thread request => trivial
  | env op => trivial
  | answer thread answer =>
      rcases hConforms.2 with
        ⟨request, rest, hArrive, hReaches⟩
      exact ⟨request, hArrive,
        (hObeys request).guard_of_reaches hReaches⟩
  | respond thread outcome =>
      rcases hConforms.2 with ⟨request, hArrive, hReaches⟩
      exact ⟨request, hArrive,
        (hObeys request).final_of_reaches hReaches⟩

/-
  A guard that every handler obeys on its own is kept at
  every call of every interleaving.
-/
theorem Reachable.obeys
    {guard : Q → List (Answer E R) → E → Prop}
    {final : Q → List (Answer E R) → Except X ρ → Prop}
    {state : State E R X Q ρ W Op}
    (hObeys :
      ∀ request,
        (handler request).Obeys (guard request)
          (final request) [])
    (hReachable : Reachable sem handler start state) :
    Always (Keeps guard final) state.history :=
  hReachable.conforms.mono
    (fun _ _ hConforms => hConforms.keeps hObeys)

/- A thread serves one request. -/
theorem arrive_unique_of_always
    {history : List (Entry E R X Q ρ Op)}
    {thread : Nat}
    {left right : Q}
    (hConforms : Always (Conforms handler) history)
    (hLeft : Entry.arrive thread left ∈ history)
    (hRight : Entry.arrive thread right ∈ history) :
    left = right := by
  induction history with
  | nil => simp at hLeft
  | cons entry earlier ih =>
      simp only [List.mem_cons] at hLeft hRight
      rcases hLeft with hLeft | hLeft <;>
        rcases hRight with hRight | hRight
      · have hEq := hLeft.trans hRight.symm
        simp only [Entry.arrive.injEq, true_and] at hEq
        exact hEq
      · subst hLeft
        exact absurd rfl (hConforms.1 _ hRight)
      · subst hRight
        exact absurd rfl (hConforms.1 _ hLeft)
      · exact ih hConforms.2 hLeft hRight

theorem requestOf_of_arrive
    {history : List (Entry E R X Q ρ Op)}
    {thread : Nat}
    {request : Q}
    (hConforms : Always (Conforms handler) history)
    (hArrive : Entry.arrive thread request ∈ history) :
    requestOf thread history = some request := by
  rcases exists_requestOf_of_arrive hArrive with
    ⟨found, hFound⟩
  have hSame :=
    arrive_unique_of_always hConforms
      (arrive_of_requestOf hFound) hArrive
  rw [hFound, hSame]

/- A thread is answered nothing after it ended. -/
theorem answered_before_end
    {later earlier : List (Entry E R X Q ρ Op)}
    {thread : Nat}
    {outcome : Except X ρ}
    {answer : Answer E R}
    (hConforms : Always (Conforms handler) (later ++ earlier))
    (hEnd : Entry.respond thread outcome ∈ earlier)
    (hMem : Entry.answer thread answer ∈ later ++ earlier) :
    Entry.answer thread answer ∈ earlier := by
  rcases List.mem_append.mp hMem with hLater | hEarlier
  · rcases List.append_of_mem hLater with
      ⟨newer, older, rfl⟩
    rw [List.append_assoc, List.cons_append] at hConforms
    have hOpen := hConforms.split.1.1 outcome
    exact absurd (List.mem_append_right older hEnd) hOpen
  · exact hEarlier

/-
  The rule for invariants that tie the world to the history:
  it holds at the start and every kind of entry keeps it.
  The entry's conformance may be used.
-/
theorem Reachable.invariant
    {state : State E R X Q ρ W Op}
    (I : W → List (Entry E R X Q ρ Op) → Prop)
    (hStart : I start [])
    (hArrive :
      ∀ world history thread request,
        I world history →
          I world (.arrive thread request :: history))
    (hAnswer :
      ∀ world history thread effect ext value world',
        Always (Conforms handler) history →
        Conforms handler
          (.answer thread ⟨effect, value⟩) history →
        sem.exec world effect ext = some (value, world') →
        I world history →
          I world'
            (.answer thread ⟨effect, value⟩ :: history))
    (hRespond :
      ∀ world history thread outcome,
        I world history →
          I world (.respond thread outcome :: history))
    (hEnv :
      ∀ world history op world',
        sem.env world op = some world' →
        I world history →
          I world' (.env op :: history))
    (hReachable : Reachable sem handler start state) :
    I state.world state.history := by
  induction hReachable with
  | init => exact hStart
  | step hReachable action hAct ih =>
      have hAlways :=
        (hReachable.step action hAct).conforms
      rcases act_cases hAct with
        ⟨request, rfl⟩ |
        ⟨thread, request, outcome, hThread, rfl⟩ |
        ⟨thread, request, effect, rest, ext, value, world,
          hThread, hExec, rfl⟩ |
        ⟨op, world, hOp, rfl⟩
      · exact hArrive _ _ _ _ ih
      · exact hRespond _ _ _ _ ih
      · exact hAnswer _ _ _ _ _ _ _ hAlways.2 hAlways.1
          hExec ih
      · exact hEnv _ _ _ _ hOp ih

end Interaction
