import KisAuth.Interaction.System

/-
  What a system can still do.

  A program can reach an outcome where the world has some
  answer to each of its calls, one after the other, that
  leads there. A request whose program can is served so from
  any state of the system with that world, whatever other
  requests are in progress.

  Key definitions include:
    * `Prog.Can`, `Prog.Leads`, `Handled`

  Key theorems include:
    * `Prog.Leads.can`, `Prog.Leads.bind`
    * `Reachable.handled`
-/

------------------------------------------------------------
-- Programs That Can
------------------------------------------------------------

namespace Interaction

variable {E : Type} {R : E → Type} {X Q ρ W Ext Op α β : Type}

namespace Prog

/-
  Some answers of the world bring the program to an outcome
  and a world as stated.
-/
def Can
    (sem : Semantics E R W Ext Op) :
    Prog E R X α → W → (Except X α → W → Prop) → Prop
| .ret value, world, post => post (.ok value) world
| .throw error, world, post => post (.error error) world
| .call effect next, world, post =>
    ∃ ext value world',
      sem.exec world effect ext = some (value, world') ∧
        Can sem (next value) world' post

variable {sem : Semantics E R W Ext Op}
variable {world world' : W}

theorem Can.mono
    {program : Prog E R X α}
    {post post' : Except X α → W → Prop}
    (hCan : program.Can sem world post)
    (hImp :
      ∀ outcome last, post outcome last → post' outcome last) :
    program.Can sem world post' := by
  induction program generalizing world with
  | ret value => exact hImp _ _ hCan
  | throw error => exact hImp _ _ hCan
  | call effect next ih =>
      rcases hCan with ⟨ext, value, middle, hExec, hRest⟩
      exact ⟨ext, value, middle, hExec, ih value hRest⟩

/- Some answers bring the program to this value and world. -/
def Leads
    (sem : Semantics E R W Ext Op)
    (program : Prog E R X α)
    (world : W)
    (value : α)
    (last : W) : Prop :=
  program.Can sem world (fun outcome final =>
    outcome = .ok value ∧ final = last)

theorem leads_ret (value : α) (world : W) :
    Leads sem (.ret value : Prog E R X α) world value world :=
  ⟨rfl, rfl⟩

/- One call that the world answers. -/
theorem leads_perform
    {effect : E}
    (ext : Ext)
    {value : R effect}
    (hExec :
      sem.exec world effect ext = some (value, world')) :
    Leads sem (perform effect : Prog E R X (R effect)) world
      value world' :=
  ⟨ext, value, world', hExec, rfl, rfl⟩

/- The first part, then what follows its value. -/
theorem Leads.can
    {program : Prog E R X α}
    {next : α → Prog E R X β}
    {value : α}
    {post : Except X β → W → Prop}
    (hFirst : Leads sem program world value world')
    (hNext : (next value).Can sem world' post) :
    (program.bind next).Can sem world post := by
  induction program generalizing world with
  | ret found =>
      rcases hFirst with ⟨hValue, rfl⟩
      cases hValue
      exact hNext
  | throw error => cases hFirst.1
  | call effect cont ih =>
      rcases hFirst with ⟨ext, answer, middle, hExec, hRest⟩
      exact ⟨ext, answer, middle, hExec, ih answer hRest⟩

theorem Leads.bind
    {program : Prog E R X α}
    {next : α → Prog E R X β}
    {value : α}
    {result : β}
    {last : W}
    (hFirst : Leads sem program world value world')
    (hNext : Leads sem (next value) world' result last) :
    Leads sem (program >>= next) world result last :=
  hFirst.can hNext

end Prog

end Interaction

------------------------------------------------------------
-- Requests That Are Handled
------------------------------------------------------------

namespace Interaction

variable {E : Type} {R : E → Type} {X Q ρ W Ext Op : Type}
variable {sem : Semantics E R W Ext Op}
variable {handler : Q → Prog E R X ρ}
variable {start : W}

/-
  A request arrived after one history, and was answered at
  the end of another.
-/
def Handled
    (request : Q)
    (outcome : Except X ρ)
    (before after : List (Entry E R X Q ρ Op)) : Prop :=
  ∃ thread between,
    after =
      .respond thread outcome ::
        (between ++ .arrive thread request :: before)

/- A running thread goes on until its program has ended. -/
theorem Reachable.ran
    {program : Prog E R X ρ}
    {state : State E R X Q ρ W Op}
    {thread : Nat}
    {request : Q}
    {post : Except X ρ → W → Prop}
    (last : Ext)
    (hReachable : Reachable sem handler start state)
    (hThread : state.threads thread = some ⟨request, program⟩)
    (hCan : program.Can sem state.world post) :
    ∃ final outcome between,
      Reachable sem handler start final ∧
        final.history =
          .respond thread outcome ::
            (between ++ state.history) ∧
        post outcome final.world := by
  induction program generalizing state with
  | ret value =>
      have hAct :
          act sem handler state (.run thread last) =
            some (finish state thread (.ok value)) := by
        simp [act, hThread]
      exact
        ⟨_, .ok value, [], hReachable.step _ hAct, rfl, hCan⟩
  | throw error =>
      have hAct :
          act sem handler state (.run thread last) =
            some (finish state thread (.error error)) := by
        simp [act, hThread]
      exact
        ⟨_, .error error, [], hReachable.step _ hAct, rfl, hCan⟩
  | call effect next ih =>
      rcases hCan with ⟨ext, value, world, hExec, hRest⟩
      have hAct :
          act sem handler state (.run thread ext) =
            some
              (advance state thread request effect next value
                world) := by
        simp [act, hThread, hExec]
      rcases ih value (hReachable.step _ hAct)
          (by simp [advance, setThread]) hRest with
        ⟨final, outcome, between, hFinal, hHistory, hPost⟩
      refine
        ⟨final, outcome,
          between ++ [.answer thread ⟨effect, value⟩], hFinal,
          ?_, hPost⟩
      rw [hHistory]
      simp [advance]

/- A request is served as its program can. -/
theorem Reachable.handled
    {state : State E R X Q ρ W Op}
    {request : Q}
    {post : Except X ρ → W → Prop}
    (last : Ext)
    (hReachable : Reachable sem handler start state)
    (hCan : (handler request).Can sem state.world post) :
    ∃ final outcome,
      Reachable sem handler start final ∧
        Handled request outcome state.history final.history ∧
        post outcome final.world := by
  have hAct :
      act sem handler state (.arrive request) =
        some (admitRequest handler state request) :=
    rfl
  have hThread :
      (admitRequest handler state request).threads state.next =
        some ⟨request, handler request⟩ := by
    simp [admitRequest, setThread]
  rcases (hReachable.step _ hAct).ran last hThread hCan with
    ⟨final, outcome, between, hFinal, hHistory, hPost⟩
  exact
    ⟨final, outcome, hFinal, ⟨state.next, between, hHistory⟩,
      hPost⟩

/- So it is where its program leads to a value. -/
theorem Reachable.led
    {state : State E R X Q ρ W Op}
    {value : ρ}
    {last : W}
    (ext : Ext)
    (request : Q)
    (hReachable : Reachable sem handler start state)
    (hLeads :
      Prog.Leads sem (handler request) state.world value last) :
    ∃ final,
      Reachable sem handler start final ∧
        Handled request (.ok value) state.history
          final.history ∧
        final.world = last := by
  rcases hReachable.handled ext hLeads with
    ⟨final, outcome, hFinal, hHandled, rfl, hLast⟩
  exact ⟨final, hFinal, hHandled, hLast⟩

end Interaction
