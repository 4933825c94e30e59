import KisAuth.Web.WebController

/-
  The status page for any query.

  Looking the state up finds the declared outcomes, and also
  the twelve names every object inherits. What these stand
  for has no texts, and rendering it throws. For every other
  state the page is shown, with the copy of its outcome.

  Key definitions include:
    * `declaredCopy`, `HandsOffTo`
    * `RendersStatus`

  Key theorems include:
    * `pageCopy_eq_declaredCopy`, `pageCopy_inherited`
    * `status_renders_iff`
-/

------------------------------------------------------------
-- The Page That Is Expected
------------------------------------------------------------

namespace KisAuth

open Interaction

/- The entry of a declared outcome, or the fallback. -/
def declaredCopy (state : Option String) : PageOptions :=
  match state with
  | none => invalidRequestPage
  | some name =>
      (pageStates.lookup name).getD invalidRequestPage

/- The page shows the texts and the icon of the copy. -/
structure Page.Shows
    (page : Page)
    (copy : PageOptions) : Prop where
  title : page.title = copy.title
  heading : page.heading = copy.heading
  message : page.message = copy.message
  tone : page.tone = copy.tone

/- The redirect is a text that is a complete URL. -/
def HandsOffTo
    (P : Platform)
    (clientRedirect : Option String) : Prop :=
  ∃ text,
    clientRedirect = some text ∧
      text ≠ "" ∧ (P.parseUrl text).isSome = true

/-
  The route returns a page, with the copy of the state, and
  with a link exactly when there is somewhere to hand off to.
-/
def RendersStatus
    (P : Platform)
    (query : StatusQuery) : Prop :=
  ∃ page,
    WebController.status P query = .ret (.page page) ∧
      page.Shows (declaredCopy query.state) ∧
        (page.button.isSome = true ↔
          HandsOffTo P query.clientRedirect)

end KisAuth

------------------------------------------------------------
-- Looking The State Up
------------------------------------------------------------

namespace KisAuth

open Interaction

/- No outcome has an inherited name. -/
theorem lookup_inherited
    {name : String}
    (hInherited : name ∈ inheritedNames) :
    pageStates.lookup name = none := by
  revert name
  decide

/- The empty text is neither declared nor inherited. -/
theorem pageCopy_eq_declaredCopy
    {state : Option String}
    (hState : ∀ name ∈ inheritedNames, state ≠ some name) :
    pageCopy state = some (declaredCopy state) := by
  cases state with
  | none => rfl
  | some name =>
      by_cases hEmpty : name = ""
      · subst hEmpty
        rfl
      · have hName : inheritedNames.contains name = false := by
          rw [List.contains_eq_mem, decide_eq_false_iff_not]
          intro hMem
          exact hState name hMem rfl
        have hText : truthyText (some name) = some name := by
          simp [hEmpty]
        simp only [pageCopy, hText, hName, declaredCopy]
        cases pageStates.lookup name <;> rfl

theorem pageCopy_inherited
    {name : String}
    (hInherited : name ∈ inheritedNames) :
    pageCopy (some name) = none := by
  have hFilled : name ≠ "" := by
    rintro rfl
    revert hInherited
    decide
  have hText : truthyText (some name) = some name := by
    simp [hFilled]
  have hName : inheritedNames.contains name = true := by
    rw [List.contains_eq_mem, decide_eq_true hInherited]
  simp only [pageCopy, hText, lookup_inherited hInherited,
    hName, if_true]

end KisAuth

------------------------------------------------------------
-- Rendering
------------------------------------------------------------

namespace KisAuth

open Interaction

variable {P : Platform} {query : StatusQuery}

/- Where the page hands off to, as the route computes it. -/
def handOffOf
    (P : Platform)
    (clientRedirect : Option String) : Option ReturnTo :=
  match truthyText clientRedirect with
  | none => none
  | some clientRedirect =>
      (P.parseUrl clientRedirect).map (fun target =>
        { url := P.href target
          label := "Return to KIS" })

theorem status_eq
    (P : Platform)
    (query : StatusQuery) :
    WebController.status P query =
      (orCrash (pageCopy query.state)).bind (fun copy =>
        .ret (.page (renderPage
          { copy with
            returnTo := handOffOf P query.clientRedirect }))) :=
  rfl

theorem handOffOf_isSome
    (clientRedirect : Option String) :
    (handOffOf P clientRedirect).isSome = true ↔
      HandsOffTo P clientRedirect := by
  unfold handOffOf HandsOffTo
  cases hText : truthyText clientRedirect with
  | none =>
      refine iff_of_false (by simp) ?_
      rintro ⟨text, hRedirect, hFilled, _⟩
      have hSome : truthyText clientRedirect = some text :=
        (truthyText_eq_some_iff _ _).mpr ⟨hRedirect, hFilled⟩
      rw [hText] at hSome
      simp at hSome
  | some text =>
      rcases (truthyText_eq_some_iff _ _).mp hText with
        ⟨hRedirect, hFilled⟩
      simp only [Option.isSome_map]
      constructor
      · exact fun hParses => ⟨text, hRedirect, hFilled, hParses⟩
      · rintro ⟨other, hOther, _, hParses⟩
        rw [hRedirect, Option.some.injEq] at hOther
        rw [hOther]
        exact hParses

/-
  The status page is shown as it should be exactly when the
  state is not the name of something every object inherits.
-/
theorem status_renders_iff
    (P : Platform)
    (query : StatusQuery) :
    RendersStatus P query ↔
      ∀ name ∈ inheritedNames, query.state ≠ some name := by
  constructor
  · rintro ⟨page, hPage, _⟩ name hInherited hState
    rw [status_eq, hState, pageCopy_inherited hInherited]
      at hPage
    simp [orCrash, crash] at hPage
  · intro hState
    have hPage :
        WebController.status P query =
          .ret (.page (renderPage
            { declaredCopy query.state with
              returnTo :=
                handOffOf P query.clientRedirect })) := by
      rw [status_eq, pageCopy_eq_declaredCopy hState]
      rfl
    refine ⟨_, hPage, ⟨rfl, rfl, rfl, rfl⟩, ?_⟩
    simp only [renderPage, Option.isSome_map]
    exact handOffOf_isSome query.clientRedirect

/- A state that is called `constructor` is not rendered. -/
theorem inherited_state_throws :
    ¬RendersStatus Platform.bare
        ⟨some "constructor", none⟩ := by
  rintro ⟨page, hPage, _⟩
  rw [status_eq, pageCopy_inherited (by decide)] at hPage
  simp [orCrash, crash] at hPage

end KisAuth
