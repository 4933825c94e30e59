import Mathlib.Data.List.Basic

/-
  The content of a store, read off a log of operations.

  `touch entry key` says what one entry does to one key:
  `none` leaves it alone, `some none` removes it and
  `some (some value)` stores a value. The newest entry that
  touches the key decides its content.

  Key definitions include:
    * `Store.lastWrite`

  Key theorems include:
    * `Store.lastWrite_eq_some`
    * `Store.lastWrite_eq_none_of_removed`
-/

------------------------------------------------------------
-- Write Logs
------------------------------------------------------------

namespace Store

variable {ε K V : Type}

/- The content of `key` after a log, newest entry first. -/
def lastWrite
    (touch : ε → K → Option (Option V))
    (key : K) : List ε → Option V
| [] => none
| entry :: earlier =>
    match touch entry key with
    | some result => result
    | none => lastWrite touch key earlier

variable {touch : ε → K → Option (Option V)}
variable {key : K}

theorem lastWrite_cons_of_untouched
    {entry : ε}
    (hTouch : touch entry key = none)
    (earlier : List ε) :
    lastWrite touch key (entry :: earlier) =
      lastWrite touch key earlier := by
  simp [lastWrite, hTouch]

theorem lastWrite_cons_of_touched
    {entry : ε}
    {result : Option V}
    (hTouch : touch entry key = some result)
    (earlier : List ε) :
    lastWrite touch key (entry :: earlier) = result := by
  simp [lastWrite, hTouch]

/-
  A stored value was stored by an entry after which nothing
  touched the key.
-/
theorem lastWrite_eq_some
    {history : List ε}
    {value : V}
    (hLast : lastWrite touch key history = some value) :
    ∃ later entry earlier,
      history = later ++ entry :: earlier ∧
        touch entry key = some (some value) ∧
          ∀ other ∈ later, touch other key = none := by
  induction history with
  | nil => simp [lastWrite] at hLast
  | cons entry earlier ih =>
      cases hTouch : touch entry key with
      | some result =>
          rw [lastWrite_cons_of_touched hTouch] at hLast
          subst hLast
          exact ⟨[], entry, earlier, rfl, hTouch, by simp⟩
      | none =>
          rw [lastWrite_cons_of_untouched hTouch] at hLast
          rcases ih hLast with
            ⟨later, writer, before, rfl, hWriter, hLater⟩
          refine
            ⟨entry :: later, writer, before, rfl, hWriter, ?_⟩
          intro other hOther
          rcases List.mem_cons.mp hOther with rfl | hOther
          · exact hTouch
          · exact hLater other hOther

/-
  A removed key stays empty while no later entry stores a
  value under it.
-/
theorem lastWrite_eq_none_of_removed
    {later earlier : List ε}
    {entry : ε}
    (hRemove : touch entry key = some none)
    (hLater :
      ∀ other ∈ later, ∀ value,
        touch other key ≠ some (some value)) :
    lastWrite touch key (later ++ entry :: earlier) =
      none := by
  induction later with
  | nil =>
      rw [List.nil_append]
      exact lastWrite_cons_of_touched hRemove earlier
  | cons head later ih =>
      have hHead := hLater head (by simp)
      have hTail := ih (fun other hOther =>
        hLater other (List.mem_cons_of_mem _ hOther))
      cases hTouch : touch head key with
      | none =>
          rw [List.cons_append,
            lastWrite_cons_of_untouched hTouch]
          exact hTail
      | some result =>
          rw [List.cons_append,
            lastWrite_cons_of_touched hTouch]
          cases result with
          | none => rfl
          | some value => exact absurd hTouch (hHead value)

end Store
