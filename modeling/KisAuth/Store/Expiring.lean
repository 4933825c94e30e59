import Mathlib.Data.List.Basic

/-
  A key-value store whose items may have a deadline.

  An item with a deadline is readable strictly before it.
  Times are natural numbers in one fixed unit.

  Key definitions include:
    * `Store.Expiring`
    * `Store.Expiring.read`
    * `Store.Expiring.put`
    * `Store.Expiring.remove`
    * `Store.Expiring.Agrees`
-/

------------------------------------------------------------
-- Expiring Stores
------------------------------------------------------------

namespace Store

/- A stored value with its deadline, if it has one. -/
structure Item (V : Type) where
  value : V
  deadline : Option Nat
  deriving DecidableEq

/- A store from keys to items, dead ones included. -/
abbrev Expiring (K V : Type) := K → Option (Item V)

namespace Item

variable {V : Type}

/- An item is live strictly before its deadline. -/
def live (now : Nat) (item : Item V) : Bool :=
  match item.deadline with
  | none => true
  | some deadline => decide (now < deadline)

/- An item that is live was live before. -/
theorem live_of_le
    {item : Item V}
    {now later : Nat}
    (hLe : now ≤ later)
    (hLive : item.live later = true) :
    item.live now = true := by
  unfold live at hLive ⊢
  cases hDeadline : item.deadline with
  | none => rfl
  | some deadline =>
      simp only [hDeadline, decide_eq_true_eq] at hLive ⊢
      omega

end Item

namespace Expiring

variable {K V : Type} [DecidableEq K]

/- The live item under a key. -/
def find
    (store : Expiring K V)
    (now : Nat)
    (key : K) : Option (Item V) :=
  match store key with
  | none => none
  | some item => if item.live now then some item else none

/- The live value under a key. -/
def read
    (store : Expiring K V)
    (now : Nat)
    (key : K) : Option V :=
  (store.find now key).map Item.value

/- Store an item, replacing what was there. -/
def put
    (store : Expiring K V)
    (key : K)
    (item : Item V) : Expiring K V :=
  fun other => if other = key then some item else store other

/- Remove a key. -/
def remove
    (store : Expiring K V)
    (key : K) : Expiring K V :=
  fun other => if other = key then none else store other

/- Change what is under a key: an item, or nothing. -/
def write
    (store : Expiring K V)
    (key : K)
    (item : Option (Item V)) : Expiring K V :=
  fun other => if other = key then item else store other

theorem put_eq_write
    (store : Expiring K V)
    (key : K)
    (item : Item V) :
    store.put key item = store.write key (some item) :=
  rfl

theorem remove_eq_write
    (store : Expiring K V)
    (key : K) :
    store.remove key = store.write key none :=
  rfl

theorem write_of_ne
    {store : Expiring K V}
    {key other : K}
    {item : Option (Item V)}
    (hNe : other ≠ key) :
    store.write key item other = store other :=
  if_neg hNe

theorem write_self
    (store : Expiring K V)
    (key : K)
    (item : Option (Item V)) :
    store.write key item key = item :=
  if_pos rfl

omit [DecidableEq K] in
theorem eq_some_of_find
    {store : Expiring K V}
    {now : Nat}
    {key : K}
    {item : Item V}
    (hFind : store.find now key = some item) :
    store key = some item ∧ item.live now = true := by
  unfold find at hFind
  cases hItem : store key with
  | none => simp [hItem] at hFind
  | some other =>
      simp only [hItem] at hFind
      by_cases hLive : other.live now = true
      · simp only [hLive, if_true, Option.some.injEq]
          at hFind
        subst hFind
        exact ⟨rfl, hLive⟩
      · simp [hLive] at hFind

omit [DecidableEq K] in
theorem exists_item_of_read
    {store : Expiring K V}
    {now : Nat}
    {key : K}
    {value : V}
    (hRead : store.read now key = some value) :
    ∃ item,
      store key = some item ∧
        item.live now = true ∧ item.value = value := by
  unfold read at hRead
  rcases Option.map_eq_some_iff.mp hRead with
    ⟨item, hFind, hValue⟩
  rcases eq_some_of_find hFind with ⟨hItem, hLive⟩
  exact ⟨item, hItem, hLive, hValue⟩

/- What the store holds is what the log says. -/
def Agrees
    (store : Expiring K V)
    (content : K → Option V) : Prop :=
  ∀ key item,
    store key = some item → content key = some item.value

omit [DecidableEq K] in
theorem Agrees.read
    {store : Expiring K V}
    {content : K → Option V}
    {now : Nat}
    {key : K}
    {value : V}
    (hAgrees : store.Agrees content)
    (hRead : store.read now key = some value) :
    content key = some value := by
  rcases exists_item_of_read hRead with
    ⟨item, hItem, _, rfl⟩
  exact hAgrees key item hItem

theorem Agrees.write
    {store : Expiring K V}
    {content content' : K → Option V}
    {key : K}
    {item : Option (Item V)}
    (hAgrees : store.Agrees content)
    (hKey : content' key = item.map Item.value)
    (hOther :
      ∀ other, other ≠ key → content' other = content other) :
    (store.write key item).Agrees content' := by
  intro other found hFound
  by_cases hEq : other = key
  · subst hEq
    rw [write_self] at hFound
    rw [hKey, hFound]
    rfl
  · rw [write_of_ne hEq] at hFound
    rw [hOther other hEq]
    exact hAgrees other found hFound

end Expiring

end Store
