import Mathlib.Data.List.Basic

/-
  The Redis keys of the service: one fixed text for each
  store, followed by the identifier.

  No identifier, whatever it contains, makes the key of one
  store a key of another, since the fixed texts already
  differ in their first ten characters.

  Key definitions include:
    * `KeyFamily`, `storeKey`

  Key theorems include:
    * `storeKey_inj`
-/

------------------------------------------------------------
-- Keys
------------------------------------------------------------

namespace KisAuth

/- The stores that share one Redis. -/
inductive KeyFamily where
  | session
  | challenge
  | code
  | regTicket
  | linkNonce
  | rateLimit
  deriving DecidableEq

/- The text the keys of a store start with. -/
def KeyFamily.keyPrefix : KeyFamily → String
| .session => "kisauth:oauthsession:"
| .challenge => "kisauth:challenge:"
| .code => "kisauth:code:"
| .regTicket => "kisauth:regticket:"
| .linkNonce => "kisauth:linkticketnonce:"
| .rateLimit => "kisauth:ratelimit:"

def storeKey (family : KeyFamily) (id : String) : String :=
  family.keyPrefix ++ id

/- The part of a key that tells the stores apart. -/
def KeyFamily.tag (family : KeyFamily) : List Char :=
  family.keyPrefix.toList.take 10

theorem KeyFamily.tag_injective
    {left right : KeyFamily}
    (hTag : left.tag = right.tag) :
    left = right := by
  revert hTag
  cases left <;> cases right <;> decide

theorem take_storeKey
    (family : KeyFamily)
    (id : String) :
    (storeKey family id).toList.take 10 = family.tag := by
  have hLength : 10 ≤ family.keyPrefix.toList.length := by
    cases family <;> decide
  unfold storeKey KeyFamily.tag
  rw [String.toList_append,
    List.take_append_of_le_length hLength]

/- Keys are equal only for one store and one identifier. -/
@[simp] theorem storeKey_inj
    (left right : KeyFamily)
    (a b : String) :
    storeKey left a = storeKey right b ↔
      left = right ∧ a = b := by
  constructor
  · intro hEq
    have hTag : left.tag = right.tag := by
      rw [← take_storeKey left a, ← take_storeKey right b,
        hEq]
    have hFamily := KeyFamily.tag_injective hTag
    subst hFamily
    refine ⟨rfl, ?_⟩
    have hText := congrArg String.toList hEq
    simp only [storeKey, String.toList_append,
      List.append_cancel_left_eq] at hText
    exact String.toList_inj.mp hText
  · rintro ⟨rfl, rfl⟩
    rfl

end KisAuth
