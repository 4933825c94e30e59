import Mathlib.Data.List.Sort
import KisAuth.Security.CanonicalText

/-
  A body on its way to the verifier.

  The sender writes the body as JSON, and the receiver reads
  the value that the JSON text is the text of. On the way
  the members of an object may change their order. None of
  this changes the canonical text.

  Key definitions include:
    * `jsonText`, `ReadsAs`
    * `Reordered`, `Arrives`

  Key theorems include:
    * `normal_of_reordered`
    * `Arrives.stableBody_eq_iff`
-/

------------------------------------------------------------
-- Names Are Told Apart By Their Code Units
------------------------------------------------------------

namespace KisAuth

/- The code units of one character. -/
def charUnits (c : Char) : List Nat :=
  if c.toNat < 0x10000 then
    [c.toNat]
  else
    [0xD800 + (c.toNat - 0x10000) / 0x400,
      0xDC00 + (c.toNat - 0x10000) % 0x400]

theorem utf16Units_eq_flatMap (text : String) :
    utf16Units text = text.toList.flatMap charUnits :=
  rfl

/- No character has the code of a surrogate. -/
theorem char_not_surrogate (c : Char) :
    c.toNat < 0xD800 ∨ 0xE000 ≤ c.toNat := by
  have hValid := c.valid
  rcases hValid with hLow | ⟨hHigh, _⟩
  · left
    exact hLow
  · right
    exact hHigh

theorem char_toNat_lt (c : Char) : c.toNat < 0x110000 := by
  have hValid := c.valid
  rcases hValid with hLow | ⟨_, hHigh⟩
  · exact Nat.lt_trans hLow (by decide)
  · exact hHigh

/- A text starts with the code units of one character. -/
theorem charUnits_append_inj
    {c d : Char}
    {rest more : List Nat}
    (hEq : charUnits c ++ rest = charUnits d ++ more) :
    c = d ∧ rest = more := by
  have hC := char_not_surrogate c
  have hD := char_not_surrogate d
  have hC' := char_toNat_lt c
  have hD' := char_toNat_lt d
  unfold charUnits at hEq
  by_cases hSmall : c.toNat < 0x10000
  · by_cases hSmall' : d.toNat < 0x10000
    · simp only [hSmall, hSmall', if_true, List.cons_append,
        List.nil_append, List.cons.injEq] at hEq
      exact ⟨Char.toNat_inj.mp hEq.1, hEq.2⟩
    · simp only [hSmall, hSmall', if_true, if_false,
        List.cons_append, List.nil_append,
        List.cons.injEq] at hEq
      omega
  · by_cases hSmall' : d.toNat < 0x10000
    · simp only [hSmall, hSmall', if_true, if_false,
        List.cons_append, List.nil_append,
        List.cons.injEq] at hEq
      omega
    · simp only [hSmall, hSmall', if_false,
        List.cons_append, List.nil_append,
        List.cons.injEq] at hEq
      rcases hEq with ⟨hFirst, hSecond, hRest⟩
      have hCode : c.toNat = d.toNat := by omega
      exact ⟨Char.toNat_inj.mp hCode, hRest⟩

theorem charUnits_ne_nil (c : Char) : charUnits c ≠ [] := by
  unfold charUnits
  split <;> simp

theorem flatMap_charUnits_inj
    {left right : List Char}
    (hEq :
      left.flatMap charUnits = right.flatMap charUnits) :
    left = right := by
  induction left generalizing right with
  | nil =>
      cases right with
      | nil => rfl
      | cons d right =>
          rw [List.flatMap_cons, List.flatMap_nil] at hEq
          exact absurd (List.append_eq_nil_iff.mp hEq.symm).1
            (charUnits_ne_nil d)
  | cons c left ih =>
      cases right with
      | nil =>
          rw [List.flatMap_cons, List.flatMap_nil] at hEq
          exact absurd (List.append_eq_nil_iff.mp hEq).1
            (charUnits_ne_nil c)
      | cons d right =>
          rw [List.flatMap_cons, List.flatMap_cons] at hEq
          rcases charUnits_append_inj hEq with
            ⟨rfl, hRest⟩
          rw [ih hRest]

theorem utf16Units_injective :
    Function.Injective utf16Units := by
  intro left right hEq
  rw [utf16Units_eq_flatMap, utf16Units_eq_flatMap] at hEq
  exact String.toList_inj.mp (flatMap_charUnits_inj hEq)

theorem codeUnitLe_antisymm
    {left right : String}
    (hLe : codeUnitLe left right)
    (hGe : codeUnitLe right left) :
    left = right :=
  utf16Units_injective (le_antisymm hLe hGe)

end KisAuth

------------------------------------------------------------
-- Members In Any Order
------------------------------------------------------------

namespace KisAuth

/- The order of members by their names. -/
abbrev memberLe (left right : String × JsonTree) : Prop :=
  codeUnitLe left.1 right.1

instance : Std.Total memberLe where
  total := fun left right =>
    le_total (utf16Units left.1) (utf16Units right.1)

instance : IsTrans (String × JsonTree) memberLe where
  trans := fun _ _ _ hFirst hSecond =>
    le_trans hFirst hSecond

theorem sortByName_sorted
    (members : List (String × JsonTree)) :
    (sortByName members).Pairwise memberLe :=
  List.pairwise_insertionSort memberLe members

theorem sortByName_permuted
    (members : List (String × JsonTree)) :
    (sortByName members).Perm members :=
  List.perm_insertionSort memberLe members

/- A name has one member where the names are distinct. -/
theorem member_unique
    {members : List (String × JsonTree)}
    {left right : String × JsonTree}
    (hNames : (members.map Prod.fst).Nodup)
    (hLeft : left ∈ members)
    (hRight : right ∈ members)
    (hName : left.1 = right.1) :
    left = right :=
  List.inj_on_of_nodup_map hNames hLeft hRight hName

/- Members with distinct names have one order. -/
theorem sortByName_perm
    {left right : List (String × JsonTree)}
    (hPerm : left.Perm right)
    (hNames : (left.map Prod.fst).Nodup) :
    sortByName left = sortByName right := by
  have hBoth :
      (sortByName left).Perm (sortByName right) :=
    ((sortByName_permuted left).trans hPerm).trans
      (sortByName_permuted right).symm
  refine List.Perm.eq_of_pairwise ?_
    (sortByName_sorted left) (sortByName_sorted right) hBoth
  intro first second hFirst hSecond hLe hGe
  have hName : first.1 = second.1 :=
    codeUnitLe_antisymm hLe hGe
  have hFirst' : first ∈ left :=
    (sortByName_permuted left).mem_iff.mp hFirst
  have hSecond' : second ∈ left :=
    hPerm.mem_iff.mpr
      ((sortByName_permuted right).mem_iff.mp hSecond)
  exact member_unique hNames hFirst' hSecond' hName

end KisAuth

------------------------------------------------------------
-- JSON Texts
------------------------------------------------------------

namespace KisAuth

mutual

/-
  `JSON.stringify` of a value that is not `undefined`. An
  undefined member is left out; an undefined element and an
  infinite number are written as null.
-/
def jsonText : JsValue → List Char
| .undefined => "null".toList
| .null => "null".toList
| .bool true => "true".toList
| .bool false => "false".toList
| .num value => value.text.toList
| .infinite _ => "null".toList
| .str value => quoteJson value
| .arr items => '[' :: joinComma (jsonItems items) ++ [']']
| .obj members =>
    '{' ::
      joinComma ((jsonMembers members).map memberText) ++
      ['}']

def jsonItems : List JsValue → List (List Char)
| [] => []
| item :: rest => jsonText item :: jsonItems rest

def jsonMembers :
    List (String × JsValue) → List (String × List Char)
| [] => []
| (_, .undefined) :: rest => jsonMembers rest
| (name, value) :: rest =>
    (name, jsonText value) :: jsonMembers rest

end

mutual

/- No number in the value is infinite. -/
def FiniteNumbers : JsValue → Prop
| .infinite _ => False
| .arr items => FiniteItems items
| .obj members => FiniteMembers members
| _ => True

def FiniteItems : List JsValue → Prop
| [] => True
| item :: rest => FiniteNumbers item ∧ FiniteItems rest

def FiniteMembers : List (String × JsValue) → Prop
| [] => True
| (_, value) :: rest =>
    FiniteNumbers value ∧ FiniteMembers rest

end

mutual

/- The members of every object have distinct names. -/
def DistinctNames : JsValue → Prop
| .arr items => DistinctItems items
| .obj members =>
    (members.map Prod.fst).Nodup ∧ DistinctMembers members
| _ => True

def DistinctItems : List JsValue → Prop
| [] => True
| item :: rest => DistinctNames item ∧ DistinctItems rest

def DistinctMembers : List (String × JsValue) → Prop
| [] => True
| (_, value) :: rest =>
    DistinctNames value ∧ DistinctMembers rest

end

mutual

/- Nothing in the value is `undefined`. -/
def Defined : JsValue → Prop
| .undefined => False
| .arr items => DefinedItems items
| .obj members => DefinedMembers members
| _ => True

def DefinedItems : List JsValue → Prop
| [] => True
| item :: rest => Defined item ∧ DefinedItems rest

def DefinedMembers : List (String × JsValue) → Prop
| [] => True
| (_, value) :: rest => Defined value ∧ DefinedMembers rest

end

/-
  `JSON.parse` reads a text that `JSON.stringify` wrote as
  the JSON value that has this text.
-/
structure ReadsAs
    (text : List Char)
    (value : JsValue) : Prop where
  finite : FiniteNumbers value
  distinct : DistinctNames value
  defined : Defined value
  text_eq : jsonText value = text

mutual

/- The same value with object members in another order. -/
def Reordered : JsValue → JsValue → Prop
| .arr items, .arr items' => ReorderedItems items items'
| .obj members, .obj members' =>
    ∃ middle,
      members'.Perm middle ∧
        ReorderedMembers members middle
| value, value' => value = value'

def ReorderedItems : List JsValue → List JsValue → Prop
| [], [] => True
| item :: rest, item' :: rest' =>
    Reordered item item' ∧ ReorderedItems rest rest'
| _, _ => False

def ReorderedMembers :
    List (String × JsValue) →
      List (String × JsValue) → Prop
| [], [] => True
| (name, value) :: rest, (name', value') :: rest' =>
    name = name' ∧
      Reordered value value' ∧ ReorderedMembers rest rest'
| _, _ => False

end

/-
  How a body arrives: no body as no body, and a value as
  what its JSON text is read as, in any order of members.
-/
def Arrives (body arrived : JsValue) : Prop :=
  match body with
  | .undefined => arrived = .undefined
  | value =>
      ∃ sent,
        ReadsAs (jsonText value) sent ∧
          Reordered sent arrived

end KisAuth

------------------------------------------------------------
-- What A JSON Text Tells
------------------------------------------------------------

namespace KisAuth

open Text

mutual

/-
  The tree a JSON text shows. The word of an overflowing
  number is also the word for null.
-/
def wireTree : JsValue → JsonTree
| .undefined => .word .overflow
| .null => .word .overflow
| .bool value => .word (.bool value)
| .num value => .word (.num value)
| .infinite _ => .word .overflow
| .str value => .str value
| .arr items => .arr (wireItems items)
| .obj members => .obj (wireMembers members)

def wireItems : List JsValue → List JsonTree
| [] => []
| item :: rest => wireTree item :: wireItems rest

def wireMembers :
    List (String × JsValue) → List (String × JsonTree)
| [] => []
| (_, .undefined) :: rest => wireMembers rest
| (name, value) :: rest =>
    (name, wireTree value) :: wireMembers rest

end

/- A member is written unless its value is undefined. -/
theorem written_members_cases
    (name : String)
    (value : JsValue)
    (rest : List (String × JsValue)) :
    (value = .undefined ∧
        wireMembers ((name, value) :: rest) =
          wireMembers rest ∧
        jsonMembers ((name, value) :: rest) =
          jsonMembers rest ∧
        normalMembers ((name, value) :: rest) =
          normalMembers rest) ∨
      (value ≠ .undefined ∧
        wireMembers ((name, value) :: rest) =
          (name, wireTree value) :: wireMembers rest ∧
        jsonMembers ((name, value) :: rest) =
          (name, jsonText value) :: jsonMembers rest ∧
        normalMembers ((name, value) :: rest) =
          (name, normal value) :: normalMembers rest) := by
  cases value with
  | undefined => exact Or.inl ⟨rfl, rfl, rfl, rfl⟩
  | _ => exact Or.inr ⟨by simp, rfl, rfl, rfl⟩

mutual

theorem jsonText_eq_print :
    ∀ value,
      jsonText value = (wireTree value).print jsonSpelling
| .undefined => rfl
| .null => rfl
| .bool true => rfl
| .bool false => rfl
| .num _ => rfl
| .infinite _ => rfl
| .str _ => rfl
| .arr items => by
    rw [jsonText, wireTree, jsonItems_eq_map items]
    exact print_arr _
| .obj members => by
    rw [jsonText, wireTree, jsonMembers_eq_map members,
      List.map_map]
    exact print_obj _

theorem jsonItems_eq_map :
    ∀ items,
      jsonItems items =
        (wireItems items).map (Tree.print jsonSpelling)
| [] => rfl
| item :: rest => by
    rw [jsonItems, wireItems, List.map_cons,
      jsonText_eq_print item, jsonItems_eq_map rest]

theorem jsonMembers_eq_map :
    ∀ members,
      jsonMembers members =
        (wireMembers members).map (fun member =>
          (member.1, member.2.print jsonSpelling))
| [] => rfl
| (name, value) :: rest => by
    rcases written_members_cases name value rest with
      ⟨_, hWire, hText, _⟩ | ⟨_, hWire, hText, _⟩
    · rw [hWire, hText]
      exact jsonMembers_eq_map rest
    · rw [hWire, hText, List.map_cons,
        jsonText_eq_print value, jsonMembers_eq_map rest]

end

theorem wireTree_ne_absent (value : JsValue) :
    wireTree value ≠ .absent := by
  cases value <;> simp [wireTree]

theorem wireItems_ne (items : List JsValue) :
    wireItems items ≠ [.absent] := by
  cases items with
  | nil => simp [wireItems]
  | cons item rest =>
      rw [wireItems]
      intro hEq
      exact wireTree_ne_absent item
        (List.cons.inj hEq).1

mutual

theorem wireTree_plain : ∀ value, (wireTree value).Plain
| .undefined => trivial
| .null => trivial
| .bool _ => trivial
| .num _ => trivial
| .infinite _ => trivial
| .str _ => trivial
| .arr items =>
    ⟨wireItems_ne items, wireItems_plain items⟩
| .obj members => wireMembers_plain members

theorem wireItems_plain :
    ∀ items, Tree.PlainItems (wireItems items)
| [] => trivial
| item :: rest =>
    ⟨wireTree_plain item, wireItems_plain rest⟩

theorem wireMembers_plain :
    ∀ members, Tree.PlainMembers (wireMembers members)
| [] => trivial
| (name, value) :: rest => by
    rcases written_members_cases name value rest with
      ⟨_, hWire, _⟩ | ⟨_, hWire, _⟩
    · rw [hWire]
      exact wireMembers_plain rest
    · rw [hWire]
      exact ⟨wireTree_plain value, wireMembers_plain rest⟩

end

/- Values with one JSON text show one tree. -/
theorem wireTree_eq_of_text
    {left right : JsValue}
    (hText : jsonText left = jsonText right) :
    wireTree left = wireTree right := by
  rw [jsonText_eq_print, jsonText_eq_print] at hText
  exact print_inj_of_plain (wireTree_plain left)
    (wireTree_plain right) hText

mutual

/- The normal form, computed from the tree of the text. -/
def canonTree : JsonTree → JsonTree
| .absent => .absent
| .word .overflow => .absent
| .word (.bool value) => .word (.bool value)
| .word (.num value) => .word (.num value)
| .str value => .str value
| .arr items => .arr (dropLoneAbsent (canonItems items))
| .obj members => .obj (sortByName (canonMembers members))

def canonItems : List JsonTree → List JsonTree
| [] => []
| item :: rest => canonTree item :: canonItems rest

def canonMembers :
    List (String × JsonTree) → List (String × JsonTree)
| [] => []
| (name, item) :: rest =>
    (name, canonTree item) :: canonMembers rest

end

mutual

theorem normal_eq_canonTree :
    ∀ value, FiniteNumbers value →
      normal value = canonTree (wireTree value)
| .undefined, _ => rfl
| .null, _ => rfl
| .bool _, _ => rfl
| .num _, _ => rfl
| .infinite _, hFinite => by simp [FiniteNumbers] at hFinite
| .str _, _ => rfl
| .arr items, hFinite => by
    have hItems : FiniteItems items := by
      simpa [FiniteNumbers] using hFinite
    rw [normal, wireTree, canonTree,
      normalItems_eq_canon items hItems]
| .obj members, hFinite => by
    have hMembers : FiniteMembers members := by
      simpa [FiniteNumbers] using hFinite
    rw [normal, wireTree, canonTree,
      normalMembers_eq_canon members hMembers]

theorem normalItems_eq_canon :
    ∀ items, FiniteItems items →
      normalItems items = canonItems (wireItems items)
| [], _ => rfl
| item :: rest, hFinite => by
    rw [normalItems, wireItems, canonItems,
      normal_eq_canonTree item hFinite.1,
      normalItems_eq_canon rest hFinite.2]

theorem normalMembers_eq_canon :
    ∀ members, FiniteMembers members →
      normalMembers members =
        canonMembers (wireMembers members)
| [], _ => rfl
| (name, value) :: rest, hFinite => by
    rcases written_members_cases name value rest with
      ⟨_, hWire, _, hNormal⟩ | ⟨_, hWire, _, hNormal⟩
    · rw [hWire, hNormal]
      exact normalMembers_eq_canon rest hFinite.2
    · rw [hWire, hNormal, canonMembers,
        normal_eq_canonTree value hFinite.1,
        normalMembers_eq_canon rest hFinite.2]

end

/- Reading the JSON text keeps the normal form. -/
theorem ReadsAs.normal_eq
    {body sent : JsValue}
    (hReads : ReadsAs (jsonText body) sent)
    (hFinite : FiniteNumbers body) :
    normal sent = normal body := by
  rw [normal_eq_canonTree sent hReads.finite,
    normal_eq_canonTree body hFinite,
    wireTree_eq_of_text hReads.text_eq]

end KisAuth

------------------------------------------------------------
-- The Order Of Members Does Not Show
------------------------------------------------------------

namespace KisAuth

/- The normal members, one by one. -/
theorem normalMembers_eq_filterMap
    (members : List (String × JsValue)) :
    normalMembers members =
      members.filterMap (fun member =>
        match member.2 with
        | .undefined => none
        | value => some (member.1, normal value)) := by
  induction members with
  | nil => rfl
  | cons member rest ih =>
      rcases member with ⟨name, value⟩
      cases value <;>
        simp [normalMembers, ih]

theorem normalMembers_perm
    {left right : List (String × JsValue)}
    (hPerm : left.Perm right) :
    (normalMembers left).Perm (normalMembers right) := by
  rw [normalMembers_eq_filterMap,
    normalMembers_eq_filterMap]
  exact hPerm.filterMap _

theorem normalMembers_names
    (members : List (String × JsValue)) :
    ((normalMembers members).map Prod.fst).Sublist
      (members.map Prod.fst) := by
  induction members with
  | nil => simp [normalMembers]
  | cons member rest ih =>
      rcases member with ⟨name, value⟩
      rcases written_members_cases name value rest with
        ⟨_, _, _, hNormal⟩ | ⟨_, _, _, hNormal⟩
      · rw [hNormal]
        exact ih.cons name
      · rw [hNormal]
        exact ih.cons_cons name

/- Only `undefined` is the reordering of `undefined`. -/
theorem undefined_of_reordered
    {value value' : JsValue}
    (hSame : Reordered value value') :
    value = .undefined ↔ value' = .undefined := by
  cases value <;> cases value' <;> simp_all [Reordered]

mutual

theorem normal_of_reordered :
    ∀ value value', DistinctNames value →
      Reordered value value' →
        normal value = normal value'
| .arr items, .arr items', hDistinct, hSame => by
    have hItems : DistinctItems items := by
      simpa [DistinctNames] using hDistinct
    have hSame' : ReorderedItems items items' := by
      simpa [Reordered] using hSame
    rw [normal, normal,
      normalItems_of_reordered items items' hItems hSame']
| .obj members, .obj members', hDistinct, hSame => by
    simp only [DistinctNames] at hDistinct
    simp only [Reordered] at hSame
    rcases hDistinct with ⟨hNames, hMembers⟩
    rcases hSame with ⟨middle, hPerm, hMiddle⟩
    have hNormal :=
      normalMembers_of_reordered members middle hMembers
        hMiddle
    have hNodup :
        ((normalMembers members).map Prod.fst).Nodup :=
      hNames.sublist (normalMembers_names members)
    have hSorted :
        sortByName (normalMembers members) =
          sortByName (normalMembers members') := by
      apply sortByName_perm ?_ hNodup
      rw [hNormal]
      exact (normalMembers_perm hPerm).symm
    rw [normal, normal, hSorted]
| .undefined, value', _, hSame => by
    simp_all [Reordered]
| .null, value', _, hSame => by
    simp_all [Reordered]
| .bool _, value', _, hSame => by
    simp_all [Reordered]
| .num _, value', _, hSame => by
    simp_all [Reordered]
| .infinite _, value', _, hSame => by
    simp_all [Reordered]
| .str _, value', _, hSame => by
    simp_all [Reordered]

theorem normalItems_of_reordered :
    ∀ items items', DistinctItems items →
      ReorderedItems items items' →
        normalItems items = normalItems items'
| [], [], _, _ => rfl
| item :: rest, item' :: rest', hDistinct, hSame => by
    rw [normalItems, normalItems,
      normal_of_reordered item item' hDistinct.1 hSame.1,
      normalItems_of_reordered rest rest' hDistinct.2 hSame.2]

theorem normalMembers_of_reordered :
    ∀ members members', DistinctMembers members →
      ReorderedMembers members members' →
        normalMembers members = normalMembers members'
| [], [], _, _ => rfl
| (name, value) :: rest, (name', value') :: rest',
    hDistinct, hSame => by
    simp only [ReorderedMembers] at hSame
    rcases hSame with ⟨rfl, hValue, hRest⟩
    have hNormal :=
      normal_of_reordered value value' hDistinct.1 hValue
    have hTail :=
      normalMembers_of_reordered rest rest' hDistinct.2 hRest
    have hAbsent := undefined_of_reordered hValue
    rcases written_members_cases name value rest with
      ⟨hNone, _, _, hLeft⟩ | ⟨hSome, _, _, hLeft⟩
    · rw [hLeft, hAbsent.mp hNone, hTail]
      rfl
    · rcases written_members_cases name value' rest' with
        ⟨hNone, _⟩ | ⟨_, _, _, hRight⟩
      · exact absurd (hAbsent.mpr hNone) hSome
      · rw [hLeft, hRight, hNormal, hTail]

end

end KisAuth

------------------------------------------------------------
-- Every Body Arrives
------------------------------------------------------------

namespace KisAuth

mutual

/- The value that is read from the text of a value. -/
def transported : JsValue → JsValue
| .undefined => .null
| .infinite _ => .null
| .arr items => .arr (transportedItems items)
| .obj members => .obj (transportedMembers members)
| value => value

def transportedItems : List JsValue → List JsValue
| [] => []
| item :: rest => transported item :: transportedItems rest

def transportedMembers :
    List (String × JsValue) → List (String × JsValue)
| [] => []
| (_, .undefined) :: rest => transportedMembers rest
| (name, value) :: rest =>
    (name, transported value) :: transportedMembers rest

end

theorem transportedMembers_cases
    (name : String)
    (value : JsValue)
    (rest : List (String × JsValue)) :
    (value = .undefined ∧
        transportedMembers ((name, value) :: rest) =
          transportedMembers rest) ∨
      (value ≠ .undefined ∧
        transportedMembers ((name, value) :: rest) =
          (name, transported value) ::
            transportedMembers rest) := by
  cases value with
  | undefined => exact Or.inl ⟨rfl, rfl⟩
  | _ => exact Or.inr ⟨by simp, rfl⟩

theorem transportedMembers_names
    (members : List (String × JsValue)) :
    ((transportedMembers members).map Prod.fst).Sublist
      (members.map Prod.fst) := by
  induction members with
  | nil => simp [transportedMembers]
  | cons member rest ih =>
      rcases member with ⟨name, value⟩
      rcases transportedMembers_cases name value rest with
        ⟨_, hGone⟩ | ⟨_, hKept⟩
      · rw [hGone]
        exact ih.cons name
      · rw [hKept]
        exact ih.cons_cons name

mutual

theorem transported_finite :
    ∀ value, FiniteNumbers (transported value)
| .undefined => trivial
| .null => trivial
| .bool _ => trivial
| .num _ => trivial
| .infinite _ => trivial
| .str _ => trivial
| .arr items => by
    rw [transported, FiniteNumbers]
    exact transportedItems_finite items
| .obj members => by
    rw [transported, FiniteNumbers]
    exact transportedMembers_finite members

theorem transportedItems_finite :
    ∀ items, FiniteItems (transportedItems items)
| [] => trivial
| item :: rest =>
    ⟨transported_finite item, transportedItems_finite rest⟩

theorem transportedMembers_finite :
    ∀ members, FiniteMembers (transportedMembers members)
| [] => trivial
| (name, value) :: rest => by
    have hRest := transportedMembers_finite rest
    rcases transportedMembers_cases name value rest with
      ⟨_, hGone⟩ | ⟨_, hKept⟩
    · rw [hGone]
      exact hRest
    · rw [hKept]
      exact ⟨transported_finite value, hRest⟩

end

mutual

theorem transported_distinct :
    ∀ value, DistinctNames value →
      DistinctNames (transported value)
| .undefined, _ => trivial
| .null, _ => trivial
| .bool _, _ => trivial
| .num _, _ => trivial
| .infinite _, _ => trivial
| .str _, _ => trivial
| .arr items, hDistinct => by
    rw [DistinctNames] at hDistinct
    rw [transported, DistinctNames]
    exact transportedItems_distinct items hDistinct
| .obj members, hDistinct => by
    rw [DistinctNames] at hDistinct
    rw [transported, DistinctNames]
    exact
      ⟨hDistinct.1.sublist (transportedMembers_names members),
        transportedMembers_distinct members hDistinct.2⟩

theorem transportedItems_distinct :
    ∀ items, DistinctItems items →
      DistinctItems (transportedItems items)
| [], _ => trivial
| item :: rest, hDistinct =>
    ⟨transported_distinct item hDistinct.1,
      transportedItems_distinct rest hDistinct.2⟩

theorem transportedMembers_distinct :
    ∀ members, DistinctMembers members →
      DistinctMembers (transportedMembers members)
| [], _ => trivial
| (name, value) :: rest, hDistinct => by
    have hRest :=
      transportedMembers_distinct rest hDistinct.2
    rcases transportedMembers_cases name value rest with
      ⟨_, hGone⟩ | ⟨_, hKept⟩
    · rw [hGone]
      exact hRest
    · rw [hKept]
      exact ⟨transported_distinct value hDistinct.1, hRest⟩

end

mutual

theorem transported_defined :
    ∀ value, Defined (transported value)
| .undefined => trivial
| .null => trivial
| .bool _ => trivial
| .num _ => trivial
| .infinite _ => trivial
| .str _ => trivial
| .arr items => by
    rw [transported, Defined]
    exact transportedItems_defined items
| .obj members => by
    rw [transported, Defined]
    exact transportedMembers_defined members

theorem transportedItems_defined :
    ∀ items, DefinedItems (transportedItems items)
| [] => trivial
| item :: rest =>
    ⟨transported_defined item,
      transportedItems_defined rest⟩

theorem transportedMembers_defined :
    ∀ members, DefinedMembers (transportedMembers members)
| [] => trivial
| (name, value) :: rest => by
    have hRest := transportedMembers_defined rest
    rcases transportedMembers_cases name value rest with
      ⟨_, hGone⟩ | ⟨_, hKept⟩
    · rw [hGone]
      exact hRest
    · rw [hKept]
      exact ⟨transported_defined value, hRest⟩

end

theorem transported_ne_undefined (value : JsValue) :
    transported value ≠ .undefined := by
  intro hEq
  have hDefined := transported_defined value
  rw [hEq] at hDefined
  exact hDefined

/- A member that is not undefined is written. -/
theorem jsonMembers_cons
    {name : String}
    {value : JsValue}
    (hValue : value ≠ .undefined)
    (rest : List (String × JsValue)) :
    jsonMembers ((name, value) :: rest) =
      (name, jsonText value) :: jsonMembers rest := by
  rcases written_members_cases name value rest with
    ⟨hNone, _⟩ | ⟨_, _, hText, _⟩
  · exact absurd hNone hValue
  · exact hText

mutual

theorem jsonText_transported :
    ∀ value, jsonText (transported value) = jsonText value
| .undefined => rfl
| .null => rfl
| .bool _ => rfl
| .num _ => rfl
| .infinite _ => rfl
| .str _ => rfl
| .arr items => by
    rw [transported, jsonText, jsonText,
      jsonItems_transported items]
| .obj members => by
    rw [transported, jsonText, jsonText,
      jsonMembers_transported members]

theorem jsonItems_transported :
    ∀ items,
      jsonItems (transportedItems items) = jsonItems items
| [] => rfl
| item :: rest => by
    rw [transportedItems, jsonItems, jsonItems,
      jsonText_transported item, jsonItems_transported rest]

theorem jsonMembers_transported :
    ∀ members,
      jsonMembers (transportedMembers members) =
        jsonMembers members
| [] => rfl
| (name, value) :: rest => by
    have hRest := jsonMembers_transported rest
    rcases transportedMembers_cases name value rest with
      ⟨hNone, hGone⟩ | ⟨hSome, hKept⟩
    · rw [hGone, hRest, hNone]
      rfl
    · rw [hKept,
        jsonMembers_cons (transported_ne_undefined value),
        jsonMembers_cons hSome, jsonText_transported value,
        hRest]

end

mutual

theorem reordered_refl : ∀ value, Reordered value value
| .undefined => rfl
| .null => rfl
| .bool _ => rfl
| .num _ => rfl
| .infinite _ => rfl
| .str _ => rfl
| .arr items => by
    rw [Reordered]
    exact reorderedItems_refl items
| .obj members => by
    rw [Reordered]
    exact
      ⟨members, List.Perm.refl _,
        reorderedMembers_refl members⟩

theorem reorderedItems_refl :
    ∀ items, ReorderedItems items items
| [] => trivial
| item :: rest =>
    ⟨reordered_refl item, reorderedItems_refl rest⟩

theorem reorderedMembers_refl :
    ∀ members, ReorderedMembers members members
| [] => trivial
| (_, value) :: rest =>
    ⟨rfl, reordered_refl value, reorderedMembers_refl rest⟩

end

/- A body arrives as what its text is read as. -/
theorem arrives_transported
    {members : List (String × JsValue)}
    (hDistinct : DistinctNames (.obj members)) :
    Arrives (.obj members) (transported (.obj members)) :=
  ⟨transported (.obj members),
    { finite := transported_finite _
      distinct := transported_distinct _ hDistinct
      defined := transported_defined _
      text_eq := jsonText_transported _ },
    reordered_refl _⟩

end KisAuth

------------------------------------------------------------
-- Infinite Numbers Show
------------------------------------------------------------

namespace KisAuth

mutual

/- No word of the tree stands for an infinite number. -/
def NoOverflow : JsonTree → Prop
| .word .overflow => False
| .arr items => NoOverflowItems items
| .obj members => NoOverflowMembers members
| _ => True

def NoOverflowItems : List JsonTree → Prop
| [] => True
| item :: rest => NoOverflow item ∧ NoOverflowItems rest

def NoOverflowMembers : List (String × JsonTree) → Prop
| [] => True
| (_, item) :: rest =>
    NoOverflow item ∧ NoOverflowMembers rest

end

theorem noOverflowMembers_iff
    (members : List (String × JsonTree)) :
    NoOverflowMembers members ↔
      ∀ member ∈ members, NoOverflow member.2 := by
  induction members with
  | nil => simp [NoOverflowMembers]
  | cons member rest ih =>
      rcases member with ⟨name, item⟩
      rw [NoOverflowMembers, ih, List.forall_mem_cons]

theorem noOverflow_sortByName
    (members : List (String × JsonTree)) :
    NoOverflowMembers (sortByName members) ↔
      NoOverflowMembers members := by
  rw [noOverflowMembers_iff, noOverflowMembers_iff]
  simp only [(sortByName_permuted members).mem_iff]

theorem noOverflow_dropLoneAbsent
    (items : List JsonTree) :
    NoOverflowItems (dropLoneAbsent items) ↔
      NoOverflowItems items := by
  unfold dropLoneAbsent
  split
  · simp [NoOverflowItems, NoOverflow]
  · rfl

mutual

theorem noOverflow_normal :
    ∀ value, NoOverflow (normal value) ↔ FiniteNumbers value
| .undefined => Iff.rfl
| .null => Iff.rfl
| .bool _ => Iff.rfl
| .num _ => Iff.rfl
| .infinite _ => Iff.rfl
| .str _ => Iff.rfl
| .arr items => by
    rw [normal, NoOverflow, FiniteNumbers,
      noOverflow_dropLoneAbsent, noOverflow_items items]
| .obj members => by
    rw [normal, NoOverflow, FiniteNumbers,
      noOverflow_sortByName, noOverflow_members members]

theorem noOverflow_items :
    ∀ items,
      NoOverflowItems (normalItems items) ↔
        FiniteItems items
| [] => Iff.rfl
| item :: rest => by
    rw [normalItems, NoOverflowItems, FiniteItems,
      noOverflow_normal item, noOverflow_items rest]

theorem noOverflow_members :
    ∀ members,
      NoOverflowMembers (normalMembers members) ↔
        FiniteMembers members
| [] => Iff.rfl
| (name, value) :: rest => by
    have hRest := noOverflow_members rest
    rcases written_members_cases name value rest with
      ⟨hNone, _, _, hNormal⟩ | ⟨_, _, _, hNormal⟩
    · rw [hNormal, hRest, hNone, FiniteMembers]
      simp [FiniteNumbers]
    · rw [hNormal, NoOverflowMembers, FiniteMembers,
        noOverflow_normal value, hRest]

end

end KisAuth

------------------------------------------------------------
-- Arriving Bodies
------------------------------------------------------------

namespace KisAuth

/-
  What a request with a body carries: nothing at all, or an
  object.
-/
def IsBody : JsValue → Prop
| .undefined => True
| .obj _ => True
| _ => False

/-
  What arrives has the normal form of what was sent, where
  its numbers are finite and only there.
-/
theorem Arrives.normal_eq_iff
    {body arrived : JsValue}
    (hArrives : Arrives body arrived) :
    normal arrived = normal body ↔ FiniteNumbers body := by
  unfold Arrives at hArrives
  split at hArrives
  · rw [hArrives]
    exact iff_of_true rfl trivial
  · rcases hArrives with ⟨sent, hReads, hOrder⟩
    rw [← normal_of_reordered sent arrived hReads.distinct
      hOrder]
    constructor
    · intro hEq
      rw [← noOverflow_normal, ← hEq, noOverflow_normal]
      exact hReads.finite
    · exact hReads.normal_eq

/- An object arrives as an object. -/
theorem Arrives.isBody
    {body arrived : JsValue}
    (hArrives : Arrives body arrived)
    (hBody : IsBody body) :
    IsBody arrived := by
  cases body with
  | undefined =>
      simp only [Arrives] at hArrives
      rw [hArrives]
      exact trivial
  | obj members =>
      simp only [Arrives] at hArrives
      rcases hArrives with ⟨sent, hReads, hOrder⟩
      have hTree := wireTree_eq_of_text hReads.text_eq
      cases sent with
      | obj members' =>
          cases arrived <;> simp_all [Reordered, IsBody]
      | _ => simp [wireTree] at hTree
  | _ => simp [IsBody] at hBody

theorem stableBody_of_isBody
    (P : Platform)
    {body : JsValue}
    (hBody : IsBody body) :
    stableBody P body =
      if (normal body).depth ≤ P.stringifyDepth then
        some ((normal body).print jsonSpelling)
      else
        none := by
  rw [depth_normal, ← stableText_eq_print]
  cases body <;> simp_all [IsBody, stableBody, stableStringify]

/- What arrives is hashed as the text of what was sent. -/
theorem Arrives.stableBody_eq_iff
    (P : Platform)
    {body arrived : JsValue}
    {text : List Char}
    (hArrives : Arrives body arrived)
    (hBody : IsBody body)
    (hText : stableBody P body = some text) :
    stableBody P arrived = some text ↔
      FiniteNumbers body := by
  rw [← hArrives.normal_eq_iff]
  rw [stableBody_of_isBody P hBody] at hText
  rw [stableBody_of_isBody P (hArrives.isBody hBody)]
  split at hText
  · next hFits =>
      constructor
      · intro hArrived
        split at hArrived
        · exact
            print_inj_of_plain (normal_plain _)
              (normal_plain _)
              (Option.some.inj (hArrived.trans hText.symm))
        · simp at hArrived
      · intro hEq
        rw [hEq, if_pos hFits]
        exact hText
  · simp at hText

/- What arrives has the hash of what was sent. -/
theorem Arrives.bodyHash_eq
    (P : Platform)
    {body arrived : JsValue}
    (hArrives : Arrives body arrived)
    (hBody : IsBody body)
    (hFinite : FiniteNumbers body) :
    bodyHash P arrived = bodyHash P body := by
  unfold bodyHash
  rw [stableBody_of_isBody P hBody,
    stableBody_of_isBody P (hArrives.isBody hBody),
    hArrives.normal_eq_iff.mpr hFinite]

end KisAuth
