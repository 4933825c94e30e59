import Mathlib.Data.List.Basic
import Mathlib.Data.Rat.Defs

/-
  In-memory values of the language the service is written
  in, as far as request bodies and signed values use them.

  A finite number is kept as the text the language renders
  it by, which tells finite numbers apart (`-0` is rendered
  as `0`, and equals it). A number whose literal overflows
  is infinite. An object is the list of its own members in
  their order. Strings are sequences of Unicode characters.

  Key definitions include:
    * `JsNumber`, `JsValue`
    * `JsValue.depth`, `JsValue.arrayDepth`
    * `JsValue.member`, `JsValue.truthy`
    * `JsValue.toJsString`, `truthyText`
-/

------------------------------------------------------------
-- Values
------------------------------------------------------------

namespace KisAuth

/- The characters a rendered finite number consists of. -/
def isNumeralChar (c : Char) : Bool :=
  c.isDigit || c == '-' || c == '+' || c == '.' || c == 'e'

/- A rendered number starts with a digit or a minus sign. -/
def isNumeral : List Char → Bool
| [] => false
| c :: rest =>
    (c.isDigit || c == '-') && (c :: rest).all isNumeralChar

/- A finite number, as the text it is rendered by. -/
structure JsNumber where
  text : String
  numeral : isNumeral text.toList = true
  deriving DecidableEq

/- A value. An absent value is `undefined`. -/
inductive JsValue where
  | undefined
  | null
  | bool (value : Bool)
  | num (value : JsNumber)
  | infinite (negative : Bool)
  | str (value : String)
  | arr (items : List JsValue)
  | obj (members : List (String × JsValue))

namespace JsValue

mutual

/- How deeply arrays and objects are nested in a value. -/
def depth : JsValue → Nat
| .arr items => itemsDepth items + 1
| .obj members => membersDepth members + 1
| _ => 0

def itemsDepth : List JsValue → Nat
| [] => 0
| item :: rest => max (depth item) (itemsDepth rest)

def membersDepth : List (String × JsValue) → Nat
| [] => 0
| (_, value) :: rest => max (depth value) (membersDepth rest)

end

/- How deeply arrays are nested directly in each other. -/
def arrayDepth : JsValue → Nat
| .arr items => deepest items + 1
| _ => 0
where
  deepest : List JsValue → Nat
  | [] => 0
  | item :: rest => max (arrayDepth item) (deepest rest)

/-
  Reading a member. Reading from `null` or `undefined`
  throws a TypeError; the other values without the member
  give `undefined`.
-/
def member (name : String) : JsValue → Option JsValue
| .undefined => none
| .null => none
| .obj members =>
    some ((members.lookup name).getD .undefined)
| _ => some .undefined

/- Whether the value passes an `if`. -/
def truthy : JsValue → Bool
| .undefined => false
| .null => false
| .bool value => value
| .num value => value.text != "0"
| .str value => value != ""
| _ => true

/- The value when it is a string. -/
def asString : JsValue → Option String
| .str value => some value
| _ => none

/- Text pieces with a separator between them. -/
def joinWith (separator : String) : List String → String
| [] => ""
| [piece] => piece
| piece :: rest =>
    piece ++ separator ++ joinWith separator rest

/-
  The text a value is converted to. An object whose own
  `toString` member is not callable cannot be converted.
-/
def toText : JsValue → Option String
| .undefined => some "undefined"
| .null => some "null"
| .bool true => some "true"
| .bool false => some "false"
| .num value => some value.text
| .infinite false => some "Infinity"
| .infinite true => some "-Infinity"
| .str value => some value
| .arr items =>
    (itemStrings items).map (joinWith ",")
| .obj members =>
    if (members.lookup "toString").isSome then none
    else some "[object Object]"
where
  itemStrings : List JsValue → Option (List String)
  | [] => some []
  | .undefined :: rest =>
      (itemStrings rest).map (fun pieces => "" :: pieces)
  | .null :: rest =>
      (itemStrings rest).map (fun pieces => "" :: pieces)
  | item :: rest =>
      match toText item, itemStrings rest with
      | some piece, some pieces => some (piece :: pieces)
      | _, _ => none

/-
  Conversion to a string, as a template literal or a string
  concatenation does it. It throws where there is no text,
  and where arrays are nested more deeply than the call
  stack allows.
-/
def toJsString
    (stackDepth : Nat)
    (value : JsValue) : Option String :=
  if value.arrayDepth ≤ stackDepth then value.toText
  else none

@[simp] theorem toJsString_str
    (stackDepth : Nat)
    (value : String) :
    toJsString stackDepth (.str value) = some value := by
  simp [toJsString, arrayDepth, toText]

@[simp] theorem asString_eq_some_iff
    (value : JsValue)
    (text : String) :
    value.asString = some text ↔ value = .str text := by
  cases value <;> simp [asString]

end JsValue

/- The text when it is present and not empty. -/
def truthyText : Option String → Option String
| some text => if text = "" then none else some text
| none => none

@[simp] theorem truthyText_eq_some_iff
    (text : Option String)
    (value : String) :
    truthyText text = some value ↔
      text = some value ∧ value ≠ "" := by
  cases text with
  | none => simp [truthyText]
  | some found =>
      by_cases hEmpty : found = ""
      · subst hEmpty
        simp only [truthyText, if_true, Option.some.injEq]
        constructor
        · intro hNone
          simp at hNone
        · rintro ⟨rfl, hValue⟩
          exact absurd rfl hValue
      · simp only [truthyText, hEmpty, if_false,
          Option.some.injEq]
        constructor
        · rintro rfl
          exact ⟨rfl, hEmpty⟩
        · exact fun hBoth => hBoth.1

@[simp] theorem truthyText_idem
    (text : Option String) :
    truthyText (truthyText text) = truthyText text := by
  apply Option.ext
  simp

end KisAuth
