import Mathlib.Data.List.Basic

/-
  The markup of an HTML text: the tags that a tokenizer finds
  in it, with the names of their attributes and how each value
  is delimited.

  A table says what each character does in each mode. Which
  modes a piece of text can lead to, whatever came before it,
  is computed from the table alone. After a piece that leads
  to text, a quoted value or a comment only, a text without
  the characters that end these leaves no trace.

  Key definitions include:
    * `Markup.Mode`, `Markup.move`
    * `Markup.Tokenizer`, `Markup.run`, `Markup.skeleton`
    * `Markup.modesAfter`, `Markup.Settles`, `Markup.Inert`
    * `Markup.Segment`, `Markup.Guarded`

  Key theorems include:
    * `Markup.run_mode_mem`, `Markup.run_inert`
    * `Markup.run_blank`
-/

------------------------------------------------------------
-- Modes
------------------------------------------------------------

namespace Markup

/- Where the tokenizer is. -/
inductive Mode where
  | data
  | tagOpen
  | endTagOpen
  | tagName
  | beforeName
  | attributeName
  | afterName
  | beforeValue
  | doubleQuoted
  | singleQuoted
  | unquoted
  | afterQuoted
  | selfClosing
  | markupOpen
  | markupDash
  | bogusComment
  | commentStart
  | commentStartDash
  | comment
  | commentEndDash
  | commentEnd
  | commentBang
  | rawText
  | rawLess
  | rawEndOpen
  | rawEndName
deriving DecidableEq

def allModes : List Mode :=
  [.data, .tagOpen, .endTagOpen, .tagName, .beforeName,
    .attributeName, .afterName, .beforeValue, .doubleQuoted,
    .singleQuoted, .unquoted, .afterQuoted, .selfClosing,
    .markupOpen, .markupDash, .bogusComment, .commentStart,
    .commentStartDash, .comment, .commentEndDash, .commentEnd,
    .commentBang, .rawText, .rawLess, .rawEndOpen,
    .rawEndName]

theorem mem_allModes (mode : Mode) : mode ∈ allModes := by
  cases mode <;> decide

/- How the value of an attribute is delimited. -/
inductive Delimiter where
  | missing
  | double
  | single
  | unquoted
deriving DecidableEq

/-
  What a character does. The names of tags and attributes
  grow by it; a tag ends with it; in raw text, a tag that is
  not the end of the element goes back to being text.
-/
inductive Action where
  | to (mode : Mode)
  | startTag (closing : Bool) (mode : Mode)
  | nameChar (mode : Mode)
  | startAttribute
  | attributeChar
  | value (delimiter : Delimiter) (mode : Mode)
  | emit (selfClosing : Bool)
  | rawEnd (mode : Mode)
  | rawEmit
deriving DecidableEq

def isSpace (c : Char) : Bool :=
  c = ' ' || c = '\n' || c = '\t' || c = '\r' || c.toNat = 12

def isLetter (c : Char) : Bool :=
  ('a' ≤ c && c ≤ 'z') || ('A' ≤ c && c ≤ 'Z')

def moveData (c : Char) : Action :=
  if c = '<' then .to .tagOpen else .to .data

def moveBogus (c : Char) : Action :=
  if c = '>' then .to .data else .to .bogusComment

def moveAfterName (c : Char) : Action :=
  if isSpace c then .to .afterName
  else if c = '/' then .to .selfClosing
  else if c = '=' then .to .beforeValue
  else if c = '>' then .emit false
  else .startAttribute

def moveBeforeName (c : Char) : Action :=
  if isSpace c then .to .beforeName
  else if c = '/' then .to .selfClosing
  else if c = '>' then .emit false
  else .startAttribute

def moveComment (c : Char) : Action :=
  if c = '-' then .to .commentEndDash else .to .comment

def moveRaw (c : Char) : Action :=
  if c = '<' then .to .rawLess else .to .rawText

/- What each character does in each mode. -/
def move : Mode → Char → Action
| .data, c => moveData c
| .tagOpen, c =>
    if c = '!' then .to .markupOpen
    else if c = '/' then .to .endTagOpen
    else if c = '?' then .to .bogusComment
    else if isLetter c then .startTag false .tagName
    else moveData c
| .endTagOpen, c =>
    if c = '>' then .to .data
    else if isLetter c then .startTag true .tagName
    else .to .bogusComment
| .tagName, c =>
    if isSpace c then .to .beforeName
    else if c = '/' then .to .selfClosing
    else if c = '>' then .emit false
    else .nameChar .tagName
| .beforeName, c => moveBeforeName c
| .attributeName, c =>
    if isSpace c || c = '/' || c = '>' then moveAfterName c
    else if c = '=' then .to .beforeValue
    else .attributeChar
| .afterName, c => moveAfterName c
| .beforeValue, c =>
    if isSpace c then .to .beforeValue
    else if c = '"' then .value .double .doubleQuoted
    else if c = '\'' then .value .single .singleQuoted
    else if c = '>' then .emit false
    else .value .unquoted .unquoted
| .doubleQuoted, c =>
    if c = '"' then .to .afterQuoted else .to .doubleQuoted
| .singleQuoted, c =>
    if c = '\'' then .to .afterQuoted else .to .singleQuoted
| .unquoted, c =>
    if isSpace c then .to .beforeName
    else if c = '>' then .emit false
    else .to .unquoted
| .afterQuoted, c => moveBeforeName c
| .selfClosing, c =>
    if c = '>' then .emit true else moveBeforeName c
| .markupOpen, c =>
    if c = '-' then .to .markupDash else moveBogus c
| .markupDash, c =>
    if c = '-' then .to .commentStart else moveBogus c
| .bogusComment, c => moveBogus c
| .commentStart, c =>
    if c = '-' then .to .commentStartDash
    else if c = '>' then .to .data
    else .to .comment
| .commentStartDash, c =>
    if c = '-' then .to .commentEnd
    else if c = '>' then .to .data
    else .to .comment
| .comment, c => moveComment c
| .commentEndDash, c =>
    if c = '-' then .to .commentEnd else .to .comment
| .commentEnd, c =>
    if c = '>' then .to .data
    else if c = '!' then .to .commentBang
    else if c = '-' then .to .commentEnd
    else .to .comment
| .commentBang, c =>
    if c = '-' then .to .commentEndDash
    else if c = '>' then .to .data
    else .to .comment
| .rawText, c => moveRaw c
| .rawLess, c =>
    if c = '/' then .to .rawEndOpen else moveRaw c
| .rawEndOpen, c =>
    if isLetter c then .startTag true .rawEndName
    else moveRaw c
| .rawEndName, c =>
    if isSpace c then .rawEnd .beforeName
    else if c = '/' then .rawEnd .selfClosing
    else if c = '>' then .rawEmit
    else if isLetter c then .nameChar .rawEndName
    else moveRaw c

end Markup

------------------------------------------------------------
-- The Tokenizer
------------------------------------------------------------

namespace Markup

structure Attribute where
  name : List Char
  delimiter : Delimiter
deriving DecidableEq

structure Tag where
  closing : Bool
  name : List Char
  attributes : List Attribute
  selfClosing : Bool
deriving DecidableEq

/-
  The tokenizer with the tag it reads, its attributes newest
  first, the element that raw text belongs to and the tags so
  far, newest first.
-/
structure Tokenizer where
  mode : Mode
  tag : Tag
  element : List Char
  tags : List Tag
deriving DecidableEq

/- Letters of names are compared in lower case. -/
def lower (c : Char) : Char :=
  if 'A' ≤ c ∧ c ≤ 'Z' then Char.ofNat (c.toNat + 32) else c

/- The elements whose content is raw text. -/
def rawElements : List (List Char) :=
  ["title".toList, "textarea".toList, "style".toList,
    "xmp".toList, "iframe".toList, "noembed".toList,
    "noframes".toList, "script".toList]

/- One more character of the last attribute's name. -/
def growName (c : Char) : List Attribute → List Attribute
| [] => []
| last :: attributes =>
    { last with name := last.name ++ [lower c] } :: attributes

/- The last attribute has a value, with this delimiter. -/
def setDelimiter
    (delimiter : Delimiter) :
    List Attribute → List Attribute
| [] => []
| last :: attributes =>
    { last with delimiter := delimiter } :: attributes

/- A tag is found. Some begin raw text. -/
def Tokenizer.emit
    (t : Tokenizer)
    (selfClosing : Bool) : Tokenizer :=
  let tag := { t.tag with selfClosing := selfClosing }
  if tag.closing = false ∧ rawElements.contains tag.name then
    { t with
      mode := .rawText
      element := tag.name
      tags := tag :: t.tags }
  else
    { t with mode := .data, tags := tag :: t.tags }

/- The tag being read ends the element of the raw text. -/
def Tokenizer.endsElement (t : Tokenizer) : Bool :=
  t.tag.name = t.element

def Tokenizer.perform
    (t : Tokenizer)
    (c : Char) : Action → Tokenizer
| .to mode => { t with mode := mode }
| .startTag closing mode =>
    { t with
      mode := mode
      tag := ⟨closing, [lower c], [], false⟩ }
| .nameChar mode =>
    { t with
      mode := mode
      tag := { t.tag with name := t.tag.name ++ [lower c] } }
| .startAttribute =>
    { t with
      mode := .attributeName
      tag :=
        { t.tag with
          attributes :=
            ⟨[lower c], .missing⟩ :: t.tag.attributes } }
| .attributeChar =>
    { t with
      mode := .attributeName
      tag :=
        { t.tag with
          attributes := growName c t.tag.attributes } }
| .value delimiter mode =>
    { t with
      mode := mode
      tag :=
        { t.tag with
          attributes :=
            setDelimiter delimiter t.tag.attributes } }
| .emit selfClosing => t.emit selfClosing
| .rawEnd mode =>
    if t.endsElement then { t with mode := mode }
    else { t with mode := .rawText }
| .rawEmit =>
    if t.endsElement then t.emit false
    else { t with mode := .rawText }

def Tokenizer.step (t : Tokenizer) (c : Char) : Tokenizer :=
  t.perform c (move t.mode c)

def run (t : Tokenizer) (text : List Char) : Tokenizer :=
  text.foldl Tokenizer.step t

/- At the start of a page. -/
def start : Tokenizer where
  mode := .data
  tag := ⟨false, [], [], false⟩
  element := []
  tags := []

/- The tags of a page, in order. -/
def skeleton (page : List Char) : List Tag :=
  (run start page).tags.reverse

example :
    (skeleton "<a href=\"x\"><!-- <b> --></a>".toList).map
        Tag.name =
      ["a".toList, "a".toList] := by
  decide +kernel

@[simp] theorem run_nil (t : Tokenizer) : run t [] = t :=
  rfl

theorem run_cons
    (t : Tokenizer)
    (c : Char)
    (text : List Char) :
    run t (c :: text) = run (t.step c) text :=
  rfl

theorem run_append
    (t : Tokenizer)
    (first second : List Char) :
    run t (first ++ second) = run (run t first) second :=
  List.foldl_append

end Markup

------------------------------------------------------------
-- Reachable Modes
------------------------------------------------------------

namespace Markup

/- The modes that an action may lead to. -/
def Action.modes : Action → List Mode
| .to mode => [mode]
| .startTag _ mode => [mode]
| .nameChar mode => [mode]
| .startAttribute => [.attributeName]
| .attributeChar => [.attributeName]
| .value _ mode => [mode]
| .emit _ => [.data, .rawText]
| .rawEnd mode => [mode, .rawText]
| .rawEmit => [.data, .rawText]

theorem emit_mode_mem
    (t : Tokenizer)
    (selfClosing : Bool) :
    (t.emit selfClosing).mode ∈ [Mode.data, .rawText] := by
  simp only [Tokenizer.emit]
  split <;> simp

theorem step_mode_mem
    (t : Tokenizer)
    (c : Char) :
    (t.step c).mode ∈ (move t.mode c).modes := by
  rw [Tokenizer.step]
  cases move t.mode c with
  | emit selfClosing => exact emit_mode_mem t selfClosing
  | rawEnd mode =>
      simp only [Tokenizer.perform, Action.modes]
      split <;> simp
  | rawEmit =>
      simp only [Tokenizer.perform, Action.modes]
      split
      · exact emit_mode_mem t false
      · simp
  | _ => simp [Tokenizer.perform, Action.modes]

/- Each mode at most once. -/
def insertModes (new known : List Mode) : List Mode :=
  new.foldl
    (fun modes mode =>
      if modes.contains mode then modes else mode :: modes)
    known

/- The modes after a character, from any of some modes. -/
def modesStep (c : Char) (modes : List Mode) : List Mode :=
  modes.foldl
    (fun known mode => insertModes (move mode c).modes known)
    []

/- The modes after a text, from any of some modes. -/
def modesAfter (text : List Char) (modes : List Mode) :
    List Mode :=
  text.foldl (fun modes c => modesStep c modes) modes

theorem mem_insertModes
    {mode : Mode}
    (new known : List Mode) :
    mode ∈ insertModes new known ↔
      mode ∈ new ∨ mode ∈ known := by
  induction new generalizing known with
  | nil => simp [insertModes]
  | cons first new ih =>
      have hStep :
          insertModes (first :: new) known =
            insertModes new
              (if known.contains first then known
                else first :: known) :=
        rfl
      rw [hStep, ih]
      split
      · rename_i hKnown
        have hFirst : first ∈ known :=
          List.contains_iff_mem.mp hKnown
        constructor
        · rintro (hNew | hKnown)
          · exact Or.inl (List.mem_cons_of_mem _ hNew)
          · exact Or.inr hKnown
        · rintro (hNew | hKnown)
          · rcases List.mem_cons.mp hNew with rfl | hNew
            · exact Or.inr hFirst
            · exact Or.inl hNew
          · exact Or.inr hKnown
      · simp only [List.mem_cons]
        tauto

theorem mem_modesStep
    {c : Char}
    {mode next : Mode}
    {modes : List Mode}
    (hMode : mode ∈ modes)
    (hNext : next ∈ (move mode c).modes) :
    next ∈ modesStep c modes := by
  have hGeneral :
      ∀ known,
        next ∈ known ∨ mode ∈ modes →
          next ∈ modes.foldl
            (fun known mode =>
              insertModes (move mode c).modes known)
            known := by
    clear hMode
    induction modes with
    | nil => simp
    | cons first modes ih =>
        intro known hEither
        apply ih
        rw [mem_insertModes]
        rcases hEither with hKnown | hMode
        · exact Or.inl (Or.inr hKnown)
        · rcases List.mem_cons.mp hMode with rfl | hMode
          · exact Or.inl (Or.inl hNext)
          · exact Or.inr hMode
  exact hGeneral [] (Or.inr hMode)

/- A run stays within the modes that are computed. -/
theorem run_mode_mem
    (text : List Char)
    {t : Tokenizer}
    {modes : List Mode}
    (hMode : t.mode ∈ modes) :
    (run t text).mode ∈ modesAfter text modes := by
  induction text generalizing t modes with
  | nil => exact hMode
  | cons c text ih =>
      exact ih (mem_modesStep hMode (step_mode_mem t c))

end Markup

------------------------------------------------------------
-- Texts Without A Trace
------------------------------------------------------------

namespace Markup

/- Text, a quoted value or a comment. -/
def settledModes : List Mode :=
  [.data, .doubleQuoted, .singleQuoted, .bogusComment,
    .comment, .rawText]

/-
  Whatever came before it, the text ends in text, a quoted
  value or a comment.
-/
def Settles (text : List Char) : Prop :=
  ∀ mode ∈ modesAfter text allModes, mode ∈ settledModes

instance (text : List Char) : Decidable (Settles text) :=
  inferInstanceAs
    (Decidable
      (∀ mode ∈ modesAfter text allModes,
        mode ∈ settledModes))

/- Nothing that opens or closes a tag or a quoted value. -/
def Inert (text : List Char) : Prop :=
  ∀ c ∈ text, c ≠ '<' ∧ c ≠ '>' ∧ c ≠ '"' ∧ c ≠ '\''

instance (text : List Char) : Decidable (Inert text) :=
  List.decidableBAll _ text

/- A character that goes on with a comment. -/
def Steady (c : Char) : Prop :=
  c ≠ '-' ∧ c ≠ '>' ∧ c ≠ '!'

instance (c : Char) : Decidable (Steady c) :=
  inferInstanceAs (Decidable (_ ∧ _ ∧ _))

theorem run_settled
    {t : Tokenizer}
    {text : List Char}
    (hText :
      ∀ c ∈ text, move t.mode c = .to t.mode) :
    run t text = t := by
  induction text with
  | nil => rfl
  | cons c text ih =>
      have hStep : t.step c = t := by
        rw [Tokenizer.step, hText c List.mem_cons_self]
        rfl
      rw [run_cons, hStep]
      exact
        ih (fun d hMem => hText d (List.mem_cons_of_mem _ hMem))

/- The modes of a comment that its end may follow. -/
def commentModes : List Mode :=
  [.comment, .commentEndDash, .commentEnd, .commentBang]

theorem move_comment
    {mode : Mode}
    {c : Char}
    (hMode : mode ∈ commentModes)
    (hChar : c ≠ '>') :
    ∃ next ∈ commentModes, move mode c = .to next := by
  simp only [commentModes, List.mem_cons, List.not_mem_nil,
    or_false] at hMode
  rcases hMode with rfl | rfl | rfl | rfl
  · simp only [move, moveComment]
    split
    · exact ⟨_, by decide, rfl⟩
    · exact ⟨_, by decide, rfl⟩
  · simp only [move]
    split
    · exact ⟨_, by decide, rfl⟩
    · exact ⟨_, by decide, rfl⟩
  · simp only [move, if_neg hChar]
    split
    · exact ⟨_, by decide, rfl⟩
    split
    · exact ⟨_, by decide, rfl⟩
    · exact ⟨_, by decide, rfl⟩
  · simp only [move, if_neg hChar]
    split
    · exact ⟨_, by decide, rfl⟩
    · exact ⟨_, by decide, rfl⟩

theorem move_comment_steady
    {mode : Mode}
    {c : Char}
    (hMode : mode ∈ commentModes)
    (hSteady : Steady c) :
    move mode c = .to .comment := by
  simp only [commentModes, List.mem_cons, List.not_mem_nil,
    or_false] at hMode
  obtain ⟨hDash, hEnd, hBang⟩ := hSteady
  rcases hMode with rfl | rfl | rfl | rfl <;>
    simp [move, moveComment, hDash, hEnd, hBang]

/- Within a comment, only the mode changes. -/
theorem run_comment
    {t : Tokenizer}
    {text : List Char}
    (hMode : t.mode ∈ commentModes)
    (hText : ∀ c ∈ text, c ≠ '>') :
    ∃ mode ∈ commentModes,
      run t text = { t with mode := mode } := by
  induction text generalizing t with
  | nil => exact ⟨t.mode, hMode, rfl⟩
  | cons c text ih =>
      obtain ⟨next, hNext, hMove⟩ :=
        move_comment hMode (hText c List.mem_cons_self)
      have hStep : t.step c = { t with mode := next } := by
        rw [Tokenizer.step, hMove]
        rfl
      have hLater :
          ∀ d ∈ text, d ≠ '>' :=
        fun d hMem => hText d (List.mem_cons_of_mem _ hMem)
      rw [run_cons, hStep]
      exact @ih { t with mode := next } hNext hLater

/-
  An inert text makes no difference where a text has settled,
  once a steady character follows.
-/
theorem run_inert
    {t : Tokenizer}
    {text : List Char}
    {c : Char}
    (hMode : t.mode ∈ settledModes)
    (hInert : Inert text)
    (hSteady : Steady c) :
    (run t text).step c = t.step c := by
  by_cases hComment : t.mode ∈ commentModes
  · obtain ⟨mode, hLater, hRun⟩ :=
      run_comment hComment
        (fun d hMem => (hInert d hMem).2.1)
    rw [hRun, Tokenizer.step, Tokenizer.step,
      move_comment_steady hComment hSteady,
      move_comment_steady hLater hSteady]
    rfl
  · have hSame : run t text = t := by
      apply run_settled
      intro d hMem
      obtain ⟨hOpen, hClose, hDouble, hSingle⟩ := hInert d hMem
      simp only [settledModes, List.mem_cons,
        List.not_mem_nil, or_false] at hMode
      rcases hMode with hIs | hIs | hIs | hIs | hIs | hIs
      · simp [hIs, move, moveData, hOpen]
      · simp [hIs, move, hDouble]
      · simp [hIs, move, hSingle]
      · simp [hIs, move, moveBogus, hClose]
      · rw [hIs] at hComment
        exact absurd (by decide) hComment
      · simp [hIs, move, moveRaw, hOpen]
    rw [hSame]

end Markup

------------------------------------------------------------
-- Pages Of Segments
------------------------------------------------------------

namespace Markup

/- A part of a page: its own text, or one that is put in. -/
inductive Segment where
  | fixed (text : String)
  | hole (text : String)
deriving DecidableEq

def Segment.text : Segment → List Char
| .fixed text => text.toList
| .hole text => text.toList

/- The segment with nothing put in. -/
def Segment.blank : Segment → Segment
| .fixed text => .fixed text
| .hole _ => .hole ""

def pageText (segments : List Segment) : List Char :=
  segments.flatMap Segment.text

/-
  Each hole comes after a text that settles and before a
  steady character, and is inert.
-/
def Guarded : List Segment → Prop
| [] => True
| .hole _ :: _ => False
| .fixed before :: .hole text :: .fixed after :: rest =>
    Settles before.toList ∧ Inert text.toList ∧
      (∃ c ∈ after.toList.head?, Steady c) ∧
      Guarded (.fixed after :: rest)
| .fixed _ :: .hole _ :: _ => False
| .fixed _ :: rest => Guarded rest

theorem pageText_cons
    (segment : Segment)
    (segments : List Segment) :
    pageText (segment :: segments) =
      segment.text ++ pageText segments :=
  List.flatMap_cons

/- One hole between two texts of the page. -/
theorem run_hole
    {t : Tokenizer}
    {before text after : List Char}
    (hSettles : Settles before)
    (hInert : Inert text)
    (hSteady : ∃ c ∈ after.head?, Steady c) :
    run (run t before) (text ++ after) =
      run (run t before) after := by
  obtain ⟨c, hHead, hSteady⟩ := hSteady
  obtain ⟨rest, rfl⟩ := List.head?_eq_some_iff.mp hHead
  have hMode : (run t before).mode ∈ settledModes :=
    hSettles _ (run_mode_mem before (mem_allModes t.mode))
  rw [run_append, run_cons, run_cons,
    run_inert hMode hInert hSteady]

/- The tokenizer cannot tell what is in the holes. -/
theorem run_blank
    (segments : List Segment)
    (hGuarded : Guarded segments)
    (t : Tokenizer) :
    run t (pageText segments) =
      run t (pageText (segments.map Segment.blank)) := by
  induction segments using Guarded.induct generalizing t with
  | case1 => rfl
  | case2 text rest => exact hGuarded.elim
  | case3 before text after rest ih =>
      obtain ⟨hSettles, hInert, hSteady, hRest⟩ := hGuarded
      have hLater := ih hRest (run t before.toList)
      have hSteadyAll :
          ∃ c ∈
            (after.toList ++ pageText rest).head?,
            Steady c := by
        obtain ⟨c, hHead, hChar⟩ := hSteady
        refine ⟨c, ?_, hChar⟩
        rw [List.head?_append, hHead]
        rfl
      simp only [List.map_cons, pageText_cons, Segment.blank,
        Segment.text] at hLater ⊢
      rw [run_append t, run_append t,
        run_hole hSettles hInert hSteadyAll, hLater]
      rfl
  | case4 before text rest hNot =>
      rw [Guarded] at hGuarded
      · exact hGuarded.elim
      · exact hNot
  | case5 before rest hNot hNot' ih =>
      have hRest : Guarded rest := by
        rw [Guarded] at hGuarded
        · exact hGuarded
        · exact hNot
        · exact hNot'
      have hLater := ih hRest (run t before.toList)
      simp only [List.map_cons, pageText_cons, Segment.blank,
        Segment.text, run_append]
      exact hLater

end Markup
