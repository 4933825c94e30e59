import Mathlib.Data.List.Count
import Mathlib.Data.List.Range

/-
  Counting hits in windows of a fixed length.

  The first hit opens a window. A hit that falls in the open
  window is counted in it, and one that does not opens the
  next window. Logs of hits are newest first, and the hits
  of a window oldest first.

  Key definitions include:
    * `Window`, `windowAfter`, `Counted`
    * `Windows`

  Key theorems include:
    * `Counted.windows`, `Windows.reopens`
    * `Counted.countP_le`, `Counted.preceded`
    * `Counted.eq_of_times`
-/

------------------------------------------------------------
-- Windows
------------------------------------------------------------

namespace FixedWindow

/- A window: when it was opened, and its hits so far. -/
structure Window where
  opened : Nat
  hits : Nat

/- The window of a hit at `now`, after the last window. -/
def windowOf (length now : Nat) : Option Window → Window
| none => ⟨now, 1⟩
| some window =>
    if now < window.opened + length then
      ⟨window.opened, window.hits + 1⟩
    else
      ⟨now, 1⟩

variable {H : Type}

/- The last window of a log. -/
def windowAfter
    (time : H → Nat)
    (length : Nat) : List H → Option Window
| [] => none
| hit :: earlier =>
    some
      (windowOf length (time hit)
        (windowAfter time length earlier))

/- Each hit was counted in its window. -/
def Counted
    (time count : H → Nat)
    (length : Nat) : List H → Prop
| [] => True
| hit :: earlier =>
    count hit =
        (windowOf length (time hit)
          (windowAfter time length earlier)).hits ∧
      Counted time count length earlier

/- No hit is later than the ones after it. -/
def Ordered (time : H → Nat) (log : List H) : Prop :=
  log.Pairwise (fun later hit => time hit ≤ time later)

/-
  The log in windows, oldest first: the first hit of each
  opens it, the others fall in it and are counted, and the
  next window has no hit before its end.
-/
structure Windows
    (time count : H → Nat)
    (length : Nat)
    (log : List H)
    (windows : List (List H)) : Prop where
  cover : windows.flatten = log.reverse
  within :
    ∀ window ∈ windows,
      ∃ first rest,
        window = first :: rest ∧
          ∀ hit ∈ window,
            time first ≤ time hit ∧
              time hit < time first + length
  counted :
    ∀ window ∈ windows,
      window.map count = List.range' 1 window.length
  apart :
    windows.Pairwise
      (fun window next =>
        ∀ first ∈ window.head?,
          ∀ hit ∈ next, time first + length ≤ time hit)

end FixedWindow

------------------------------------------------------------
-- A Log In Windows
------------------------------------------------------------

namespace FixedWindow

variable {H : Type} {time count : H → Nat} {length : Nat}
variable {log : List H}

/- A log in windows, with the last window apart. -/
structure LastWindow
    (time count : H → Nat)
    (length : Nat)
    (log : List H)
    (done : List (List H))
    (first : H)
    (rest : List H) : Prop where
  windows :
    Windows time count length log (done ++ [first :: rest])
  last :
    windowAfter time length log =
      some ⟨time first, rest.length + 1⟩

theorem LastWindow.mem
    {done : List (List H)}
    {first : H}
    {rest : List H}
    (hLast : LastWindow time count length log done first rest) :
    ∀ hit ∈ first :: rest, hit ∈ log := by
  intro hit hMem
  rw [← List.mem_reverse, ← hLast.windows.cover]
  exact
    List.mem_flatten.mpr
      ⟨first :: rest, List.mem_append_right _ (by simp), hMem⟩

/- The windows before the last end before it is opened. -/
theorem LastWindow.before
    {done : List (List H)}
    {first : H}
    {rest : List H}
    (hLast : LastWindow time count length log done first rest) :
    ∀ window ∈ done,
      ∀ opening ∈ window.head?,
        time opening + length ≤ time first := by
  intro window hWindow opening hOpening
  have hApart := hLast.windows.apart
  rw [List.pairwise_append] at hApart
  exact
    hApart.2.2 window hWindow (first :: rest) (by simp)
      opening hOpening first List.mem_cons_self

/- A hit in the last window. -/
theorem LastWindow.extend
    {done : List (List H)}
    {first hit : H}
    {rest : List H}
    (hLast : LastWindow time count length log done first rest)
    (hOrder : ∀ other ∈ log, time other ≤ time hit)
    (hIn : time hit < time first + length)
    (hCount : count hit = rest.length + 2) :
    LastWindow time count length (hit :: log) done first
      (rest ++ [hit]) := by
  have hFirst : time first ≤ time hit :=
    hOrder first (hLast.mem first List.mem_cons_self)
  constructor
  case windows =>
    constructor
    case cover =>
      have hCover := hLast.windows.cover
      rw [List.flatten_append] at hCover ⊢
      rw [List.reverse_cons, ← hCover]
      simp
    case within =>
      intro window hWindow
      rcases List.mem_append.mp hWindow with hDone | hNew
      · exact
          hLast.windows.within window
            (List.mem_append_left _ hDone)
      · rw [List.mem_singleton] at hNew
        subst hNew
        refine ⟨first, rest ++ [hit], rfl, ?_⟩
        intro other hOther
        rw [← List.cons_append, List.mem_append,
          List.mem_singleton] at hOther
        rcases hOther with hOld | rfl
        · rcases
              hLast.windows.within (first :: rest)
                (by simp) with
            ⟨_, _, hSame, hAll⟩
          rw [List.cons.injEq] at hSame
          rw [hSame.1]
          exact hAll other hOld
        · exact ⟨hFirst, hIn⟩
    case counted =>
      intro window hWindow
      rcases List.mem_append.mp hWindow with hDone | hNew
      · exact
          hLast.windows.counted window
            (List.mem_append_left _ hDone)
      · rw [List.mem_singleton] at hNew
        subst hNew
        have hOld :=
          hLast.windows.counted (first :: rest) (by simp)
        rw [← List.cons_append, List.map_append, hOld,
          List.length_append, List.length_singleton,
          List.range'_concat]
        simp only [List.map_cons, List.map_nil, hCount,
          List.length_cons]
        congr 2
        omega
    case apart =>
      have hApart := hLast.windows.apart
      rw [List.pairwise_append] at hApart ⊢
      refine ⟨hApart.1, by simp, ?_⟩
      intro window hWindow next hNext opening hOpening other
        hOther
      rw [List.mem_singleton] at hNext
      subst hNext
      rw [← List.cons_append, List.mem_append,
        List.mem_singleton] at hOther
      have hBefore :=
        hLast.before window hWindow opening hOpening
      rcases hOther with hOld | rfl
      · exact
          hApart.2.2 window hWindow (first :: rest) (by simp)
            opening hOpening other hOld
      · omega
  case last =>
    rw [windowAfter, hLast.last, windowOf, if_pos hIn]
    simp

/- A hit that opens the next window. -/
theorem LastWindow.open
    {done : List (List H)}
    {first hit : H}
    {rest : List H}
    (hLength : 0 < length)
    (hLast : LastWindow time count length log done first rest)
    (hOut : time first + length ≤ time hit)
    (hCount : count hit = 1) :
    LastWindow time count length (hit :: log)
      (done ++ [first :: rest]) hit [] := by
  constructor
  case windows =>
    constructor
    case cover =>
      rw [List.flatten_append, hLast.windows.cover]
      simp
    case within =>
      intro window hWindow
      rcases List.mem_append.mp hWindow with hOld | hNew
      · exact hLast.windows.within window hOld
      · rw [List.mem_singleton] at hNew
        subst hNew
        refine ⟨hit, [], rfl, ?_⟩
        intro other hOther
        rw [List.mem_singleton] at hOther
        subst hOther
        omega
    case counted =>
      intro window hWindow
      rcases List.mem_append.mp hWindow with hOld | hNew
      · exact hLast.windows.counted window hOld
      · rw [List.mem_singleton] at hNew
        subst hNew
        simp [hCount]
    case apart =>
      rw [List.pairwise_append]
      refine ⟨hLast.windows.apart, by simp, ?_⟩
      intro window hWindow next hNext opening hOpening other
        hOther
      rw [List.mem_singleton] at hNext
      subst hNext
      rw [List.mem_singleton] at hOther
      subst hOther
      rcases List.mem_append.mp hWindow with hDone | hThis
      · have hBefore :=
          hLast.before window hDone opening hOpening
        omega
      · rw [List.mem_singleton] at hThis
        subst hThis
        rw [List.head?_cons, Option.mem_def,
          Option.some.injEq] at hOpening
        rw [← hOpening]
        exact hOut
  case last =>
    rw [windowAfter, hLast.last, windowOf,
      if_neg (by simpa using hOut)]
    rfl

/- The first hit of all. -/
theorem lastWindow_singleton
    {hit : H}
    (hLength : 0 < length)
    (hCount : count hit = 1) :
    LastWindow time count length [hit] [] hit [] where
  windows :=
    { cover := rfl
      within := by
        intro window hWindow
        rw [List.nil_append, List.mem_singleton] at hWindow
        subst hWindow
        exact ⟨hit, [], rfl, by simp [hLength]⟩
      counted := by simp [hCount]
      apart := by simp }
  last := rfl

/- A log that is not empty has a last window. -/
theorem Counted.lastWindow
    {hit : H}
    (hLength : 0 < length)
    (hCounted : Counted time count length (hit :: log))
    (hOrdered : Ordered time (hit :: log)) :
    ∃ done first rest,
      LastWindow time count length (hit :: log) done first
        rest := by
  induction log generalizing hit with
  | nil =>
      exact ⟨_, _, _, lastWindow_singleton hLength hCounted.1⟩
  | cons previous earlier ih =>
      rcases hCounted with ⟨hCount, hBefore⟩
      unfold Ordered at hOrdered
      rw [List.pairwise_cons] at hOrdered
      rcases ih hBefore hOrdered.2 with
        ⟨done, first, rest, hLast⟩
      rw [hLast.last, windowOf] at hCount
      by_cases hIn : time hit < time first + length
      · rw [if_pos hIn] at hCount
        exact
          ⟨_, _, _, hLast.extend hOrdered.1 hIn hCount⟩
      · rw [if_neg hIn] at hCount
        exact
          ⟨_, _, _, hLast.open hLength (not_lt.mp hIn) hCount⟩

/- Every counted log falls into windows. -/
theorem Counted.windows
    (hLength : 0 < length)
    (hCounted : Counted time count length log)
    (hOrdered : Ordered time log) :
    ∃ windows, Windows time count length log windows := by
  cases log with
  | nil =>
      exact
        ⟨[],
          { cover := rfl
            within := by simp
            counted := by simp
            apart := by simp }⟩
  | cons hit earlier =>
      rcases hCounted.lastWindow hLength hOrdered with
        ⟨_, _, _, hLast⟩
      exact ⟨_, hLast.windows⟩

/- A hit of a window is counted by its place. -/
theorem Windows.count_eq
    {windows : List (List H)}
    {window : List H}
    {hit : H}
    {index : Nat}
    (hWindows : Windows time count length log windows)
    (hWindow : window ∈ windows)
    (hHit : window[index]? = some hit) :
    count hit = index + 1 := by
  have hMap : (window.map count)[index]? = some (count hit) := by
    rw [List.getElem?_map, hHit, Option.map_some]
  rw [hWindows.counted window hWindow, List.getElem?_range'
    (List.getElem?_eq_some_iff.mp hHit).1] at hMap
  rw [Option.some.injEq] at hMap
  omega

/- The first hit after the end of a window opens the next. -/
theorem Windows.reopens
    {windows : List (List H)}
    {window : List H}
    {first hit : H}
    (hWindows : Windows time count length log windows)
    (hWindow : window ∈ windows)
    (hFirst : first ∈ window.head?)
    (hFind :
      log.reverse.find?
          (fun other =>
            decide (time first + length ≤ time other)) =
        some hit) :
    count hit = 1 := by
  rcases List.append_of_mem hWindow with
    ⟨before, after, hSplit⟩
  have hApart := hWindows.apart
  rw [hSplit, List.pairwise_append, List.pairwise_cons]
    at hApart
  have hBefore :
      before.flatten.find?
          (fun other =>
            decide (time first + length ≤ time other)) =
        none := by
    rw [List.find?_eq_none]
    intro other hOther
    rcases List.mem_flatten.mp hOther with
      ⟨earlier, hEarlier, hMem⟩
    rcases
        hWindows.within earlier
          (by rw [hSplit]; exact List.mem_append_left _ hEarlier)
      with
      ⟨opening, rest, rfl, hAll⟩
    have hLt := (hAll other hMem).2
    have hEnd :=
      hApart.2.2 _ hEarlier window List.mem_cons_self
        opening rfl first (List.mem_of_mem_head? hFirst)
    simp only [decide_eq_true_eq, not_le]
    omega
  have hThis :
      window.find?
          (fun other =>
            decide (time first + length ≤ time other)) =
        none := by
    rw [List.find?_eq_none]
    intro other hMem
    rcases hWindows.within window hWindow with
      ⟨opening, rest, rfl, hAll⟩
    rw [List.head?_cons, Option.mem_def, Option.some.injEq]
      at hFirst
    have hLt := (hAll other hMem).2
    rw [hFirst] at hLt
    simpa using hLt
  rw [← hWindows.cover, hSplit, List.flatten_append,
    List.flatten_cons, List.find?_append, hBefore,
    Option.none_or, List.find?_append, hThis, Option.none_or]
    at hFind
  cases after with
  | nil => simp at hFind
  | cons next rest =>
      have hNext : next ∈ windows := by
        rw [hSplit]
        simp
      rcases hWindows.within next hNext with
        ⟨opening, others, rfl, _⟩
      have hLater :=
        hApart.2.1.1 _ List.mem_cons_self first hFirst opening
          List.mem_cons_self
      rw [List.flatten_cons, List.cons_append,
        List.find?_cons_of_pos (by simpa using hLater),
        Option.some.injEq] at hFind
      have hHead : (opening :: others)[0]? = some opening := rfl
      rw [← hFind]
      exact hWindows.count_eq hNext hHead

end FixedWindow

------------------------------------------------------------
-- Hits Within The Limit
------------------------------------------------------------

namespace FixedWindow

variable {H : Type} {time count : H → Nat} {length : Nat}
variable {log : List H}

/- The hits within the limit that are not before `start`. -/
def allowedFrom
    (time count : H → Nat)
    (limit start : Nat)
    (log : List H) : Nat :=
  log.countP
    (fun hit =>
      decide (start ≤ time hit ∧ count hit ≤ limit))

theorem allowedFrom_cons
    {hit : H}
    {limit start : Nat} :
    allowedFrom time count limit start (hit :: log) =
      allowedFrom time count limit start log +
        (if start ≤ time hit ∧ count hit ≤ limit then 1
          else 0) := by
  unfold allowedFrom
  rw [List.countP_cons]
  simp only [decide_eq_true_eq]

/-
  What the last window says of the log. Of an interval that
  begins after the window was opened it has all the hits,
  and of one that begins less than a window before that, all
  but those of one other window.
-/
structure Limits
    (time count : H → Nat)
    (length limit : Nat)
    (log : List H)
    (window : Window) : Prop where
  within :
    ∀ hit ∈ log, time hit < window.opened + length
  after :
    ∀ start,
      window.opened ≤ start →
        allowedFrom time count limit start log ≤
          min window.hits limit
  across :
    ∀ start,
      window.opened < start + length →
        allowedFrom time count limit start log ≤
          limit + min window.hits limit

theorem allowedFrom_eq_zero
    {limit start : Nat}
    (hBefore : ∀ hit ∈ log, time hit < start) :
    allowedFrom time count limit start log = 0 := by
  unfold allowedFrom
  rw [List.countP_eq_zero]
  intro hit hMem
  have hLt := hBefore hit hMem
  rw [decide_eq_true_eq, not_and_or, not_le]
  exact Or.inl hLt

/- One more hit in the window. -/
theorem Limits.extend
    {window : Window}
    {limit : Nat}
    {hit : H}
    (hLimits : Limits time count length limit log window)
    (hIn : time hit < window.opened + length)
    (hCount : count hit = window.hits + 1) :
    Limits time count length limit (hit :: log)
      ⟨window.opened, window.hits + 1⟩ where
  within := List.forall_mem_cons.mpr ⟨hIn, hLimits.within⟩
  after := by
    intro start hStart
    dsimp only at hStart ⊢
    have hOld := hLimits.after start hStart
    rw [allowedFrom_cons, hCount]
    split
    · omega
    · omega
  across := by
    intro start hStart
    dsimp only at hStart ⊢
    have hOld := hLimits.across start hStart
    rw [allowedFrom_cons, hCount]
    split
    · omega
    · omega

/- The first hit of the next window. -/
theorem Limits.open
    {window : Window}
    {limit : Nat}
    {hit : H}
    (hLength : 0 < length)
    (hLimits : Limits time count length limit log window)
    (hOut : window.opened + length ≤ time hit)
    (hCount : count hit = 1) :
    Limits time count length limit (hit :: log)
      ⟨time hit, 1⟩ where
  within := by
    rw [List.forall_mem_cons]
    refine ⟨Nat.lt_add_of_pos_right hLength, ?_⟩
    intro other hOther
    have hBefore := hLimits.within other hOther
    dsimp only
    omega
  after := by
    intro start hStart
    dsimp only at hStart ⊢
    have hNone :
        allowedFrom time count limit start log = 0 := by
      apply allowedFrom_eq_zero
      intro other hOther
      have hBefore := hLimits.within other hOther
      omega
    rw [allowedFrom_cons, hNone, hCount]
    split
    · omega
    · omega
  across := by
    intro start hStart
    dsimp only at hStart ⊢
    have hOld := hLimits.after start (by omega)
    rw [allowedFrom_cons, hCount]
    split
    · omega
    · omega

/- The limits of every log. -/
theorem Counted.limits
    {hit : H}
    (hLength : 0 < length)
    (hCounted : Counted time count length (hit :: log))
    (hOrdered : Ordered time (hit :: log))
    (limit : Nat) :
    ∃ window,
      windowAfter time length (hit :: log) = some window ∧
        window.opened ≤ time hit ∧
        Limits time count length limit (hit :: log)
          window := by
  induction log generalizing hit with
  | nil =>
      have hCount : count hit = 1 := hCounted.1
      refine ⟨⟨time hit, 1⟩, rfl, le_refl _, ?_⟩
      constructor
      case within => simp [hLength]
      case after =>
        intro start _
        rw [allowedFrom_cons, hCount]
        simp only [allowedFrom, List.countP_nil]
        split
        · omega
        · omega
      case across =>
        intro start _
        rw [allowedFrom_cons, hCount]
        simp only [allowedFrom, List.countP_nil]
        split
        · omega
        · omega
  | cons previous earlier ih =>
      rcases hCounted with ⟨hCount, hBefore⟩
      unfold Ordered at hOrdered
      rw [List.pairwise_cons] at hOrdered
      rcases ih hBefore hOrdered.2 with
        ⟨window, hWindow, hOpened, hLimits⟩
      have hLater : time previous ≤ time hit :=
        hOrdered.1 previous List.mem_cons_self
      rw [hWindow, windowOf] at hCount
      rw [windowAfter, hWindow, windowOf]
      by_cases hIn : time hit < window.opened + length
      · rw [if_pos hIn] at hCount ⊢
        exact
          ⟨_, rfl, by simpa using hOpened.trans hLater,
            hLimits.extend hIn hCount⟩
      · rw [if_neg hIn] at hCount ⊢
        exact
          ⟨_, rfl, le_refl _,
            hLimits.open hLength (not_lt.mp hIn) hCount⟩

/-
  Any interval of the length of a window has at most twice
  as many hits within the limit as the limit allows.
-/
theorem Counted.countP_le
    (hLength : 0 < length)
    (hCounted : Counted time count length log)
    (hOrdered : Ordered time log)
    (limit start : Nat) :
    log.countP
        (fun hit =>
          decide
            (start ≤ time hit ∧ time hit < start + length ∧
              count hit ≤ limit)) ≤
      2 * limit := by
  induction log with
  | nil => simp
  | cons hit earlier ih =>
      by_cases hIn : time hit < start + length
      · rcases hCounted.limits hLength hOrdered limit with
          ⟨window, _, hOpened, hLimits⟩
        have hAcross := hLimits.across start (by omega)
        have hSub :
            (hit :: earlier).countP
                (fun other =>
                  decide
                    (start ≤ time other ∧
                      time other < start + length ∧
                        count other ≤ limit)) ≤
              allowedFrom time count limit start
                (hit :: earlier) := by
          apply List.countP_mono_left
          intro other _ hOther
          rw [decide_eq_true_eq] at hOther ⊢
          exact ⟨hOther.1, hOther.2.2⟩
        omega
      · rw [List.countP_cons_of_neg (by simp [hIn])]
        exact ih hCounted.2 (List.Pairwise.of_cons hOrdered)

end FixedWindow

------------------------------------------------------------
-- The Hits Before A Hit
------------------------------------------------------------

namespace FixedWindow

variable {H : Type} {time count : H → Nat} {length : Nat}
variable {log : List H}

/- The last window has the newest hits of the log. -/
structure Newest
    (time : H → Nat)
    (length : Nat)
    (log : List H)
    (window : Window) : Prop where
  pos : 0 < window.hits
  hits : window.hits ≤ log.length
  within :
    ∀ hit ∈ log.take window.hits,
      window.opened ≤ time hit ∧
        time hit < window.opened + length

/- A hit that opens a window. -/
theorem newest_open
    (hLength : 0 < length)
    (hit : H)
    (earlier : List H) :
    Newest time length (hit :: earlier) ⟨time hit, 1⟩ where
  pos := Nat.one_pos
  hits := by simp
  within := by simp [hLength]

/- A hit that falls in the last window. -/
theorem Newest.extend
    {hit : H}
    {window : Window}
    (hNewest : Newest time length log window)
    (hOrder : ∀ other ∈ log, time other ≤ time hit)
    (hIn : time hit < window.opened + length) :
    Newest time length (hit :: log)
      ⟨window.opened, window.hits + 1⟩ where
  pos := Nat.succ_pos _
  hits := Nat.succ_le_succ hNewest.hits
  within := by
    intro other hOther
    rw [List.take_succ_cons, List.mem_cons] at hOther
    rcases hOther with rfl | hOld
    · refine ⟨?_, hIn⟩
      -- It is no earlier than another hit of the window.
      have hSome : log.take window.hits ≠ [] := by
        rw [← List.length_pos_iff, List.length_take]
        exact lt_min hNewest.pos
          (hNewest.pos.trans_le hNewest.hits)
      rcases List.exists_mem_of_ne_nil _ hSome with
        ⟨last, hLast⟩
      exact
        (hNewest.within last hLast).1.trans
          (hOrder last (List.mem_of_mem_take hLast))
    · exact hNewest.within other hOld

theorem newest_windowAfter
    {hit : H}
    {earlier : List H}
    (hLength : 0 < length)
    (hOrdered : Ordered time (hit :: earlier)) :
    Newest time length (hit :: earlier)
      (windowOf length (time hit)
        (windowAfter time length earlier)) := by
  induction earlier generalizing hit with
  | nil => exact newest_open hLength hit []
  | cons last before ih =>
      unfold Ordered at hOrdered
      rw [List.pairwise_cons] at hOrdered
      have hLast := ih hOrdered.2
      rw [windowAfter, windowOf]
      split
      · next hIn => exact hLast.extend hOrdered.1 hIn
      · exact newest_open hLength hit _

theorem Counted.drop
    {later : List H}
    (hCounted : Counted time count length (later ++ log)) :
    Counted time count length log := by
  induction later with
  | nil => exact hCounted
  | cons hit later ih => exact ih hCounted.2

theorem Ordered.drop
    {later : List H}
    (hOrdered : Ordered time (later ++ log)) :
    Ordered time log :=
  (List.pairwise_append.mp hOrdered).2.1

/-
  A hit with a number was preceded by that many, less one,
  within the length of a window.
-/
theorem Counted.preceded
    {hit : H}
    {earlier : List H}
    (hLength : 0 < length)
    (hCounted : Counted time count length (hit :: earlier))
    (hOrdered : Ordered time (hit :: earlier)) :
    count hit ≤ earlier.length + 1 ∧
      ∀ other ∈ earlier.take (count hit - 1),
        time other ≤ time hit ∧
          time hit < time other + length := by
  have hNewest := newest_windowAfter hLength hOrdered
  have hPos := hNewest.pos
  have hHits := hNewest.hits
  have hAll := hNewest.within
  rw [← hCounted.1] at hPos hHits hAll
  refine ⟨hHits, ?_⟩
  intro other hOther
  have hOrder := (List.pairwise_cons.mp hOrdered).1
  have hTake :
      (hit :: earlier).take (count hit) =
        hit :: earlier.take (count hit - 1) := by
    rw [← Nat.sub_add_cancel hPos, List.take_succ_cons,
      Nat.add_sub_cancel]
  rw [hTake, List.forall_mem_cons] at hAll
  have hFirst := hAll.1
  have hBefore := hAll.2 other hOther
  exact
    ⟨hOrder other (List.mem_of_mem_take hOther), by omega⟩

end FixedWindow

------------------------------------------------------------
-- Times Determine Counts
------------------------------------------------------------

namespace FixedWindow

variable {H : Type} {time count : H → Nat} {length : Nat}

theorem windowAfter_eq_of_times
    {log other : List H}
    (hTimes : log.map time = other.map time) :
    windowAfter time length log =
      windowAfter time length other := by
  induction log generalizing other with
  | nil =>
      cases other with
      | nil => rfl
      | cons hit earlier => simp at hTimes
  | cons hit earlier ih =>
      cases other with
      | nil => simp at hTimes
      | cons hit' earlier' =>
          rw [List.map_cons, List.map_cons, List.cons.injEq]
            at hTimes
          rw [windowAfter, windowAfter, hTimes.1,
            ih hTimes.2]

/- Two logs of the same times have the same counts. -/
theorem Counted.eq_of_times
    {log other : List H}
    (hCounted : Counted time count length log)
    (hOther : Counted time count length other)
    (hTimes : log.map time = other.map time) :
    log.map count = other.map count := by
  induction log generalizing other with
  | nil =>
      cases other with
      | nil => rfl
      | cons hit earlier => simp at hTimes
  | cons hit earlier ih =>
      cases other with
      | nil => simp at hTimes
      | cons hit' earlier' =>
          rw [List.map_cons, List.map_cons, List.cons.injEq]
            at hTimes
          rw [List.map_cons, List.map_cons, hCounted.1,
            hOther.1, hTimes.1,
            windowAfter_eq_of_times hTimes.2,
            ih hCounted.2 hOther.2 hTimes.2]

end FixedWindow
