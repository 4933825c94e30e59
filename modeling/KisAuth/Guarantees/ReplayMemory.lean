import Mathlib.Data.List.Pairwise
import KisAuth.Security.Verification

/-
  Replays of signed requests.

  The verifier remembers an accepted nonce for as long as
  the accepted skew, counted from the acceptance. The window
  of a timestamp may be open for longer than that, and then
  a forgotten request is accepted again.

  Key definitions include:
    * `VerifyRun`, `acceptedCalls`
    * `NoReplay`, `WithinMemory`

  Key theorems include:
    * `no_replay_within_memory`
    * `replay_accepted`
-/

------------------------------------------------------------
-- Runs Of Verifications
------------------------------------------------------------

namespace KisAuth

/- All clock readings, in the order they are made. -/
def readings (calls : List VerifyCall) : List ℚ :=
  calls.flatMap (fun call => [call.checkedAt, call.now])

/-
  The verifications of one process, first to last. The clock
  never goes back.
-/
structure VerifyRun where
  calls : List VerifyCall
  ordered : (readings calls).Pairwise (· ≤ ·)

variable (P : Platform) (secret : String)
variable (maxSkewSeconds : ℚ)

/- The results of all verifications, first to last. -/
def verifyAll :
    NonceCache → List VerifyCall → List (Option VerifyResult)
| _, [] => []
| cache, call :: rest =>
    (call.verify P secret maxSkewSeconds cache).1 ::
      verifyAll (call.verify P secret maxSkewSeconds cache).2
        rest

/- The call, when its request was accepted. -/
def acceptedOf :
    Option VerifyResult × VerifyCall → Option VerifyCall
| (some .ok, call) => some call
| _ => none

/- The calls that accepted their request, first to last. -/
def acceptedCalls
    (cache : NonceCache)
    (calls : List VerifyCall) : List VerifyCall :=
  ((verifyAll P secret maxSkewSeconds cache calls).zip
    calls).filterMap acceptedOf

/- The same signed request. -/
structure SameSigned (left right : SignedRequest) :
    Prop where
  method : left.method = right.method
  url : left.url = right.url
  body : left.body = right.body
  headers :
    headerTexts left.headers = headerTexts right.headers

/- No signed request is accepted twice. -/
def NoReplay (calls : List VerifyCall) : Prop :=
  (acceptedCalls P secret maxSkewSeconds [] calls).Pairwise
    (fun first second =>
      ¬SameSigned first.request second.request)

/-
  A request that is presented again while its timestamp is
  still inside the window is presented before its nonce may
  be forgotten.
-/
def WithinMemory (calls : List VerifyCall) : Prop :=
  calls.Pairwise (fun first second =>
    SameSigned first.request second.request →
      ∀ texts,
        Acceptable P secret maxSkewSeconds first texts →
          Acceptable P secret maxSkewSeconds second texts →
            second.now < first.memoryUntil maxSkewSeconds)

/- Every nonce is used by one signed request. -/
def OwnNonces (calls : List VerifyCall) : Prop :=
  calls.Pairwise (fun first second =>
    ∀ texts texts',
      headerTexts first.request.headers = some texts →
        headerTexts second.request.headers = some texts' →
          texts.nonce = texts'.nonce →
            SameSigned first.request second.request)

end KisAuth

------------------------------------------------------------
-- The Memory Over A Run
------------------------------------------------------------

namespace KisAuth

variable {P : Platform} {secret : String}
variable {maxSkewSeconds : ℚ}

@[simp] theorem mem_purge_iff
    (now : ℚ)
    (cache : NonceCache)
    (entry : String × ℚ) :
    entry ∈ purge now cache ↔
      entry ∈ cache ∧ now < entry.2 := by
  simp [purge]

theorem remembers_iff
    (cache : NonceCache)
    (nonce : String) :
    remembers cache nonce = true ↔
      ∃ expiresAt, (nonce, expiresAt) ∈ cache := by
  simp [remembers]

/- A nonce is remembered until it expires. -/
theorem verify_keeps
    {call : VerifyCall}
    {cache : NonceCache}
    {nonce : String}
    {expiresAt : ℚ}
    (hMem : (nonce, expiresAt) ∈ cache)
    (hLive : call.now < expiresAt) :
    (nonce, expiresAt) ∈
      (call.verify P secret maxSkewSeconds cache).2 := by
  have hPurged : (nonce, expiresAt) ∈ purge call.now cache :=
    (mem_purge_iff _ _ _).mpr ⟨hMem, hLive⟩
  by_cases hAccepted :
      (call.verify P secret maxSkewSeconds cache).1 =
        some .ok
  · rcases verify_accepted hAccepted with
      ⟨texts, _, _, hCache⟩
    rw [hCache]
    exact List.mem_append_left _ hPurged
  · rcases verify_refused hAccepted with hSame | hPurge
    · rw [hSame]
      exact hMem
    · rw [hPurge]
      exact hPurged

theorem acceptedCalls_cons
    (cache : NonceCache)
    (call : VerifyCall)
    (rest : List VerifyCall) :
    acceptedCalls P secret maxSkewSeconds cache
        (call :: rest) =
      if (call.verify P secret maxSkewSeconds cache).1 =
          some .ok then
        call ::
          acceptedCalls P secret maxSkewSeconds
            (call.verify P secret maxSkewSeconds cache).2
            rest
      else
        acceptedCalls P secret maxSkewSeconds
          (call.verify P secret maxSkewSeconds cache).2
          rest := by
  unfold acceptedCalls
  rw [verifyAll, List.zip_cons_cons, List.filterMap_cons]
  cases (call.verify P secret maxSkewSeconds cache).1 with
  | none => simp [acceptedOf]
  | some result => cases result <;> simp [acceptedOf]

theorem acceptedCalls_sublist
    (cache : NonceCache)
    (calls : List VerifyCall) :
    (acceptedCalls P secret maxSkewSeconds cache
      calls).Sublist calls := by
  induction calls generalizing cache with
  | nil => exact List.Sublist.refl _
  | cons call rest ih =>
      rw [acceptedCalls_cons]
      split
      · exact (ih _).cons_cons call
      · exact (ih _).cons call

/- Later calls read the clock later. -/
def LaterReadings (calls : List VerifyCall) : Prop :=
  calls.Pairwise (fun first second =>
    first.now ≤ second.now)

theorem VerifyRun.laterReadings (run : VerifyRun) :
    LaterReadings run.calls := by
  rcases run with ⟨calls, hOrdered⟩
  unfold readings at hOrdered
  unfold LaterReadings
  induction calls with
  | nil => exact List.Pairwise.nil
  | cons call rest ih =>
      simp only [List.flatMap_cons, List.cons_append,
        List.nil_append, List.pairwise_cons] at hOrdered
      rcases hOrdered with ⟨_, hNow, hRest⟩
      refine List.Pairwise.cons ?_ (ih hRest)
      intro other hOther
      apply hNow
      exact List.mem_flatMap.mpr ⟨other, hOther, by simp⟩

/- Accepted calls are acceptable. -/
theorem acceptable_of_accepted
    {calls : List VerifyCall}
    {cache : NonceCache}
    {call : VerifyCall}
    (hMem :
      call ∈ acceptedCalls P secret maxSkewSeconds cache
        calls) :
    ∃ texts,
      Acceptable P secret maxSkewSeconds call texts := by
  induction calls generalizing cache with
  | nil => simp [acceptedCalls, verifyAll] at hMem
  | cons head rest ih =>
      rw [acceptedCalls_cons] at hMem
      split at hMem
      · next hAccepted =>
          rcases List.mem_cons.mp hMem with rfl | hRest
          · rcases verify_accepted hAccepted with
              ⟨texts, hAcceptable, _⟩
            exact ⟨texts, hAcceptable⟩
          · exact ih hRest
      · exact ih hMem

/-
  While a nonce is remembered, no call accepts it. The
  induction is on the calls, with any memory.
-/
theorem not_accepted_while_remembered
    {calls : List VerifyCall}
    {cache : NonceCache}
    {texts : HeaderTexts}
    {expiresAt : ℚ}
    {call : VerifyCall}
    (hLater : LaterReadings calls)
    (hRemembered : (texts.nonce, expiresAt) ∈ cache)
    (hMem :
      call ∈ acceptedCalls P secret maxSkewSeconds cache
        calls)
    (hTexts :
      headerTexts call.request.headers = some texts) :
    expiresAt ≤ call.now := by
  induction calls generalizing cache with
  | nil => simp [acceptedCalls, verifyAll] at hMem
  | cons head rest ih =>
      rcases List.pairwise_cons.mp hLater with
        ⟨hHead, hRest⟩
      by_cases hLive : head.now < expiresAt
      · have hKept :
            (texts.nonce, expiresAt) ∈
              (head.verify P secret maxSkewSeconds cache).2 :=
          verify_keeps hRemembered hLive
        rw [acceptedCalls_cons] at hMem
        split at hMem
        · next hAccepted =>
            rcases List.mem_cons.mp hMem with rfl | hMem
            · rcases verify_accepted hAccepted with
                ⟨other, hAcceptable, hFresh, _⟩
              have hHeaders := hAcceptable.headers
              rw [hTexts, Option.some.injEq] at hHeaders
              subst hHeaders
              rw [Bool.eq_false_iff] at hFresh
              apply absurd _ hFresh
              exact (remembers_iff _ _).mpr
                ⟨expiresAt,
                  (mem_purge_iff _ _ _).mpr
                    ⟨hRemembered, hLive⟩⟩
            · exact ih hRest hKept hMem
        · exact ih hRest hKept hMem
      · have hExpired : expiresAt ≤ head.now :=
          not_lt.mp hLive
        have hSub : call ∈ head :: rest :=
          (acceptedCalls_sublist cache _).subset hMem
        rcases List.mem_cons.mp hSub with rfl | hMem
        · exact hExpired
        · exact hExpired.trans (hHead call hMem)

/-
  Two accepted calls with one nonce are apart by at least
  the time the nonce is remembered.
-/
theorem accepted_apart
    {calls : List VerifyCall}
    (cache : NonceCache)
    (hLater : LaterReadings calls) :
    (acceptedCalls P secret maxSkewSeconds cache
      calls).Pairwise
      (fun first second =>
        ∀ texts,
          headerTexts first.request.headers = some texts →
            headerTexts second.request.headers =
                some texts →
              first.memoryUntil maxSkewSeconds ≤
                second.now) := by
  induction calls generalizing cache with
  | nil => exact List.Pairwise.nil
  | cons head rest ih =>
      have hRest := (List.pairwise_cons.mp hLater).2
      rw [acceptedCalls_cons]
      split
      · next hAccepted =>
          refine List.Pairwise.cons ?_ (ih _ hRest)
          intro second hSecond texts hHead hTexts
          rcases verify_accepted hAccepted with
            ⟨other, hAcceptable, _, hCache⟩
          have hHeaders := hAcceptable.headers
          rw [hHead, Option.some.injEq] at hHeaders
          subst hHeaders
          apply not_accepted_while_remembered hRest _ hSecond
            hTexts
          rw [hCache]
          exact List.mem_append_right _
            List.mem_cons_self
      · exact ih _ hRest

theorem now_lt_memoryUntil
    (maxSkewSeconds : ℚ)
    (call : VerifyCall) :
    call.now < call.memoryUntil maxSkewSeconds := by
  have hSkew : (30 : ℤ) ≤ acceptedSkew maxSkewSeconds :=
    le_max_left _ _
  have hRat : (30 : ℚ) ≤ acceptedSkew maxSkewSeconds := by
    exact_mod_cast hSkew
  unfold VerifyCall.memoryUntil
  linarith

/- An accepted call that still remembers a call's nonce. -/
structure Covers
    (maxSkewSeconds : ℚ)
    (covering call : VerifyCall)
    (nonce : String) : Prop where
  names :
    ∃ texts,
      headerTexts covering.request.headers = some texts ∧
        texts.nonce = nonce
  before : covering.now ≤ call.now
  remembered :
    call.now < covering.memoryUntil maxSkewSeconds

/-
  An acceptable call is covered, unless its nonce was
  remembered from the start: its request was accepted, by
  the call itself or by one whose nonce is remembered.
-/
theorem acceptable_covered
    {calls : List VerifyCall}
    {cache : NonceCache}
    {call : VerifyCall}
    {texts : HeaderTexts}
    (hLater : LaterReadings calls)
    (hMem : call ∈ calls)
    (hAcceptable :
      Acceptable P secret maxSkewSeconds call texts) :
    (∃ expiresAt,
        (texts.nonce, expiresAt) ∈ cache ∧
          call.now < expiresAt) ∨
      ∃ covering ∈ acceptedCalls P secret maxSkewSeconds
          cache calls,
        Covers maxSkewSeconds covering call texts.nonce := by
  induction calls generalizing cache with
  | nil => simp at hMem
  | cons head rest ih =>
      rcases List.pairwise_cons.mp hLater with
        ⟨hHead, hRest⟩
      rw [acceptedCalls_cons]
      rcases List.mem_cons.mp hMem with rfl | hMem
      · split
        · right
          refine ⟨call, List.mem_cons_self, ?_⟩
          exact
            ⟨⟨texts, hAcceptable.headers, rfl⟩, le_refl _,
              now_lt_memoryUntil maxSkewSeconds call⟩
        · next hRefused =>
            left
            have hRemembers :=
              verify_acceptable hAcceptable hRefused
            rcases (remembers_iff _ _).mp hRemembers with
              ⟨expiresAt, hPurged⟩
            exact ⟨expiresAt, (mem_purge_iff _ _ _).mp hPurged⟩
      · rcases @ih (head.verify P secret maxSkewSeconds cache).2
            hRest hMem with
          ⟨expiresAt, hCache, hLive⟩ |
          ⟨covering, hCovering, hCovers⟩
        · split
          · next hAccepted =>
              rcases verify_accepted hAccepted with
                ⟨other, hOther, _, hSame⟩
              rw [hSame] at hCache
              rcases List.mem_append.mp hCache with
                hPurged | hNew
              · left
                exact
                  ⟨expiresAt,
                    ((mem_purge_iff _ _ _).mp hPurged).1,
                    hLive⟩
              · right
                simp only [List.mem_singleton,
                  Prod.mk.injEq] at hNew
                rcases hNew with ⟨hNonce, rfl⟩
                refine ⟨head, List.mem_cons_self, ?_⟩
                exact
                  ⟨⟨other, hOther.headers, hNonce.symm⟩,
                    hHead call hMem, hLive⟩
          · next hRefused =>
              left
              rcases verify_refused hRefused with
                hSame | hPurged
              · rw [hSame] at hCache
                exact ⟨expiresAt, hCache, hLive⟩
              · rw [hPurged] at hCache
                exact
                  ⟨expiresAt,
                    ((mem_purge_iff _ _ _).mp hCache).1,
                    hLive⟩
        · right
          refine ⟨covering, ?_, hCovers⟩
          split
          · exact List.mem_cons_of_mem _ hCovering
          · exact hCovering

end KisAuth

------------------------------------------------------------
-- Replays
------------------------------------------------------------

namespace KisAuth

variable {P : Platform} {secret : String}
variable {maxSkewSeconds : ℚ}

theorem noReplay_of_withinMemory
    {calls : List VerifyCall}
    (hLater : LaterReadings calls)
    (hWithin :
      WithinMemory P secret maxSkewSeconds calls) :
    NoReplay P secret maxSkewSeconds calls := by
  have hApart :=
    @accepted_apart P secret maxSkewSeconds calls [] hLater
  have hSub :
      (acceptedCalls P secret maxSkewSeconds []
        calls).Sublist calls :=
    acceptedCalls_sublist [] calls
  have hPairs := hWithin.sublist hSub
  unfold NoReplay
  apply List.Pairwise.imp_of_mem _ (hApart.and hPairs)
  rintro first second hFirst hSecond ⟨hFar, hNear⟩ hSame
  rcases acceptable_of_accepted hFirst with
    ⟨texts, hAcceptable⟩
  rcases acceptable_of_accepted hSecond with
    ⟨other, hOther⟩
  have hTexts :
      headerTexts second.request.headers = some texts := by
    rw [← hSame.headers]
    exact hAcceptable.headers
  have hEq : other = texts := by
    have hBoth := hOther.headers
    rw [hTexts, Option.some.injEq] at hBoth
    exact hBoth.symm
  subst hEq
  have hBefore := hNear hSame other hAcceptable hOther
  have hAfter := hFar other hAcceptable.headers hTexts
  exact absurd hBefore (not_lt.mpr hAfter)

theorem SameSigned.symm
    {left right : SignedRequest}
    (hSame : SameSigned left right) :
    SameSigned right left :=
  ⟨hSame.method.symm, hSame.url.symm, hSame.body.symm,
    hSame.headers.symm⟩

/- Calls with one nonce carry one signed request. -/
theorem OwnNonces.sameSigned
    {calls : List VerifyCall}
    {left right : VerifyCall}
    {texts texts' : HeaderTexts}
    (hOwn : OwnNonces calls)
    (hLeft : left ∈ calls)
    (hRight : right ∈ calls)
    (hNe : left ≠ right)
    (hTexts :
      headerTexts left.request.headers = some texts)
    (hTexts' :
      headerTexts right.request.headers = some texts')
    (hNonce : texts.nonce = texts'.nonce) :
    SameSigned left.request right.request := by
  have hSymm :
      Std.Symm (fun first second : VerifyCall =>
        ∀ texts texts',
          headerTexts first.request.headers = some texts →
            headerTexts second.request.headers =
                some texts' →
              texts.nonce = texts'.nonce →
                SameSigned first.request second.request) := by
    constructor
    intro first second hPair other other' hOther hOther' hEq
    exact (hPair other' other hOther' hOther hEq.symm).symm
  exact
    List.Pairwise.forall hOwn hLeft hRight hNe texts texts'
      hTexts hTexts' hNonce

/- Different accepted calls carry different requests. -/
theorem NoReplay.not_sameSigned
    {calls : List VerifyCall}
    {left right : VerifyCall}
    (hNone : NoReplay P secret maxSkewSeconds calls)
    (hLeft :
      left ∈ acceptedCalls P secret maxSkewSeconds [] calls)
    (hRight :
      right ∈ acceptedCalls P secret maxSkewSeconds [] calls)
    (hNe : left ≠ right) :
    ¬SameSigned left.request right.request := by
  have hSymm :
      Std.Symm (fun first second : VerifyCall =>
        ¬SameSigned first.request second.request) := by
    constructor
    intro first second hPair hSame
    exact hPair hSame.symm
  exact List.Pairwise.forall hNone hLeft hRight hNe

/-
  A request that is presented again in its window, after its
  nonce may be forgotten, is accepted twice: the calls that
  cover the two presentations are different.
-/
theorem withinMemory_of_noReplay
    {calls : List VerifyCall}
    (hLater : LaterReadings calls)
    (hOwn : OwnNonces calls)
    (hNone : NoReplay P secret maxSkewSeconds calls) :
    WithinMemory P secret maxSkewSeconds calls := by
  unfold WithinMemory
  rw [List.pairwise_iff_forall_sublist]
  intro first second hPair hSame texts hFirst hSecond
  by_contra hFar
  rw [not_lt] at hFar
  have hMemFirst : first ∈ calls := hPair.subset (by simp)
  have hMemSecond : second ∈ calls := hPair.subset (by simp)
  rcases @acceptable_covered P secret maxSkewSeconds calls []
      first texts hLater hMemFirst hFirst with
    ⟨_, hNil, _⟩ | ⟨left, hLeft, hCovers⟩
  · simp at hNil
  rcases @acceptable_covered P secret maxSkewSeconds calls []
      second texts hLater hMemSecond hSecond with
    ⟨_, hNil, _⟩ | ⟨right, hRight, hCovers'⟩
  · simp at hNil
  have hNe : left ≠ right := by
    rintro rfl
    have hBefore := hCovers.before
    have hAfter := hCovers'.remembered
    unfold VerifyCall.memoryUntil at hAfter hFar
    linarith
  rcases hCovers.names with ⟨mine, hMine, hNonce⟩
  rcases hCovers'.names with ⟨other, hOther, hNonce'⟩
  apply hNone.not_sameSigned hLeft hRight hNe
  exact hOwn.sameSigned
    ((acceptedCalls_sublist [] calls).subset hLeft)
    ((acceptedCalls_sublist [] calls).subset hRight) hNe
    hMine hOther (hNonce.trans hNonce'.symm)

/-
  A run accepts no request twice when each one is presented
  in its window only while its nonce is remembered. Where no
  two requests share a nonce, it does so in no other case.
-/
theorem no_replay_within_memory (run : VerifyRun) :
    (WithinMemory P secret maxSkewSeconds run.calls →
        NoReplay P secret maxSkewSeconds run.calls) ∧
      (OwnNonces run.calls →
        NoReplay P secret maxSkewSeconds run.calls →
          WithinMemory P secret maxSkewSeconds run.calls) :=
  ⟨noReplay_of_withinMemory run.laterReadings,
    withinMemory_of_noReplay run.laterReadings⟩

/-
  The condition in terms of timestamps: where both readings
  of a call agree, a timestamp from before the second of the
  call leaves the window before its nonce is forgotten. A
  timestamp of that second or of the future does not.
-/
theorem withinMemory_of_past_timestamps
    {calls : List VerifyCall}
    (hAgree : ∀ call ∈ calls, call.checkedAt = call.now)
    (hPast :
      ∀ call ∈ calls, ∀ texts ts,
        Acceptable P secret maxSkewSeconds call texts →
          P.number texts.timestamp = some ts →
            ts < Int.floor (call.now / 1000)) :
    WithinMemory P secret maxSkewSeconds calls := by
  unfold WithinMemory
  rw [List.pairwise_iff_forall_sublist]
  intro first second hPair hSame texts hFirst hSecond
  have hMemFirst : first ∈ calls := hPair.subset (by simp)
  have hMemSecond : second ∈ calls := hPair.subset (by simp)
  rcases hSecond.inWindow with ⟨ts, hNumber, hWindow⟩
  have hBefore := hPast first hMemFirst texts ts hFirst hNumber
  by_contra hFar
  rw [not_lt] at hFar
  unfold VerifyCall.memoryUntil at hFar
  apply hWindow
  unfold outsideWindow
  rw [hAgree second hMemSecond]
  have hFloor :
      Int.floor (first.now / 1000) +
          acceptedSkew maxSkewSeconds ≤
        Int.floor (second.now / 1000) := by
    rw [← Int.floor_add_intCast]
    apply Int.floor_le_floor
    linarith
  have hCast :
      (Int.floor (first.now / 1000) : ℚ) +
          acceptedSkew maxSkewSeconds ≤
        Int.floor (second.now / 1000) := by
    exact_mod_cast hFloor
  rw [lt_abs]
  left
  linarith

/-
  The digests of one redemption request under one secret, as
  the runtime computes them.
-/
def replayPlatform : Platform :=
  { Platform.bare with
    parseUrlAt := fun text _ => some text
    number := fun text =>
      if text = "1000" then some 1000 else none
    sha256Hex := fun text =>
      if text = "\x7b\"code\":\"abc123\"\x7d" then
        "662021e7bb280ed6c210480ed0723045" ++
          "0653673520ee71c127625e17d82363ca"
      else
        ""
    hmacSha256Hex := fun secret payload =>
      if secret = "test-secret" ∧
          payload =
            "POST\n/internal/v1/authorization/exchange\n" ++
              "1000\na1b2c3\n" ++
              "662021e7bb280ed6c210480ed0723045" ++
              "0653673520ee71c127625e17d82363ca" then
        "4d71cbe8ccbf6e0c2d036f3a6121cd42" ++
          "5ffaf56ade9bf733999df3e750ff530d"
      else
        "" }

/- One verification of that request at a clock reading. -/
def replayCall (now : ℚ) : VerifyCall where
  checkedAt := now
  now := now
  request :=
    { method := "POST"
      url := "/internal/v1/authorization/exchange"
      body := .obj [("code", .str "abc123")]
      headers :=
        { timestamp := .one "1000"
          nonce := .one "a1b2c3"
          signature :=
            .one
              ("4d71cbe8ccbf6e0c2d036f3a6121cd42" ++
                "5ffaf56ade9bf733999df3e750ff530d") } }

/- The request is verified in second 1000, and again. -/
def replayRun (later : ℚ) (hLater : 1000000 ≤ later) :
    VerifyRun where
  calls := [replayCall 1000000, replayCall later]
  ordered := by
    simp [readings, replayCall, hLater]

/-
  A request signed in second 1000 is accepted at once, and
  again 30 seconds later to the millisecond.
-/
theorem replay_accepted :
    ¬NoReplay replayPlatform "test-secret" 30
        (replayRun 1030000 (by decide +kernel)).calls := by
  have hResults :
      verifyAll replayPlatform "test-secret" 30 []
          [replayCall 1000000, replayCall 1030000] =
        [some .ok, some .ok] := by
    decide +kernel
  intro hNone
  unfold NoReplay acceptedCalls replayRun at hNone
  rw [hResults] at hNone
  have hPair :=
    List.rel_of_pairwise_cons hNone List.mem_cons_self
  exact hPair ⟨rfl, rfl, rfl, rfl⟩

/- A millisecond earlier it is refused. -/
theorem replay_refused :
    NoReplay replayPlatform "test-secret" 30
      (replayRun 1029999 (by decide +kernel)).calls := by
  have hWithin :
      WithinMemory replayPlatform "test-secret" 30
        [replayCall 1000000, replayCall 1029999] := by
    unfold WithinMemory
    rw [List.pairwise_pair]
    intro _ _ _ _
    decide +kernel
  exact
    (no_replay_within_memory
      (replayRun 1029999 (by decide +kernel))).1 hWithin

end KisAuth
