import KisAuth.Guarantees.ReplayMemory
import KisAuth.Runtime.AlikeWorlds

/-
  The memory of nonces, compared with the full log.

  The verifier forgets nonces as a side effect of later
  calls. The log keeps every accepted call for good. Both
  tell the same nonces from those that are new, and so calls
  that are refused leave no trace.

  Key definitions include:
    * `Admissible`, `AgreesWithLog`
    * `Marked`, `RefusalsIgnored`

  Key theorems include:
    * `Logs.verify`, `accepted_iff_admissible`
    * `nonce_cache_is_full_log`
-/

------------------------------------------------------------
-- The Full Log
------------------------------------------------------------

namespace KisAuth

variable (P : Platform) (secret : String)
variable (maxSkewSeconds : ℚ)

/- The memory after some calls, first to last. -/
def cacheAfter : NonceCache → List VerifyCall → NonceCache
| cache, [] => cache
| cache, call :: rest =>
    cacheAfter (call.verify P secret maxSkewSeconds cache).2
      rest

/- The nonce a call presents, where its headers are there. -/
def VerifyCall.nonce (call : VerifyCall) : Option String :=
  (headerTexts call.request.headers).map HeaderTexts.nonce

/-
  The call is acceptable, and no call of the log that is not
  to be forgotten yet had the same nonce.
-/
def Admissible
    (log : List VerifyCall)
    (call : VerifyCall) : Prop :=
  ∃ texts,
    Acceptable P secret maxSkewSeconds call texts ∧
      ∀ earlier ∈ log,
        call.now < earlier.memoryUntil maxSkewSeconds →
          earlier.nonce ≠ some texts.nonce

/-
  Each call is accepted exactly if the log of the calls that
  were accepted before admits it.
-/
def AgreesWithLog (calls : List VerifyCall) : Prop :=
  ∀ before call after,
    calls = before ++ call :: after →
      ((call.verify P secret maxSkewSeconds
            (cacheAfter P secret maxSkewSeconds [] before)).1 =
          some .ok ↔
        Admissible P secret maxSkewSeconds
          (acceptedCalls P secret maxSkewSeconds [] before)
          call)

/- Calls, each with a mark: whether it is kept. -/
abbrev Marked := List (VerifyCall × Bool)

def Marked.all (marked : Marked) : List VerifyCall :=
  marked.map Prod.fst

def Marked.kept (marked : Marked) : List VerifyCall :=
  (marked.filter Prod.snd).map Prod.fst

/- The results of the kept calls among those of all. -/
def Marked.keptResults
    (results : List (Option VerifyResult))
    (marked : Marked) : List (Option VerifyResult) :=
  ((results.zip marked).filter (fun pair => pair.2.2)).map
    Prod.fst

/- The calls that are not kept were refused. -/
def Marked.DropsRefused
    (results : List (Option VerifyResult))
    (marked : Marked) : Prop :=
  ∀ pair ∈ results.zip marked,
    pair.2.2 = false → pair.1 ≠ some .ok

/-
  Leaving out calls that are refused changes the result of
  no other call.
-/
def RefusalsIgnored (calls : List VerifyCall) : Prop :=
  ∀ marked : Marked,
    marked.all = calls →
      marked.DropsRefused
          (verifyAll P secret maxSkewSeconds [] calls) →
        verifyAll P secret maxSkewSeconds [] marked.kept =
          marked.keptResults
            (verifyAll P secret maxSkewSeconds [] calls)

end KisAuth

------------------------------------------------------------
-- The Memory Is The Log
------------------------------------------------------------

namespace KisAuth

variable {P : Platform} {secret : String}
variable {maxSkewSeconds : ℚ}
variable {cache base : NonceCache} {log : List VerifyCall}
variable {call : VerifyCall}

/-
  From some time on, the memory knows the nonces of the log
  that are not to be forgotten yet, and no others.
-/
def Logs
    (maxSkewSeconds latest : ℚ)
    (cache : NonceCache)
    (log : List VerifyCall) : Prop :=
  ∀ instant nonce,
    latest ≤ instant →
      (remembers (purge instant cache) nonce = true ↔
        ∃ earlier ∈ log,
          instant < earlier.memoryUntil maxSkewSeconds ∧
            earlier.nonce = some nonce)

theorem logs_nil (maxSkewSeconds latest : ℚ) :
    Logs maxSkewSeconds latest [] [] := by
  intro instant nonce _
  simp [purge, remembers]

theorem remembers_append
    (left right : NonceCache)
    (nonce : String) :
    remembers (left ++ right) nonce =
      (remembers left nonce || remembers right nonce) := by
  simp [remembers]

/- One call keeps the memory and the log in agreement. -/
theorem Logs.verify
    {latest : ℚ}
    (hLogs : Logs maxSkewSeconds latest cache log)
    (hLatest : latest ≤ call.now) :
    Logs maxSkewSeconds call.now
      (call.verify P secret maxSkewSeconds cache).2
      (log ++
        acceptedCalls P secret maxSkewSeconds cache
          [call]) := by
  have hPurge :
      ∀ {instant : ℚ}, call.now ≤ instant →
        purge instant (purge call.now cache) =
          purge instant cache :=
    fun hLe => purge_purge hLe cache
  intro instant nonce hLe
  have hBefore := hLogs instant nonce (hLatest.trans hLe)
  rw [acceptedCalls_cons]
  by_cases hAccepted :
      (call.verify P secret maxSkewSeconds cache).1 =
        some .ok
  · rcases verify_accepted hAccepted with
      ⟨texts, hAcceptable, _, hCache⟩
    have hNonce : call.nonce = some texts.nonce := by
      unfold VerifyCall.nonce
      rw [hAcceptable.headers]
      rfl
    have hSplit :
        purge instant
            (purge call.now cache ++
              [(texts.nonce,
                call.memoryUntil maxSkewSeconds)]) =
          purge instant cache ++
            purge instant
              [(texts.nonce,
                call.memoryUntil maxSkewSeconds)] := by
      rw [← hPurge hLe]
      exact List.filter_append _ _
    have hLast :
        remembers
            (purge instant
              [(texts.nonce,
                call.memoryUntil maxSkewSeconds)])
            nonce = true ↔
          instant < call.memoryUntil maxSkewSeconds ∧
            call.nonce = some nonce := by
      rw [remembers_iff, hNonce]
      simp only [mem_purge_iff, List.mem_singleton,
        Prod.mk.injEq, Option.some.injEq]
      constructor
      · rintro ⟨expiresAt, ⟨rfl, rfl⟩, hLive⟩
        exact ⟨hLive, rfl⟩
      · rintro ⟨hLive, rfl⟩
        exact ⟨_, ⟨rfl, rfl⟩, hLive⟩
    rw [if_pos hAccepted, hCache, hSplit, remembers_append,
      Bool.or_eq_true, hBefore, hLast]
    simp [acceptedCalls, verifyAll, or_and_right, exists_or]
  · rw [if_neg hAccepted]
    have hSame :
        purge instant
            (call.verify P secret maxSkewSeconds cache).2 =
          purge instant cache := by
      rcases verify_refused hAccepted with hKept | hPurged
      · rw [hKept]
      · rw [hPurged, hPurge hLe]
    rw [hSame, hBefore]
    simp [acceptedCalls, verifyAll]

/- A call is accepted exactly if the log admits it. -/
theorem Logs.accepts
    {latest : ℚ}
    (hLogs : Logs maxSkewSeconds latest cache log)
    (hLatest : latest ≤ call.now) :
    (call.verify P secret maxSkewSeconds cache).1 = some .ok ↔
      Admissible P secret maxSkewSeconds log call := by
  constructor
  · intro hAccepted
    rcases verify_accepted hAccepted with
      ⟨texts, hAcceptable, hFresh, _⟩
    refine ⟨texts, hAcceptable, ?_⟩
    intro earlier hMem hLive hNonce
    rw [Bool.eq_false_iff] at hFresh
    exact
      hFresh
        ((hLogs call.now texts.nonce hLatest).mpr
          ⟨earlier, hMem, hLive, hNonce⟩)
  · rintro ⟨texts, hAcceptable, hNew⟩
    by_contra hRefused
    have hSeen := verify_acceptable hAcceptable hRefused
    rcases (hLogs call.now texts.nonce hLatest).mp hSeen with
      ⟨earlier, hMem, hLive, hNonce⟩
    exact hNew earlier hMem hLive hNonce

theorem acceptedCalls_step
    (cache : NonceCache)
    (head : VerifyCall)
    (rest : List VerifyCall) :
    acceptedCalls P secret maxSkewSeconds cache
        (head :: rest) =
      acceptedCalls P secret maxSkewSeconds cache [head] ++
        acceptedCalls P secret maxSkewSeconds
          (head.verify P secret maxSkewSeconds cache).2
          rest := by
  rw [acceptedCalls_cons, acceptedCalls_cons]
  split
  · rfl
  · rfl

/-
  The induction is on the calls before, from any memory that
  agrees with a log.
-/
theorem accepted_iff_admissible
    {before : List VerifyCall}
    {latest : ℚ}
    (hLogs : Logs maxSkewSeconds latest cache log)
    (hOrdered :
      (before ++ [call]).Pairwise (fun first second =>
        first.now ≤ second.now))
    (hLatest :
      ∀ other ∈ before ++ [call], latest ≤ other.now) :
    (call.verify P secret maxSkewSeconds
          (cacheAfter P secret maxSkewSeconds cache before)).1 =
        some .ok ↔
      Admissible P secret maxSkewSeconds
        (log ++
          acceptedCalls P secret maxSkewSeconds cache before)
        call := by
  induction before generalizing cache log latest with
  | nil =>
      simp only [cacheAfter, acceptedCalls, verifyAll,
        List.zip_nil_left, List.filterMap_nil,
        List.append_nil]
      exact hLogs.accepts (hLatest call (by simp))
  | cons head before ih =>
      rw [List.cons_append, List.pairwise_cons] at hOrdered
      have hStep :
          Logs maxSkewSeconds head.now
            (head.verify P secret maxSkewSeconds cache).2
            (log ++
              acceptedCalls P secret maxSkewSeconds cache
                [head]) :=
        hLogs.verify (hLatest head (by simp))
      have hNext := ih hStep hOrdered.2 hOrdered.1
      rw [List.append_assoc, ← acceptedCalls_step] at hNext
      exact hNext

end KisAuth

------------------------------------------------------------
-- Refusals Leave No Trace
------------------------------------------------------------

namespace KisAuth

variable {P : Platform} {secret : String}
variable {maxSkewSeconds : ℚ}

/-
  The kept calls answer alike from memories that agree on
  what is not to be forgotten yet. The induction is on the
  calls, and refused calls keep the memories in agreement.
-/
theorem verifyAll_kept
    {marked : Marked}
    {cache base : NonceCache}
    {latest : ℚ}
    (hSame : SameMemory latest cache base)
    (hOrdered :
      marked.all.Pairwise (fun first second =>
        first.now ≤ second.now))
    (hLatest : ∀ call ∈ marked.all, latest ≤ call.now)
    (hDrops :
      marked.DropsRefused
        (verifyAll P secret maxSkewSeconds cache
          marked.all)) :
    verifyAll P secret maxSkewSeconds base marked.kept =
      marked.keptResults
        (verifyAll P secret maxSkewSeconds cache
          marked.all) := by
  induction marked generalizing cache base latest with
  | nil => rfl
  | cons head marked ih =>
      rcases head with ⟨call, keep⟩
      rcases List.pairwise_cons.mp hOrdered with
        ⟨hNow, hRest⟩
      have hMemory : SameMemory call.now cache base :=
        hSame.later (hLatest call List.mem_cons_self)
      have hTail :
          Marked.DropsRefused
            (verifyAll P secret maxSkewSeconds
              (call.verify P secret maxSkewSeconds cache).2
              (Marked.all marked))
            marked :=
        fun pair hMem =>
          hDrops pair (List.mem_cons_of_mem _ hMem)
      cases keep with
      | true =>
          have hBoth :=
            @verify_alike P secret maxSkewSeconds call _ _
              hMemory
          have hNext := ih hBoth.2 hRest hNow hTail
          simp only [Marked.kept, Marked.keptResults,
            Marked.all, List.filter_cons, if_true,
            List.map_cons, verifyAll, List.zip_cons_cons]
            at hNext ⊢
          rw [hBoth.1, hNext]
      | false =>
          have hRefused :
              (call.verify P secret maxSkewSeconds cache).1 ≠
                some .ok :=
            hDrops _ List.mem_cons_self rfl
          have hNext :=
            ih
              (@verify_refused_alike P secret maxSkewSeconds
                call _ _ hMemory hRefused)
              hRest hNow hTail
          simpa [Marked.kept, Marked.keptResults, Marked.all,
            verifyAll] using hNext

/- Calls in order start no later than any of them. -/
theorem exists_start
    {calls : List VerifyCall}
    (hLater : LaterReadings calls) :
    ∃ latest, ∀ call ∈ calls, latest ≤ call.now := by
  cases calls with
  | nil => exact ⟨0, by simp⟩
  | cons head rest =>
      refine ⟨head.now, ?_⟩
      intro call hMem
      rcases List.mem_cons.mp hMem with rfl | hMem
      · exact le_refl _
      · exact (List.pairwise_cons.mp hLater).1 call hMem

/-
  The memory, purged only in passing, is as good as the full
  log: calls are accepted as the log admits them, and
  refused calls change the result of no other.
-/
theorem nonce_cache_is_full_log
    (P : Platform)
    (secret : String)
    (maxSkewSeconds : ℚ)
    (run : VerifyRun) :
    AgreesWithLog P secret maxSkewSeconds run.calls ∧
      RefusalsIgnored P secret maxSkewSeconds run.calls := by
  have hLater := run.laterReadings
  rcases exists_start hLater with ⟨latest, hLatest⟩
  constructor
  · intro before call after hCalls
    have hSplit :
        run.calls = before ++ [call] ++ after := by
      rw [hCalls, List.append_cons]
    rw [hSplit] at hLater hLatest
    have hAdmitted :=
      @accepted_iff_admissible P secret maxSkewSeconds [] []
        call before latest (logs_nil _ _)
        (List.pairwise_append.mp hLater).1
        (fun other hMem =>
          hLatest other (List.mem_append_left _ hMem))
    exact hAdmitted
  · intro marked hAll hDrops
    rw [← hAll] at hLater hLatest hDrops ⊢
    exact
      verifyAll_kept (fun _ _ => rfl) hLater hLatest hDrops

end KisAuth
