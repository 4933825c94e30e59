import KisAuth.Service.Answers
import KisAuth.Service.RunProtocol

/-
  What every recorded history is known to satisfy, and where
  in it an answer was given.

  Key definitions include:
    * `Recorded`, `Step`

  Key theorems include:
    * `Run.recorded`
    * `Recorded.step`, `Recorded.ended`, `Recorded.once`
    * `stored_origin`
-/

------------------------------------------------------------
-- Recorded Histories
------------------------------------------------------------

namespace KisAuth

open Interaction Store

/-
  The three properties of every history: it is made by the
  programs of the routes, which keep to the protocol, and
  its answers are faithful.
-/
structure Recorded
    (P : Platform)
    (cfg : KisAuthConfig)
    (history : History) : Prop where
  conforms : Always (Conforms (handler P cfg)) history
  protocol :
    Always (Keeps (Allowed P cfg) (Outcome P cfg)) history
  faithful : Always (Faithful P cfg) history

variable {P : Platform} {cfg : KisAuthConfig}
variable {history earlier later : History}

theorem Run.recorded (run : Run P cfg) :
    Recorded P cfg run.history where
  conforms := run.conforms
  protocol := run.protocol
  faithful := run.faithful

/- A history was recorded before it went on. -/
theorem Recorded.drop
    (hRecorded : Recorded P cfg (later ++ earlier)) :
    Recorded P cfg earlier where
  conforms := hRecorded.conforms.drop
  protocol := hRecorded.protocol.drop
  faithful := hRecorded.faithful.drop

theorem Recorded.tail
    {entry : ServiceEntry}
    (hRecorded : Recorded P cfg (entry :: earlier)) :
    Recorded P cfg earlier where
  conforms := hRecorded.conforms.2
  protocol := hRecorded.protocol.2
  faithful := hRecorded.faithful.2

/-
  One answered call: the request that made it, what the
  request was allowed it for, and what the answer says.
-/
structure Step
    (P : Platform)
    (cfg : KisAuthConfig)
    (earlier : History)
    (thread : Nat)
    (q : Request)
    (answer : Answer Eff Eff.Res) : Prop where
  recorded : Recorded P cfg earlier
  arrived : Entry.arrive thread q ∈ earlier
  allowed :
    Allowed P cfg q (answersOf thread earlier) answer.effect
  faithful : FaithfulAnswer P cfg earlier answer

theorem Recorded.step_at
    {thread : Nat}
    {answer : Answer Eff Eff.Res}
    (hRecorded :
      Recorded P cfg
        (later ++ .answer thread answer :: earlier)) :
    ∃ q, Step P cfg earlier thread q answer := by
  have hProtocol := hRecorded.protocol.split.1
  have hFaithful := hRecorded.faithful.split.1
  have hEarlier : Recorded P cfg earlier :=
    hRecorded.drop.tail
  rcases hProtocol with ⟨q, hArrive, hAllowed⟩
  exact ⟨q, hEarlier, hArrive, hAllowed, hFaithful⟩

/- The newest entry, where it is an answered call. -/
theorem Recorded.step_head
    {thread : Nat}
    {answer : Answer Eff Eff.Res}
    (hRecorded :
      Recorded P cfg (.answer thread answer :: earlier)) :
    ∃ q, Step P cfg earlier thread q answer := by
  rw [← List.nil_append (_ :: earlier)] at hRecorded
  exact hRecorded.step_at

/- Where in the history a call was answered. -/
theorem Recorded.step
    {thread : Nat}
    {answer : Answer Eff Eff.Res}
    (hRecorded : Recorded P cfg history)
    (hMem : Entry.answer thread answer ∈ history) :
    ∃ later earlier q,
      history = later ++ .answer thread answer :: earlier ∧
        Step P cfg earlier thread q answer := by
  rcases List.append_of_mem hMem with
    ⟨later, earlier, rfl⟩
  rcases hRecorded.step_at with ⟨q, hStep⟩
  exact ⟨later, earlier, q, rfl, hStep⟩

/- A request that ended, with what it ended in. -/
theorem Recorded.ended
    {thread : Nat}
    {outcome : Except HttpError Response}
    (hRecorded :
      Recorded P cfg
        (later ++ .respond thread outcome :: earlier)) :
    ∃ q,
      Recorded P cfg earlier ∧
        Entry.arrive thread q ∈ earlier ∧
        Outcome P cfg q (answersOf thread earlier)
          outcome := by
  have hProtocol := hRecorded.protocol.split.1
  have hEarlier : Recorded P cfg earlier :=
    hRecorded.drop.tail
  rcases hProtocol with ⟨q, hArrive, hOutcome⟩
  exact ⟨q, hEarlier, hArrive, hOutcome⟩

/- What holds at every recorded entry always holds. -/
theorem Recorded.always
    {Fact : ServiceEntry → History → Prop}
    (hRecorded : Recorded P cfg history)
    (hFact :
      ∀ later entry earlier,
        Recorded P cfg (later ++ entry :: earlier) →
          Fact entry earlier) :
    Always Fact history := by
  apply always_of_split
  intro later entry earlier hSplit
  rw [hSplit] at hRecorded
  exact hFact later entry earlier hRecorded

/- A thread serves one request. -/
theorem Recorded.request_unique
    {thread : Nat}
    {left right : Request}
    (hRecorded : Recorded P cfg history)
    (hLeft : Entry.arrive thread left ∈ history)
    (hRight : Entry.arrive thread right ∈ history) :
    left = right :=
  arrive_unique_of_always hRecorded.conforms hLeft hRight

/- However a request ends, it has consumed what it names. -/
theorem Outcome.redeemed
    {q : Request}
    {past : Past}
    {outcome : Except HttpError Response}
    (hOutcome : Outcome P cfg q past outcome) :
    Redeemed P q past := by
  cases outcome with
  | ok response => exact hOutcome.1
  | error error => exact hOutcome

/- How the request a thread is known to serve ended. -/
theorem Recorded.ended_of_arrive
    {thread : Nat}
    {q : Request}
    {outcome : Except HttpError Response}
    (hRecorded :
      Recorded P cfg
        (later ++ .respond thread outcome :: earlier))
    (hArrive :
      Entry.arrive thread q ∈
        later ++ .respond thread outcome :: earlier) :
    Entry.arrive thread q ∈ earlier ∧
      Outcome P cfg q (answersOf thread earlier) outcome := by
  rcases hRecorded.ended with
    ⟨served, _, hServed, hOutcome⟩
  have hSame :=
    hRecorded.request_unique hArrive
      (List.mem_append_right later
        (List.mem_cons_of_mem _ hServed))
  subst hSame
  exact ⟨hServed, hOutcome⟩

/- A thread is answered after its request arrived. -/
theorem Recorded.answered_later
    {thread : Nat}
    {q : Request}
    {answer : Answer Eff Eff.Res}
    (hRecorded :
      Recorded P cfg (later ++ .arrive thread q :: earlier))
    (hMem :
      Entry.answer thread answer ∈
        later ++ .arrive thread q :: earlier) :
    Entry.answer thread answer ∈ later := by
  have hUnused := hRecorded.conforms.split.1
  rcases List.mem_append.mp hMem with hLater | hRest
  · exact hLater
  · rcases List.mem_cons.mp hRest with hEq | hEarlier
    · simp at hEq
    · exact absurd rfl (hUnused _ hEarlier)

/- Answers of a thread, as entries of the history. -/
theorem mem_of_past
    {thread : Nat}
    {answer : Answer Eff Eff.Res}
    (hMem : answer ∈ answersOf thread history) :
    Entry.answer thread answer ∈ history :=
  (mem_answersOf_iff thread history answer).mp hMem

theorem past_of_mem
    {thread : Nat}
    {answer : Answer Eff Eff.Res}
    (hMem : Entry.answer thread answer ∈ history) :
    answer ∈ answersOf thread history :=
  (mem_answersOf_iff thread history answer).mpr hMem

/- The past of a thread grows with the history. -/
theorem answersOf_subset
    (thread : Nat)
    (later earlier : History) :
    answersOf thread earlier ⊆
      answersOf thread (later ++ earlier) := by
  intro answer hMem
  apply past_of_mem
  exact List.mem_append_right later (mem_of_past hMem)

/- A call that the request a thread is known to serve made. -/
theorem Recorded.step_of_arrive
    {thread : Nat}
    {q : Request}
    {answer : Answer Eff Eff.Res}
    (hRecorded : Recorded P cfg history)
    (hArrive : Entry.arrive thread q ∈ history)
    (hMem : Entry.answer thread answer ∈ history) :
    ∃ later earlier,
      history = later ++ .answer thread answer :: earlier ∧
        answersOf thread earlier ⊆
          answersOf thread history ∧
        Step P cfg earlier thread q answer := by
  rcases hRecorded.step hMem with
    ⟨later, earlier, served, rfl, hStep⟩
  have hSame :=
    hRecorded.request_unique hArrive
      (List.mem_append_right _
        (List.mem_cons_of_mem _ hStep.arrived))
  subst hSame
  refine ⟨later, earlier, rfl, ?_, hStep⟩
  rw [List.append_cons]
  exact answersOf_subset thread _ earlier

/- What such a request ended in. -/
theorem Recorded.outcome_of_arrive
    {thread : Nat}
    {q : Request}
    {outcome : Except HttpError Response}
    (hRecorded : Recorded P cfg history)
    (hArrive : Entry.arrive thread q ∈ history)
    (hMem : Entry.respond thread outcome ∈ history) :
    ∃ past,
      past ⊆ answersOf thread history ∧
        Outcome P cfg q past outcome := by
  rcases List.append_of_mem hMem with
    ⟨later, earlier, rfl⟩
  have hEnded := hRecorded.ended_of_arrive hArrive
  refine ⟨answersOf thread earlier, ?_, hEnded.2⟩
  rw [List.append_cons]
  exact answersOf_subset thread _ earlier

/- An accepted signature is valid. -/
theorem signature_of_accepted
    {thread : Nat}
    {request : SignedRequest}
    (hRecorded : Recorded P cfg history)
    (hMem :
      Entry.answer thread
          ⟨.verifySignature request, some .ok⟩ ∈ history) :
    SignatureValid P cfg request := by
  rcases hRecorded.step hMem with
    ⟨later, earlier, q, rfl, hStep⟩
  exact hStep.faithful rfl

/-
  A call that is allowed only while a request observed
  nothing is answered once for each request. The induction
  is on the history.
-/
theorem Recorded.once
    {β : Type}
    (observe : Answer Eff Eff.Res → Option β)
    (hGuard :
      ∀ q past answer found,
        Allowed P cfg q past answer.effect →
          observe answer = some found →
            past.filterMap observe = [])
    (hRecorded : Recorded P cfg history)
    (thread : Nat) :
    ((answersOf thread history).filterMap observe).length ≤
      1 := by
  induction history with
  | nil => simp [answersOf]
  | cons entry earlier ih =>
      have hTail := ih hRecorded.tail
      by_cases hAbout : entry.about = some thread
      · cases entry with
        | answer other answer =>
            simp only [Entry.about, Option.some.injEq]
              at hAbout
            subst hAbout
            simp only [answersOf, if_true,
              List.filterMap_cons]
            cases hObserved : observe answer with
            | none => exact hTail
            | some found =>
                have hAll :
                    Recorded P cfg
                      ([] ++ .answer other answer ::
                        earlier) :=
                  hRecorded
                rcases hAll.step_at with ⟨q, hStep⟩
                have hNone :=
                  hGuard q _ answer found hStep.allowed
                    hObserved
                simp [hNone]
        | arrive other request => exact hTail
        | respond other outcome => exact hTail
        | env op => exact hTail
      · rw [answersOf_cons_of_about_ne hAbout]
        exact hTail

/- A request looks one identity up. -/
theorem Recorded.lookup_unique
    {thread : Nat}
    {left right : Except SqlError (Option AuthIdentity)}
    (hRecorded : Recorded P cfg history)
    (hLeft : left ∈ lookups (answersOf thread history))
    (hRight : right ∈ lookups (answersOf thread history)) :
    left = right := by
  have hOnce :
      (lookups (answersOf thread history)).length ≤ 1 := by
    apply hRecorded.once lookedUpBy
    intro q past answer found hAllowed hObserved
    unfold lookedUpBy at hObserved
    split at hObserved
    · exact hAllowed.1
    · exact hAllowed.1
    · simp at hObserved
  cases hAll : lookups (answersOf thread history) with
  | nil => simp [hAll] at hLeft
  | cons first rest =>
      rw [hAll, List.length_cons] at hOnce
      have hRest : rest = [] :=
        List.eq_nil_of_length_eq_zero (by omega)
      rw [hAll, hRest, List.mem_singleton] at hLeft hRight
      exact hLeft.trans hRight.symm

end KisAuth

------------------------------------------------------------
-- Where A Stored Value Comes From
------------------------------------------------------------

namespace KisAuth

open Interaction Store

variable {P : Platform} {cfg : KisAuthConfig}
variable {history : History}

/- Values that only SET stores. -/
def RedisValue.isRecord : RedisValue → Prop
| .claimed => False
| .count _ => False
| _ => True

/- The calls that store a value under a key. -/
theorem touch_cases
    {entry : ServiceEntry}
    {key : String}
    {value : RedisValue}
    (hTouch : touch entry key = some (some value)) :
    (∃ thread ttl,
        entry =
          .answer thread
            ⟨.redisSet key value ttl, .ok ()⟩) ∨
      (value = .claimed ∧
        ∃ thread ttl,
          entry =
            .answer thread
              ⟨.redisSetNx key ttl, .ok true⟩) ∨
      ∃ thread windowSeconds hits,
        value = .count hits ∧
          entry =
            .answer thread
              ⟨.redisIncr key windowSeconds, hits⟩ := by
  unfold touch at hTouch
  split at hTouch
  · next thread answer =>
      unfold touchOf at hTouch
      split at hTouch
      · split at hTouch
        · next hKey =>
            simp only [Option.some.injEq] at hTouch
            subst hTouch
            subst hKey
            exact Or.inl ⟨thread, _, rfl⟩
        · simp at hTouch
      · split at hTouch
        · next hKey =>
            simp only [Option.some.injEq] at hTouch
            subst hKey
            exact Or.inr (Or.inl ⟨hTouch.symm, thread, _, rfl⟩)
        · simp at hTouch
      · split at hTouch <;> simp at hTouch
      · split at hTouch <;> simp at hTouch
      · split at hTouch
        · next hKey =>
            simp only [Option.some.injEq] at hTouch
            subst hKey
            exact Or.inr (Or.inr
              ⟨thread, _, _, hTouch.symm, rfl⟩)
        · simp at hTouch
      · simp at hTouch
  · simp at hTouch

theorem touch_record
    {entry : ServiceEntry}
    {key : String}
    {value : RedisValue}
    (hTouch : touch entry key = some (some value))
    (hRecord : value.isRecord) :
    ∃ thread ttl,
      entry =
        .answer thread ⟨.redisSet key value ttl, .ok ()⟩ := by
  rcases touch_cases hTouch with
    hSet | ⟨rfl, _⟩ | ⟨_, _, hits, rfl, _⟩
  · exact hSet
  · exact absurd hRecord id
  · exact absurd hRecord id

/- A stored record was written by a step of a request. -/
theorem stored_origin
    {key : String}
    {value : RedisValue}
    (hRecorded : Recorded P cfg history)
    (hStored : stored history key = some value)
    (hRecord : value.isRecord) :
    ∃ later earlier thread ttl q,
      history =
          later ++
            .answer thread ⟨.redisSet key value ttl, .ok ()⟩ ::
              earlier ∧
        Step P cfg earlier thread q
          ⟨.redisSet key value ttl, .ok ()⟩ := by
  rcases lastWrite_eq_some hStored with
    ⟨later, entry, earlier, rfl, hTouch, _⟩
  rcases touch_record hTouch hRecord with
    ⟨thread, ttl, rfl⟩
  rcases hRecorded.step_at with ⟨q, hStep⟩
  exact ⟨later, earlier, thread, ttl, q, rfl, hStep⟩

/- A value that was read was stored when it was read. -/
theorem stored_of_read
    {thread : Nat}
    {key : String}
    {value : RedisValue}
    (hRecorded : Recorded P cfg history)
    (hRead :
      Entry.answer thread ⟨.redisGet key, some value⟩ ∈
        history) :
    ∃ later earlier,
      history =
          later ++
            .answer thread ⟨.redisGet key, some value⟩ ::
              earlier ∧
        Recorded P cfg earlier ∧
        stored earlier key = some value := by
  rcases hRecorded.step hRead with
    ⟨later, earlier, q, rfl, hStep⟩
  exact
    ⟨later, earlier, rfl, hStep.recorded,
      hStep.faithful value rfl⟩

theorem stored_of_consumed
    {thread : Nat}
    {key : String}
    {value : RedisValue}
    (hRecorded : Recorded P cfg history)
    (hConsumed :
      Entry.answer thread ⟨.redisConsume key, some value⟩ ∈
        history) :
    ∃ later earlier,
      history =
          later ++
            .answer thread ⟨.redisConsume key, some value⟩ ::
              earlier ∧
        Recorded P cfg earlier ∧
        stored earlier key = some value := by
  rcases hRecorded.step hConsumed with
    ⟨later, earlier, q, rfl, hStep⟩
  exact
    ⟨later, earlier, rfl, hStep.recorded,
      hStep.faithful value rfl⟩

/- So it was written by some request. -/
theorem written_of_consumed
    {thread : Nat}
    {key : String}
    {value : RedisValue}
    (hRecorded : Recorded P cfg history)
    (hConsumed :
      Entry.answer thread ⟨.redisConsume key, some value⟩ ∈
        history)
    (hRecord : value.isRecord) :
    ∃ writer ttl,
      Entry.answer writer ⟨.redisSet key value ttl, .ok ()⟩ ∈
        history := by
  rcases stored_of_consumed hRecorded hConsumed with
    ⟨later, earlier, rfl, hEarlier, hStored⟩
  rcases stored_origin hEarlier hStored hRecord with
    ⟨_, _, writer, ttl, _, rfl, _⟩
  exact ⟨writer, ttl, by simp⟩

end KisAuth
