import KisAuth.Provenance.Grants

/-
  What consuming a code or ticket leaves behind.

  A code is written once, with a text nobody drew before, so
  a key that was consumed after it was written stays empty.

  Key definitions include:
    * `KeyFamily.holdsGrants`, `Issued`

  Key theorems include:
    * `issued_unique`
    * `stored_spent`
    * `consumed_once`
-/

------------------------------------------------------------
-- Issued Once
------------------------------------------------------------

namespace KisAuth

open Interaction Store

/- The two stores that redemptions consume from. -/
def KeyFamily.holdsGrants (family : KeyFamily) : Prop :=
  family = .code ∨ family = .regTicket

/- The store of a code or of a ticket. -/
def grantFamily : RedisValue → KeyFamily
| .code _ => .code
| _ => .regTicket

/- The text was issued as a code, or as a ticket. -/
def Issued
    (history : History)
    (family : KeyFamily)
    (code : String) : Prop :=
  ∃ thread value ttl,
    Entry.answer thread
        ⟨.redisSet (storeKey family code) value ttl, .ok ()⟩ ∈
      history

variable {P : Platform} {cfg : KisAuthConfig}
variable {history later earlier : History}
variable {family : KeyFamily} {code : String}

theorem grantKey_eq
    (value : RedisValue)
    (code : String) :
    grantKey value code =
      storeKey (grantFamily value) code := by
  cases value <;> rfl

theorem Issued.append
    (hIssued : Issued earlier family code)
    (later : History) :
    Issued (later ++ earlier) family code := by
  rcases hIssued with ⟨thread, value, ttl, hMem⟩
  exact
    ⟨thread, value, ttl, List.mem_append_right later hMem⟩

theorem Issued.cons
    (hIssued : Issued earlier family code)
    (entry : ServiceEntry) :
    Issued (entry :: earlier) family code :=
  hIssued.append [entry]

/- Only a grant stores a value under such a key. -/
theorem grant_of_touch
    {entry : ServiceEntry}
    {value : RedisValue}
    (hRecorded : Recorded P cfg (later ++ entry :: earlier))
    (hFamily : family.holdsGrants)
    (hTouch :
      touch entry (storeKey family code) =
        some (some value)) :
    grantFamily value = family ∧
      ∃ thread callback sessionId session token,
        Granted P cfg (later ++ entry :: earlier) thread
          callback code value sessionId session token
          earlier := by
  have hOther :
      ∀ other id, storeKey family code = storeKey other id →
        other = .code ∨ other = .regTicket := by
    intro other id hKey
    have hSame := ((storeKey_inj _ _ _ _).mp hKey).1
    subst hSame
    exact hFamily
  rcases touch_cases hTouch with
    ⟨thread, ttl, rfl⟩ | ⟨rfl, thread, ttl, rfl⟩ |
      ⟨thread, windowSeconds, hits, rfl, rfl⟩
  · have hGrant : value.isGrant := by
      rcases hRecorded.step_at with ⟨q, hStep⟩
      have hAllowed := hStep.allowed
      cases value with
      | session session =>
          rcases hAllowed with ⟨id, hKey, _⟩
          have hNot := hOther .session id hKey
          simp at hNot
      | challenge record =>
          rcases hAllowed with
            ⟨id, _, _, _, _, _, hKey, _⟩
          have hNot := hOther .challenge id hKey
          simp at hNot
      | code payload => trivial
      | ticket payload => trivial
      | claimed => exact hAllowed
      | count hits => exact hAllowed
    rcases granted_of_write hRecorded rfl hGrant with
      ⟨callback, other, sessionId, session, token, hKey,
        hGranted⟩
    rw [grantKey_eq] at hKey
    rcases (storeKey_inj _ _ _ _).mp hKey with ⟨hSame, rfl⟩
    exact
      ⟨hSame.symm, thread, callback, sessionId, session,
        token, hGranted⟩
  · rcases hRecorded.step_at with ⟨q, hStep⟩
    rcases hStep.allowed with ⟨nonce, hKey⟩
    have hNot := hOther .linkNonce nonce hKey
    simp at hNot
  · rcases hRecorded.step_at with ⟨q, hStep⟩
    rcases counter_key hStep.allowed with
      ⟨scope, identifier, hKey⟩
    have hNot := hOther .rateLimit _ hKey
    simp at hNot

/- A text is issued in one store, at one point. -/
theorem issued_unique
    {left right : ServiceEntry}
    {later' earlier' : History}
    {family' : KeyFamily}
    {value value' : RedisValue}
    (hRecorded : Recorded P cfg history)
    (hLeft : history = later ++ left :: earlier)
    (hRight : history = later' ++ right :: earlier')
    (hFamily : family.holdsGrants)
    (hFamily' : family'.holdsGrants)
    (hTouch :
      touch left (storeKey family code) = some (some value))
    (hTouch' :
      touch right (storeKey family' code) =
        some (some value')) :
    family = family' ∧ earlier = earlier' := by
  subst hLeft
  rcases grant_of_touch hRecorded hFamily hTouch with
    ⟨rfl, _, _, _, _, _, hGranted⟩
  have hSame := hRecorded
  rw [hRight] at hSame
  rcases grant_of_touch hSame hFamily' hTouch' with
    ⟨rfl, _, _, _, _, _, hGranted'⟩
  rw [← hRight] at hGranted'
  rcases grant_unique hRecorded hGranted hGranted' with
    ⟨_, rfl, hEarlier⟩
  exact ⟨rfl, hEarlier⟩

/- An issued text, as a write of the history. -/
theorem Issued.touched
    (hIssued : Issued history family code) :
    ∃ later entry earlier value,
      history = later ++ entry :: earlier ∧
        touch entry (storeKey family code) =
          some (some value) := by
  rcases hIssued with ⟨thread, value, ttl, hMem⟩
  rcases List.append_of_mem hMem with
    ⟨later, earlier, rfl⟩
  exact
    ⟨later, _, earlier, value, rfl, by simp [touch, touchOf]⟩

theorem Issued.family_unique
    {family' : KeyFamily}
    (hRecorded : Recorded P cfg history)
    (hFamily : family.holdsGrants)
    (hFamily' : family'.holdsGrants)
    (hLeft : Issued history family code)
    (hRight : Issued history family' code) :
    family = family' := by
  rcases hLeft.touched with
    ⟨later, left, earlier, value, hSplit, hTouch⟩
  rcases hRight.touched with
    ⟨later', right, earlier', value', hSplit', hTouch'⟩
  exact
    (issued_unique hRecorded hSplit hSplit' hFamily hFamily'
      hTouch hTouch').1

end KisAuth

------------------------------------------------------------
-- Consumed Once
------------------------------------------------------------

namespace KisAuth

open Interaction Store

variable {P : Platform} {cfg : KisAuthConfig}
variable {history later earlier : History}
variable {family : KeyFamily} {code : String}

/- What is stored under such a key was issued. -/
theorem issued_of_stored
    {value : RedisValue}
    (hRecorded : Recorded P cfg history)
    (hFamily : family.holdsGrants)
    (hStored :
      stored history (storeKey family code) = some value) :
    Issued history family code := by
  rcases lastWrite_eq_some hStored with
    ⟨later, entry, earlier, rfl, hTouch, _⟩
  rcases grant_of_touch hRecorded hFamily hTouch with
    ⟨rfl, thread, _, _, _, _, hGranted⟩
  rcases hGranted.split with ⟨middle, ttl, hSplit⟩
  refine ⟨thread, value, ttl, ?_⟩
  rw [hSplit, grantKey_eq]
  simp

/-
  A consumed code is gone for good: the only write of its
  key is before the consumption.
-/
theorem stored_spent
    {thread : Nat}
    {found : Option RedisValue}
    (hRecorded :
      Recorded P cfg
        (later ++
          .answer thread
              ⟨.redisConsume (storeKey family code), found⟩ ::
            earlier))
    (hFamily : family.holdsGrants)
    (hIssued : Issued earlier family code) :
    stored
        (later ++
          .answer thread
              ⟨.redisConsume (storeKey family code), found⟩ ::
            earlier)
        (storeKey family code) =
      none := by
  apply lastWrite_eq_none_of_removed
  · simp [touch, touchOf]
  · intro other hOther value hTouch
    rcases hIssued.touched with
      ⟨middle, writer, before, issued, rfl, hWritten⟩
    rcases List.append_of_mem hOther with
      ⟨newer, older, rfl⟩
    have hFirst :
        newer ++ other :: older ++
            .answer thread
                ⟨.redisConsume (storeKey family code),
                  found⟩ ::
              (middle ++ writer :: before) =
          newer ++ other ::
            (older ++
              .answer thread
                  ⟨.redisConsume (storeKey family code),
                    found⟩ ::
                (middle ++ writer :: before)) := by simp
    have hSecond :
        newer ++ other :: older ++
            .answer thread
                ⟨.redisConsume (storeKey family code),
                  found⟩ ::
              (middle ++ writer :: before) =
          (newer ++ other :: older ++
              .answer thread
                  ⟨.redisConsume (storeKey family code),
                    found⟩ ::
                middle) ++
            writer :: before := by simp
    rcases issued_unique hRecorded hFirst hSecond hFamily
        hFamily hTouch hWritten with ⟨_, hBefore⟩
    have hLength := congrArg List.length hBefore
    simp only [List.length_append, List.length_cons]
      at hLength
    omega

/- Whoever asks for it later is answered with nothing. -/
theorem not_consumed_later
    {thread other : Nat}
    {family' : KeyFamily}
    {found : Option RedisValue}
    {value : RedisValue}
    (hRecorded :
      Recorded P cfg
        (later ++
          .answer thread
              ⟨.redisConsume (storeKey family code), found⟩ ::
            earlier))
    (hFamily : family.holdsGrants)
    (hFamily' : family'.holdsGrants)
    (hIssued : Issued earlier family code) :
    Entry.answer other
        ⟨.redisConsume (storeKey family' code),
          some value⟩ ∉ later := by
  intro hMem
  rcases List.append_of_mem hMem with ⟨newer, older, rfl⟩
  rw [List.append_assoc, List.cons_append] at hRecorded
  rcases hRecorded.step_at with ⟨q, hStep⟩
  have hBefore := hStep.recorded
  have hStored := hStep.faithful value rfl
  have hSame :=
    Issued.family_unique hBefore hFamily hFamily'
      ((hIssued.cons _).append older)
      (issued_of_stored hBefore hFamily' hStored)
  subst hSame
  rw [stored_spent hBefore hFamily hIssued] at hStored
  simp at hStored

/- Two requests never both consume the same text. -/
theorem consumed_once
    {left right : Nat}
    {family' : KeyFamily}
    {value value' : RedisValue}
    (hRecorded : Recorded P cfg history)
    (hFamily : family.holdsGrants)
    (hFamily' : family'.holdsGrants)
    (hLeft :
      Entry.answer left
          ⟨.redisConsume (storeKey family code),
            some value⟩ ∈ history)
    (hRight :
      Entry.answer right
          ⟨.redisConsume (storeKey family' code),
            some value'⟩ ∈ history) :
    left = right := by
  rcases stored_of_consumed hRecorded hLeft with
    ⟨later, earlier, rfl, hEarlier, hStored⟩
  have hIssued := issued_of_stored hEarlier hFamily hStored
  rcases List.mem_append.mp hRight with hLater | hRest
  · exact absurd hLater
      (not_consumed_later hRecorded hFamily hFamily' hIssued)
  · rcases List.mem_cons.mp hRest with hEq | hMem
    · simp only [Entry.answer.injEq] at hEq
      exact hEq.1.symm
    · rcases stored_of_consumed hEarlier hMem with
        ⟨middle, before, rfl, hBefore, hStored'⟩
      have hIssued' :=
        issued_of_stored hBefore hFamily' hStored'
      have hAll :
          Recorded P cfg
            ((later ++
                .answer left
                    ⟨.redisConsume (storeKey family code),
                      some value⟩ ::
                  middle) ++
              .answer right
                  ⟨.redisConsume (storeKey family' code),
                    some value'⟩ ::
                before) := by simpa using hRecorded
      have hMiddle :
          Entry.answer left
              ⟨.redisConsume (storeKey family code),
                some value⟩ ∈
            later ++
              .answer left
                  ⟨.redisConsume (storeKey family code),
                    some value⟩ ::
                middle :=
        List.mem_append_right _ List.mem_cons_self
      exact absurd hMiddle
        (not_consumed_later hAll hFamily' hFamily hIssued')

end KisAuth
