import KisAuth.Guarantees.ForgedTraffic
import KisAuth.Guarantees.KeySpaces

/-
  What Redis holds in any reachable state.

  Every key is the key of a record of one of the six stores,
  and holds a value of that store. Every key has an end, no
  later than the term of its store from now on, however often
  the record was written back and whatever was going on at
  the same time. The mark of a link ticket is kept no longer
  than the ticket could be used when it was checked.

  Key definitions include:
    * `TicketTerm`, `KeptFor`
    * `WellKept`, `StoreKept`, `TermsTold`

  Key theorems include:
    * `WellKept.later`, `StoreKept.write`
    * `store_contents`
-/

------------------------------------------------------------
-- Well-Kept Records
------------------------------------------------------------

namespace KisAuth

open Interaction Store

/- The time is over within a term of whole seconds. -/
def WithinTerm (now deadline : Nat) (term : ℚ) : Prop :=
  ∃ seconds : Nat,
    term = seconds ∧ deadline ≤ now + seconds * 1000

/-
  What a link ticket had left when a request checked it, or a
  second if that is more.
-/
def TicketTerm
    (P : Platform)
    (cfg : KisAuthConfig)
    (history : History)
    (key : String)
    (term : ℚ) : Prop :=
  ∃ thread q,
    Entry.arrive thread q ∈ history ∧
      ClaimsTicket P cfg q (answersOf thread history) key term

/- The term of the store, or of the ticket that is marked. -/
def KeptFor
    (P : Platform)
    (cfg : KisAuthConfig)
    (history : History)
    (key : String)
    (family : KeyFamily)
    (term : ℚ) : Prop :=
  family.term cfg = some term ∨
    family = .linkNonce ∧ TicketTerm P cfg history key term

/- An item of a store under a key of the same store. -/
structure WellKept
    (P : Platform)
    (cfg : KisAuthConfig)
    (history : History)
    (now : Nat)
    (key : String)
    (item : Item RedisValue) : Prop where
  record :
    ∃ record : RecordId,
      key = record.key ∧ record.family = item.value.family
  ends :
    ∃ deadline term,
      item.deadline = some deadline ∧
        KeptFor P cfg history key item.value.family term ∧
        WithinTerm now deadline term

/- Every item in Redis, expired ones included. -/
def StoreKept
    (P : Platform)
    (cfg : KisAuthConfig)
    (world : World)
    (history : History) : Prop :=
  ∀ key item,
    world.redis key = some item →
      WellKept P cfg history world.clock key item

/- Redis told of no more time than the term of the store. -/
def TermsTold
    (cfg : KisAuthConfig)
    (history : History) : Prop :=
  ∀ thread family id (left : ℤ),
    .answer thread ⟨.redisTtl (storeKey family id), left⟩ ∈
        history →
      0 < left →
        ∀ term : ℚ,
          family.term cfg = some term →
            ∃ seconds : Nat,
              term = seconds ∧ left ≤ (seconds : ℤ)

variable {P : Platform} {cfg : KisAuthConfig}
variable {world world' : World} {history : History}
variable {now after : Nat} {key : String}

theorem WithinTerm.later
    {deadline : Nat}
    {term : ℚ}
    (hWithin : WithinTerm now deadline term)
    (hLe : now ≤ after) :
    WithinTerm after deadline term := by
  rcases hWithin with ⟨seconds, hTerm, hDeadline⟩
  exact ⟨seconds, hTerm, by omega⟩

/- A ticket that was checked has been checked ever since. -/
theorem TicketTerm.cons
    {term : ℚ}
    (hTerm : TicketTerm P cfg history key term)
    (entry : ServiceEntry) :
    TicketTerm P cfg (entry :: history) key term := by
  rcases hTerm with
    ⟨thread, q, hArrive, query, req, ticket, payload, exp,
      clock, hServes, hGiven, hRead, hExp, hClock, hFacts⟩
  exact
    ⟨thread, q, List.mem_cons_of_mem _ hArrive, query, req,
      ticket, payload, exp, clock, hServes, hGiven, hRead,
      hExp, answersOf_subset thread [entry] history hClock,
      hFacts⟩

/- A record is well kept until it is written again. -/
theorem WellKept.later
    {item : Item RedisValue}
    (hKept : WellKept P cfg history now key item)
    (hLe : now ≤ after) :
    WellKept P cfg history after key item where
  record := hKept.record
  ends := by
    rcases hKept.ends with
      ⟨deadline, term, hEnd, hFor, hWithin⟩
    exact ⟨deadline, term, hEnd, hFor, hWithin.later hLe⟩

theorem WellKept.cons
    {item : Item RedisValue}
    (hKept : WellKept P cfg history now key item)
    (entry : ServiceEntry) :
    WellKept P cfg (entry :: history) now key item where
  record := hKept.record
  ends := by
    rcases hKept.ends with
      ⟨deadline, term, hEnd, hFor, hWithin⟩
    refine ⟨deadline, term, hEnd, ?_, hWithin⟩
    exact hFor.imp id (And.imp id (fun hMark => hMark.cons _))

theorem StoreKept.move
    (hKept : StoreKept P cfg world history)
    (hRedis : world'.redis = world.redis)
    (hClock : world.clock ≤ world'.clock) :
    StoreKept P cfg world' history := by
  intro key item hItem
  rw [hRedis] at hItem
  exact (hKept key item hItem).later hClock

/- What is recorded in the meantime changes nothing. -/
theorem StoreKept.cons
    (hKept : StoreKept P cfg world history)
    (entry : ServiceEntry) :
    StoreKept P cfg world (entry :: history) :=
  fun key item hItem => (hKept key item hItem).cons entry

/- One key is written, with a well-kept item or nothing. -/
theorem StoreKept.write
    {item : Option (Item RedisValue)}
    (hKept : StoreKept P cfg world history)
    (hItem :
      ∀ written ∈ item,
        WellKept P cfg history world.clock key written) :
    StoreKept P cfg
      (world.withRedis (world.redis.write key item))
      history := by
  intro other found hFound
  by_cases hKey : other = key
  · subst hKey
    apply hItem
    rw [Option.mem_def, ← hFound]
    exact (Expiring.write_self world.redis other item).symm
  · apply hKept other found
    rw [← hFound]
    exact (Expiring.write_of_ne hKey).symm

/- An expiry in whole seconds that Redis accepts. -/
theorem validExpire_whole
    {deadline : Nat}
    {ttlSeconds : ℚ}
    (hValid : validExpire now ttlSeconds = some deadline) :
    ∃ seconds : Nat,
      ttlSeconds = seconds ∧
        deadline = now + seconds * 1000 := by
  unfold validExpire at hValid
  split at hValid
  · next hTtl =>
      rw [Option.some.injEq] at hValid
      refine ⟨ttlSeconds.num.toNat, ?_, hValid.symm⟩
      have hInt : (ttlSeconds.num.toNat : ℤ) = ttlSeconds.num :=
        Int.toNat_of_nonneg hTtl.2.1.le
      have hNum : (ttlSeconds.num : ℚ) = ttlSeconds :=
        Rat.coe_int_num_of_den_eq_one hTtl.1
      rw [← hNum, ← hInt]
      norm_cast
  · simp at hValid

/- What `TTL` tells of an item that ends within its term. -/
theorem remainingTtl_within
    {item : Item RedisValue}
    {deadline : Nat}
    {term : ℚ}
    (hEnd : item.deadline = some deadline)
    (hWithin : WithinTerm now deadline term) :
    ∃ seconds : Nat,
      term = seconds ∧
        remainingTtl now (some item) ≤ (seconds : ℤ) := by
  rcases hWithin with ⟨seconds, hTerm, hDeadline⟩
  refine ⟨seconds, hTerm, ?_⟩
  simp only [remainingTtl, hEnd]
  omega

end KisAuth

------------------------------------------------------------
-- Keys And Values
------------------------------------------------------------

namespace KisAuth

open Interaction Store

variable {P : Platform} {cfg : KisAuthConfig}
variable {q : Request} {past : Past} {key : String}
variable {history : History}

/- A record that is written belongs to the store of its key. -/
theorem record_of_write
    {value : RedisValue}
    (hWrite : WriteAllowed P cfg q past key value) :
    ∃ record : RecordId,
      key = record.key ∧ record.family = value.family := by
  cases value with
  | session session =>
      rcases hWrite with ⟨sessionId, hKey, _⟩
      exact ⟨.session sessionId, hKey, rfl⟩
  | challenge record =>
      rcases hWrite with ⟨id, _, _, _, _, _, hKey, _⟩
      exact ⟨.challenge id, hKey, rfl⟩
  | code payload =>
      rcases hWrite with ⟨_, _, _, _, _, hIssued⟩
      rcases hIssued.code with ⟨code, hKey, _⟩
      exact ⟨.code code, hKey, rfl⟩
  | ticket payload =>
      rcases hWrite with ⟨_, _, _, _, _, hIssued⟩
      rcases hIssued.code with ⟨code, hKey, _⟩
      exact ⟨.regTicket code, hKey, rfl⟩
  | claimed => exact hWrite.elim
  | count hits => exact hWrite.elim

/- A store that a value is written to has a term. -/
theorem term_of_write
    {value : RedisValue}
    (hWrite : WriteAllowed P cfg q past key value) :
    ∃ term, value.family.term cfg = some term := by
  cases value with
  | claimed => exact hWrite.elim
  | count hits => exact hWrite.elim
  | _ => exact ⟨_, rfl⟩

/- The policies of every route. -/
theorem limit_policy
    {limit : RateLimitPolicy × String}
    (hLimit : limit ∈ q.limits P) :
    limit.1 ∈ redemptionPolicies ++ browserPolicies := by
  by_cases hRedeems : q.redeems.isSome = true
  · exact
      List.mem_append_left _ (exchange_policy hRedeems hLimit)
  · apply List.mem_append_right
    cases q with
    | authorizationExchange post => exact absurd rfl hRedeems
    | registrationExchange post => exact absurd rfl hRedeems
    | _ =>
        simp [Request.limits] at hLimit <;>
          simp [hLimit, browserPolicies]

/- A hit is counted under the key of a counter. -/
theorem record_of_counter
    (hKey : key ∈ q.counters P) :
    ∃ record : RecordId,
      key = record.key ∧ record.family = .rateLimit := by
  rcases List.mem_map.mp hKey with ⟨limit, hLimit, rfl⟩
  exact
    ⟨.rateLimit
        ⟨limit.1.scope,
          scope_plain limit.1 (limit_policy hLimit)⟩
        limit.2,
      rfl, rfl⟩

/- Items under one key belong to one store. -/
theorem WellKept.family_eq
    {now : Nat}
    {item : Item RedisValue}
    {family : KeyFamily}
    {id : String}
    (hKept :
      WellKept P cfg history now (storeKey family id) item) :
    item.value.family = family := by
  rcases hKept.record with ⟨record, hKey, hFamily⟩
  rw [record.key_eq, storeKey_inj] at hKey
  rw [← hFamily, hKey.1]

/- A store that has a term keeps its items no longer. -/
theorem WellKept.ends_within
    {now : Nat}
    {item : Item RedisValue}
    {term : ℚ}
    (hKept : WellKept P cfg history now key item)
    (hTerm : item.value.family.term cfg = some term) :
    ∃ deadline,
      item.deadline = some deadline ∧
        WithinTerm now deadline term := by
  rcases hKept.ends with
    ⟨deadline, term', hEnd, hFull | ⟨hMark, _⟩, hWithin⟩
  · have hSame : term' = term :=
      Option.some.inj (hFull.symm.trans hTerm)
    exact ⟨deadline, hEnd, hSame ▸ hWithin⟩
  · rw [hMark] at hTerm
    cases hTerm

end KisAuth

------------------------------------------------------------
-- What One Command Does
------------------------------------------------------------

namespace KisAuth

open Interaction Store

variable {P : Platform} {cfg : KisAuthConfig}
variable {world world' : World} {history : History}
variable {thread : Nat} {q : Request}

/- A SET keeps the terms. -/
theorem StoreKept.set
    {key : String}
    {value : RedisValue}
    {ttlSeconds : ℚ}
    {deadline : Nat}
    (hKept : StoreKept P cfg world history)
    (hTold : TermsTold cfg history)
    (hAllowed :
      WriteAllowed P cfg q (answersOf thread history) key
        value)
    (hTerm :
      KeepsTerm cfg (answersOf thread history) key value
        ttlSeconds)
    (hValid :
      validExpire world.clock ttlSeconds = some deadline)
    (hStore :
      ∃ term, value.family.term cfg = some term) :
    StoreKept P cfg
      (world.withRedis
        (world.redis.put key ⟨value, some deadline⟩))
      history := by
  rcases record_of_write hAllowed with
    ⟨record, hKey, hFamily⟩
  rcases validExpire_whole hValid with
    ⟨seconds, hSeconds, hDeadline⟩
  rw [Expiring.put_eq_write]
  apply hKept.write
  intro written hWritten
  rw [Option.mem_def, Option.some.injEq] at hWritten
  subst hWritten
  rcases hStore with ⟨term, hStore⟩
  refine
    ⟨⟨record, hKey, hFamily⟩, deadline, term, rfl,
      Or.inl hStore, ?_⟩
  rcases hTerm with hFull | ⟨left, hLeft, hTtl, hSame⟩
  · have hEq : term = ttlSeconds :=
      Option.some.inj (hStore.symm.trans hFull)
    exact ⟨seconds, hEq.trans hSeconds, hDeadline.le⟩
  · rw [hKey, record.key_eq, hFamily] at hTtl
    rcases hTold thread _ _ left (mem_of_past hTtl) hLeft
        term hStore with ⟨whole, hWhole, hLe⟩
    refine ⟨whole, hWhole, ?_⟩
    have hInt : (seconds : ℤ) = left := by
      have hRat : (seconds : ℚ) = left :=
        hSeconds.symm.trans hSame
      exact_mod_cast hRat
    omega

/- So does the mark of a ticket, for what the ticket has left. -/
theorem StoreKept.claim
    {key : String}
    {ttlSeconds : ℚ}
    {deadline : Nat}
    (hKept : StoreKept P cfg world history)
    (hArrive : Entry.arrive thread q ∈ history)
    (hClaims :
      ClaimsTicket P cfg q (answersOf thread history) key
        ttlSeconds)
    (hValid :
      validExpire world.clock ttlSeconds = some deadline) :
    StoreKept P cfg
      (world.withRedis
        (world.redis.put key ⟨.claimed, some deadline⟩))
      history := by
  have hMark : TicketTerm P cfg history key ttlSeconds :=
    ⟨thread, q, hArrive, hClaims⟩
  rcases hClaims with
    ⟨_, _, _, payload, _, _, _, _, _, _, _, _, rfl, _⟩
  rcases validExpire_whole hValid with
    ⟨seconds, hSeconds, hDeadline⟩
  rw [Expiring.put_eq_write]
  apply hKept.write
  intro written hWritten
  rw [Option.mem_def, Option.some.injEq] at hWritten
  subst hWritten
  exact
    ⟨⟨.linkNonce payload.nonce, rfl, rfl⟩, deadline,
      ttlSeconds, rfl, Or.inr ⟨rfl, hMark⟩,
      ⟨seconds, hSeconds, hDeadline.le⟩⟩

/- And so does the count of a hit, in a window or a new one. -/
theorem StoreKept.hit
    {key : String}
    (hKept : StoreKept P cfg world history)
    (hKey : key ∈ q.counters P) :
    StoreKept P cfg
      (world.withRedis
        (world.redis.put key
          (countHit world.clock 60
            (world.redis.find world.clock key))))
      history := by
  rcases record_of_counter hKey with
    ⟨record, hRecord, hFamily⟩
  rw [Expiring.put_eq_write]
  apply hKept.write
  intro written hWritten
  rw [Option.mem_def, Option.some.injEq] at hWritten
  subst hWritten
  refine ⟨⟨record, hRecord, hFamily⟩, ?_⟩
  cases hFind : world.redis.find world.clock key with
  | none =>
      exact
        ⟨world.clock + 60 * 1000, 60, rfl, Or.inl rfl, 60, rfl,
          le_refl _⟩
  | some item =>
      rcases Expiring.eq_some_of_find hFind with ⟨hItem, _⟩
      have hOld := hKept key item hItem
      have hCount : item.value.family = .rateLimit := by
        rw [hRecord, record.key_eq, hFamily] at hOld
        exact hOld.family_eq
      have hMinute :
          item.value.family.term cfg = some 60 := by
        rw [hCount]
        rfl
      rcases hOld.ends_within hMinute with
        ⟨deadline, hEnd, hWithin⟩
      exact ⟨deadline, 60, hEnd, Or.inl rfl, hWithin⟩

/- An answer that tells of no remaining time. -/
theorem TermsTold.cons
    {effect : Eff}
    {value : effect.Res}
    (hTold : TermsTold cfg history)
    (hOther : ∀ key, effect ≠ .redisTtl key) :
    TermsTold cfg
      (.answer thread ⟨effect, value⟩ :: history) := by
  intro asker family id left hMem
  rcases List.mem_cons.mp hMem with hHead | hEarlier
  · injection hHead with _ hAnswer
    injection hAnswer with hEffect _
    exact absurd hEffect.symm (hOther _)
  · exact hTold asker family id left hEarlier

/- What `TTL` answers keeps to the term of the key. -/
theorem TermsTold.ttl
    {key : String}
    (hKept : StoreKept P cfg world history)
    (hTold : TermsTold cfg history) :
    TermsTold cfg
      (.answer thread
        ⟨.redisTtl key,
          remainingTtl world.clock
            (world.redis.find world.clock key)⟩ ::
        history) := by
  intro asker family id left hMem hLeft term hStore
  rcases List.mem_cons.mp hMem with hHead | hEarlier
  · injection hHead with _ hAnswer
    injection hAnswer with hEffect hValue
    injection hEffect with hKey
    subst hKey
    cases hFind :
        world.redis.find world.clock (storeKey family id) with
    | none =>
        rw [hFind] at hValue
        simp only [remainingTtl] at hValue
        omega
    | some item =>
        rcases Expiring.eq_some_of_find hFind with ⟨hItem, _⟩
        have hItemKept := hKept _ item hItem
        have hTerm :
            item.value.family.term cfg = some term := by
          rw [hItemKept.family_eq]
          exact hStore
        rcases hItemKept.ends_within hTerm with
          ⟨deadline, hEnd, hWithin⟩
        rw [hValue, hFind]
        exact remainingTtl_within hEnd hWithin
  · exact hTold asker family id left hEarlier hLeft term hStore

end KisAuth

------------------------------------------------------------
-- Every Reachable State
------------------------------------------------------------

namespace KisAuth

open Interaction Store

variable {P : Platform} {cfg : KisAuthConfig}
variable {world world' : World} {history : History}
variable {thread : Nat} {q : Request}

/- The store and what was told of it, together. -/
structure TermsKept
    (P : Platform)
    (cfg : KisAuthConfig)
    (world : World)
    (history : History) : Prop where
  store : StoreKept P cfg world history
  told : TermsTold cfg history

/- A Redis command keeps the terms. -/
theorem TermsKept.execRedis
    {effect : Eff}
    {value : effect.Res}
    (hKept : TermsKept P cfg world history)
    (hArrive : Entry.arrive thread q ∈ history)
    (hAllowed :
      Allowed P cfg q (answersOf thread history) effect)
    (hTerms :
      OnTerms P cfg q (answersOf thread history) effect)
    (hExec :
      world.execRedis effect = some (value, world')) :
    TermsKept P cfg world'
      (.answer thread ⟨effect, value⟩ :: history) := by
  cases effect with
  | redisSet key stored ttlSeconds =>
      refine ⟨StoreKept.cons ?_ _, hKept.told.cons (by simp)⟩
      simp only [World.execRedis] at hExec
      cases hValid : validExpire world.clock ttlSeconds with
      | none =>
          simp only [hValid, Option.some.injEq, Prod.mk.injEq]
            at hExec
          rw [← hExec.2]
          exact hKept.store
      | some deadline =>
          simp only [hValid, Option.some.injEq, Prod.mk.injEq]
            at hExec
          rw [← hExec.2]
          exact
            hKept.store.set hKept.told hAllowed hTerms.1 hValid
              (term_of_write hAllowed)
  | redisSetNx key ttlSeconds =>
      refine ⟨StoreKept.cons ?_ _, hKept.told.cons (by simp)⟩
      simp only [World.execRedis] at hExec
      split at hExec
      · rw [Option.some.injEq, Prod.mk.injEq] at hExec
        rw [← hExec.2]
        exact hKept.store
      · next deadline hValid =>
          split at hExec
          · rw [Option.some.injEq, Prod.mk.injEq] at hExec
            rw [← hExec.2]
            exact hKept.store
          · rw [Option.some.injEq, Prod.mk.injEq] at hExec
            rw [← hExec.2]
            exact hKept.store.claim hArrive hTerms hValid
  | redisGet key =>
      refine ⟨StoreKept.cons ?_ _, hKept.told.cons (by simp)⟩
      rw [World.execRedis, Option.some.injEq, Prod.mk.injEq]
        at hExec
      rw [← hExec.2]
      exact hKept.store
  | redisTtl key =>
      rw [World.execRedis, Option.some.injEq, Prod.mk.injEq]
        at hExec
      rcases hExec with ⟨rfl, rfl⟩
      exact
        ⟨hKept.store.cons _, hKept.told.ttl hKept.store⟩
  | redisDel key =>
      refine ⟨StoreKept.cons ?_ _, hKept.told.cons (by simp)⟩
      rw [World.execRedis, Option.some.injEq, Prod.mk.injEq]
        at hExec
      rw [← hExec.2, Expiring.remove_eq_write]
      exact hKept.store.write (by simp)
  | redisConsume key =>
      refine ⟨StoreKept.cons ?_ _, hKept.told.cons (by simp)⟩
      rw [World.execRedis, Option.some.injEq, Prod.mk.injEq]
        at hExec
      rw [← hExec.2, Expiring.remove_eq_write]
      exact hKept.store.write (by simp)
  | redisIncr key windowSeconds =>
      refine ⟨StoreKept.cons ?_ _, hKept.told.cons (by simp)⟩
      have hMinute : windowSeconds = 60 := hTerms
      subst hMinute
      simp only [World.execRedis, Option.some.injEq,
        Prod.mk.injEq] at hExec
      rw [← hExec.2]
      exact hKept.store.hit hAllowed
  | _ => simp [World.execRedis] at hExec

/- Every answered call keeps the terms. -/
theorem TermsKept.exec
    {ext : External}
    {effect : Eff}
    {value : effect.Res}
    (hKept : TermsKept P cfg world history)
    (hArrive : Entry.arrive thread q ∈ history)
    (hAllowed :
      Allowed P cfg q (answersOf thread history) effect)
    (hTerms :
      OnTerms P cfg q (answersOf thread history) effect)
    (hExec :
      world.exec P cfg effect ext = some (value, world')) :
    TermsKept P cfg world'
      (.answer thread ⟨effect, value⟩ :: history) := by
  have hOther :
      World.backend effect ≠ .redis →
        ∀ key, effect ≠ .redisTtl key := by
    rintro hBackend key rfl
    exact hBackend rfl
  cases hBackend : World.backend effect with
  | redis =>
      simp only [World.exec, hBackend] at hExec
      exact hKept.execRedis hArrive hAllowed hTerms hExec
  | sql =>
      simp only [World.exec, hBackend] at hExec
      rcases execSql_frame hExec with ⟨hRedis, _, hClock, _⟩
      exact
        ⟨(hKept.store.cons _).move hRedis hClock.ge,
          hKept.told.cons (hOther (by simp [hBackend]))⟩
  | other =>
      simp only [World.exec, hBackend] at hExec
      rcases execOther_frame hExec with ⟨hRedis, _, hClock⟩
      exact
        ⟨(hKept.store.cons _).move hRedis hClock,
          hKept.told.cons (hOther (by simp [hBackend]))⟩

/- What is told by no answered call changes nothing. -/
theorem TermsTold.silent
    {entry : ServiceEntry}
    (hTold : TermsTold cfg history)
    (hSilent : ∀ asker answer, entry ≠ .answer asker answer) :
    TermsTold cfg (entry :: history) := by
  intro asker family id left hMem
  rcases List.mem_cons.mp hMem with hHead | hEarlier
  · exact absurd hHead.symm (hSilent _ _)
  · exact hTold asker family id left hEarlier

/- The terms are kept in every reachable state. -/
theorem Run.termsKept (run : Run P cfg) :
    TermsKept P cfg run.state.world run.history := by
  apply
    Reachable.invariant (TermsKept P cfg) _ _ _ _ _
      run.reachable
  · exact
      ⟨fun key item hItem => by simp [World.empty] at hItem,
        fun _ _ _ _ hMem => by simp at hMem⟩
  · exact fun world history thread request hKept =>
      ⟨hKept.store.cons _, hKept.told.silent (by simp)⟩
  · intro world history thread effect ext value world'
      hConforms hHead hExec hKept
    rcases hHead.2 with ⟨q, rest, hArrive, hReaches⟩
    exact
      hKept.exec hArrive
        ((handler_obeys q).guard_of_reaches hReaches)
        ((handler_onTerms q).guard_of_reaches hReaches)
        hExec
  · exact fun world history thread outcome hKept =>
      ⟨hKept.store.cons _, hKept.told.silent (by simp)⟩
  · intro world history op world' hEnv hKept
    rcases env_frame hEnv with ⟨hRedis, hClock⟩
    exact
      ⟨(hKept.store.cons _).move hRedis hClock,
        hKept.told.silent (by simp)⟩

/-
  In every reachable state, every key in Redis is the key of
  a record of the store its value belongs to, and ends within
  the term of that store, or of the ticket that it marks.
-/
theorem store_contents (run : Run P cfg) :
    StoreKept P cfg run.state.world run.history :=
  run.termsKept.store

end KisAuth
