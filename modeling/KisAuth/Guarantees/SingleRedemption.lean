import KisAuth.Provenance.Redemptions

/-
  A code or a ticket is redeemed at most once.

  Key definitions include:
    * `Presented`, `TokenGiven`
    * `FirstRedemption`, `OwnRoute`, `SpentWhenPresented`

  Key theorems include:
    * `single_redemption`
-/

------------------------------------------------------------
-- Redemptions Of A History
------------------------------------------------------------

namespace KisAuth

open Interaction Store

/-
  The thread serves a redemption that names the text, at the
  route of codes or at the route of tickets.
-/
structure Presented
    (P : Platform)
    (history : History)
    (thread : Nat)
    (route : Redemption)
    (family : KeyFamily)
    (post : InternalPost)
    (code : String) : Prop where
  arrived :
    ∃ q,
      Entry.arrive thread q ∈ history ∧
        q.redeems = some (route, family, post)
  named :
    (post.field "code").toJsString P.joinDepth = some code

/- The thread was answered with a JWT. -/
def TokenGiven (history : History) (thread : Nat) : Prop :=
  ∃ token,
    Entry.respond thread (.ok (.token token)) ∈ history

/-
  A JWT is given for a text that was issued in the store of
  the route, and for which no JWT was given before.
-/
def FirstRedemption
    (P : Platform) : ServiceEntry → History → Prop
| .respond thread (.ok (.token _)), earlier =>
    ∃ route family post code,
      Presented P earlier thread route family post code ∧
        Issued earlier family code ∧
        ∀ other route' family' post',
          Presented P earlier other route' family' post' code →
            ¬TokenGiven earlier other
| _, _ => True

/-
  No JWT is given for a code where tickets are redeemed, nor
  for a ticket where codes are.
-/
def OwnRoute
    (P : Platform)
    (history : History) : Prop :=
  ∀ thread route family post code,
    Presented P history thread route family post code →
      TokenGiven history thread →
        ∀ issuedAs : KeyFamily,
          issuedAs.holdsGrants →
            Issued history issuedAs code →
              issuedAs = family

/-
  A text that was issued is spent once it is consumed.

  An admitted request that has ended consumed the text it
  presented, whatever it ended in. Admission includes both
  rate limits, which come before the signature. From the
  time a text is consumed, a JWT for it is given only to a
  request that had found it by then, and to no other than
  the one that was handed the grant.
-/
structure SpentWhenPresented
    (P : Platform)
    (history : History) : Prop where
  consumed :
    ∀ later middle before thread q outcome route family post
        code,
      history =
          later ++
            .respond thread outcome ::
              (middle ++ .arrive thread q :: before) →
        q.redeems = some (route, family, post) →
        (post.field "code").toJsString P.joinDepth =
            some code →
        Admitted route post
          (answersOf thread
            (middle ++ .arrive thread q :: before)) →
          ∃ found,
            Entry.answer thread
                ⟨.redisConsume (storeKey family code),
                  found⟩ ∈
              middle
  spent :
    ∀ later earlier thread found family code,
      history =
          later ++
            .answer thread
                ⟨.redisConsume (storeKey family code),
                  found⟩ ::
              earlier →
        family.holdsGrants →
        Issued earlier family code →
          ∀ other route family' post,
            Presented P history other route family' post
                code →
              TokenGiven history other →
                ∃ value,
                  Entry.answer other
                      ⟨.redisConsume (storeKey family code),
                        some value⟩ ∈
                    (.answer thread
                        ⟨.redisConsume
                            (storeKey family code),
                          found⟩ ::
                      earlier)
  taken :
    ∀ thread value family code,
      Entry.answer thread
            ⟨.redisConsume (storeKey family code),
              some value⟩ ∈
          history →
        family.holdsGrants →
          ∀ other route family' post,
            Presented P history other route family' post
                code →
              TokenGiven history other →
                other = thread

end KisAuth

------------------------------------------------------------
-- At Most One Token
------------------------------------------------------------

namespace KisAuth

open Interaction Store

variable {P : Platform} {cfg : KisAuthConfig}
variable {history earlier : History}

theorem redeems_holdsGrants
    {q : Request}
    {route : Redemption}
    {family : KeyFamily}
    {post : InternalPost}
    (hRedeems : q.redeems = some (route, family, post)) :
    family.holdsGrants := by
  unfold Request.redeems at hRedeems
  split at hRedeems
  · simp only [Option.some.injEq, Prod.mk.injEq] at hRedeems
    exact Or.inl hRedeems.2.1.symm
  · simp only [Option.some.injEq, Prod.mk.injEq] at hRedeems
    exact Or.inr hRedeems.2.1.symm
  · simp at hRedeems

theorem Presented.holdsGrants
    {thread : Nat}
    {route : Redemption}
    {family : KeyFamily}
    {post : InternalPost}
    {code : String}
    (hPresented :
      Presented P history thread route family post code) :
    family.holdsGrants := by
  rcases hPresented.arrived with ⟨q, _, hRedeems⟩
  exact redeems_holdsGrants hRedeems

/- An issued token consumed what its request presented. -/
theorem tokenIssued_consumed
    {q : Request}
    {past : Past}
    {token : AuthorizationJwt}
    (hIssued : TokenIssued P q past token) :
    ∃ route family post code value,
      q.redeems = some (route, family, post) ∧
        (post.field "code").toJsString P.joinDepth = some code ∧
        ⟨.redisConsume (storeKey family code), some value⟩ ∈
          past := by
  rcases hIssued with
    ⟨post, code, payload, identity, rfl, hRedeemed⟩ |
    ⟨post, code, payload, rfl, hRedeemed⟩
  · exact
      ⟨_, _, post, code, _, rfl, hRedeemed.named,
        hRedeemed.consumed⟩
  · exact
      ⟨_, _, post, code, _, rfl, hRedeemed.named,
        hRedeemed.consumed⟩

/- A thread that was given a JWT consumed its text. -/
theorem tokenGiven_consumed
    {thread : Nat}
    {route : Redemption}
    {family : KeyFamily}
    {post : InternalPost}
    {code : String}
    (hRecorded : Recorded P cfg history)
    (hPresented :
      Presented P history thread route family post code)
    (hGiven : TokenGiven history thread) :
    ∃ value,
      Entry.answer thread
          ⟨.redisConsume (storeKey family code),
            some value⟩ ∈ history := by
  rcases hGiven with ⟨token, hMem⟩
  rcases List.append_of_mem hMem with
    ⟨later, earlier, rfl⟩
  rcases hPresented.arrived with ⟨q, hArrive, hRedeems'⟩
  rcases hRecorded.ended_of_arrive hArrive with
    ⟨_, _, hAnswered⟩
  rcases tokenIssued_consumed hAnswered with
    ⟨route', family', post', code', value, hRedeems, hNamed,
      hConsumed⟩
  rw [hRedeems] at hRedeems'
  simp only [Option.some.injEq, Prod.mk.injEq] at hRedeems'
  rcases hRedeems' with ⟨rfl, rfl, rfl⟩
  have hCode := hPresented.named
  rw [hNamed, Option.some.injEq] at hCode
  subst hCode
  refine ⟨value, List.mem_append_right _ ?_⟩
  exact List.mem_cons_of_mem _ (mem_of_past hConsumed)

/- A consumed text was issued in the same store. -/
theorem issued_of_consumed
    {thread : Nat}
    {family : KeyFamily}
    {code : String}
    {value : RedisValue}
    (hRecorded : Recorded P cfg history)
    (hFamily : family.holdsGrants)
    (hConsumed :
      Entry.answer thread
          ⟨.redisConsume (storeKey family code),
            some value⟩ ∈ history) :
    Issued history family code := by
  rcases stored_of_consumed hRecorded hConsumed with
    ⟨later, earlier, rfl, hEarlier, hStored⟩
  have hIssued := issued_of_stored hEarlier hFamily hStored
  exact (hIssued.cons _).append later

theorem first_redemption
    (hRecorded : Recorded P cfg history) :
    Always (FirstRedemption P) history := by
  apply hRecorded.always
  intro later entry earlier hRecorded
  unfold FirstRedemption
  split
  · next thread token =>
      rcases hRecorded.ended with
        ⟨q, hEarlier, hArrive, _, hAnswered⟩
      rcases tokenIssued_consumed hAnswered with
        ⟨route, family, post, code, value, hRedeems, hNamed,
          hConsumed⟩
      have hFamily := redeems_holdsGrants hRedeems
      have hEntry := mem_of_past hConsumed
      refine
        ⟨route, family, post, code,
          ⟨⟨q, hArrive, hRedeems⟩, hNamed⟩,
          issued_of_consumed hEarlier hFamily hEntry, ?_⟩
      intro other route' family' post' hPresented hGiven
      rcases tokenGiven_consumed hEarlier hPresented hGiven
        with ⟨value', hOther⟩
      have hThread :=
        consumed_once hEarlier hFamily hPresented.holdsGrants
          hEntry hOther
      subst hThread
      -- The thread itself has not ended before.
      rcases hGiven with ⟨token', hResponse⟩
      exact hRecorded.conforms.split.1.1 _ hResponse
  · trivial

theorem own_route
    (hRecorded : Recorded P cfg history) :
    OwnRoute P history := by
  intro thread route family post code hPresented hGiven
    issuedAs hGrants hIssued
  rcases tokenGiven_consumed hRecorded hPresented hGiven with
    ⟨value, hConsumed⟩
  have hFamily := hPresented.holdsGrants
  exact
    Issued.family_unique hRecorded hGrants hFamily hIssued
      (issued_of_consumed hRecorded hFamily hConsumed)

/-
  An admitted request that ended asked for what it
  presented, after it arrived.
-/
theorem consumed_when_presented
    {later middle before : History}
    {thread : Nat}
    {q : Request}
    {outcome : Except HttpError Response}
    {route : Redemption}
    {family : KeyFamily}
    {post : InternalPost}
    {code : String}
    (hRecorded :
      Recorded P cfg
        (later ++
          .respond thread outcome ::
            (middle ++ .arrive thread q :: before)))
    (hRedeems : q.redeems = some (route, family, post))
    (hNamed :
      (post.field "code").toJsString P.joinDepth = some code)
    (hAdmitted :
      Admitted route post
        (answersOf thread
          (middle ++ .arrive thread q :: before))) :
    ∃ found,
      Entry.answer thread
          ⟨.redisConsume (storeKey family code), found⟩ ∈
        middle := by
  have hEnded := hRecorded.drop.tail
  have hArrive :
      Entry.arrive thread q ∈
        middle ++ .arrive thread q :: before :=
    List.mem_append_right middle List.mem_cons_self
  rcases hRecorded.ended_of_arrive (List.mem_append_right _
      (List.mem_cons_of_mem _ hArrive)) with
    ⟨_, hOutcome⟩
  rcases hOutcome.redeemed route family post code hRedeems
      hAdmitted hNamed with ⟨found, hConsume⟩
  exact
    ⟨found, hEnded.answered_later (mem_of_past hConsume)⟩

/- What was consumed is found by nobody afterwards. -/
theorem found_by_then
    {later : History}
    {thread other : Nat}
    {found : Option RedisValue}
    {route : Redemption}
    {family family' : KeyFamily}
    {post : InternalPost}
    {code : String}
    (hRecorded :
      Recorded P cfg
        (later ++
          .answer thread
              ⟨.redisConsume (storeKey family code), found⟩ ::
            earlier))
    (hFamily : family.holdsGrants)
    (hIssued : Issued earlier family code)
    (hPresented :
      Presented P
        (later ++
          .answer thread
              ⟨.redisConsume (storeKey family code), found⟩ ::
            earlier)
        other route family' post code)
    (hGiven :
      TokenGiven
        (later ++
          .answer thread
              ⟨.redisConsume (storeKey family code), found⟩ ::
            earlier)
        other) :
    ∃ value,
      Entry.answer other
          ⟨.redisConsume (storeKey family code), some value⟩ ∈
        (.answer thread
            ⟨.redisConsume (storeKey family code), found⟩ ::
          earlier) := by
  have hFamily' := hPresented.holdsGrants
  rcases tokenGiven_consumed hRecorded hPresented hGiven with
    ⟨value, hConsumed⟩
  have hSame : family = family' :=
    Issued.family_unique hRecorded hFamily hFamily'
      ((hIssued.cons _).append later)
      (issued_of_consumed hRecorded hFamily' hConsumed)
  subst hSame
  refine ⟨value, (List.mem_append.mp hConsumed).resolve_left ?_⟩
  exact not_consumed_later hRecorded hFamily hFamily' hIssued

theorem spent_when_presented
    (hRecorded : Recorded P cfg history) :
    SpentWhenPresented P history where
  consumed := by
    rintro later middle before thread q outcome route family
      post code rfl hRedeems hNamed hAdmitted
    exact
      consumed_when_presented hRecorded hRedeems hNamed
        hAdmitted
  spent := by
    rintro later earlier thread found family code rfl hFamily
      hIssued other route family' post hPresented hGiven
    exact
      found_by_then hRecorded hFamily hIssued hPresented hGiven
  taken := by
    intro thread value family code hConsumed hFamily other
      route family' post hPresented hGiven
    rcases tokenGiven_consumed hRecorded hPresented hGiven with
      ⟨value', hOther⟩
    exact
      (consumed_once hRecorded hFamily hPresented.holdsGrants
        hConsumed hOther).symm

/-
  In every run each code and each ticket yields at most one
  JWT, on its own route, and none to another request once a
  valid request has presented it.
-/
theorem single_redemption (run : Run P cfg) :
    Always (FirstRedemption P) run.history ∧
      OwnRoute P run.history ∧
        SpentWhenPresented P run.history :=
  ⟨first_redemption run.recorded, own_route run.recorded,
    spent_when_presented run.recorded⟩

end KisAuth
