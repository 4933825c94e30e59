import KisAuth.Provenance.Identities
import KisAuth.Provenance.Sessions

/-
  Who may link an account.

  Every row of `auth_identity` was inserted either by a
  signed identity/link request that names it, or by the
  callback of a link session whose user comes from an
  accepted link ticket. No step changes what an existing row
  is bound to.

  Key definitions include:
    * `LinkSigned`, `LinkCalledBack`
    * `RowLinked`, `RowsKept`

  Key theorems include:
    * `link_authority`
-/

------------------------------------------------------------
-- The Two Ways To Link
------------------------------------------------------------

namespace KisAuth

open Interaction Store

variable (P : Platform) (cfg : KisAuthConfig)

/-
  An identity/link request with a valid signature names the
  provider, the subject and the user.
-/
structure LinkSigned
    (past : Past)
    (q : Request)
    (post : InternalPost)
    (linked : IdentityBinding) : Prop where
  request : q = .identityLink post
  accepted :
    ⟨.verifySignature
        { method := "POST"
          url := identityLinkUrl
          body := post.body
          headers := post.headers },
      some .ok⟩ ∈ past
  signature :
    SignatureValid P cfg
      { method := "POST"
        url := identityLinkUrl
        body := post.body
        headers := post.headers }
  provider :
    textParameter P (post.field "provider") = linked.provider
  providerSubject :
    textParameter P (post.field "provider_subject") =
      linked.providerSubject
  kisUserId :
    uuidIn (textParameter P (post.field "kis_user_id")) =
      some linked.kisUserId

/-
  The callback of a link session: the /authorize that
  created the session accepted a link ticket for the user,
  and the session's provider verified the subject with the
  session's nonce.
-/
structure LinkCalledBack
    (history : History)
    (past : Past)
    (q : Request)
    (callback : Callback)
    (sessionId : String)
    (session created : OAuthSession)
    (token : VerifiedIdToken)
    (named : String)
    (linked : IdentityBinding) : Prop where
  request : q.callback = some callback
  verified :
    Verified P cfg callback past sessionId session token
  same : SameSession session created
  purpose : created.purpose = "link"
  linkKisUserId : created.linkKisUserId = some named
  ticket :
    ∃ thread query,
      Minted P cfg history thread query sessionId created ∧
        LinkAccepted P cfg query (answersOf thread history)
          named
  provider : linked.provider = callback.provider
  providerSubject :
    linked.providerSubject = callback.subject token.sub
  kisUserId : uuidIn named = some linked.kisUserId

/- The row was inserted in one of the two ways. -/
def RowLinked
    (history : History)
    (linked : IdentityBinding) : Prop :=
  ∃ later earlier thread q args row,
    history =
        later ++
          .answer thread ⟨.insertIdentity args, .ok row⟩ ::
            earlier ∧
      row.binding = linked ∧
      Entry.arrive thread q ∈ earlier ∧
      ((∃ post,
          LinkSigned P cfg (answersOf thread earlier) q post
            linked) ∨
        ∃ callback sessionId session created token named,
          LinkCalledBack P cfg earlier
            (answersOf thread earlier) q callback sessionId
            session created token named linked)

/-
  Each step leaves every row bound as it is, and a row that
  it adds is an accepted insert.
-/
def RowsKept (state : ServiceState) : Prop :=
  ∀ action state',
    act (worldSemantics P cfg) (handler P cfg) state action =
        some state' →
      ∃ added,
        state'.world.tables.bindings =
            state.world.tables.bindings ++ added ∧
          ∀ linked ∈ added,
            ∃ thread args row,
              row.binding = linked ∧
                state'.history =
                  .answer thread
                      ⟨.insertIdentity args, .ok row⟩ ::
                    state.history

end KisAuth

------------------------------------------------------------
-- Inserted Rows
------------------------------------------------------------

namespace KisAuth

open Interaction Store

variable {P : Platform} {cfg : KisAuthConfig}
variable {history : History}

/- What a link request's body names. -/
theorem requestedLink_spec
    {post : InternalPost}
    {args : NewIdentity}
    (hRequested : requestedLink P post.body = some args) :
    args.provider = textParameter P (post.field "provider") ∧
      args.providerSubject =
        textParameter P (post.field "provider_subject") ∧
      args.kisUserId =
        textParameter P (post.field "kis_user_id") := by
  unfold requestedLink at hRequested
  simp only at hRequested
  split at hRequested
  · simp only [Option.some.injEq] at hRequested
    subst hRequested
    exact ⟨rfl, rfl, rfl⟩
  · simp at hRequested

theorem signed_link
    {post : InternalPost}
    {args : NewIdentity}
    {row : AuthIdentity}
    {thread : Nat}
    (hRecorded : Recorded P cfg history)
    (hRequested :
      LinkRequested P post (answersOf thread history) args)
    (hInserted : Inserted args row history) :
    LinkSigned P cfg (answersOf thread history)
      (.identityLink post) post row.binding := by
  rcases hRequested with ⟨hAccepted, hNames⟩
  rcases requestedLink_spec hNames with
    ⟨hProvider, hSubject, hUser⟩
  constructor
  · rfl
  · exact hAccepted
  · exact signature_of_accepted hRecorded
      (mem_of_past hAccepted)
  · rw [← hProvider]
    exact hInserted.provider.symm
  · rw [← hSubject]
    exact hInserted.providerSubject.symm
  · rw [← hUser]
    exact hInserted.kisUserId

theorem called_back_link
    {q : Request}
    {callback : Callback}
    {sessionId : String}
    {session : OAuthSession}
    {token : VerifiedIdToken}
    {args : NewIdentity}
    {row : AuthIdentity}
    {thread : Nat}
    (hRecorded : Recorded P cfg history)
    (hCallback : q.callback = some callback)
    (hEarned :
      LinkEarned P cfg callback (answersOf thread history)
        args sessionId session token)
    (hInserted : Inserted args row history) :
    ∃ created,
      LinkCalledBack P cfg history (answersOf thread history)
        q callback sessionId session created token
        args.kisUserId row.binding := by
  have hReads := hEarned.verified.reads
  rcases session_read_origin hRecorded
      (mem_of_past hReads.read) with
    ⟨minter, query, created, hMinted, hSame⟩
  rcases hSame.fields with
    ⟨_, _, hPurpose, _, _, hUser, _⟩
  have hLink : created.purpose = "link" := by
    rw [← hPurpose]
    exact hEarned.purpose
  have hNamed :
      created.linkKisUserId = some args.kisUserId := by
    rw [← hUser]
    exact hEarned.kisUserId
  refine ⟨created, ?_⟩
  constructor
  · exact hCallback
  · exact hEarned.verified
  · exact hSame
  · exact hLink
  · exact hNamed
  · exact
      ⟨minter, query, hMinted,
        minted_link hMinted hLink hNamed⟩
  · exact hInserted.provider.trans hEarned.provider
  · exact
      hInserted.providerSubject.trans hEarned.providerSubject
  · exact hInserted.kisUserId

/- Every binding of a history was linked. -/
theorem binding_linked
    {linked : IdentityBinding}
    (hRecorded : Recorded P cfg history)
    (hMem : linked ∈ bindings history) :
    RowLinked P cfg history linked := by
  rcases (mem_bindings_iff _ _).mp hMem with
    ⟨thread, args, row, hEntry, rfl⟩
  rcases hRecorded.step hEntry with
    ⟨later, earlier, q, hSplit, hStep⟩
  have hInserted := hStep.faithful row rfl
  refine
    ⟨later, earlier, thread, q, args, row, hSplit, rfl,
      hStep.arrived, ?_⟩
  rcases hStep.allowed.1 with
    ⟨post, rfl, hRequested⟩ |
    ⟨callback, sessionId, session, token, hCallback, hEarned⟩
  · left
    exact
      ⟨post, signed_link hStep.recorded hRequested hInserted⟩
  · right
    rcases called_back_link hStep.recorded hCallback hEarned
        hInserted with
      ⟨created, hCalledBack⟩
    exact
      ⟨callback, sessionId, session, created, token,
        args.kisUserId, hCalledBack⟩

/- The next entry adds its own row, if any. -/
theorem bindings_cons
    (entry : ServiceEntry)
    (history : History) :
    bindings (entry :: history) =
      bindings history ++ (addedBy entry).toList := by
  unfold bindings
  cases hAdded : addedBy entry with
  | none => simp [hAdded]
  | some linked => simp [hAdded]

theorem rows_kept (run : Run P cfg) :
    RowsKept P cfg run.state := by
  intro action state' hAct
  have hRun :=
    Run.mirrors
      ⟨run.clients, state', run.reachable.step action hAct⟩
  rcases act_history hAct with ⟨entry, hHistory⟩
  refine ⟨(addedBy entry).toList, ?_, ?_⟩
  · rw [hRun.rows, run.mirrors.rows]
    unfold Run.history
    rw [hHistory]
    exact bindings_cons entry run.state.history
  · intro linked hLinked
    rw [Option.mem_toList] at hLinked
    have hAlone : linked ∈ bindings [entry] := by
      rw [bindings_cons]
      simpa [bindings] using hLinked
    rcases (mem_bindings_iff _ _).mp hAlone with
      ⟨thread, args, row, hEntry, hBinding⟩
    rw [List.mem_singleton] at hEntry
    refine ⟨thread, args, row, hBinding, ?_⟩
    rw [hHistory, hEntry]

/-
  In every reachable state each row was linked with
  authority, and no further step changes its binding.
-/
theorem link_authority (run : Run P cfg) :
    (∀ row ∈ run.state.world.tables.identities,
        RowLinked P cfg run.history
          row.toAuthIdentity.binding) ∧
      RowsKept P cfg run.state := by
  constructor
  · intro row hRow
    apply binding_linked run.recorded
    rw [← run.mirrors.rows]
    exact List.mem_map_of_mem hRow
  · exact rows_kept run

end KisAuth
