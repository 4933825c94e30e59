import KisAuth.Security.Verification
import KisAuth.Service.Chronicle

/-
  What a single answer says, in terms of the history before
  it. Later modules reason about histories only.

  Key definitions include:
    * `SignatureValid`, `Inserted`, `Selected`
    * `Faithful`

  Key theorems include:
    * `Run.faithful`
    * `random_unique`
-/

------------------------------------------------------------
-- Faithful Answers
------------------------------------------------------------

namespace KisAuth

open Interaction Store

/- The request carries the signature of the shared secret. -/
def SignatureValid
    (P : Platform)
    (cfg : KisAuthConfig)
    (request : SignedRequest) : Prop :=
  ∃ texts,
    headerTexts request.headers = some texts ∧
      expectedSignature P cfg.internalHmacSecret request
          texts =
        some texts.signature

/- The row an accepted insert stores. -/
structure Inserted
    (args : NewIdentity)
    (row : AuthIdentity)
    (earlier : History) : Prop where
  provider : row.provider = args.provider
  providerSubject : row.providerSubject = args.providerSubject
  kisUserId : uuidIn args.kisUserId = some row.kisUserId
  fresh : row.id ∉ drawn earlier
  canonical : uuidIn row.id = some row.id
  newKey :
    ∀ other ∈ bindings earlier,
      other.provider = row.provider →
        other.providerSubject ≠ row.providerSubject
  newUser :
    ∀ other ∈ bindings earlier,
      other.kisUserId ≠ row.kisUserId

/- What a lookup by provider and subject answers. -/
structure Selected
    (provider providerSubject : String)
    (result : Except SqlError (Option AuthIdentity))
    (earlier : History) : Prop where
  found :
    ∀ row, result = .ok (some row) →
      row.binding ∈ bindings earlier ∧
        row.provider = provider ∧
          row.providerSubject = providerSubject
  absent :
    result = .ok none →
      ∀ other ∈ bindings earlier,
        other.provider = provider →
          other.providerSubject ≠ providerSubject

/- The answer is what the history determines. -/
def FaithfulAnswer
    (P : Platform)
    (cfg : KisAuthConfig)
    (earlier : History) : Answer Eff Eff.Res → Prop
| ⟨.redisGet key, value⟩ =>
    ∀ found, value = some found →
      stored earlier key = some found
| ⟨.redisConsume key, value⟩ =>
    ∀ found, value = some found →
      stored earlier key = some found
| ⟨.random, value⟩ => value ∉ drawn earlier
| ⟨.selectIdentity provider providerSubject, result⟩ =>
    Selected provider providerSubject result earlier
| ⟨.selectIdentityById id, result⟩ =>
    ∀ row, result = .ok (some row) →
      row.binding ∈ bindings earlier ∧
        uuidIn id = some row.id
| ⟨.insertIdentity args, result⟩ =>
    ∀ row, result = .ok row → Inserted args row earlier
| ⟨.updateIdentity _ _ id, result⟩ =>
    ∀ row, result = .ok (some row) →
      row.binding ∈ bindings earlier ∧
        uuidIn id = some row.id
| ⟨.verifySignature request, result⟩ =>
    result = some .ok → SignatureValid P cfg request
| ⟨.ssoCacheGet slug, cached⟩ =>
    ∀ config expiresAt, cached = some (config, expiresAt) →
      ∃ thread,
        Entry.answer thread
          ⟨.ssoCacheSet slug config expiresAt, ()⟩ ∈ earlier
| ⟨.discoveryCacheGet url, cached⟩ =>
    ∀ doc expiresAt, cached = some (doc, expiresAt) →
      ∃ thread,
        Entry.answer thread
          ⟨.discoveryCacheSet url doc expiresAt, ()⟩ ∈
            earlier
| _ => True

def Faithful
    (P : Platform)
    (cfg : KisAuthConfig)
    (entry : ServiceEntry)
    (earlier : History) : Prop :=
  match entry with
  | .answer _ answer => FaithfulAnswer P cfg earlier answer
  | _ => True

end KisAuth

------------------------------------------------------------
-- Single Answers
------------------------------------------------------------

namespace KisAuth

open Interaction Store

variable {P : Platform} {cfg : KisAuthConfig}
variable {world world' : World} {history : History}

/- An accepted request carries a valid signature. -/
theorem signatureValid_of_verify
    {cache : NonceCache}
    {checkedAt now maxSkew : ℚ}
    {request : SignedRequest}
    (hVerify :
      (verifyInternalSignature P cfg.internalHmacSecret
        maxSkew checkedAt now request cache).1 = some .ok) :
    SignatureValid P cfg request := by
  rcases @verify_accepted P cfg.internalHmacSecret maxSkew
      ⟨checkedAt, now, request⟩ cache hVerify with
    ⟨texts, hAcceptable, _⟩
  exact ⟨texts, hAcceptable.headers, hAcceptable.signature⟩

theorem mem_bindings_of_find
    {tables : Tables}
    {test : AuthIdentityRow → Bool}
    {row : AuthIdentity}
    (hFind :
      (tables.identities.find? test).map
        AuthIdentityRow.toAuthIdentity = some row) :
    row.binding ∈ tables.bindings ∧
      ∃ full, full.toAuthIdentity = row ∧ test full = true := by
  rcases Option.map_eq_some_iff.mp hFind with
    ⟨full, hFull, rfl⟩
  refine ⟨?_, full, rfl, List.find?_some hFull⟩
  exact List.mem_map_of_mem (List.mem_of_find?_eq_some hFull)

/- A row of the modified table keeps its binding. -/
theorem mem_bindings_of_findRow
    {tables : Tables}
    {id : String}
    {row : AuthIdentity}
    (hFind :
      (tables.findRow id).map
        AuthIdentityRow.toAuthIdentity = some row) :
    row.binding ∈ tables.bindings ∧ row.id = id := by
  rcases mem_bindings_of_find hFind with
    ⟨hMem, full, rfl, hTest⟩
  exact ⟨hMem, by simpa using hTest⟩

/- What a lookup by key finds. -/
theorem selectIdentity_spec
    {tables : Tables}
    {provider providerSubject : String}
    {row : AuthIdentity}
    (hSelect :
      tables.selectIdentity provider providerSubject =
        .ok (some row)) :
    row.binding ∈ tables.bindings ∧
      row.provider = provider ∧
        row.providerSubject = providerSubject := by
  unfold Tables.selectIdentity at hSelect
  split at hSelect
  · simp only [Except.ok.injEq] at hSelect
    rcases mem_bindings_of_find hSelect with
      ⟨hMem, full, rfl, hTest⟩
    simp only [Bool.and_eq_true, beq_iff_eq] at hTest
    exact ⟨hMem, hTest.1, hTest.2⟩
  · simp at hSelect

/- What it did not find is not there. -/
theorem selectIdentity_absent
    {tables : Tables}
    {provider providerSubject : String}
    (hSelect :
      tables.selectIdentity provider providerSubject =
        .ok none) :
    ∀ other ∈ tables.bindings,
      other.provider = provider →
        other.providerSubject ≠ providerSubject := by
  unfold Tables.selectIdentity at hSelect
  split at hSelect
  · simp only [Except.ok.injEq, Option.map_eq_none_iff,
      List.find?_eq_none, Bool.and_eq_true, beq_iff_eq,
      not_and] at hSelect
    intro other hOther
    rcases List.mem_map.mp hOther with ⟨row, hRow, rfl⟩
    exact hSelect row hRow
  · simp at hSelect

/- What a lookup by uuid finds. -/
theorem selectIdentityById_spec
    {tables : Tables}
    {id : String}
    {row : AuthIdentity}
    (hSelect :
      tables.selectIdentityById id = .ok (some row)) :
    row.binding ∈ tables.bindings ∧
      uuidIn id = some row.id := by
  unfold Tables.selectIdentityById at hSelect
  cases hId : uuidIn id with
  | none => simp [hId] at hSelect
  | some canonical =>
      simp only [hId, Except.ok.injEq] at hSelect
      rcases mem_bindings_of_findRow hSelect with
        ⟨hMem, hRow⟩
      exact ⟨hMem, by rw [hRow]⟩

/- What an INSERT that is not refused stores. -/
theorem checkInsert_spec
    {tables : Tables}
    {args accepted : NewIdentity}
    (hCheck : tables.checkInsert args = .ok accepted) :
    accepted.provider = args.provider ∧
      accepted.providerSubject = args.providerSubject ∧
        uuidIn args.kisUserId = some accepted.kisUserId ∧
          tables.conflicts accepted = false := by
  unfold Tables.checkInsert at hCheck
  split at hCheck
  · cases hUser : uuidIn args.kisUserId with
    | none => simp [hUser] at hCheck
    | some kisUserId =>
        simp only [hUser] at hCheck
        split at hCheck
        · simp at hCheck
        · next hConflict =>
            simp only [Except.ok.injEq] at hCheck
            subst hCheck
            exact ⟨rfl, rfl, rfl, by simpa using hConflict⟩
  · simp at hCheck

theorem inserted_of_checkInsert
    {args accepted : NewIdentity}
    {id : String}
    {now : Nat}
    (hMirrors : Mirrors world history)
    (hCheck : world.tables.checkInsert args = .ok accepted)
    (hFresh : id ∉ world.randoms)
    (hId : uuidIn id = some id) :
    Inserted args
      (Tables.newRow accepted id now).toAuthIdentity
      history := by
  rcases checkInsert_spec hCheck with
    ⟨hProvider, hSubject, hUser, hConflict⟩
  have hFree :
      ∀ other ∈ bindings history,
        (other.provider = accepted.provider →
            other.providerSubject ≠
              accepted.providerSubject) ∧
          other.kisUserId ≠ accepted.kisUserId := by
    intro other hOther
    rw [← hMirrors.rows] at hOther
    rcases List.mem_map.mp hOther with ⟨row, hRow, rfl⟩
    unfold Tables.conflicts at hConflict
    have hNone := List.any_eq_false.mp hConflict row hRow
    simp only [Bool.or_eq_true, Bool.and_eq_true, beq_iff_eq,
      not_or, not_and] at hNone
    exact hNone
  rw [hMirrors.randoms] at hFresh
  exact
    { provider := hProvider
      providerSubject := hSubject
      kisUserId := hUser
      fresh := hFresh
      canonical := hId
      newKey := fun other hOther => (hFree other hOther).1
      newUser := fun other hOther => (hFree other hOther).2 }

end KisAuth

------------------------------------------------------------
-- Faithful Histories
------------------------------------------------------------

namespace KisAuth

open Interaction Store

variable {P : Platform} {cfg : KisAuthConfig}
variable {world world' : World} {history : History}

/- A mirroring world answers Redis reads faithfully. -/
theorem faithful_execRedis
    {effect : Eff}
    {value : effect.Res}
    (hMirrors : Mirrors world history)
    (hExec :
      world.execRedis effect = some (value, world')) :
    FaithfulAnswer P cfg history ⟨effect, value⟩ := by
  cases effect with
  | redisGet key =>
      simp only [World.execRedis, Option.some.injEq,
        Prod.mk.injEq] at hExec
      rcases hExec with ⟨rfl, -⟩
      intro found hFound
      exact hMirrors.redis.read hFound
  | redisConsume key =>
      simp only [World.execRedis, Option.some.injEq,
        Prod.mk.injEq] at hExec
      rcases hExec with ⟨rfl, -⟩
      intro found hFound
      exact hMirrors.redis.read hFound
  | _ => trivial

/- And so it answers SQL statements. -/
theorem faithful_execSql
    {effect : Eff}
    {value : effect.Res}
    {ext : External}
    (hMirrors : Mirrors world history)
    (hExec :
      world.execSql ext effect = some (value, world')) :
    FaithfulAnswer P cfg history ⟨effect, value⟩ := by
  cases effect with
  | selectIdentity provider providerSubject =>
      simp only [World.execSql, Option.some.injEq,
        Prod.mk.injEq] at hExec
      rcases hExec with ⟨rfl, -⟩
      constructor
      · intro row hRow
        rw [← hMirrors.rows]
        exact selectIdentity_spec hRow
      · intro hNone
        rw [← hMirrors.rows]
        exact selectIdentity_absent hNone
  | selectIdentityById id =>
      simp only [World.execSql, Option.some.injEq,
        Prod.mk.injEq] at hExec
      rcases hExec with ⟨rfl, -⟩
      intro row hRow
      rw [← hMirrors.rows]
      exact selectIdentityById_spec hRow
  | insertIdentity args =>
      intro row hRow
      rcases execSql_insert hExec with
        ⟨error, _, rfl, _⟩ |
        ⟨accepted, id, hCheck, hFresh, hId, rfl, _⟩
      · simp at hRow
      · simp only [Except.ok.injEq] at hRow
        subst hRow
        exact inserted_of_checkInsert hMirrors hCheck hFresh hId
  | updateIdentity email verified id =>
      intro row hRow
      rcases execSql_update hExec with
        ⟨_, rfl, _⟩ | ⟨canonical, hId, rfl, _⟩
      · simp at hRow
      · simp only [Except.ok.injEq] at hRow
        rcases mem_bindings_of_findRow hRow with
          ⟨hMem, hRowId⟩
        have hRows :=
          bindings_modifyRow world.tables canonical
            (Tables.withEmail email (verified.getD false)
              world.clock)
            (fun _ => rfl)
        rw [hRows, hMirrors.rows] at hMem
        exact ⟨hMem, by rw [hRowId, hId]⟩
  | _ => trivial

/- And all other calls. -/
theorem faithful_execOther
    {effect : Eff}
    {value : effect.Res}
    {ext : External}
    (hMirrors : Mirrors world history)
    (hExec :
      world.execOther P cfg ext effect =
        some (value, world')) :
    FaithfulAnswer P cfg history ⟨effect, value⟩ := by
  cases effect with
  | random =>
      cases ext with
      | random drawnValue =>
          simp only [World.execOther] at hExec
          split at hExec
          · simp at hExec
          · next hFresh =>
              simp only [Option.some.injEq,
                Prod.mk.injEq] at hExec
              rcases hExec with ⟨rfl, -⟩
              rw [hMirrors.randoms] at hFresh
              exact hFresh
      | _ => simp [World.execOther] at hExec
  | verifySignature request =>
      cases ext with
      | elapsed milliseconds =>
          simp only [World.execOther, Option.some.injEq,
            Prod.mk.injEq] at hExec
          rcases hExec with ⟨rfl, -⟩
          intro hOk
          exact signatureValid_of_verify hOk
      | _ => simp [World.execOther] at hExec
  | ssoCacheGet slug =>
      simp only [World.execOther, Option.some.injEq,
        Prod.mk.injEq] at hExec
      rcases hExec with ⟨rfl, -⟩
      intro config expiresAt hCached
      exact hMirrors.ssoCache slug config expiresAt hCached
  | discoveryCacheGet url =>
      simp only [World.execOther, Option.some.injEq,
        Prod.mk.injEq] at hExec
      rcases hExec with ⟨rfl, -⟩
      intro doc expiresAt hCached
      exact hMirrors.discoveryCache url doc expiresAt hCached
  | _ => trivial

theorem faithful_exec
    {effect : Eff}
    {value : effect.Res}
    {ext : External}
    (hMirrors : Mirrors world history)
    (hExec :
      world.exec P cfg effect ext = some (value, world')) :
    FaithfulAnswer P cfg history ⟨effect, value⟩ := by
  unfold World.exec at hExec
  split at hExec
  · exact faithful_execRedis hMirrors hExec
  · exact faithful_execSql hMirrors hExec
  · exact faithful_execOther hMirrors hExec

/- Every answer of a reachable history is faithful. -/
theorem Run.faithful (run : Run P cfg) :
    Always (Faithful P cfg) run.history := by
  have hBoth :
      Mirrors run.state.world run.history ∧
        Always (Faithful P cfg) run.history := by
    apply Reachable.invariant
      (fun world history =>
        Mirrors world history ∧
          Always (Faithful P cfg) history)
      ⟨mirrors_empty run.clients, trivial⟩ ?_ ?_ ?_ ?_
      run.reachable
    · rintro world history thread request
        ⟨hMirrors, hAlways⟩
      exact
        ⟨hMirrors.silent ⟨fun _ => rfl, rfl, rfl⟩
          rfl rfl rfl rfl rfl, trivial, hAlways⟩
    · rintro world history thread effect ext value world' _ _
        hExec ⟨hMirrors, hAlways⟩
      exact
        ⟨hMirrors.exec hExec thread,
          faithful_exec hMirrors hExec, hAlways⟩
    · rintro world history thread outcome
        ⟨hMirrors, hAlways⟩
      exact
        ⟨hMirrors.silent ⟨fun _ => rfl, rfl, rfl⟩
          rfl rfl rfl rfl rfl, trivial, hAlways⟩
    · rintro world history op world' hEnv
        ⟨hMirrors, hAlways⟩
      exact ⟨hMirrors.env hEnv, trivial, hAlways⟩
  exact hBoth.2

/- A random value is drawn by one entry. -/
theorem drawnBy_unique
    (hFaithful : Always (Faithful P cfg) history)
    {left right : ServiceEntry}
    {value : String}
    (hLeft : left ∈ history)
    (hRight : right ∈ history)
    (hDrawLeft : drawnBy left = some value)
    (hDrawRight : drawnBy right = some value) :
    left = right := by
  induction history with
  | nil => simp at hLeft
  | cons head earlier ih =>
      have hFresh :
          ∀ other ∈ earlier,
            drawnBy head = some value →
              drawnBy other ≠ some value := by
        intro other hOther hHead hDraw
        have hMem : value ∈ drawn earlier :=
          List.mem_filterMap.mpr ⟨other, hOther, hDraw⟩
        have hHeadFaithful := hFaithful.1
        unfold drawnBy at hHead
        split at hHead
        · next thread answer =>
            unfold drawnOf at hHead
            split at hHead
            · simp only [Option.some.injEq] at hHead
              subst hHead
              exact hHeadFaithful hMem
            · simp only [Option.some.injEq] at hHead
              subst hHead
              exact (hHeadFaithful _ rfl).fresh hMem
            · simp at hHead
        · simp at hHead
      rcases List.mem_cons.mp hLeft with hEqL | hMemL <;>
        rcases List.mem_cons.mp hRight with hEqR | hMemR
      · exact hEqL.trans hEqR.symm
      · exact absurd hDrawRight
          (hFresh right hMemR (hEqL ▸ hDrawLeft))
      · exact absurd hDrawLeft
          (hFresh left hMemL (hEqR ▸ hDrawRight))
      · exact ih hFaithful.2 hMemL hMemR

/- A random identifier belongs to one thread. -/
theorem random_unique
    (hFaithful : Always (Faithful P cfg) history)
    {left right : Nat}
    {value : String}
    (hLeft : Entry.answer left ⟨.random, value⟩ ∈ history)
    (hRight : Entry.answer right ⟨.random, value⟩ ∈ history) :
    left = right := by
  have hEq :=
    drawnBy_unique hFaithful hLeft hRight rfl rfl
  simp only [Entry.answer.injEq] at hEq
  exact hEq.1

/- A row's id determines the row. -/
theorem binding_unique
    (hFaithful : Always (Faithful P cfg) history)
    {left right : IdentityBinding}
    (hLeft : left ∈ bindings history)
    (hRight : right ∈ bindings history)
    (hId : left.id = right.id) :
    left = right := by
  rcases (mem_bindings_iff _ _).mp hLeft with
    ⟨threadL, argsL, rowL, hMemL, rfl⟩
  rcases (mem_bindings_iff _ _).mp hRight with
    ⟨threadR, argsR, rowR, hMemR, rfl⟩
  have hEq :=
    drawnBy_unique hFaithful hMemL hMemR rfl
      (congrArg some hId.symm)
  have hAdded := congrArg addedBy hEq
  exact Option.some.inj hAdded

end KisAuth
