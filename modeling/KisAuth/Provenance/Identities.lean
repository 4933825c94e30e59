import KisAuth.Provenance.Record

/-
  Identity rows, as the answers of the database name them.

  Key theorems include:
    * `binding_canonical`
    * `selected_binding`, `linked_binding`
-/

------------------------------------------------------------
-- Rows
------------------------------------------------------------

namespace KisAuth

open Interaction Store

variable {P : Platform} {cfg : KisAuthConfig}
variable {history : History}

theorem bindings_append
    (later earlier : History) :
    bindings earlier ⊆ bindings (later ++ earlier) := by
  intro binding hMem
  unfold bindings at hMem ⊢
  rw [List.mem_reverse] at hMem ⊢
  rw [List.filterMap_append]
  exact List.mem_append_right _ hMem

/- The id of a row is the text the database renders it by. -/
theorem binding_canonical
    {binding : IdentityBinding}
    (hRecorded : Recorded P cfg history)
    (hMem : binding ∈ bindings history) :
    uuidIn binding.id = some binding.id := by
  rcases (mem_bindings_iff _ _).mp hMem with
    ⟨thread, args, row, hEntry, rfl⟩
  rcases hRecorded.step hEntry with
    ⟨later, earlier, q, rfl, hStep⟩
  exact (hStep.faithful row rfl).canonical

/- A lookup by key answers with a row of that key. -/
theorem selected_binding
    {thread : Nat}
    {provider providerSubject : String}
    {row : AuthIdentity}
    (hRecorded : Recorded P cfg history)
    (hMem :
      Entry.answer thread
          ⟨.selectIdentity provider providerSubject,
            .ok (some row)⟩ ∈ history) :
    row.binding ∈ bindings history ∧
      row.provider = provider ∧
        row.providerSubject = providerSubject := by
  rcases hRecorded.step hMem with
    ⟨later, earlier, q, rfl, hStep⟩
  rcases hStep.faithful.found row rfl with
    ⟨hBinding, hProvider, hSubject⟩
  refine ⟨?_, hProvider, hSubject⟩
  have hAll := bindings_append
    (later ++
      [.answer thread
        ⟨.selectIdentity provider providerSubject,
          .ok (some row)⟩]) earlier
  simpa using hAll hBinding

/- A statement on an id answers with the row of that id. -/
theorem binding_of_id
    {earlier : History}
    {id : String}
    {row other : AuthIdentity}
    (hRecorded : Recorded P cfg earlier)
    (hRow : row.binding ∈ bindings earlier)
    (hOther : other.binding ∈ bindings earlier)
    (hId : uuidIn id = some row.id)
    (hSame : other.id = id) :
    row.binding = other.binding := by
  have hCanonical := binding_canonical hRecorded hOther
  have hIds : row.id = other.id := by
    have hBoth : some row.id = some other.id := by
      rw [← hId, ← hSame]
      exact hCanonical
    exact Option.some.inj hBoth
  exact binding_unique hRecorded.faithful hRow hOther hIds

theorem read_binding
    {thread : Nat}
    {id : String}
    {row : AuthIdentity}
    (hRecorded : Recorded P cfg history)
    (hMem :
      Entry.answer thread
          ⟨.selectIdentityById id, .ok (some row)⟩ ∈
        history) :
    row.binding ∈ bindings history ∧
      uuidIn id = some row.id := by
  rcases hRecorded.step hMem with
    ⟨later, earlier, q, rfl, hStep⟩
  rcases hStep.faithful row rfl with ⟨hBinding, hId⟩
  refine ⟨?_, hId⟩
  have hAll := bindings_append
    (later ++
      [.answer thread
        ⟨.selectIdentityById id, .ok (some row)⟩]) earlier
  simpa using hAll hBinding

/- So does a refresh. -/
theorem updated_binding
    {thread : Nat}
    {email : Option String}
    {verified : Option Bool}
    {id : String}
    {row : AuthIdentity}
    (hRecorded : Recorded P cfg history)
    (hMem :
      Entry.answer thread
          ⟨.updateIdentity email verified id,
            .ok (some row)⟩ ∈ history) :
    row.binding ∈ bindings history ∧
      uuidIn id = some row.id := by
  rcases hRecorded.step hMem with
    ⟨later, earlier, q, rfl, hStep⟩
  rcases hStep.faithful row rfl with ⟨hBinding, hId⟩
  refine ⟨?_, hId⟩
  have hAll := bindings_append
    (later ++
      [.answer thread
        ⟨.updateIdentity email verified id,
          .ok (some row)⟩]) earlier
  simpa using hAll hBinding

/- A linked row is a row of the identity that was linked. -/
theorem linked_binding
    {thread : Nat}
    {provider providerSubject kisUserId : String}
    {row : AuthIdentity}
    (hRecorded : Recorded P cfg history)
    (hLinked :
      LinkedRow (answersOf thread history) provider
        providerSubject kisUserId row) :
    row.binding ∈ bindings history ∧
      row.provider = provider ∧
        row.providerSubject = providerSubject := by
  rcases hLinked with
    ⟨args, hInsert, hProvider, hSubject, _⟩ |
    ⟨existing, email, verified, hSelect, _, hUpdate⟩
  · have hEntry := mem_of_past hInsert
    rcases hRecorded.step hEntry with
      ⟨later, earlier, q, hSplit, hStep⟩
    have hInserted := hStep.faithful row rfl
    refine ⟨?_, ?_, ?_⟩
    · exact (mem_bindings_iff _ _).mpr
        ⟨thread, args, row, hEntry, rfl⟩
    · rw [hInserted.provider, hProvider]
    · rw [hInserted.providerSubject, hSubject]
  · rcases selected_binding hRecorded (mem_of_past hSelect)
      with ⟨hExisting, hProvider, hSubject⟩
    rcases updated_binding hRecorded (mem_of_past hUpdate)
      with ⟨hRow, hId⟩
    have hSame :=
      binding_of_id hRecorded hRow hExisting hId rfl
    have hProviders :=
      congrArg IdentityBinding.provider hSame
    have hSubjects :=
      congrArg IdentityBinding.providerSubject hSame
    exact
      ⟨hRow, hProviders.trans hProvider,
        hSubjects.trans hSubject⟩

end KisAuth
