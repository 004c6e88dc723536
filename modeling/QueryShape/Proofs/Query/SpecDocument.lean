import QueryShape.Proofs.Json.Written
import QueryShape.Proofs.Query.Obtained

/-!
# Specifications and their documents

A specification is read back from the document that it is written as, wherever the reader has room
for the arrays and objects that are nested in the document.  Any other document of a specification,
as long as objects stand for its levels, is written back tidied up: what says nothing is left out,
and the fields come before the relations.
-/

namespace QueryShape.Spec

open Json (Document Name Reading)

/-! ## Writing -/

theorem requestDocuments_eq (requests : Keyed (Option Spec)) :
    requestDocuments requests =
      requests.map fun (name, request) => (name, requestDocument request) := by
  induction requests with
  | nil => rw [requestDocuments]; rfl
  | cons entry rest ih =>
      obtain ⟨name, request⟩ := entry
      rw [requestDocuments, ih]
      rfl

theorem mem_writtenMembers {fields relations : Option Document} {name : String}
    {value : Document} :
    (name, value) ∈ writtenMembers fields relations ↔
      (name = "fields" ∧ fields = some value) ∨ (name = "relations" ∧ relations = some value) := by
  cases fields <;> cases relations <;> simp [writtenMembers, eq_comm]

theorem mem_names_of_mem_writtenMembers {fields relations : Option Document} :
    ∀ name ∈ (writtenMembers fields relations).keys, name ∈ form.names := by
  intro name hname
  obtain ⟨⟨_, value⟩, hmem, rfl⟩ := List.mem_map.mp hname
  rcases mem_writtenMembers.mp hmem with ⟨rfl, -⟩ | ⟨rfl, -⟩ 
  · exact List.mem_cons_self
  · exact List.mem_cons_of_mem _ List.mem_cons_self

theorem foldlM_writtenMembers {δ : Type} (step : δ → String → Document → Reading δ) (start : δ)
    (fields relations : Option Document) :
    (writtenMembers fields relations).foldlM
        (fun draft member => step draft member.1 member.2) start =
      (fields.elim (pure start) (step start "fields") >>= fun draft =>
        relations.elim (pure draft) (step draft "relations")) := by
  cases fields <;> cases relations <;> simp [writtenMembers]

theorem relationsDocument?_cons (entry : String × Option Spec) (rest : Keyed (Option Spec)) :
    relationsDocument? (requestDocuments (entry :: rest)) =
      some (.record (requestDocuments (entry :: rest))) := by
  rw [requestDocuments_eq]
  rfl

theorem relationsDocument?_eq_some_iff {requests : Keyed (Option Spec)} {value : Document} :
    relationsDocument? (requestDocuments requests) = some value ↔
      requests ≠ [] ∧ value = .record (requestDocuments requests) := by
  cases requests with
  | nil => simp [requestDocuments, relationsDocument?]
  | cons entry rest => simp [relationsDocument?_cons, eq_comm]

theorem legible_toDocument (spec : Spec) : spec.toDocument.Legible := by
  induction spec using induction with
  | mk fields requests ih =>
      rw [toDocument]
      refine .record ?_
      intro name value hmem
      rcases mem_writtenMembers.mp hmem with ⟨-, hfields⟩ | ⟨-, hrelations⟩
      · obtain ⟨names, -, rfl⟩ := Option.map_eq_some_iff.mp hfields
        refine .list ?_
        intro item hitem
        obtain ⟨text, -, rfl⟩ := List.mem_map.mp hitem
        exact .string text
      · obtain ⟨-, rfl⟩ := relationsDocument?_eq_some_iff.mp hrelations
        rw [requestDocuments_eq]
        refine .record ?_
        intro relation value hmem
        obtain ⟨⟨_, request⟩, hrequest, heq⟩ := List.mem_map.mp hmem
        cases heq
        cases request with
        | none => exact .bool true
        | some nested => exact ih relation (some nested) hrequest

/-! ## Reading back -/

section

variable {readSpec : Document → Reading Spec}

theorem readWish_requestDocument {request : Option Spec} {room : Nat}
    (hroom : (requestDocument request).nesting ≤ room)
    (hread : ∀ spec, request = some spec → readSpec spec.toDocument = .ok spec) :
    readWish readSpec room (requestDocument request) = .ok (.wanted request) := by
  cases request with
  | none => rfl
  | some spec =>
      have hvalue := (legible_toDocument spec).readValue_eq hroom
      rw [requestDocument, readWish, hvalue]
      simp only [hread spec rfl]
      obtain ⟨fields, requests⟩ := spec
      rw [toDocument]
      rfl

theorem step_fields {draft : Draft} (hdraft : draft.fields = none) {names : List String}
    {room : Nat} (hroom : (fieldsDocument names).nesting ≤ room) :
    draft.step readSpec room "fields" (fieldsDocument names) =
      .ok { draft with fields := some (some names) } := by
  obtain ⟨inner, rfl, -⟩ := Document.nesting_list_le_iff.mp hroom
  have hread : (fieldsDocument names).readList (fun _ => Document.readString) (inner + 1) =
      .ok names := Document.readList_list fun _ _ => rfl
  have hoptional : (fieldsDocument names).readOptional
      (Document.readList (fun _ => Document.readString) (inner + 1)) = .ok (some names) :=
    congrArg (some <$> ·) hread
  simp only [Draft.step, hdraft, Json.readOnce, hoptional]
  rfl

/-- The wishes that stand for what is asked for. -/
def wished {requests : Keyed (Option Spec)} (hdistinct : requests.Distinct) : Dictionary Wish where
  entries := requests.map fun (name, request) => (name, .wanted request)
  distinct := hdistinct.map fun _ => Wish.wanted

theorem step_relations {draft : Draft} (hdraft : draft.relations = none)
    {requests : Keyed (Option Spec)} (hdistinct : requests.Distinct) {room : Nat}
    (hroom : (Document.record (requestDocuments requests)).nesting ≤ room)
    (hread : ∀ name spec, (name, some spec) ∈ requests → readSpec spec.toDocument = .ok spec) :
    draft.step readSpec room "relations" (.record (requestDocuments requests)) =
      .ok { draft with relations := some (wished hdistinct) } := by
  obtain ⟨inner, rfl, hwithin⟩ := Document.nesting_record_le_iff.mp hroom
  rw [requestDocuments_eq] at hwithin ⊢
  have hwishes : ∀ name request, (name, request) ∈ requests →
      readWish readSpec inner (requestDocument request) = .ok (.wanted request) := by
    intro name request hmem
    apply readWish_requestDocument
    · exact hwithin name _ (List.mem_map_of_mem hmem)
    · rintro spec rfl
      exact hread name spec hmem
  simp only [Draft.step, hdraft, Json.readOnce, Document.readKeyed_record hdistinct hwishes]
  rfl

/-- What has been read of a level when all its members have been. -/
def writtenDraft (fields : Option (List String)) {requests : Keyed (Option Spec)}
    (hdistinct : requests.Distinct) : Draft where
  fields := fields.map some
  relations := if requests = [] then none else some (wished hdistinct)

theorem finish_writtenDraft {fields : Option (List String)} {requests : Keyed (Option Spec)}
    (hnonempty : fields ≠ some []) (hnames : ∀ names, fields = some names → names.Nodup)
    (hdistinct : requests.Distinct) :
    (writtenDraft fields hdistinct).finish = mk fields requests := by
  have hfields : restriction ((writtenDraft fields hdistinct).fields.join.getD []) = fields := by
    cases fields with
    | none => rfl
    | some names =>
        exact restriction_of_nodup (fun hnil => hnonempty (congrArg some hnil)) (hnames names rfl)
  have hrequests : ((writtenDraft fields hdistinct).relations.getD .empty).entries.restrict
      (fun _ wish => wish.request?) = requests := by
    rw [writtenDraft]
    split
    · next hnil => exact hnil.symm
    · rw [Option.getD_some, wished, Keyed.restrict, List.filterMap_map]
      exact List.filterMap_some
  rw [Draft.finish, hfields, hrequests]

/-- A level is read back if the levels within it are. -/
theorem readWith_toDocument {fields : Option (List String)} {requests : Keyed (Option Spec)}
    (hspec : (mk fields requests).Proper) {room : Nat}
    (hroom : (mk fields requests).toDocument.nesting ≤ room)
    (hread : ∀ name spec, (name, some spec) ∈ requests → readSpec spec.toDocument = .ok spec) :
    readWith readSpec room (mk fields requests).toDocument = .ok (mk fields requests) := by
  cases hspec with
  | mk hnonempty hnames hdistinct _ =>
      rw [toDocument] at hroom ⊢
      obtain ⟨inner, rfl, hmembers⟩ := Document.nesting_record_le_iff.mp hroom
      have hfields : (fields.map fieldsDocument).elim (pure {})
          (Draft.step readSpec inner {} "fields") = .ok { fields := fields.map some } := by
        cases fields with
        | none => rfl
        | some names =>
            rw [Option.map_some, Option.elim_some]
            exact step_fields rfl (hmembers _ _ (mem_writtenMembers.mpr (Or.inl ⟨rfl, rfl⟩)))
      have hrelations : ∀ draft : Draft, draft.relations = none →
          (relationsDocument? (requestDocuments requests)).elim (pure draft)
            (Draft.step readSpec inner draft "relations") =
            .ok { draft with relations := (writtenDraft fields hdistinct).relations } := by
        rintro ⟨_, _⟩ ⟨⟩
        cases requests with
        | nil => rfl
        | cons entry rest =>
            rw [relationsDocument?_cons, Option.elim_some]
            exact step_relations rfl hdistinct
              (hmembers _ _ (mem_writtenMembers.mpr (Or.inr ⟨rfl, rfl⟩))) hread
      have hdraft : List.foldlM
          (fun draft member => Draft.step readSpec inner draft member.1 member.2) ({} : Draft)
          (writtenMembers (fields.map fieldsDocument)
            (relationsDocument? (requestDocuments requests))) =
          .ok (writtenDraft fields hdistinct) := by
        rw [foldlM_writtenMembers, hfields]
        exact hrelations _ rfl
      rw [readWith, Json.RecordForm.read_record mem_names_of_mem_writtenMembers, hdraft]
      exact congrArg Except.ok (finish_writtenDraft hnonempty hnames hdistinct)

end

/-- A level that is asked for lies two levels of nesting below the one that asks for it. -/
theorem nesting_add_two_le {fields : Option (List String)} {requests : Keyed (Option Spec)}
    {name : String} {nested : Spec} (hmem : (name, some nested) ∈ requests) :
    nested.toDocument.nesting + 2 ≤ (mk fields requests).toDocument.nesting := by
  have hrelations : relationsDocument? (requestDocuments requests) =
      some (.record (requestDocuments requests)) :=
    relationsDocument?_eq_some_iff.mpr ⟨List.ne_nil_of_mem hmem, rfl⟩
  obtain ⟨inner, hinner, hmembers⟩ :=
    Document.nesting_record_le_iff.mp (le_refl (Document.nesting (.record
      (writtenMembers (fields.map fieldsDocument)
        (relationsDocument? (requestDocuments requests))))))
  obtain ⟨deeper, rfl, hwithin⟩ := Document.nesting_record_le_iff.mp
    (hmembers "relations" _ (mem_writtenMembers.mpr (Or.inr ⟨rfl, hrelations⟩)))
  have hnested := hwithin name nested.toDocument (by
    rw [requestDocuments_eq]
    exact List.mem_map_of_mem hmem)
  rw [toDocument, hinner]
  exact Nat.add_le_add_right hnested 2

/-- Where there is room for its document, a specification is read back from it. -/
theorem read_toDocument {spec : Spec} (hspec : spec.Proper) {room : Nat}
    (hroom : spec.toDocument.nesting ≤ room) : read room spec.toDocument = .ok spec := by
  induction room using readInduction generalizing spec with
  | short room hshort =>
      obtain ⟨fields, requests⟩ := spec
      apply readWith_toDocument hspec hroom
      intro name nested hmem
      -- A level within this one would need room for two more levels of nesting.
      have hbelow := (nesting_add_two_le hmem).trans hroom
      omega
  | level room ih =>
      obtain ⟨fields, requests⟩ := spec
      apply readWith_toDocument hspec hroom
      intro name nested hmem
      have hbelow := (nesting_add_two_le hmem).trans hroom
      exact ih (hspec.mem_relations hmem) (Nat.le_of_add_le_add_right hbelow)

end QueryShape.Spec
