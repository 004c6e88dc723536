import QueryShape.Proofs.Json.Texts
import QueryShape.Proofs.Query.SpecDocument

/-!
# Tidied documents of specifications

Reading a document of a specification and writing it again tidies it up.  Relations that are `false`
go, and so do fields and relations of which nothing is left; a field stays where it is named first;
and the fields come before the relations.  Nothing else changes, at any level.
-/

namespace QueryShape.Spec

open Json (Document Name Reading)

/-! ## Tidying -/

def texts (items : List Document) : List String :=
  items.filterMap fun
    | .string text => some text
    | _ => none

mutual

/-- A level with what is left of its members, the fields before the relations. -/
def tidied : Document → Document
  | .object members _ =>
      let kept := tidiedMembers members
      .record (kept.filter (·.1 = "fields") ++ kept.filter (·.1 = "relations"))
  | document => document

def tidiedMembers : List (Name × Document) → Keyed Document
  | [] => []
  | (.ok name, value) :: rest =>
      match tidiedMember? value with
      | some value => (name, value) :: tidiedMembers rest
      | none => tidiedMembers rest
  | (.error _, _) :: rest => tidiedMembers rest

/-- What is left of the fields, which are a list, or of the relations, which are an object. -/
def tidiedMember? : Document → Option Document
  | .array items _ =>
      match (texts items).eraseDups with
      | [] => none
      | names => some (.list (names.map .string))
  | .object requests _ =>
      match tidiedRequests requests with
      | [] => none
      | requests => some (.record requests)
  | _ => none

def tidiedRequests : List (Name × Document) → Keyed Document
  | [] => []
  | (.ok _, .bool false) :: rest => tidiedRequests rest
  | (.ok name, document) :: rest => (name, tidied document) :: tidiedRequests rest
  | (.error _, _) :: rest => tidiedRequests rest

end

/-- Objects stand for the levels of the specification, and no object has a name twice. -/
inductive InObjects : Document → Prop
  | mk {members : Keyed Document} (distinct : members.Distinct)
      (requests : ∀ requests : Keyed Document, ("relations", .record requests) ∈ members →
        requests.Distinct)
      (nested : ∀ (requests : Keyed Document) name document,
        ("relations", .record requests) ∈ members → (name, document) ∈ requests →
        (∀ flag, document ≠ .bool flag) → InObjects document) :
      InObjects (.record members)

theorem tidiedMembers_eq (members : Keyed Document) :
    tidiedMembers (Document.named members) =
      members.restrict fun _ value => tidiedMember? value := by
  induction members with
  | nil => rw [Document.named_nil, tidiedMembers]; rfl
  | cons member members ih =>
      obtain ⟨name, value⟩ := member
      rw [Document.named_cons, tidiedMembers, Keyed.restrict_cons, ih]
      cases tidiedMember? value <;> rfl

theorem writtenMembers_eq (fields relations : Option Document) :
    writtenMembers fields relations =
      (fields.map ("fields", ·)).toList ++ (relations.map ("relations", ·)).toList := by
  cases fields <;> cases relations <;> rfl

/-- What is left of a level depends on its fields and its relations only. -/
theorem tidied_record {members : Keyed Document} (hmembers : members.Distinct) :
    tidied (.record members) =
      .record (writtenMembers ((members.get? "fields").bind tidiedMember?)
        ((members.get? "relations").bind tidiedMember?)) := by
  have hkept := hmembers.restrict fun _ value => tidiedMember? value
  rw [Document.record_eq, tidied, tidiedMembers_eq, hkept.filter_eq, hkept.filter_eq,
    Keyed.get?_restrict hmembers, Keyed.get?_restrict hmembers, writtenMembers_eq]

/-! ## What was read of a level -/

theorem texts_map_string (names : List String) : texts (names.map .string) = names := by
  rw [texts, List.filterMap_map]
  exact List.filterMap_some

/-- A list of fields that is read is tidied to the restriction that it is read as. -/
theorem tidiedMember?_of_readFields {room : Nat} {value : Document} {names : Option (List String)}
    (hread : value.readOptional (Document.readList (fun _ => Document.readString) room) =
      .ok names) :
    tidiedMember? value = (restriction (names.getD [])).map fieldsDocument := by
  rcases Document.readOptional_eq_ok hread with ⟨rfl, rfl⟩ | ⟨names, hnames, rfl⟩
  · rw [tidiedMember?]
    · rfl
    all_goals exact nofun
  · obtain ⟨inner, items, -, rfl, hitems⟩ := Document.exists_of_readList hnames
    have hstrings : List.Forall₂ Eq items (names.map .string) :=
      List.forall₂_map_right_iff.mpr (hitems.imp fun _ _ => Document.eq_string_of_readString)
    rw [List.forall₂_eq_eq_eq] at hstrings
    subst hstrings
    rw [Document.list, tidiedMember?, texts_map_string, Option.getD_some]
    cases names with
    | nil => rfl
    | cons name rest =>
        rw [restriction]
        · rw [List.eraseDups_cons]; rfl
        · exact List.cons_ne_nil name rest

section

variable {readSpec : Document → Reading Spec}

theorem readWish_eq_ok {room : Nat} {document : Document} {wish : Wish}
    (hread : readWish readSpec room document = .ok wish) :
    (document = .bool true ∧ wish = .wanted none) ∨ (document = .bool false ∧ wish = .unwanted) ∨
      (∀ flag, document ≠ .bool flag) ∧
        ∃ spec, readSpec document = .ok spec ∧ wish = .wanted (some spec) := by
  obtain ⟨_, -, hread⟩ := except_bind_eq_ok.mp hread
  split at hread
  · next hflag =>
      cases hread
      exact Or.inl ⟨Document.eq_bool_of_readBool hflag, rfl⟩
  · next hflag =>
      cases hread
      exact Or.inr (Or.inl ⟨Document.eq_bool_of_readBool hflag, rfl⟩)
  · next spec hspec htrue hfalse =>
      -- A flag would have been read before, whatever the specification is read as.
      cases hread
      refine Or.inr (Or.inr ⟨?_, spec, hspec, rfl⟩)
      rintro (_ | _) rfl
      · exact hfalse rfl
      · exact htrue rfl
  · cases hread

/-- Relations that are read are tidied to what is written of those that are wanted. -/
theorem tidiedRequests_of_readWish {room : Nat} {requests : Keyed Document} {wishes : Keyed Wish}
    (hread : List.Forall₂ (fun request wish => request.1 = wish.1 ∧
      readWish readSpec room request.2 = .ok wish.2) requests wishes)
    (hnested : ∀ name document spec, (name, document) ∈ requests →
      (∀ flag, document ≠ .bool flag) → readSpec document = .ok spec →
        spec.toDocument = tidied document) :
    tidiedRequests (Document.named requests) =
      requestDocuments (wishes.restrict fun _ wish => wish.request?) := by
  induction hread with
  | nil =>
      rw [Document.named_nil, tidiedRequests, Keyed.restrict_nil, requestDocuments]
  | @cons request wish requests wishes hrequest _ ih =>
      obtain ⟨name, document⟩ := request
      obtain ⟨_, wish⟩ := wish
      obtain ⟨rfl, hwish⟩ := hrequest
      specialize ih fun other document spec hmem =>
        hnested other document spec (List.mem_cons_of_mem _ hmem)
      rw [Document.named_cons, Keyed.restrict_cons]
      rcases readWish_eq_ok hwish with ⟨rfl, rfl⟩ | ⟨rfl, rfl⟩ | ⟨hflag, spec, hspec, rfl⟩
      · simp only [Wish.request?, requestDocuments, requestDocument, tidiedRequests, tidied, ih]
      · simp only [Wish.request?, tidiedRequests, ih]
      · have hspec := hnested name document spec List.mem_cons_self hflag hspec
        rw [tidiedRequests, ih, ← hspec]
        · simp only [Wish.request?, requestDocuments, requestDocument]
        · exact hflag false

end

theorem step_fields_eq_ok {readSpec : Document → Reading Spec} {room : Nat} {draft next : Draft}
    {value : Document} (hstep : draft.step readSpec room "fields" value = .ok next) :
    next.relations = draft.relations ∧ ∃ names,
      value.readOptional (Document.readList (fun _ => Document.readString) room) = .ok names ∧
        next.fields = some names := by
  obtain ⟨fields, hfields, hstep⟩ := except_bind_eq_ok.mp hstep
  obtain ⟨names, hnames, rfl⟩ := Json.readOnce_eq_ok hfields
  cases hstep
  exact ⟨rfl, names, hnames, rfl⟩

theorem step_relations_eq_ok {readSpec : Document → Reading Spec} {room : Nat}
    {draft next : Draft} {value : Document}
    (hstep : draft.step readSpec room "relations" value = .ok next) :
    next.fields = draft.fields ∧ ∃ wishes,
      value.readKeyed (readWish readSpec) room = .ok wishes ∧ next.relations = some wishes := by
  obtain ⟨relations, hrelations, hstep⟩ := except_bind_eq_ok.mp hstep
  obtain ⟨wishes, hwishes, rfl⟩ := Json.readOnce_eq_ok hrelations
  cases hstep
  exact ⟨rfl, wishes, hwishes, rfl⟩

theorem eq_of_mem_names {name : String} (hname : name ∈ form.names) :
    name = "fields" ∨ name = "relations" := by
  simpa [form, Json.RecordForm.names] using hname

/-- What was read of an object that stands for a level: its fields and its relations, each from the
member of this name if there is one. -/
theorem exists_of_readWith {readSpec : Document → Reading Spec} {room : Nat}
    {members : Keyed Document} (hmembers : members.Distinct) {spec : Spec}
    (hread : readWith readSpec room (.record members) = .ok spec) :
    ∃ inner draft, room = inner + 1 ∧ spec = Draft.finish draft ∧
      (∀ name ∈ members.keys, name ∈ form.names) ∧
      ((members.get? "fields" = none ∧ draft.fields = none) ∨
        ∃ value names, members.get? "fields" = some value ∧
          value.readOptional (Document.readList (fun _ => Document.readString) inner) = .ok names ∧
          draft.fields = some names) ∧
      ((members.get? "relations" = none ∧ draft.relations = none) ∨
        ∃ value wishes, members.get? "relations" = some value ∧
          value.readKeyed (readWish readSpec) inner = .ok wishes ∧
          draft.relations = some wishes) := by
  obtain ⟨draft, hdraft, rfl⟩ := except_map_eq_ok.mp hread
  obtain ⟨inner, rfl, hnames, hdraft⟩ := Json.RecordForm.exists_of_read_record rfl hdraft
  refine ⟨inner, draft, rfl, rfl, hnames, ?fields, ?relations⟩
  case fields =>
    refine Json.RecordForm.field_of_foldlM Draft.fields "fields" _
      (fun _ _ _ hstep => (step_fields_eq_ok hstep).2) ?_ hmembers hnames hdraft
    intro draft other value next hknown hother hstep
    obtain rfl := (eq_of_mem_names hknown).resolve_left hother
    exact (step_relations_eq_ok hstep).1
  case relations =>
    refine Json.RecordForm.field_of_foldlM Draft.relations "relations" _
      (fun _ _ _ hstep => (step_relations_eq_ok hstep).2) ?_ hmembers hnames hdraft
    intro draft other value next hknown hother hstep
    obtain rfl := (eq_of_mem_names hknown).resolve_right hother
    exact (step_fields_eq_ok hstep).1

theorem tidiedMember?_record (requests : Keyed Document) :
    tidiedMember? (.record requests) =
      relationsDocument? (tidiedRequests (Document.named requests)) := by
  rw [Document.record_eq, tidiedMember?]
  cases tidiedRequests (Document.named requests) <;> rfl

/-- A level is tidied up if the levels within it are. -/
theorem toDocument_of_readWith {readSpec : Document → Reading Spec} {room : Nat}
    {document : Document} {spec : Spec} (hobjects : InObjects document)
    (hspec : ∀ document spec, InObjects document → readSpec document = .ok spec →
      spec.toDocument = tidied document)
    (hread : readWith readSpec room document = .ok spec) : spec.toDocument = tidied document := by
  cases hobjects with
  | @mk members hmembers hrequests hnested =>
      obtain ⟨inner, draft, -, rfl, -, hfields, hrelations⟩ := exists_of_readWith hmembers hread
      have hlisted : (restriction (draft.fields.join.getD [])).map fieldsDocument =
          (members.get? "fields").bind tidiedMember? := by
        rcases hfields with ⟨hget, hdraft⟩ | ⟨value, names, hget, hvalue, hdraft⟩
        · rw [hget, hdraft]
          rfl
        · rw [hget, hdraft]
          exact (tidiedMember?_of_readFields hvalue).symm
      have hasked : relationsDocument? (requestDocuments
          ((draft.relations.getD .empty).entries.restrict fun _ wish => wish.request?)) =
          (members.get? "relations").bind tidiedMember? := by
        rcases hrelations with ⟨hget, hdraft⟩ | ⟨value, wishes, hget, hvalue, hdraft⟩
        · rw [hget, hdraft]
          rfl
        · obtain ⟨deeper, requests, -, rfl, hwishes⟩ := Document.exists_of_readKeyed hvalue
          have hmem := Keyed.mem_of_get?_eq_some hget
          rw [hget, hdraft]
          refine (congrArg relationsDocument? ?_).symm.trans (tidiedMember?_record requests).symm
          apply tidiedRequests_of_readWish (hwishes (hrequests requests hmem))
          intro name document spec hrequest hflag
          exact hspec document spec (hnested requests name document hmem hrequest hflag)
      rw [Draft.finish, toDocument, tidied_record hmembers, hlisted, hasked]

/-- Reading a document of a specification whose levels are objects, and writing the specification,
tidies the document up. -/
theorem toDocument_of_read {room : Nat} {document : Document} {spec : Spec}
    (hobjects : InObjects document) (hread : read room document = .ok spec) :
    spec.toDocument = tidied document := by
  induction room using readInduction generalizing document spec with
  | short room _ =>
      exact toDocument_of_readWith hobjects
        (fun _ _ _ hrefuse => absurd hrefuse Document.refuse_ne_ok) hread
  | level room ih =>
      exact toDocument_of_readWith hobjects (fun _ _ hnested hspec => ih hnested hspec) hread

/-! ## Nesting -/

theorem nesting_le_of_readFields {room : Nat} {value : Document} {names : Option (List String)}
    (hread : value.readOptional (Document.readList (fun _ => Document.readString) room) =
      .ok names) : value.nesting ≤ room := by
  rcases Document.readOptional_eq_ok hread with ⟨rfl, -⟩ | ⟨names, hnames, -⟩
  · exact Nat.zero_le room
  · obtain ⟨inner, items, rfl, rfl, hitems⟩ := Document.exists_of_readList hnames
    refine Document.nesting_list_le_iff.mpr ⟨inner, rfl, ?_⟩
    intro item hmem
    obtain ⟨name, -, hname⟩ := exists_of_forall₂_of_mem hitems hmem
    rw [Document.eq_string_of_readString hname]
    exact Nat.zero_le inner

theorem nesting_le_of_readRelations {readSpec : Document → Reading Spec} {room : Nat}
    {value : Document} {wishes : Dictionary Wish}
    (hrequests : ∀ requests : Keyed Document, value = .record requests → requests.Distinct)
    (hread : value.readKeyed (readWish readSpec) room = .ok wishes) : value.nesting ≤ room := by
  obtain ⟨inner, requests, rfl, rfl, hwishes⟩ := Document.exists_of_readKeyed hread
  refine Document.nesting_record_le_iff.mpr ⟨inner, rfl, ?_⟩
  intro name document hmem
  obtain ⟨wish, -, -, hwish⟩ :=
    exists_of_forall₂_of_mem (hwishes (hrequests requests rfl)) hmem
  obtain ⟨_, hvalue, -⟩ := except_bind_eq_ok.mp hwish
  exact Document.nesting_le_of_readValue hvalue

/-- A document that is read has no more arrays and objects nested in it than there was room for. -/
theorem nesting_le_of_readWith {readSpec : Document → Reading Spec} {room : Nat}
    {document : Document} {spec : Spec} (hobjects : InObjects document)
    (hread : readWith readSpec room document = .ok spec) : document.nesting ≤ room := by
  cases hobjects with
  | @mk members hmembers hrequests _ =>
      obtain ⟨inner, draft, rfl, -, hnames, hfields, hrelations⟩ :=
        exists_of_readWith hmembers hread
      refine Document.nesting_record_le_iff.mpr ⟨inner, rfl, ?_⟩
      intro name value hmem
      have hget := Keyed.get?_eq_some_of_mem hmembers hmem
      rcases eq_of_mem_names (hnames name (Keyed.mem_keys_of_mem hmem)) with rfl | rfl
      · rw [hget] at hfields
        rcases hfields with ⟨hnone, -⟩ | ⟨_, names, hsome, hvalue, -⟩
        · cases hnone
        · cases hsome
          exact nesting_le_of_readFields hvalue
      · rw [hget] at hrelations
        rcases hrelations with ⟨hnone, -⟩ | ⟨_, wishes, hsome, hvalue, -⟩
        · cases hnone
        · cases hsome
          apply nesting_le_of_readRelations _ hvalue
          rintro requests rfl
          exact hrequests requests hmem

theorem nesting_le_of_read {room : Nat} {document : Document} {spec : Spec}
    (hobjects : InObjects document) (hread : read room document = .ok spec) :
    document.nesting ≤ room := by
  induction room using readInduction with
  | short _ _ => exact nesting_le_of_readWith hobjects hread
  | level _ _ => exact nesting_le_of_readWith hobjects hread

theorem distinct_writtenMembers (fields relations : Option Document) :
    (writtenMembers fields relations).Distinct := by
  cases fields <;> cases relations <;> simp [writtenMembers, Keyed.keys]

/-- A level that has its relations from an object. -/
theorem InObjects.of_relations {members requests : Keyed Document} (hmembers : members.Distinct)
    (hget : members.get? "relations" = some (.record requests)) (hrequests : requests.Distinct)
    (hnested : ∀ name document, (name, document) ∈ requests →
      (∀ flag, document ≠ .bool flag) → InObjects document) : InObjects (.record members) := by
  have hsame : ∀ others : Keyed Document, ("relations", .record others) ∈ members →
      others = requests := by
    intro others hmem
    rw [Keyed.get?_eq_some_of_mem hmembers hmem] at hget
    exact Document.record_injective (Option.some.inj hget)
  refine .mk hmembers ?_ ?_
  · intro others hmem
    rw [hsame others hmem]
    exact hrequests
  · intro others name document hmem hrequest
    rw [hsame others hmem] at hrequest
    exact hnested name document hrequest

theorem InObjects.of_none {members : Keyed Document} (hmembers : members.Distinct)
    (hget : members.get? "relations" = none) : InObjects (.record members) := by
  have hnone : ∀ value, ("relations", value) ∉ members := fun value hmem =>
    Keyed.get?_eq_none_iff.mp hget (Keyed.mem_keys_of_mem hmem)
  exact .mk hmembers (fun _ hmem => absurd hmem (hnone _))
    (fun _ _ _ hmem => absurd hmem (hnone _))

theorem get?_relations_writtenMembers (fields relations : Option Document) :
    (writtenMembers fields relations).get? "relations" = relations := by
  cases fields <;> cases relations <;> rfl

theorem inObjects_toDocument {spec : Spec} (hspec : spec.Proper) : InObjects spec.toDocument := by
  induction hspec with
  | @mk fields requests _ _ hdistinct _ ih =>
      rw [toDocument]
      have hmembers := distinct_writtenMembers (fields.map fieldsDocument)
        (relationsDocument? (requestDocuments requests))
      have hget := get?_relations_writtenMembers (fields.map fieldsDocument)
        (relationsDocument? (requestDocuments requests))
      cases requests with
      | nil => exact .of_none hmembers hget
      | cons entry rest =>
          rw [relationsDocument?_cons, requestDocuments_eq] at hmembers hget ⊢
          refine .of_relations hmembers hget (hdistinct.map fun _ => requestDocument) ?_
          intro name document hmem hflag
          obtain ⟨⟨_, request⟩, hrequest, heq⟩ := List.mem_map.mp hmem
          cases heq
          cases request with
          | none => exact absurd rfl (hflag true)
          | some nested => exact ih name nested hrequest

/-- Whatever is built and read has a restriction to one or more distinct fields, or none, at every
level.  It is read back from its document, and from the text of it, exactly if the document has no
more arrays and objects nested in it than the reader admits.  And if it was read from a document
whose levels are objects, it is written as this document tidied up. -/
theorem read_back_and_tidied {spec : Spec} (hspec : spec.Obtained) :
    spec.Proper ∧
      (∀ room, read room spec.toDocument = .ok spec ↔ spec.toDocument.nesting ≤ room) ∧
      (ofText spec.toDocument.compactText = .ok spec ↔
        spec.toDocument.nesting ≤ Json.nestingLimit) ∧
      ∀ room document, read room document = .ok spec → InObjects document →
        spec.toDocument = tidied document := by
  have hproper := hspec.proper
  have hread : ∀ room, read room spec.toDocument = .ok spec ↔ spec.toDocument.nesting ≤ room :=
    fun room => ⟨nesting_le_of_read (inObjects_toDocument hproper), read_toDocument hproper⟩
  refine ⟨hproper, hread, ?text, fun room document hdocument hobjects =>
    toDocument_of_read hobjects hdocument⟩
  case text =>
    rw [ofText, Json.readText_compactText read (legible_toDocument spec)]
    exact hread Json.nestingLimit

/-- The members of a document that names a field twice, refuses two relations, and has parts that
say nothing. -/
def untidyPosts : Keyed Document :=
  [("relations", .record [
      ("posts", .record [("relations", .record [("likes", .bool false)]), ("fields", .null)]),
      ("drafts", .bool false), ("profile", .bool true)]),
    ("fields", .list [.string "id", .string "name", .string "id"])]

theorem read_back_and_tidied_posts :
    let spec : Spec := .mk (some ["id", "name"]) [("posts", some .empty), ("profile", none)]
    let document := Document.record untidyPosts
    read 4 document = .ok spec ∧ spec.Obtained ∧ InObjects document ∧
      ofText spec.toDocument.compactText = .ok spec ∧
      spec.toDocument = tidied document ∧
      tidied document = .record [("fields", .list [.string "id", .string "name"]),
        ("relations", .record [("posts", .record []), ("profile", .bool true)])] := by
  intro spec document
  have hread : read 4 document = .ok spec := rfl
  have hposts : InObjects (.record
      [("relations", .record [("likes", .bool false)]), ("fields", .null)]) := by
    refine .of_relations (by decide) rfl (by decide) ?_
    intro name value hmem hflag
    simp only [List.mem_singleton, Prod.mk.injEq] at hmem
    exact absurd hmem.2 (hflag false)
  have hobjects : InObjects document := by
    refine .of_relations (by decide) rfl (by decide) ?_
    intro name value hmem hflag
    simp only [List.mem_cons, List.not_mem_nil, or_false, Prod.mk.injEq] at hmem
    rcases hmem with ⟨-, rfl⟩ | ⟨-, rfl⟩ | ⟨-, rfl⟩
    · exact hposts
    · exact absurd rfl (hflag false)
    · exact absurd rfl (hflag true)
  obtain ⟨-, -, htext, htidied⟩ := read_back_and_tidied (Obtained.read hread)
  have htidy := htidied 4 document hread hobjects
  exact ⟨hread, .read hread, hobjects, htext.mpr (by decide), htidy, rfl⟩

/-- Asks for the posts of the posts, and so on. -/
def chain : Nat → Spec
  | 0 => .empty
  | levels + 1 => empty.withRelation "posts" (some (chain levels))

theorem obtained_chain (levels : Nat) : (chain levels).Obtained := by
  induction levels with
  | zero => exact .empty
  | succ levels ih =>
      apply Obtained.empty.withRelation
      rintro _ ⟨⟩
      exact ih

theorem nesting_chain (levels : Nat) : (chain levels).toDocument.nesting = 2 * levels + 1 := by
  induction levels with
  | zero => rfl
  | succ levels ih =>
      have hlevel : (chain (levels + 1)).toDocument = .record [("relations",
          .record [("posts", (chain levels).toDocument)])] := by
        change toDocument (.mk none [("posts", some (chain levels))]) = _
        rw [toDocument, requestDocuments, requestDocuments, requestDocument]
        rfl
      simp only [hlevel, Document.record_eq, Document.named_cons, Document.named_nil,
        Document.nesting, Document.membersNesting, ih]
      omega

/-- Sixty-four levels within one another are written and not read back. -/
theorem not_read_back_chain :
    (chain 64).Obtained ∧ ∀ spec, ofText (chain 64).toDocument.compactText ≠ .ok spec := by
  refine ⟨obtained_chain 64, ?_⟩
  intro spec hread
  rw [ofText, Json.readText_compactText read (legible_toDocument _)] at hread
  have hnesting := nesting_le_of_read (inObjects_toDocument (obtained_chain 64).proper) hread
  rw [nesting_chain] at hnesting
  exact absurd hnesting (by decide)

end QueryShape.Spec
