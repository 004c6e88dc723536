import QueryShape.Proofs.Json.Floats
import QueryShape.Proofs.Json.Room
import QueryShape.Proofs.Schema.Obtained
import QueryShape.Schema.Check
import QueryShape.Schema.Relations
import QueryShape.Schema.Validator

/-!
# Schemas and their documents

A schema is read back from the document that it is written as, with its enumerations, models and
fields in their order.  In the text of the document the lengths are numbers of at most 64 bits, and
the schema is read back from there as well if each of its bounds is.
-/

namespace QueryShape

open Json (Document Reading)

theorem FieldType.get?_named (type : FieldType) : named.get? type.text = some type := by
  cases type <;> rfl

namespace Field

def bounds (field : Field) : List Double :=
  field.min.toList ++ field.max.toList

/-! ## The members of a field -/

/-- What a member of a field holds. -/
inductive Writes (field : Field) : Document → Prop
  | text (content : String) : field.Writes (.string content)
  | flag (set : Bool) : field.Writes (.bool set)
  | length {length : Nat} (mem : length ∈ field.lengths) : field.Writes (.integer length)
  | bound {bound : Double} (mem : bound ∈ field.bounds) : field.Writes (.double bound)

theorem mem_members {field : Field} {name : String} {document : Document}
    (hmem : (name, document) ∈ field.members) : name ∈ form.names ∧ field.Writes document := by
  simp only [members, List.mem_append, List.mem_cons, List.not_mem_nil, or_false,
    Document.mem_memberIfSet, Prod.mk.injEq] at hmem
  rcases hmem with (((((((⟨rfl, rfl⟩ | ⟨rfl, target, -, rfl⟩) | ⟨rfl, rfl⟩ | ⟨rfl, rfl⟩) |
    ⟨rfl, least, hleast, rfl⟩) | ⟨rfl, most, hmost, rfl⟩) | ⟨rfl, rfl⟩ | ⟨rfl, rfl⟩) |
    ⟨rfl, pattern, -, rfl⟩) | ⟨rfl, least, hleast, rfl⟩) | ⟨rfl, most, hmost, rfl⟩
  all_goals refine ⟨by decide, ?_⟩
  · exact .text _
  · exact .text _
  · exact .flag _
  · exact .flag _
  · exact .length (List.mem_append_left _ (Option.mem_toList.mpr hleast))
  · exact .length (List.mem_append_right _ (Option.mem_toList.mpr hmost))
  · exact .flag _
  · exact .flag _
  · exact .text _
  · exact .bound (List.mem_append_left _ (Option.mem_toList.mpr hleast))
  · exact .bound (List.mem_append_right _ (Option.mem_toList.mpr hmost))

/-- What has been read of a field when all its members have been. -/
def writtenDraft (field : Field) : Draft where
  type := some field.type
  target := field.target.map some
  optional := some field.optional
  list := some field.list
  minLength := field.minLength.map some
  maxLength := field.maxLength.map some
  email := some field.email
  url := some field.url
  pattern := field.pattern.map some
  min := field.min.map some
  max := field.max.map some

theorem finish_writtenDraft (field : Field) : field.writtenDraft.finish = .ok field := by
  have hset : ∀ {α : Type} (value : Option α), (value.map some).join = value := by
    rintro α (_ | value) <;> rfl
  rw [Draft.finish]
  simp only [writtenDraft, hset]
  rfl

/-- What is read of a field from some of its members. -/
def draftOf (room : Nat) (members : Keyed Document) : Reading Draft :=
  members.foldlM (fun draft member => Draft.step room draft member.1 member.2) {}

section

variable {room : Nat} {first : Keyed Document} {draft : Draft}

theorem draftOf_concat (hfirst : draftOf room first = .ok draft) (name : String)
    (document : Document) :
    draftOf room (first ++ [(name, document)]) = Draft.step room draft name document := by
  rw [draftOf, List.foldlM_append]
  exact (congrArg (· >>= _) hfirst).trans (bind_pure (Draft.step room draft name document))

/-- A member that is written if it is set is read as it was set. -/
theorem draftOf_append_memberIfSet {α : Type} (hfirst : draftOf room first = .ok draft)
    (name : String) (write : α → Document) (read : Document → Reading α)
    (put : Draft → Option (Option α) → Draft) (hunset : put draft none = draft)
    (hstep : ∀ document, Draft.step room draft name document =
      put draft <$> Json.readOnce none name (document.readOptional read))
    (value : Option α)
    (hread : ∀ given ∈ value, (write given).readOptional read = .ok (some given)) :
    draftOf room (first ++ Document.memberIfSet name write value) =
      .ok (put draft (value.map some)) := by
  cases value with
  | none => rw [Document.memberIfSet, List.append_nil, hfirst, Option.map_none, hunset]
  | some given =>
      rw [Document.memberIfSet, draftOf_concat hfirst, hstep, hread given rfl]
      rfl

/-- A pair of flags is read as it was set. -/
theorem draftOf_append_flags (hfirst : draftOf room first = .ok draft) (name other : String)
    (flag again : Bool) {middle last : Draft}
    (hflag : Draft.step room draft name (.bool flag) = .ok middle)
    (hagain : Draft.step room middle other (.bool again) = .ok last) :
    draftOf room (first ++ [(name, .bool flag), (other, .bool again)]) = .ok last := by
  have hmiddle := (draftOf_concat hfirst name (.bool flag)).trans hflag
  rw [← hagain, ← draftOf_concat hmiddle, List.append_assoc]
  rfl

theorem readOptional_length (length : Nat) :
    (Document.integer length).readOptional Document.readNat = .ok (some length) := by
  have hread : (Document.integer length).readNat = .ok length := by
    simp [Document.integer, Document.readNat, pure, Except.pure]
  exact congrArg (some <$> ·) hread

theorem draftOf_type (room : Nat) (type : FieldType) :
    draftOf room [("type", .string type.text)] = .ok { type := some type } := by
  have hempty : draftOf room [] = .ok {} := rfl
  have hstep : Draft.step room {} "type" (.string type.text) =
      (some <$> (Document.string type.text).readVariant FieldType.named room >>= fun type =>
        return { type }) := rfl
  have hread := Document.readVariant_string type.get?_named room
  rw [← List.nil_append [_], draftOf_concat hempty, hstep, hread]
  rfl

theorem readOptional_double {bound : Double} (hfinite : bound.isFinite = true) :
    (Document.double bound).readOptional Document.readDouble = .ok (some bound) := by
  cases bound with
  | finite bound => rfl
  | infinite negative => cases hfinite
  | nan => cases hfinite

theorem draftOf_members (room : Nat) {field : Field}
    (hfinite : ∀ bound ∈ field.bounds, bound.isFinite = true) :
    draftOf room field.members = .ok field.writtenDraft := by
  have htarget := draftOf_append_memberIfSet (draftOf_type room field.type) "target" .string
    Document.readString (fun draft target => { draft with target }) rfl (fun _ => rfl)
    field.target (fun _ _ => rfl)
  have hflags := draftOf_append_flags htarget "optional" "list" field.optional field.list rfl rfl
  have hleast := draftOf_append_memberIfSet hflags "minLength"
    (fun (length : Nat) => .integer length) Document.readNat
    (fun draft minLength => { draft with minLength }) rfl (fun _ => rfl) field.minLength
    (fun length _ => readOptional_length length)
  have hmost := draftOf_append_memberIfSet hleast "maxLength"
    (fun (length : Nat) => .integer length) Document.readNat
    (fun draft maxLength => { draft with maxLength }) rfl (fun _ => rfl) field.maxLength
    (fun length _ => readOptional_length length)
  have hformats := draftOf_append_flags hmost "email" "url" field.email field.url rfl rfl
  have hpattern := draftOf_append_memberIfSet hformats "pattern" .string Document.readString
    (fun draft pattern => { draft with pattern }) rfl (fun _ => rfl) field.pattern
    (fun _ _ => rfl)
  have hmin := draftOf_append_memberIfSet hpattern "min" Document.double Document.readDouble
    (fun draft min => { draft with min }) rfl (fun _ => rfl) field.min
    fun bound hbound => readOptional_double
      (hfinite bound (List.mem_append_left _ (Option.mem_toList.mpr hbound)))
  exact draftOf_append_memberIfSet hmin "max" Document.double Document.readDouble
    (fun draft max => { draft with max }) rfl (fun _ => rfl) field.max
    fun bound hbound => readOptional_double
      (hfinite bound (List.mem_append_right _ (Option.mem_toList.mpr hbound)))

end

/-! ## Reading a field back -/

theorem Writes.nesting_eq {field : Field} {document : Document} (hwrites : field.Writes document) :
    document.nesting = 0 := by
  cases hwrites with
  | @bound bound _ => cases bound <;> rfl
  | _ => rfl

theorem Writes.legible {field : Field} {document : Document} (hwrites : field.Writes document)
    (hlengths : ∀ length ∈ field.lengths, length < 2 ^ 64)
    (hbounds : ∀ bound ∈ field.bounds, bound.ReadsBack) : document.Legible := by
  cases hwrites with
  | text content => exact .string content
  | flag set => exact .bool set
  | length hmem => exact .number (Json.Number.legible_integer (hlengths _ hmem))
  | bound hmem => exact (hbounds _ hmem).legible

/-- A field is written as one object. -/
theorem read_toDocument {field : Field} (hfinite : ∀ bound ∈ field.bounds, bound.isFinite = true)
    (room : Nat) : read (room + 1) field.toDocument = .ok field := by
  have hnames : ∀ name ∈ field.members.keys, name ∈ form.names := by
    intro name hname
    obtain ⟨⟨_, document⟩, hmem, rfl⟩ := List.mem_map.mp hname
    exact (mem_members hmem).1
  have hdraft : form.read Draft.step {} (room + 1) field.toDocument = .ok field.writtenDraft := by
    rw [toDocument, Json.RecordForm.read_record hnames]
    exact draftOf_members room hfinite
  rw [read, hdraft]
  exact finish_writtenDraft field

theorem nesting_toDocument_le (field : Field) : field.toDocument.nesting ≤ 1 := by
  rw [toDocument]
  refine Document.nesting_record_le_iff.mpr ⟨0, rfl, ?_⟩
  intro name document hmem
  exact (mem_members hmem).2.nesting_eq.le

theorem legible_toDocument {field : Field} (hlengths : ∀ length ∈ field.lengths, length < 2 ^ 64)
    (hbounds : ∀ bound ∈ field.bounds, bound.ReadsBack) : field.toDocument.Legible := by
  rw [toDocument]
  refine .record ?_
  intro name document hmem
  exact (mem_members hmem).2.legible hlengths hbounds

end Field

/-! ## Models -/

namespace Model

def bounds (model : Model) : List Double :=
  model.fields.flatMap fun (_, field) => field.bounds

/-- Wherever there is room for its document, a model is read back from it. -/
theorem read_toDocument {model : Model}
    (hfinite : ∀ bound ∈ model.bounds, bound.isFinite = true) {room : Nat}
    (hroom : model.toDocument.nesting ≤ room) : read room model.toDocument = .ok model := by
  obtain ⟨inner, rfl, hmembers⟩ := Document.nesting_record_le_iff.mp hroom
  obtain ⟨deeper, rfl, hfields⟩ :=
    (Document.nesting_map_le_iff _).mp (hmembers "fields" _ List.mem_cons_self)
  have hread : (Document.record (model.fields.map fun (name, field) =>
      (name, field.toDocument))).readKeyed Field.read (deeper + 1) =
      .ok { entries := model.fields, distinct := model.distinct } := by
    apply Document.readKeyed_record_self model.distinct
    intro name field hmem
    obtain ⟨rest, rfl, -⟩ := Document.nesting_record_le_iff.mp (hfields name field hmem)
    refine Field.read_toDocument (fun bound hbound => ?_) rest
    exact hfinite bound (List.mem_flatMap.mpr ⟨_, hmem, hbound⟩)
  rw [read, toDocument,
    Json.RecordForm.read_record (by simp [Keyed.keys, form, Json.RecordForm.names])]
  simp only [List.foldlM_cons, List.foldlM_nil, Json.readOnce, hread]
  rfl

theorem nesting_toDocument_le (model : Model) : model.toDocument.nesting ≤ 3 := by
  refine Document.nesting_record_le_iff.mpr ⟨2, rfl, ?_⟩
  intro name document hmem
  cases List.mem_singleton.mp hmem
  refine (Document.nesting_map_le_iff _).mpr ⟨1, rfl, ?_⟩
  intro name field _
  exact field.nesting_toDocument_le

theorem legible_toDocument {model : Model} (hlengths : ∀ length ∈ model.lengths, length < 2 ^ 64)
    (hbounds : ∀ bound ∈ model.bounds, bound.ReadsBack) : model.toDocument.Legible := by
  refine .record ?_
  intro name document hmem
  cases List.mem_singleton.mp hmem
  refine .record ?_
  intro name document hmem
  obtain ⟨⟨_, field⟩, hfield, heq⟩ := List.mem_map.mp hmem
  cases heq
  refine Field.legible_toDocument (fun length hlength => ?_) fun bound hbound => ?_
  · exact hlengths length (List.mem_flatMap.mpr ⟨_, hfield, hlength⟩)
  · exact hbounds bound (List.mem_flatMap.mpr ⟨_, hfield, hbound⟩)

end Model

/-! ## Schemas -/

namespace Schema

def bounds (schema : Schema) : List Double :=
  schema.models.flatMap fun (_, model) => model.bounds

theorem readKeyed_enumsDocument {enums : Keyed (List String)} (henums : enums.Distinct)
    {room : Nat} (hroom : (enumsDocument enums).nesting ≤ room) :
    (enumsDocument enums).readKeyed
      (fun room values => values.readList (fun _ => Document.readString) room) room =
      .ok { entries := enums, distinct := henums } := by
  obtain ⟨inner, rfl, hvalues⟩ := (Document.nesting_map_le_iff _).mp hroom
  apply Document.readKeyed_record_self henums
  intro name values hmem
  obtain ⟨deeper, rfl, -⟩ := Document.nesting_list_le_iff.mp (hvalues name values hmem)
  exact Document.readList_list fun _ _ => rfl

theorem readKeyed_modelsDocument {models : Keyed Model} (hmodels : models.Distinct)
    (hfinite : ∀ name model, (name, model) ∈ models → ∀ bound ∈ model.bounds, bound.isFinite = true)
    {room : Nat} (hroom : (modelsDocument models).nesting ≤ room) :
    (modelsDocument models).readKeyed Model.read room =
      .ok { entries := models, distinct := hmodels } := by
  obtain ⟨inner, rfl, hinner⟩ := (Document.nesting_map_le_iff _).mp hroom
  apply Document.readKeyed_record_self hmodels
  intro name model hmem
  exact Model.read_toDocument (hfinite name model hmem) (hinner name model hmem)

/-- Wherever there is room for its document, a schema is read back from it. -/
theorem read_toDocument {schema : Schema}
    (hfinite : ∀ bound ∈ schema.bounds, bound.isFinite = true) {room : Nat}
    (hroom : schema.toDocument.nesting ≤ room) : read room schema.toDocument = .ok schema := by
  rw [toDocument] at hroom ⊢
  obtain ⟨inner, rfl, hmembers⟩ := Document.nesting_record_le_iff.mp hroom
  have henums := readKeyed_enumsDocument schema.distinctEnums
    (hmembers "enums" _ List.mem_cons_self)
  have hmodels := readKeyed_modelsDocument schema.distinctModels
    (fun name model hmem bound hbound =>
      hfinite bound (List.mem_flatMap.mpr ⟨_, hmem, hbound⟩))
    (hmembers "models" _ (List.mem_cons_of_mem _ List.mem_cons_self))
  rw [read, Json.RecordForm.read_record (by simp [Keyed.keys, form, Json.RecordForm.names])]
  simp only [List.foldlM_cons, List.foldlM_nil, Draft.step, Json.readOnce, henums, hmodels]
  rfl

theorem nesting_toDocument_le (schema : Schema) : schema.toDocument.nesting ≤ 5 := by
  rw [toDocument]
  refine Document.nesting_record_le_iff.mpr ⟨4, rfl, ?_⟩
  intro name document hmem
  rcases List.mem_pair.mp hmem with heq | heq
  · cases heq
    refine (Document.nesting_map_le_iff _).mpr ⟨3, rfl, ?_⟩
    intro name values _
    refine Document.nesting_list_le_iff.mpr ⟨2, rfl, ?_⟩
    intro document hmem
    obtain ⟨value, -, rfl⟩ := List.mem_map.mp hmem
    exact Nat.zero_le _
  · cases heq
    refine (Document.nesting_map_le_iff _).mpr ⟨3, rfl, ?_⟩
    intro name model _
    exact model.nesting_toDocument_le

theorem legible_toDocument {schema : Schema}
    (hlengths : ∀ length ∈ schema.lengths, length < 2 ^ 64)
    (hbounds : ∀ bound ∈ schema.bounds, bound.ReadsBack) : schema.toDocument.Legible := by
  rw [toDocument]
  refine .record ?_
  intro name document hmem
  rcases List.mem_pair.mp hmem with heq | heq
  · cases heq
    refine .record ?_
    intro name document hmem
    obtain ⟨⟨_, values⟩, -, heq⟩ := List.mem_map.mp hmem
    cases heq
    refine .list ?_
    intro document hmem
    obtain ⟨value, -, rfl⟩ := List.mem_map.mp hmem
    exact .string value
  · cases heq
    refine .record ?_
    intro name document hmem
    obtain ⟨⟨_, model⟩, hmodel, heq⟩ := List.mem_map.mp hmem
    cases heq
    refine Model.legible_toDocument (fun length hlength => ?_) fun bound hbound => ?_
    · exact hlengths length (List.mem_flatMap.mpr ⟨_, hmodel, hlength⟩)
    · exact hbounds bound (List.mem_flatMap.mpr ⟨_, hmodel, hbound⟩)

/-- The same problems are reported with the schemas, they have the same relations at every depth,
and for every model they make the same validator or fail alike. -/
structure ActsAs (schema other : Schema) : Prop where
  check : ∀ engine, schema.check engine = other.check engine
  relationGraph : ∀ maxDepth, schema.relationGraph maxDepth = other.relationGraph maxDepth
  validator : ∀ engine name,
    ModelValidator.ofModel engine schema name = ModelValidator.ofModel engine other name

theorem ActsAs.refl (schema : Schema) : schema.ActsAs schema :=
  ⟨fun _ => rfl, fun _ => rfl, fun _ _ => rfl⟩

/-- If all bounds are read back, both texts of the document are read as the schema. -/
theorem read_texts {schema : Schema} (hproper : schema.Proper)
    (hfloats : ∀ bound ∈ schema.bounds, bound.ReadsBack) :
    ofText schema.toDocument.compactText = .ok schema ∧
      ofText schema.toDocument.indentedText = .ok schema := by
  have hlegible := legible_toDocument hproper hfloats
  have hread : read Json.nestingLimit schema.toDocument = .ok schema :=
    read_toDocument (fun bound hmem => (hfloats bound hmem).isFinite)
      (schema.nesting_toDocument_le.trans (by decide))
  exact ⟨(Json.readText_compactText read hlegible).trans hread,
    (Json.readText_indentedText read hlegible).trans hread⟩

/-- Whole numbers with a digit to spare are read back, so nothing is assumed of such bounds. -/
theorem read_texts_of_whole_bounds {schema : Schema} (hschema : schema.Obtained)
    (hwhole : ∀ bound ∈ schema.bounds,
      ∃ number : Int, 10 * number.natAbs ≤ 2 ^ 53 ∧ bound = .ofInt number) :
    ofText schema.toDocument.compactText = .ok schema ∧
      ofText schema.toDocument.indentedText = .ok schema := by
  apply read_texts hschema.proper
  intro bound hmem
  obtain ⟨number, hnumber, rfl⟩ := hwhole bound hmem
  exact Double.readsBack_ofInt hnumber

/-- A schema that was declared or read is read back from the document that it is written as.  If
the bounds of its fields are finite, and finite numbers are read back, as far as they are bounds of
it, then it is read back from both texts of the document, and acts as before. -/
theorem read_back_with_bounds {schema : Schema} (hschema : schema.Obtained)
    (hfinite : ∀ bound ∈ schema.bounds, bound.isFinite = true)
    (hfloats : ∀ bound ∈ schema.bounds, bound.isFinite = true → bound.ReadsBack) :
    (∀ room, schema.toDocument.nesting ≤ room → read room schema.toDocument = .ok schema) ∧
      ofText schema.toDocument.compactText = .ok schema ∧
      ofText schema.toDocument.indentedText = .ok schema ∧
      ∀ again, ofText schema.toDocument.compactText = .ok again → again.ActsAs schema := by
  obtain ⟨hcompact, hindented⟩ := read_texts hschema.proper fun bound hmem =>
    hfloats bound hmem (hfinite bound hmem)
  refine ⟨fun room => read_toDocument hfinite, hcompact, hindented, ?_⟩
  intro again hagain
  obtain rfl : schema = again := Except.ok.inj (hcompact.symm.trans hagain)
  exact .refl schema

/-- Wares with a weight between a gram and a ton, given in kilograms. -/
def wares : Schema :=
  let ware : Model := {
    fields := [("sku", { Field.ofType .string with
        minLength := some 0, maxLength := some 18446744073709551615, pattern := some "[A-Z]\\d" }),
      ("color", { Field.valueOf "Color" with optional := true }),
      ("kilograms", { Field.ofType .float with
        min := some (.ofDecimal false 1 3), max := some (.ofInt 1000) }),
      ("parts", { Field.relationTo "ware" with list := true })] }
  (empty.withEnum "Color" ["RED", "", "RED"]).withModel "ware" ware

theorem read_back_with_bounds_wares :
    wares.Obtained ∧ wares.bounds = [.ofDecimal false 1 3, .ofInt 1000] ∧
      (∀ bound ∈ wares.bounds, bound.isFinite = true) ∧
      (∀ bound ∈ wares.bounds, bound.isFinite = true → bound.ReadsBack) ∧
      ofText wares.toDocument.compactText = .ok wares ∧
      ofText wares.toDocument.indentedText = .ok wares ∧
      read 5 wares.toDocument = .ok wares := by
  have hwares : wares.Obtained :=
    .withModel "ware" (.withEnum "Color" _ .empty) (by decide)
  have hbounds : wares.bounds = [.ofDecimal false 1 3, .ofInt 1000] := rfl
  have hfinite : ∀ bound ∈ wares.bounds, bound.isFinite = true := by
    rw [hbounds]
    decide +kernel
  have hfloats : ∀ bound ∈ wares.bounds, bound.ReadsBack := by
    rw [hbounds]
    decide +kernel
  obtain ⟨hroom, hcompact, hindented, -⟩ :=
    read_back_with_bounds hwares hfinite fun bound hmem _ => hfloats bound hmem
  exact ⟨hwares, hbounds, hfinite, fun bound hmem _ => hfloats bound hmem, hcompact, hindented,
    hroom 5 wares.nesting_toDocument_le⟩

end Schema

end QueryShape
