import QueryShape.Json.Results
import QueryShape.Proofs.Attempt
import QueryShape.Proofs.Json.Sized
import QueryShape.Proofs.Keyed
import QueryShape.Schema.Wire

/-!
# Schemas that can be made

A schema is made by declaring enumerations and models one after the other, or by reading a text.
What can be made in this way is what is proper: no length has more than 64 bits.
-/

namespace QueryShape

open Json (Document Reading)

def Field.lengths (field : Field) : List Nat :=
  field.minLength.toList ++ field.maxLength.toList

namespace Model

def lengths (model : Model) : List Nat :=
  model.fields.flatMap fun (_, field) => field.lengths

/-- No length has more than 64 bits. -/
def Proper (model : Model) : Prop :=
  ∀ length ∈ model.lengths, length < 2 ^ 64

instance (model : Model) : Decidable model.Proper :=
  inferInstanceAs (Decidable (∀ length ∈ model.lengths, length < 2 ^ 64))

end Model

namespace Schema

def lengths (schema : Schema) : List Nat :=
  schema.models.flatMap fun (_, model) => model.lengths

/-- No length has more than 64 bits. -/
def Proper (schema : Schema) : Prop :=
  ∀ length ∈ schema.lengths, length < 2 ^ 64

/-- Made by any number of declarations, or read. -/
inductive Obtained : Schema → Prop
  | empty : Obtained .empty
  | withEnum {schema : Schema} (name : String) (values : List String) (made : schema.Obtained) :
      Obtained (schema.withEnum name values)
  | withModel {schema : Schema} (name : String) {model : Model} (made : schema.Obtained)
      (proper : model.Proper) : Obtained (schema.withModel name model)
  | ofText {text : String} {schema : Schema} (read : Schema.ofText text = .ok schema) :
      Obtained schema

theorem proper_empty : empty.Proper :=
  nofun

theorem Proper.withModel {schema : Schema} (hschema : schema.Proper) (name : String)
    {model : Model} (hmodel : model.Proper) : (schema.withModel name model).Proper := by
  intro length hlength
  obtain ⟨⟨other, kept⟩, hmem, hlength⟩ := List.mem_flatMap.mp hlength
  rcases Keyed.mem_insert hmem with heq | hmem
  · cases heq
    exact hmodel length hlength
  · exact hschema length (List.mem_flatMap.mpr ⟨_, hmem, hlength⟩)

end Schema

/-! ## Reading -/

theorem Json.Document.Sized.lt_of_readNat {document : Document} (hdocument : document.Sized)
    {length : Nat} (hread : document.readNat = .ok length) : length < 2 ^ 64 := by
  unfold Document.readNat at hread
  split at hread
  · next value =>
      obtain ⟨hnumber, -⟩ := hdocument
      split at hread
      · cases hread
      · cases hread
        exact hnumber _ rfl
  · exact absurd hread Document.refuse_ne_ok

namespace Field

/-- The lengths that have been read have at most 64 bits. -/
def Draft.Sized (draft : Draft) : Prop :=
  (∀ length, draft.minLength = some (some length) → length < 2 ^ 64) ∧
    ∀ length, draft.maxLength = some (some length) → length < 2 ^ 64

theorem lt_of_readOnce {field content : Option (Option Nat)} {name : String} {value : Document}
    (hvalue : value.Sized)
    (hread : Json.readOnce field name (value.readOptional Document.readNat) = .ok content)
    {length : Nat} (hlength : content = some (some length)) : length < 2 ^ 64 := by
  obtain ⟨found, hfound, rfl⟩ := Json.readOnce_eq_ok hread
  cases hlength
  rcases Document.readOptional_eq_ok hfound with ⟨-, hnone⟩ | ⟨read, hread, hsome⟩
  · cases hnone
  · cases hsome
    exact hvalue.lt_of_readNat hread

theorem Draft.sized_step {room : Nat} {draft next : Draft} {name : String} {value : Document}
    (hvalue : value.Sized) (hdraft : draft.Sized) (hstep : draft.step room name value = .ok next) :
    next.Sized := by
  unfold step at hstep
  split at hstep
  case h_5 =>
    obtain ⟨content, hcontent, hstep⟩ := except_bind_eq_ok.mp hstep
    cases hstep
    exact ⟨fun _ => lt_of_readOnce hvalue hcontent, hdraft.2⟩
  case h_6 =>
    obtain ⟨content, hcontent, hstep⟩ := except_bind_eq_ok.mp hstep
    cases hstep
    exact ⟨hdraft.1, fun _ => lt_of_readOnce hvalue hcontent⟩
  all_goals
    obtain ⟨content, hcontent, hstep⟩ := except_bind_eq_ok.mp hstep
    cases hstep
    exact hdraft

theorem lt_of_mem_lengths_of_read {room : Nat} {document : Document} (hdocument : document.Sized)
    {field : Field} (hread : read room document = .ok field) :
    ∀ length ∈ field.lengths, length < 2 ^ 64 := by
  obtain ⟨draft, hdraft, hfinish⟩ := except_bind_eq_ok.mp hread
  obtain ⟨type, -, hfinish⟩ := except_bind_eq_ok.mp hfinish
  cases hfinish
  obtain ⟨hleast, hmost⟩ : draft.Sized :=
    Json.RecordForm.read_keeps_of_parts Draft.Sized
      (fun room value hpart draft name next => Draft.sized_step (hdocument.of_mem_parts hpart))
      ⟨by rintro _ ⟨⟩, by rintro _ ⟨⟩⟩ hdraft
  intro length hlength
  rcases List.mem_append.mp hlength with hmem | hmem
  · exact hleast length (Option.join_eq_some_iff.mp (Option.mem_toList.mp hmem))
  · exact hmost length (Option.join_eq_some_iff.mp (Option.mem_toList.mp hmem))

end Field

theorem Model.proper_of_read {room : Nat} {document : Document} (hdocument : document.Sized)
    {model : Model} (hread : read room document = .ok model) :
    model.Proper := by
  obtain ⟨draft, hdraft, hread⟩ := except_bind_eq_ok.mp hread
  cases hread
  have hgood : ∀ fields, draft = some fields → ∀ name field, (name, field) ∈ fields.entries →
      ∀ length ∈ field.lengths, length < 2 ^ 64 := by
    refine Json.RecordForm.read_keeps_of_parts
      (fun draft : Option (Dictionary Field) => ∀ fields, draft = some fields →
        ∀ name field, (name, field) ∈ fields.entries → ∀ length ∈ field.lengths, length < 2 ^ 64)
      ?_ (by rintro _ ⟨⟩) hdraft
    intro room value hpart draft _ next _ hnext fields hfields name field hmem
    obtain ⟨content, hcontent, rfl⟩ := Json.readOnce_eq_ok hnext
    cases hfields
    obtain ⟨_, inner, hinner, hfield⟩ := Document.readKeyed_parts hcontent name field hmem
    exact Field.lt_of_mem_lengths_of_read
      ((hdocument.of_mem_parts hpart).of_mem_parts hinner) hfield
  intro length hlength
  obtain ⟨⟨name, field⟩, hmem, hwithin⟩ := List.mem_flatMap.mp hlength
  cases draft with
  | none => cases hmem
  | some fields => exact hgood fields rfl name field hmem length hwithin

namespace Schema

/-- The lengths that have been read have at most 64 bits. -/
def Draft.Sized (draft : Draft) : Prop :=
  ∀ models, draft.models = some models → ∀ name model, (name, model) ∈ models.entries →
    model.Proper

theorem Draft.sized_step {room : Nat} {draft next : Draft} {name : String} {value : Document}
    (hvalue : value.Sized) (hdraft : draft.Sized) (hstep : draft.step room name value = .ok next) :
    next.Sized := by
  unfold step at hstep
  split at hstep
  · obtain ⟨content, -, hstep⟩ := except_bind_eq_ok.mp hstep
    cases hstep
    exact hdraft
  · obtain ⟨content, hcontent, hstep⟩ := except_bind_eq_ok.mp hstep
    cases hstep
    obtain ⟨models, hmodels, rfl⟩ := Json.readOnce_eq_ok hcontent
    rintro _ ⟨⟩ name model hmem
    obtain ⟨_, inner, hinner, hmodel⟩ := Document.readKeyed_parts hmodels name model hmem
    exact Model.proper_of_read (hvalue.of_mem_parts hinner) hmodel

theorem proper_of_read {room : Nat} {document : Document} (hdocument : document.Sized)
    {schema : Schema} (hread : read room document = .ok schema) : schema.Proper := by
  obtain ⟨draft, hdraft, hread⟩ := except_bind_eq_ok.mp hread
  cases hread
  have hgood : draft.Sized :=
    Json.RecordForm.read_keeps_of_parts Draft.Sized
      (fun room value hpart draft name next => Draft.sized_step (hdocument.of_mem_parts hpart))
      (by rintro _ ⟨⟩) hdraft
  intro length hlength
  obtain ⟨⟨name, model⟩, hmem, hwithin⟩ := List.mem_flatMap.mp hlength
  cases hmodels : draft.models with
  | none =>
      rw [hmodels] at hmem
      cases hmem
  | some models =>
      rw [hmodels] at hmem
      exact hgood models hmodels name model hmem length hwithin

theorem proper_of_ofText {text : String} {schema : Schema}
    (hread : Schema.ofText text = .ok schema) : schema.Proper :=
  proper_of_read (Document.sized_ofText text) (Json.read_ofText_of_readText hread)

theorem Obtained.proper {schema : Schema} (hschema : schema.Obtained) : schema.Proper := by
  induction hschema with
  | empty => exact proper_empty
  | withEnum name values _ ih => exact ih
  | withModel name _ hmodel ih => exact ih.withModel name hmodel
  | ofText hread => exact proper_of_ofText hread

/-! ## What is proper is obtained -/

/-- Enumerations can be declared one after the other. -/
def withEnums (schema : Schema) (enums : Keyed (List String)) : Schema :=
  enums.foldl (fun made entry => made.withEnum entry.1 entry.2) schema

/-- Models can be declared one after the other. -/
def withModels (schema : Schema) (models : Keyed Model) : Schema :=
  models.foldl (fun made entry => made.withModel entry.1 entry.2) schema

theorem withEnums_eq (schema : Schema) (enums : Keyed (List String)) :
    (schema.withEnums enums).enums =
        enums.foldl (fun bound entry => bound.insert entry.1 entry.2) schema.enums ∧
      (schema.withEnums enums).models = schema.models := by
  induction enums generalizing schema with
  | nil => exact ⟨rfl, rfl⟩
  | cons first rest ih => exact ih (schema.withEnum first.1 first.2)

theorem withModels_eq (schema : Schema) (models : Keyed Model) :
    (schema.withModels models).enums = schema.enums ∧
      (schema.withModels models).models =
        models.foldl (fun bound entry => bound.insert entry.1 entry.2) schema.models := by
  induction models generalizing schema with
  | nil => exact ⟨rfl, rfl⟩
  | cons first rest ih => exact ih (schema.withModel first.1 first.2)

/-- Every schema is made by declaring its parts. -/
theorem withModels_withEnums (schema : Schema) :
    (empty.withEnums schema.enums).withModels schema.models = schema := by
  obtain ⟨henums, hnone⟩ := empty.withEnums_eq schema.enums
  obtain ⟨hkept, hmodels⟩ := (empty.withEnums schema.enums).withModels_eq schema.models
  apply Schema.ext
  · rw [hkept, henums]
    exact Keyed.ofList_eq_self schema.distinctEnums
  · rw [hmodels, hnone]
    exact Keyed.ofList_eq_self schema.distinctModels

theorem Obtained.withEnums {schema : Schema} (hschema : schema.Obtained)
    (enums : Keyed (List String)) : (schema.withEnums enums).Obtained := by
  induction enums generalizing schema with
  | nil => exact hschema
  | cons first rest ih => exact ih (hschema.withEnum first.1 first.2)

theorem Obtained.withModels {schema : Schema} (hschema : schema.Obtained) {models : Keyed Model}
    (hmodels : ∀ name model, (name, model) ∈ models → model.Proper) :
    (schema.withModels models).Obtained := by
  induction models generalizing schema with
  | nil => exact hschema
  | cons first rest ih =>
      obtain ⟨name, model⟩ := first
      apply ih (hschema.withModel name (hmodels name model List.mem_cons_self))
      exact fun other model hmem => hmodels other model (List.mem_cons_of_mem _ hmem)

theorem Proper.obtained {schema : Schema} (hschema : schema.Proper) : schema.Obtained := by
  rw [← schema.withModels_withEnums]
  apply (Obtained.empty.withEnums schema.enums).withModels
  intro name model hmem length hlength
  exact hschema length (List.mem_flatMap.mpr ⟨_, hmem, hlength⟩)

theorem obtained_iff_proper {schema : Schema} : schema.Obtained ↔ schema.Proper :=
  ⟨Obtained.proper, Proper.obtained⟩

end Schema

end QueryShape
