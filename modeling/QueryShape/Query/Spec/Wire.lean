import QueryShape.Json.Results
import QueryShape.Query.Spec

/-!
# Specifications as documents

A relation that is asked for whole is written `true`; one that is `false` when read is not asked
for.  The fields are written only if there is a restriction, and the relations only if there are
some.  No level of what is read repeats a field or a relation.
-/

namespace QueryShape

open Json (Document Reading RecordForm)

namespace Spec

def fieldsDocument (names : List String) : Document :=
  .list (names.map .string)

/-- The members of a level, as far as they are written. -/
def writtenMembers (fields relations : Option Document) : Keyed Document :=
  Document.memberIfSet "fields" id fields ++ Document.memberIfSet "relations" id relations

/-- Relations are only written if there are some. -/
def relationsDocument? : Keyed Document → Option Document
  | [] => none
  | members => some (.record members)

mutual

def toDocument : Spec → Document
  | .mk fields requests =>
      .record (writtenMembers (fields.map fieldsDocument)
        (relationsDocument? (requestDocuments requests)))

def requestDocument : Option Spec → Document
  | none => .bool true
  | some spec => spec.toDocument

def requestDocuments : List (String × Option Spec) → Keyed Document
  | [] => []
  | (name, request) :: rest => (name, requestDocument request) :: requestDocuments rest

end

/-- What a document says about a relation. -/
inductive Wish where
  | unwanted
  | wanted (request : Option Spec)

def Wish.request? : Wish → Option (Option Spec)
  | .unwanted => none
  | .wanted request => some request

/-- The parts of a specification that have been read. -/
structure Draft where
  fields : Option (Option (List String)) := none
  relations : Option (Dictionary Wish) := none

def form : RecordForm where
  title := "struct RawSpec"
  fields := [("fields", true), ("relations", true)]
  exact := true

/-- A relation is a flag or a specification.  Which of them it is shows only when it has been read
to its end, so a flaw in its text comes before everything else. -/
def readWish (readSpec : Document → Reading Spec) (room : Nat) (document : Document) :
    Reading Wish := do
  let _ ← document.readValue room
  match document.readBool, readSpec document with
  | .ok true, _ => return .wanted none
  | .ok false, _ => return .unwanted
  | _, .ok spec => return .wanted (some spec)
  | _, _ => throw (.mismatch (.noAlternative "RawRelation"))

def Draft.step (readSpec : Document → Reading Spec) (room : Nat) (draft : Draft) (name : String)
    (value : Document) : Reading Draft :=
  match name with
  | "fields" =>
      return { draft with
        fields := ← Json.readOnce draft.fields name
          (value.readOptional (Document.readList (fun _ => Document.readString) room)) }
  | _ =>
      return { draft with
        relations := ← Json.readOnce draft.relations name
          (value.readKeyed (readWish readSpec) room) }

def Draft.finish (draft : Draft) : Spec :=
  .mk (restriction (draft.fields.join.getD []))
    ((draft.relations.getD .empty).entries.restrict fun _ wish => wish.request?)

def readWith (readSpec : Document → Reading Spec) (room : Nat) (document : Document) :
    Reading Spec :=
  Draft.finish <$> form.read (Draft.step readSpec) {} room document

/-- Each level of a specification takes two levels of nesting in the text, one for the level and one
for its relations.  With less room than that, no nested level is ever reached. -/
def read : Nat → Document → Reading Spec
  | room + 2, document => readWith (fun nested => read room nested) (room + 2) document
  | room, document => readWith (fun nested => nested.refuse form.title) room document

def ofText (text : String) : Reading Spec :=
  Json.readText read text

/-! ## What is read is well-formed -/

/-- To prove something of reading with any room, prove it of reading one level, with whatever reads
the levels within it. -/
@[elab_as_elim]
theorem readInduction {motive : Nat → (Document → Reading Spec) → Prop}
    (short : ∀ room < 2, motive room (readWith (fun nested => nested.refuse form.title) room))
    (level : ∀ room, motive room (read room) →
      motive (room + 2) (readWith (read room) (room + 2))) (room : Nat) :
    motive room (read room) := by
  induction room using Nat.strongRecOn with
  | ind room ih =>
      match room with
      | 0 => exact short 0 (by decide)
      | 1 => exact short 1 (by decide)
      | room + 2 => exact level room (ih room (by omega))

section Reading

variable {Good : Spec → Prop}

/-- The specifications among the wishes are good. -/
def Draft.Holds (Good : Spec → Prop) (draft : Draft) : Prop :=
  ∀ wishes, draft.relations = some wishes →
    ∀ name spec, (name, Wish.wanted (some spec)) ∈ wishes.entries → Good spec

theorem good_of_readWish {readSpec : Document → Reading Spec}
    (hspec : ∀ document spec, readSpec document = .ok spec → Good spec) {room : Nat}
    {document : Document} {spec : Spec}
    (hread : readWish readSpec room document = .ok (.wanted (some spec))) : Good spec := by
  obtain ⟨_, -, hread⟩ := except_bind_eq_ok.mp hread
  split at hread
  · cases hread
  · cases hread
  · next hnested _ _ =>
      cases hread
      exact hspec document spec hnested
  · cases hread

theorem Draft.holds_step {readSpec : Document → Reading Spec}
    (hspec : ∀ document spec, readSpec document = .ok spec → Good spec) {room : Nat}
    {draft next : Draft} {name : String} {value : Document} (hdraft : draft.Holds Good)
    (hstep : draft.step readSpec room name value = .ok next) : next.Holds Good := by
  unfold step at hstep
  split at hstep
  · obtain ⟨content, -, hstep⟩ := except_bind_eq_ok.mp hstep
    cases hstep
    exact hdraft
  · obtain ⟨content, hcontent, hstep⟩ := except_bind_eq_ok.mp hstep
    cases hstep
    obtain ⟨wishes, hwishes, rfl⟩ := Json.readOnce_eq_ok hcontent
    rintro _ ⟨⟩ name spec hmem
    obtain ⟨_, _, hwish⟩ := Document.readKeyed_eq_ok hwishes name _ hmem
    exact good_of_readWish hspec hwish

section

/- A specification that is made with a restriction is good if those within it are. -/
variable (hmade : ∀ (names : List String) (requests : Keyed (Option Spec)), requests.Distinct →
  (∀ name spec, (name, some spec) ∈ requests → Good spec) →
    Good (.mk (restriction names) requests))
include hmade

theorem Draft.good_finish {draft : Draft} (hdraft : draft.Holds Good) : Good draft.finish := by
  have hnested : ∀ name spec,
      (name, Wish.wanted (some spec)) ∈ (draft.relations.getD .empty).entries → Good spec := by
    cases hwishes : draft.relations with
    | none => exact nofun
    | some wishes => exact hdraft wishes hwishes
  rw [Draft.finish]
  apply hmade
  · exact (draft.relations.getD .empty).distinct.restrict _
  · intro name spec hmem
    obtain ⟨wish, hwish, hrequest⟩ := Keyed.mem_restrict.mp hmem
    cases wish with
    | unwanted => cases hrequest
    | wanted request =>
        cases hrequest
        exact hnested name spec hwish

theorem good_of_readWith {readSpec : Document → Reading Spec}
    (hspec : ∀ document spec, readSpec document = .ok spec → Good spec) {room : Nat}
    {document : Document} {spec : Spec} (hread : readWith readSpec room document = .ok spec) :
    Good spec := by
  obtain ⟨draft, hdraft, rfl⟩ := except_map_eq_ok.mp hread
  apply Draft.good_finish hmade
  exact Json.RecordForm.read_keeps (Draft.Holds Good)
    (fun _ _ _ _ _ => Draft.holds_step hspec) (by rintro _ ⟨⟩) hdraft

theorem good_of_read {room : Nat} {document : Document} {spec : Spec}
    (hread : Spec.read room document = .ok spec) : Good spec := by
  induction room using readInduction generalizing document spec with
  | short room _ =>
      exact good_of_readWith hmade (fun _ _ hrefuse => absurd hrefuse Document.refuse_ne_ok) hread
  | level room ih => exact good_of_readWith hmade (fun _ _ hnested => ih hnested) hread

end

end Reading

theorem wellFormed_of_read {room : Nat} {document : Document} {spec : Spec}
    (hread : Spec.read room document = .ok spec) : spec.WellFormed :=
  good_of_read (fun _ _ hrequests hnested => .mk (fun _ => nodup_of_restriction) hrequests hnested)
    hread

theorem wellFormed_of_ofText {text : String} {spec : Spec} (hread : Spec.ofText text = .ok spec) :
    spec.WellFormed := by
  obtain ⟨_, _, hread⟩ := Json.exists_of_readText hread
  exact wellFormed_of_read hread

end Spec

def WellFormedSpec.ofText (text : String) : Reading WellFormedSpec :=
  certify (Spec.ofText text) fun _ => Spec.wellFormed_of_ofText

end QueryShape
