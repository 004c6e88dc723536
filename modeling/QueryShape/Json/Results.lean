import QueryShape.Attempt
import QueryShape.Json.Value

/-!
# What reading builds

A record is read field by field into a draft, so whatever every step of the reading keeps holds of
the draft that comes out.  Every value of an object that is read as a keyed list was read from a
part of the object.
-/

namespace QueryShape.Json

variable {α δ : Type}

theorem Document.refuse_ne_ok {document : Document} {expected : String} {value : α} :
    document.refuse expected ≠ .ok value := by
  unfold Document.refuse
  split <;> exact fun hrefuse => by cases hrefuse

/-- The items of an array, or the values of an object. -/
def Document.parts : Document → List Document
  | .array items _ => items
  | .object members _ => members.map Prod.snd
  | _ => []

namespace RecordForm

theorem readItems_keeps {form : RecordForm} {step : δ → String → Document → Reading δ}
    (Good : δ → Prop) {ending : Ending} {length : Nat} {draft result : δ}
    {fields : List (String × Bool)} {items : List Document}
    (hstep : ∀ value ∈ items, ∀ draft name next, Good draft →
      step draft name value = .ok next → Good next)
    (hdraft : Good draft)
    (hread : form.readItems step ending length draft fields items = .ok result) :
    Good result := by
  induction fields generalizing length draft items with
  | nil =>
      cases items with
      | nil =>
          rw [readItems] at hread
          obtain ⟨-, -, hread⟩ := except_bind_eq_ok.mp hread
          cases hread
          exact hdraft
      | cons item items => cases hread
  | cons field fields ih =>
      obtain ⟨name, hasDefault⟩ := field
      cases items with
      | nil =>
          rw [readItems] at hread
          obtain ⟨-, -, hread⟩ := except_bind_eq_ok.mp hread
          split at hread
          · exact ih hstep hdraft hread
          · cases hread
      | cons item items =>
          rw [readItems] at hread
          obtain ⟨next, hnext, hread⟩ := except_bind_eq_ok.mp hread
          obtain ⟨hitem, hitems⟩ := List.forall_mem_cons.mp hstep
          exact ih hitems (hitem draft name next hdraft hnext) hread

theorem readMembers_keeps {form : RecordForm} {step : δ → String → Document → Reading δ}
    (Good : δ → Prop) {ending : Ending} {draft result : δ} {members : List (Name × Document)}
    (hstep : ∀ value ∈ members.map Prod.snd, ∀ draft name next, Good draft →
      step draft name value = .ok next → Good next)
    (hdraft : Good draft)
    (hread : form.readMembers step ending draft members = .ok result) : Good result := by
  induction members generalizing draft with
  | nil =>
      rw [readMembers] at hread
      obtain ⟨-, -, hread⟩ := except_bind_eq_ok.mp hread
      cases hread
      exact hdraft
  | cons member members ih =>
      obtain ⟨name, value⟩ := member
      obtain ⟨hvalue, hmembers⟩ := List.forall_mem_cons.mp hstep
      rw [readMembers] at hread
      obtain ⟨name, -, hread⟩ := except_bind_eq_ok.mp hread
      split at hread
      · obtain ⟨next, hnext, hread⟩ := except_bind_eq_ok.mp hread
        exact ih hmembers (hvalue draft name next hdraft hnext) hread
      · split at hread
        · cases hread
        · obtain ⟨-, -, hread⟩ := except_bind_eq_ok.mp hread
          exact ih hmembers hdraft hread

/-- What holds of the draft at the start and is kept by every step on a part of the document holds
of the draft at the end. -/
theorem read_keeps_of_parts {form : RecordForm} {step : Nat → δ → String → Document → Reading δ}
    (Good : δ → Prop) {start result : δ} {room : Nat} {document : Document}
    (hstep : ∀ room, ∀ value ∈ document.parts, ∀ draft name next, Good draft →
      step room draft name value = .ok next → Good next)
    (hstart : Good start) (hread : form.read step start room document = .ok result) :
    Good result := by
  cases document with
  | array items ending =>
      rw [read] at hread
      obtain ⟨inner, -, hread⟩ := except_bind_eq_ok.mp hread
      exact readItems_keeps Good (hstep inner) hstart hread
  | object members ending =>
      rw [read] at hread
      obtain ⟨inner, -, hread⟩ := except_bind_eq_ok.mp hread
      exact readMembers_keeps Good (hstep inner) hstart hread
  | _ =>
      rw [read] at hread
      · exact absurd hread Document.refuse_ne_ok
      all_goals exact nofun

/-- What holds of the draft at the start and is kept by every step holds of the draft at the end. -/
theorem read_keeps {form : RecordForm} {step : Nat → δ → String → Document → Reading δ}
    (Good : δ → Prop)
    (hstep : ∀ room draft name value next, Good draft →
      step room draft name value = .ok next → Good next)
    {start result : δ} {room : Nat} {document : Document} (hstart : Good start)
    (hread : form.read step start room document = .ok result) : Good result :=
  read_keeps_of_parts Good (fun room value _ draft name => hstep room draft name value) hstart hread

end RecordForm

theorem readOnce_eq_ok {field next : Option α} {name : String} {value : Reading α}
    (hread : readOnce field name value = .ok next) :
    ∃ content, value = .ok content ∧ next = some content := by
  cases field with
  | some old => cases hread
  | none =>
      obtain ⟨content, hcontent, rfl⟩ := except_map_eq_ok.mp hread
      exact ⟨content, hcontent, rfl⟩

/-- Each value of an object that is read was read from a part of it. -/
theorem Document.readKeyed_parts {read : Nat → Document → Reading α} {room : Nat}
    {document : Document} {dictionary : Dictionary α}
    (hread : document.readKeyed read room = .ok dictionary) :
    ∀ name value, (name, value) ∈ dictionary.entries →
      ∃ inner, ∃ content ∈ document.parts, read inner content = .ok value := by
  cases document with
  | object members ending =>
      rw [readKeyed] at hread
      obtain ⟨inner, -, hread⟩ := except_bind_eq_ok.mp hread
      obtain ⟨bound, hbound, hread⟩ := except_bind_eq_ok.mp hread
      obtain ⟨-, -, hread⟩ := except_bind_eq_ok.mp hread
      cases hread
      intro name value hmem
      obtain ⟨member, hmember, hread⟩ := exists_of_mapM_eq_ok hbound (Keyed.mem_ofList hmem)
      obtain ⟨_, -, hread⟩ := except_bind_eq_ok.mp hread
      obtain ⟨_, hvalue, hread⟩ := except_bind_eq_ok.mp hread
      cases hread
      exact ⟨inner, member.2, List.mem_map_of_mem hmember, hvalue⟩
  | _ =>
      rw [readKeyed] at hread
      · exact absurd hread refuse_ne_ok
      all_goals exact nofun

/-- Each value of an object that is read was read. -/
theorem Document.readKeyed_eq_ok {read : Nat → Document → Reading α} {room : Nat}
    {document : Document} {dictionary : Dictionary α}
    (hread : document.readKeyed read room = .ok dictionary) :
    ∀ name value, (name, value) ∈ dictionary.entries →
      ∃ inner content, read inner content = .ok value := by
  intro name value hmem
  obtain ⟨inner, content, -, hvalue⟩ := readKeyed_parts hread name value hmem
  exact ⟨inner, content, hvalue⟩

/-- An optional value is `null`, or it was read. -/
theorem Document.readOptional_eq_ok {read : Document → Reading α} {document : Document}
    {result : Option α} (hread : document.readOptional read = .ok result) :
    (document = .null ∧ result = none) ∨
      ∃ value, read document = .ok value ∧ result = some value := by
  unfold readOptional at hread
  split at hread
  · cases hread
    exact Or.inl ⟨rfl, rfl⟩
  · split at hread
    · cases hread
    · obtain ⟨value, hvalue, rfl⟩ := except_map_eq_ok.mp hread
      exact Or.inr ⟨value, hvalue, rfl⟩
  · obtain ⟨value, hvalue, rfl⟩ := except_map_eq_ok.mp hread
    exact Or.inr ⟨value, hvalue, rfl⟩

/-- An optional value that is there was read. -/
theorem Document.exists_of_readOptional {read : Document → Reading α} {document : Document}
    {value : α} (hread : document.readOptional read = .ok (some value)) :
    ∃ content, read content = .ok value := by
  rcases readOptional_eq_ok hread with ⟨-, hnone⟩ | ⟨found, hfound, hsome⟩
  · cases hnone
  · cases hsome
    exact ⟨document, hfound⟩

/-- What is read from a text was read from the document of the text. -/
theorem read_ofText_of_readText {read : Nat → Document → Reading α} {text : String} {value : α}
    (hread : readText read text = .ok value) :
    read nestingLimit (Document.ofText text).1 = .ok value := by
  obtain ⟨content, hcontent, hread⟩ := except_bind_eq_ok.mp hread
  split at hread
  · cases hread
  · cases hread
    exact hcontent

/-- What is read from a text was read from a document. -/
theorem exists_of_readText {read : Nat → Document → Reading α} {text : String} {value : α}
    (hread : readText read text = .ok value) : ∃ room document, read room document = .ok value :=
  ⟨_, _, read_ofText_of_readText hread⟩

end QueryShape.Json
