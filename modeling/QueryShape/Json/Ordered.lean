import QueryShape.Json.Results

/-!
# The order of names in JSON data

In JSON data the names of every object increase, at every depth.  Whatever is read from a text has
this form, and an `OrderedValue` carries the proof of it.
-/

namespace QueryShape.Json

/-- The names of every object in the value increase. -/
inductive Value.Ordered : Value → Prop
  | null : Ordered .null
  | bool (flag : Bool) : Ordered (.bool flag)
  | number (value : Number) : Ordered (.number value)
  | string (content : String) : Ordered (.string content)
  | array {items : List Value} (each : ∀ item ∈ items, item.Ordered) : Ordered (.array items)
  | object {entries : Keyed Value} (names : entries.Increasing)
      (each : ∀ name value, (name, value) ∈ entries → value.Ordered) : Ordered (.object entries)

/-- JSON data whose objects list their names in increasing order. -/
abbrev OrderedValue := { value : Value // value.Ordered }

namespace Value

@[simp]
theorem ordered_array_iff {items : List Value} :
    (array items).Ordered ↔ ∀ item ∈ items, item.Ordered :=
  ⟨fun hitems => by cases hitems; assumption, .array⟩

@[simp]
theorem ordered_object_iff {entries : Keyed Value} :
    (object entries).Ordered ↔
      entries.Increasing ∧ ∀ name value, (name, value) ∈ entries → value.Ordered := by
  constructor
  · intro hentries
    cases hentries with
    | object names each => exact ⟨names, each⟩
  · rintro ⟨names, each⟩
    exact .object names each

theorem Ordered.increasing {entries : Keyed Value} (hentries : (Value.object entries).Ordered) :
    entries.Increasing :=
  (ordered_object_iff.mp hentries).1

mutual

/-- Whether the names of every object in the value increase. -/
def isOrdered : Value → Bool
  | .array items => eachOrdered items
  | .object entries => decide (Keyed.Increasing entries) && entriesOrdered entries
  | _ => true

def eachOrdered : List Value → Bool
  | [] => true
  | item :: rest => item.isOrdered && eachOrdered rest

def entriesOrdered : List (String × Value) → Bool
  | [] => true
  | (_, value) :: rest => value.isOrdered && entriesOrdered rest

end

mutual

theorem isOrdered_iff (value : Value) : value.isOrdered = true ↔ value.Ordered := by
  cases value with
  | null => simp [isOrdered, Ordered.null]
  | bool flag => simp [isOrdered, Ordered.bool]
  | number value => simp [isOrdered, Ordered.number]
  | string content => simp [isOrdered, Ordered.string]
  | array items => rw [isOrdered, ordered_array_iff, eachOrdered_iff]
  | object entries =>
      rw [isOrdered, ordered_object_iff, Bool.and_eq_true, decide_eq_true_iff, entriesOrdered_iff]

theorem eachOrdered_iff (items : List Value) :
    eachOrdered items = true ↔ ∀ item ∈ items, item.Ordered := by
  cases items with
  | nil => simp [eachOrdered]
  | cons item rest =>
      rw [eachOrdered, Bool.and_eq_true, List.forall_mem_cons, isOrdered_iff item,
        eachOrdered_iff rest]

theorem entriesOrdered_iff (entries : List (String × Value)) :
    entriesOrdered entries = true ↔ ∀ name value, (name, value) ∈ entries → value.Ordered := by
  cases entries with
  | nil => simp [entriesOrdered]
  | cons entry rest =>
      obtain ⟨first, value⟩ := entry
      rw [entriesOrdered, Bool.and_eq_true, isOrdered_iff value, entriesOrdered_iff rest]
      constructor
      · rintro ⟨hvalue, hrest⟩ name other hmem
        rcases List.mem_cons.mp hmem with heq | hmem
        · cases heq
          exact hvalue
        · exact hrest name other hmem
      · intro hall
        exact ⟨hall first value List.mem_cons_self,
          fun name other hmem => hall name other (List.mem_cons_of_mem _ hmem)⟩

end

instance (value : Value) : Decidable value.Ordered :=
  decidable_of_iff _ (isOrdered_iff value)

end Value

/-! ## Reading -/

mutual

theorem Document.ordered_of_readValue {room : Nat} {document : Document} {value : Value}
    (hread : document.readValue room = .ok value) : value.Ordered := by
  cases document with
  | null =>
      rw [Document.readValue] at hread
      cases hread
      exact .null
  | bool flag =>
      rw [Document.readValue] at hread
      cases hread
      exact .bool flag
  | number number =>
      rw [Document.readValue] at hread
      cases hread
      exact .number number
  | string content =>
      rw [Document.readValue] at hread
      cases hread
      exact .string content
  | array items ending =>
      rw [Document.readValue] at hread
      obtain ⟨inner, -, hread⟩ := except_bind_eq_ok.mp hread
      obtain ⟨values, hvalues, hread⟩ := except_bind_eq_ok.mp hread
      obtain ⟨-, -, hread⟩ := except_bind_eq_ok.mp hread
      cases hread
      exact .array (ordered_of_readItemValues hvalues)
  | object members ending =>
      rw [Document.readValue] at hread
      obtain ⟨inner, -, hread⟩ := except_bind_eq_ok.mp hread
      obtain ⟨entries, hentries, hread⟩ := except_bind_eq_ok.mp hread
      obtain ⟨-, -, hread⟩ := except_bind_eq_ok.mp hread
      cases hread
      exact ordered_of_readEntryValues (.object Keyed.increasing_nil (by simp)) hentries
  | broken flaw =>
      rw [Document.readValue] at hread
      cases hread

theorem ordered_of_readItemValues {room : Nat} {items : List Document} {values : List Value}
    (hread : readItemValues room items = .ok values) : ∀ value ∈ values, value.Ordered := by
  cases items with
  | nil =>
      rw [readItemValues] at hread
      cases hread
      simp
  | cons item items =>
      rw [readItemValues] at hread
      obtain ⟨first, hfirst, hread⟩ := except_bind_eq_ok.mp hread
      obtain ⟨rest, hrest, hread⟩ := except_bind_eq_ok.mp hread
      cases hread
      intro value hmem
      rcases List.mem_cons.mp hmem with rfl | hmem
      · exact Document.ordered_of_readValue hfirst
      · exact ordered_of_readItemValues hrest value hmem

/-- Reading members binds their names in order, beside those that are bound already. -/
theorem ordered_of_readEntryValues {room : Nat} {bound entries : Keyed Value}
    {members : List (Name × Document)} (hbound : (Value.object bound).Ordered)
    (hread : readEntryValues room bound members = .ok entries) :
    (Value.object entries).Ordered := by
  cases members with
  | nil =>
      rw [readEntryValues] at hread
      cases hread
      exact hbound
  | cons member members =>
      obtain ⟨name, content⟩ := member
      rw [readEntryValues] at hread
      obtain ⟨name, -, hread⟩ := except_bind_eq_ok.mp hread
      obtain ⟨value, hvalue, hread⟩ := except_bind_eq_ok.mp hread
      refine ordered_of_readEntryValues (.object (hbound.increasing.insertSorted name value) ?_)
        hread
      intro other kept hmem
      rcases Keyed.mem_insertSorted hmem with heq | hmem
      · cases heq
        exact Document.ordered_of_readValue hvalue
      · exact (Value.ordered_object_iff.mp hbound).2 other kept hmem

end

/-- The names of every object that is read from a text increase. -/
theorem Value.ordered_of_ofText {text : String} {value : Value}
    (hread : Value.ofText text = .ok value) : value.Ordered := by
  obtain ⟨_, _, hread⟩ := exists_of_readText hread
  exact Document.ordered_of_readValue hread

def OrderedValue.ofText (text : String) : Reading OrderedValue :=
  certify (Value.ofText text) fun _ => Value.ordered_of_ofText

end QueryShape.Json
