import QueryShape.Json.Results
import QueryShape.Proofs.Attempt
import QueryShape.Proofs.Keyed

/-!
# Reading what was written

A document that this library writes is legible: it has no flaw, and its numbers are those that their
texts are read as.  So it can be read as data wherever there is room for the arrays and objects that
are nested in it.  A record that is written as an object is read
member by member, a list item by item, and a keyed list with distinct names keeps its entries and
their order.
-/

namespace QueryShape.Json

variable {α δ : Type}

/-- No character of a number starts the text. -/
def Delimited (text : List Char) : Prop :=
  ∀ c ∈ text.head?, c.isDigit = false ∧ c ≠ '.' ∧ c ≠ 'e' ∧ c ≠ 'E'

/-- The number is read from its text, whatever may follow a number there. -/
def Number.Legible (number : Number) : Prop :=
  ∃ first digits, number.text.toList = first :: digits ∧ Token.isSpace first = false ∧
    ∀ rest, Delimited rest →
      Token.next first (digits ++ rest) = (.scalar (.number number), rest)

namespace Document

/-- No value, no name and no end of the document is a flaw, and its numbers are legible. -/
inductive Legible : Document → Prop
  | null : Legible .null
  | bool (flag : Bool) : Legible (.bool flag)
  | number {value : Number} (legible : value.Legible) : Legible (.number value)
  | string (content : String) : Legible (.string content)
  | list {items : List Document} (each : ∀ item ∈ items, item.Legible) : Legible (.list items)
  | record {members : Keyed Document}
      (each : ∀ name value, (name, value) ∈ members → value.Legible) : Legible (.record members)

/-- The members of an object that binds names to documents. -/
def named (members : Keyed Document) : List (Name × Document) :=
  members.map fun member => (.ok member.1, member.2)

theorem record_eq (members : Keyed Document) : record members = .object (named members) .closed :=
  rfl

@[simp]
theorem named_nil : named [] = [] := rfl

@[simp]
theorem named_cons (name : String) (value : Document) (rest : Keyed Document) :
    named ((name, value) :: rest) = (.ok name, value) :: named rest := rfl

theorem named_reverse (members : Keyed Document) :
    named members.reverse = (named members).reverse :=
  List.map_reverse

theorem named_injective : Function.Injective named := by
  apply List.map_injective_iff.mpr
  intro member other hsame
  simpa [Prod.ext_iff] using hsame

mutual

/-- How many arrays and objects are nested in a document, the document included. -/
def nesting : Document → Nat
  | .array items _ => itemsNesting items + 1
  | .object members _ => membersNesting members + 1
  | _ => 0

def itemsNesting : List Document → Nat
  | [] => 0
  | item :: items => max item.nesting (itemsNesting items)

def membersNesting : List (Name × Document) → Nat
  | [] => 0
  | (_, value) :: members => max value.nesting (membersNesting members)

end

theorem itemsNesting_le_iff {items : List Document} {room : Nat} :
    itemsNesting items ≤ room ↔ ∀ item ∈ items, item.nesting ≤ room := by
  induction items with
  | nil => simp [itemsNesting]
  | cons item items ih => rw [itemsNesting, max_le_iff, ih, List.forall_mem_cons]

theorem membersNesting_le_iff {members : List (Name × Document)} {room : Nat} :
    membersNesting members ≤ room ↔ ∀ member ∈ members, member.2.nesting ≤ room := by
  induction members with
  | nil => simp [membersNesting]
  | cons member members ih =>
      obtain ⟨name, value⟩ := member
      rw [membersNesting, max_le_iff, ih, List.forall_mem_cons]

theorem nesting_list_le_iff {items : List Document} {room : Nat} :
    (list items).nesting ≤ room ↔
      ∃ inner, room = inner + 1 ∧ ∀ item ∈ items, item.nesting ≤ inner := by
  rw [list, nesting]
  cases room with
  | zero => simp
  | succ inner => simp [itemsNesting_le_iff]

theorem nesting_record_le_iff {members : Keyed Document} {room : Nat} :
    (record members).nesting ≤ room ↔
      ∃ inner, room = inner + 1 ∧
        ∀ name value, (name, value) ∈ members → value.nesting ≤ inner := by
  rw [record_eq, nesting]
  cases room with
  | zero => simp
  | succ inner =>
      simp only [Nat.add_le_add_iff_right, membersNesting_le_iff, named, List.forall_mem_map,
        Nat.add_right_cancel_iff, exists_eq_left', Prod.forall]

theorem record_injective : Function.Injective record := by
  intro members others hsame
  obtain ⟨hmembers, -⟩ := Document.object.inj hsame
  exact named_injective hmembers

/-! ## As data -/

theorem itemValues_eq (items : List Document) : itemValues items = items.map toValue := by
  induction items with
  | nil => rw [itemValues]; rfl
  | cons item items ih => rw [itemValues, ih, List.map_cons]

theorem toValue_record (members : Keyed Document) :
    (record members).toValue =
      Value.ofEntries (members.map fun entry => (entry.1, entry.2.toValue)) := by
  rw [record_eq, toValue]
  congr 1
  induction members with
  | nil => rw [named_nil, memberValues]; rfl
  | cons member members ih =>
      obtain ⟨name, value⟩ := member
      rw [named_cons, memberValues, ih, List.map_cons]

theorem readItemValues_eq {room : Nat} {items : List Document}
    (hitems : ∀ item ∈ items, item.readValue room = .ok item.toValue) :
    readItemValues room items = .ok (items.map toValue) := by
  induction items with
  | nil => rw [readItemValues]; rfl
  | cons item items ih =>
      obtain ⟨hitem, hrest⟩ := List.forall_mem_cons.mp hitems
      rw [readItemValues, hitem, ih hrest]
      rfl

theorem readEntryValues_eq {room : Nat} {members : Keyed Document}
    (hmembers : ∀ name value, (name, value) ∈ members → value.readValue room = .ok value.toValue)
    (bound : Keyed Value) :
    readEntryValues room bound (named members) = .ok
      (members.foldl (fun bound entry => bound.insertSorted entry.1 entry.2.toValue) bound) := by
  induction members generalizing bound with
  | nil => rw [named_nil, readEntryValues]; rfl
  | cons member members ih =>
      obtain ⟨name, value⟩ := member
      have hvalue := hmembers name value List.mem_cons_self
      rw [named_cons, readEntryValues, hvalue]
      exact ih (fun other again hmem => hmembers other again (List.mem_cons_of_mem _ hmem)) _

/-- Where there is room for it, a legible document is read as its data. -/
theorem Legible.readValue_eq {document : Document} (hdocument : document.Legible) {room : Nat}
    (hroom : document.nesting ≤ room) : document.readValue room = .ok document.toValue := by
  induction hdocument generalizing room with
  | null | bool _ | number _ | string _ => rw [readValue, toValue]; rfl
  | @list items each ih =>
      obtain ⟨inner, rfl, hitems⟩ := nesting_list_le_iff.mp hroom
      have hread := readItemValues_eq fun item hmem => ih item hmem (hitems item hmem)
      rw [Document.list, readValue, toValue, itemValues_eq]
      simp only [enter, pure_bind, hread]
      rfl
  | @record members each ih =>
      obtain ⟨inner, rfl, hmembers⟩ := nesting_record_le_iff.mp hroom
      have hread := readEntryValues_eq
        (fun name value hmem => ih name value hmem (hmembers name value hmem)) []
      rw [toValue_record, Value.ofEntries, List.foldl_map]
      rw [record_eq, readValue]
      simp only [enter, pure_bind, hread]
      rfl

theorem exists_of_enter {room inner : Nat} (henter : enter room = .ok inner) :
    room = inner + 1 := by
  cases room with
  | zero => cases henter
  | succ room =>
      cases henter
      rfl

mutual

/-- What is read as data has no more arrays and objects nested in it than there was room for. -/
theorem nesting_le_of_readValue {room : Nat} {document : Document} {value : Value}
    (hread : document.readValue room = .ok value) : document.nesting ≤ room := by
  cases document with
  | array items ending =>
      rw [readValue] at hread
      obtain ⟨inner, henter, hread⟩ := except_bind_eq_ok.mp hread
      obtain ⟨values, hvalues, -⟩ := except_bind_eq_ok.mp hread
      rw [exists_of_enter henter, nesting]
      exact Nat.succ_le_succ (itemsNesting_le_of_readItemValues hvalues)
  | object members ending =>
      rw [readValue] at hread
      obtain ⟨inner, henter, hread⟩ := except_bind_eq_ok.mp hread
      obtain ⟨entries, hentries, -⟩ := except_bind_eq_ok.mp hread
      rw [exists_of_enter henter, nesting]
      exact Nat.succ_le_succ (membersNesting_le_of_readEntryValues hentries)
  | _ => exact Nat.zero_le room

theorem itemsNesting_le_of_readItemValues {room : Nat} {items : List Document}
    {values : List Value} (hread : readItemValues room items = .ok values) :
    itemsNesting items ≤ room := by
  cases items with
  | nil => exact Nat.zero_le room
  | cons item items =>
      rw [readItemValues] at hread
      obtain ⟨first, hfirst, hread⟩ := except_bind_eq_ok.mp hread
      obtain ⟨rest, hrest, -⟩ := except_bind_eq_ok.mp hread
      rw [itemsNesting]
      exact max_le (nesting_le_of_readValue hfirst) (itemsNesting_le_of_readItemValues hrest)

theorem membersNesting_le_of_readEntryValues {room : Nat} {bound entries : Keyed Value}
    {members : List (Name × Document)}
    (hread : readEntryValues room bound members = .ok entries) :
    membersNesting members ≤ room := by
  cases members with
  | nil => exact Nat.zero_le room
  | cons member members =>
      obtain ⟨name, content⟩ := member
      rw [readEntryValues] at hread
      obtain ⟨name, -, hread⟩ := except_bind_eq_ok.mp hread
      obtain ⟨value, hvalue, hread⟩ := except_bind_eq_ok.mp hread
      rw [membersNesting]
      exact max_le (nesting_le_of_readValue hvalue) (membersNesting_le_of_readEntryValues hread)

end

end Document

/-! ## Lists and keyed lists -/

theorem mapM_map_eq_ok {ε β γ : Type} {write : α → β} {read : β → Except ε γ} {result : α → γ}
    {items : List α} (hitems : ∀ item ∈ items, read (write item) = .ok (result item)) :
    (items.map write).mapM read = .ok (items.map result) := by
  induction items with
  | nil => rfl
  | cons item items ih =>
      obtain ⟨hitem, hrest⟩ := List.forall_mem_cons.mp hitems
      rw [List.map_cons, List.mapM_cons, hitem, ih hrest]
      rfl

/-- A written list is read if each of its items is. -/
theorem Document.readList_list {read : Nat → Document → Reading α} {write : α → Document}
    {room : Nat} {items : List α} (hitems : ∀ item ∈ items, read room (write item) = .ok item) :
    (list (items.map write)).readList read (room + 1) = .ok items := by
  have hread : (items.map write).mapM (read room) = .ok (items.map id) := mapM_map_eq_ok hitems
  rw [list, readList]
  simp only [enter, pure_bind, hread, List.map_id]
  rfl

theorem Document.mem_memberIfSet {name key : String} {write : α → Document} {value : Option α}
    {document : Document} :
    (key, document) ∈ memberIfSet name write value ↔
      key = name ∧ ∃ content ∈ value, document = write content := by
  cases value <;> simp

/-- A variant is read from its name. -/
theorem Document.readVariant_string {variants : Keyed α} {name : String} {variant : α}
    (hvariant : variants.get? name = some variant) (room : Nat) :
    (string name).readVariant variants room = .ok variant := by
  rw [readVariant]
  simp only [hvariant]
  rfl

/-- A written keyed list with distinct names is read, in its order, if each of its values is. -/
theorem Document.readKeyed_record {β : Type} {read : Nat → Document → Reading β}
    {write : α → Document} {result : α → β} {room : Nat} {entries : Keyed α}
    (hdistinct : entries.Distinct)
    (hentries : ∀ name value, (name, value) ∈ entries →
      read room (write value) = .ok (result value)) :
    (record (entries.map fun (name, value) => (name, write value))).readKeyed read (room + 1) =
      .ok {
        entries := entries.map fun (name, value) => (name, result value)
        distinct := hdistinct.map fun _ => result } := by
  have hread : (entries.map fun entry => ((.ok entry.1, write entry.2) : Name × Document)).mapM
      (fun member => do
        let name ← readName member.1
        return (name, ← read room member.2)) =
        .ok (entries.map fun entry => (entry.1, result entry.2)) := by
    apply mapM_map_eq_ok
    intro entry hmem
    simp only [readName, pure_bind, hentries entry.1 entry.2 hmem]
    rfl
  rw [record_eq, readKeyed, named, List.map_map]
  simp only [enter, pure_bind, Function.comp_def, hread]
  exact congrArg Except.ok (Dictionary.ofList_entries ⟨_, hdistinct.map fun _ => result⟩)

theorem Document.readKeyed_record_self {read : Nat → Document → Reading α} {write : α → Document}
    {room : Nat} {entries : Keyed α} (hdistinct : entries.Distinct)
    (hentries : ∀ name value, (name, value) ∈ entries → read room (write value) = .ok value) :
    (record (entries.map fun (name, value) => (name, write value))).readKeyed read (room + 1) =
      .ok { entries, distinct := hdistinct } := by
  have hread : ∀ name value, (name, value) ∈ entries → read room (write value) = .ok (id value) :=
    hentries
  rw [readKeyed_record hdistinct hread]
  exact congrArg Except.ok (Dictionary.ext (List.map_id entries))

theorem Ending.eq_closed_of_closes {ending : Ending} (hcloses : ending.closes = .ok ()) :
    ending = .closed := by
  cases ending with
  | closed => rfl
  | broken flaw => cases hcloses

theorem Document.eq_string_of_readString {document : Document} {text : String}
    (hread : document.readString = .ok text) : document = .string text := by
  cases document with
  | string content =>
      cases hread
      rfl
  | _ =>
      rw [readString] at hread
      · exact absurd hread refuse_ne_ok
      · rintro _ ⟨⟩

theorem Document.eq_bool_of_readBool {document : Document} {flag : Bool}
    (hread : document.readBool = .ok flag) : document = .bool flag := by
  cases document with
  | bool flag =>
      cases hread
      rfl
  | _ =>
      rw [readBool] at hread
      · exact absurd hread refuse_ne_ok
      · rintro _ ⟨⟩

/-- What is read as a list was written as one, item by item. -/
theorem Document.exists_of_readList {read : Nat → Document → Reading α} {room : Nat}
    {document : Document} {values : List α} (hread : document.readList read room = .ok values) :
    ∃ inner items, room = inner + 1 ∧ document = .list items ∧
      List.Forall₂ (fun item value => read inner item = .ok value) items values := by
  cases document with
  | array items ending =>
      rw [readList] at hread
      obtain ⟨inner, henter, hread⟩ := except_bind_eq_ok.mp hread
      obtain ⟨results, hresults, hread⟩ := except_bind_eq_ok.mp hread
      obtain ⟨_, hcloses, hread⟩ := except_bind_eq_ok.mp hread
      cases hread
      obtain rfl := Ending.eq_closed_of_closes hcloses
      exact ⟨inner, items, exists_of_enter henter, rfl, forall₂_of_mapM_eq_ok hresults⟩
  | _ =>
      rw [readList] at hread
      · exact absurd hread refuse_ne_ok
      · rintro _ _ ⟨⟩

/-- Members that are all read have names, and their values were read in their places. -/
theorem Document.exists_of_readMembers {read : Document → Reading α}
    {members : List (Name × Document)} {results : Keyed α}
    (hresults : (members.mapM fun (name, value) => do
      let name ← readName name
      return (name, ← read value)) = .ok results) :
    ∃ entries : Keyed Document, members = named entries ∧
      List.Forall₂ (fun entry result => entry.1 = result.1 ∧ read entry.2 = .ok result.2)
        entries results := by
  have hall := forall₂_of_mapM_eq_ok hresults
  clear hresults
  induction hall with
  | nil => exact ⟨[], rfl, .nil⟩
  | @cons member result members results hmember _ ih =>
      obtain ⟨entries, rfl, hentries⟩ := ih
      obtain ⟨found, content⟩ := member
      obtain ⟨name, hname, hmember⟩ := except_bind_eq_ok.mp hmember
      obtain ⟨value, hvalue, hmember⟩ := except_bind_eq_ok.mp hmember
      cases hmember
      cases found with
      | error flaw => cases hname
      | ok found =>
          cases hname
          exact ⟨(name, content) :: entries, rfl, .cons ⟨rfl, hvalue⟩ hentries⟩

theorem keys_eq_of_forall₂ {β : Type} {entries : Keyed α} {others : Keyed β}
    (hnames : List.Forall₂ (fun entry other => entry.1 = other.1) entries others) :
    entries.keys = others.keys := by
  induction hnames with
  | nil => rfl
  | cons hname _ ih => exact congrArg₂ List.cons hname ih

/-- What is read as a keyed list was written as one, entry by entry if the names are distinct. -/
theorem Document.exists_of_readKeyed {read : Nat → Document → Reading α} {room : Nat}
    {document : Document} {dictionary : Dictionary α}
    (hread : document.readKeyed read room = .ok dictionary) :
    ∃ inner members, room = inner + 1 ∧ document = .record members ∧
      (members.Distinct → List.Forall₂
        (fun member entry => member.1 = entry.1 ∧ read inner member.2 = .ok entry.2)
        members dictionary.entries) := by
  cases document with
  | object members ending =>
      rw [readKeyed] at hread
      obtain ⟨inner, henter, hread⟩ := except_bind_eq_ok.mp hread
      obtain ⟨results, hresults, hread⟩ := except_bind_eq_ok.mp hread
      obtain ⟨_, hcloses, hread⟩ := except_bind_eq_ok.mp hread
      cases hread
      obtain rfl := Ending.eq_closed_of_closes hcloses
      obtain ⟨named, rfl, hnamed⟩ := exists_of_readMembers hresults
      refine ⟨inner, named, exists_of_enter henter, rfl, fun hdistinct => ?_⟩
      rw [Keyed.Distinct, keys_eq_of_forall₂ (hnamed.imp fun _ _ hentry => hentry.1)] at hdistinct
      rwa [Dictionary.entries_ofList, Keyed.ofList_eq_self hdistinct]
  | _ =>
      rw [readKeyed] at hread
      · exact absurd hread refuse_ne_ok
      · rintro _ _ ⟨⟩

namespace RecordForm

/-- A record that is written as an object is read member by member. -/
theorem read_record {form : RecordForm} {step : Nat → δ → String → Document → Reading δ}
    {start : δ} {room : Nat} {members : Keyed Document}
    (hnames : ∀ name ∈ members.keys, name ∈ form.names) :
    form.read step start (room + 1) (.record members) =
      members.foldlM (fun draft member => step room draft member.1 member.2) start := by
  rw [Document.record_eq, read]
  simp only [enter, pure_bind]
  induction members generalizing start with
  | nil => rfl
  | cons member members ih =>
      obtain ⟨name, value⟩ := member
      have hname : form.names.contains name = true := by
        simpa using hnames name List.mem_cons_self
      rw [Document.named_cons, readMembers, List.foldlM_cons]
      simp only [readName, pure_bind, hname, if_true]
      congr 1
      funext draft
      exact ih fun other hother => hnames other (List.mem_cons_of_mem _ hother)

theorem mem_names_of_readMembers {form : RecordForm} (hexact : form.exact = true)
    {step : δ → String → Document → Reading δ} {start draft : δ} {members : Keyed Document}
    (hread : form.readMembers step .closed start (Document.named members) = .ok draft) :
    ∀ name ∈ members.keys, name ∈ form.names := by
  induction members generalizing start with
  | nil => exact nofun
  | cons member members ih =>
      obtain ⟨name, value⟩ := member
      rw [Document.named_cons, readMembers] at hread
      simp only [readName, pure_bind, hexact, if_true] at hread
      split at hread
      · next hname =>
          obtain ⟨next, -, hread⟩ := except_bind_eq_ok.mp hread
          exact List.forall_mem_cons.mpr ⟨by simpa using hname, ih hread⟩
      · cases hread

/-- A record that refuses other fields, when it is read from an object, was read member by member
from fields of its own. -/
theorem exists_of_read_record {form : RecordForm} (hexact : form.exact = true)
    {step : Nat → δ → String → Document → Reading δ} {start draft : δ} {room : Nat}
    {members : Keyed Document} (hread : form.read step start room (.record members) = .ok draft) :
    ∃ inner, room = inner + 1 ∧ (∀ name ∈ members.keys, name ∈ form.names) ∧
      members.foldlM (fun draft member => step inner draft member.1 member.2) start =
        .ok draft := by
  have hmembers := hread
  rw [Document.record_eq, read] at hmembers
  obtain ⟨inner, henter, hmembers⟩ := except_bind_eq_ok.mp hmembers
  have hnames := mem_names_of_readMembers hexact hmembers
  obtain rfl := Document.exists_of_enter henter
  rw [read_record hnames] at hread
  exact ⟨inner, rfl, hnames, hread⟩

/-- What was read of a field that only the member of its name reads: the value of this member, if
the object has one. -/
theorem field_of_foldlM {form : RecordForm} {step : δ → String → Document → Reading δ}
    (field : δ → Option α) (name : String) (read : Document → Reading α)
    (hhere : ∀ draft value next, step draft name value = .ok next →
      ∃ content, read value = .ok content ∧ field next = some content)
    (helsewhere : ∀ draft other value next, other ∈ form.names → other ≠ name →
      step draft other value = .ok next → field next = field draft)
    {start draft : δ} {members : Keyed Document} (hdistinct : members.Distinct)
    (hnames : ∀ name ∈ members.keys, name ∈ form.names)
    (hread : members.foldlM (fun draft member => step draft member.1 member.2) start = .ok draft) :
    (members.get? name = none ∧ field draft = field start) ∨
      ∃ value content, members.get? name = some value ∧ read value = .ok content ∧
        field draft = some content := by
  induction members generalizing start with
  | nil =>
      cases hread
      exact Or.inl ⟨rfl, rfl⟩
  | cons member members ih =>
      obtain ⟨other, value⟩ := member
      obtain ⟨hother, hdistinct⟩ := Keyed.distinct_cons.mp hdistinct
      obtain ⟨hknown, hnames⟩ := List.forall_mem_cons.mp hnames
      rw [List.foldlM_cons] at hread
      obtain ⟨next, hnext, hread⟩ := except_bind_eq_ok.mp hread
      specialize ih hdistinct hnames hread
      rw [Keyed.get?_cons]
      by_cases hname : other = name
      · -- The name does not come again, so no later step changes what this one read.
        subst hname
        obtain ⟨content, hcontent, hfield⟩ := hhere start value next hnext
        rw [Keyed.get?_eq_none_iff.mpr hother, hfield] at ih
        rw [if_pos rfl]
        rcases ih with ⟨-, hdraft⟩ | ⟨_, _, hnone, -⟩
        · exact Or.inr ⟨value, content, rfl, hcontent, hdraft⟩
        · cases hnone
      · rw [if_neg hname, ← helsewhere start other value next hknown hname hnext]
        exact ih

end RecordForm

end QueryShape.Json
