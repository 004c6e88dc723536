/-!
# Keyed lists

A keyed list binds names to values.  Most of the library keeps the order in which names were first
bound (`Keyed.insert`); JSON data keeps its names in increasing order (`Keyed.insertSorted`).  Names
compare by code points, which is also the order of their UTF-8 bytes.  A list that is built in one
of these ways has distinct names, or increasing ones, and a `Dictionary` carries the proof that its
names are distinct.
-/

namespace QueryShape

abbrev Keyed (α : Type) := List (String × α)

namespace Keyed

variable {α β : Type}

def keys (entries : Keyed α) : List String :=
  entries.map Prod.fst

def get? (entries : Keyed α) (key : String) : Option α :=
  entries.lookup key

def contains (entries : Keyed α) (key : String) : Bool :=
  (entries.get? key).isSome

/-- Binds a name; a name that is bound already keeps its place and takes the new value. -/
def insert : Keyed α → String → α → Keyed α
  | [], key, value => [(key, value)]
  | (name, old) :: rest, key, value =>
      if name = key then (key, value) :: rest else (name, old) :: insert rest key value

/-- Binds the names one after the other, a later value of a name replacing an earlier one. -/
def ofList (entries : List (String × α)) : Keyed α :=
  entries.foldl (fun bound entry => bound.insert entry.1 entry.2) []

/-- Binds a name in a list whose names increase. -/
def insertSorted : Keyed α → String → α → Keyed α
  | [], key, value => [(key, value)]
  | (name, old) :: rest, key, value =>
      if key < name then (key, value) :: (name, old) :: rest
      else if name = key then (key, value) :: rest
      else (name, old) :: insertSorted rest key value

theorem mem_keys_of_mem {entries : Keyed α} {key : String} {value : α}
    (hmem : (key, value) ∈ entries) : key ∈ entries.keys :=
  List.mem_map_of_mem hmem

/-! ## Distinct names -/

/-- Every name is bound once. -/
def Distinct (entries : Keyed α) : Prop :=
  entries.keys.Nodup

instance (entries : Keyed α) : Decidable entries.Distinct :=
  inferInstanceAs (Decidable entries.keys.Nodup)

@[simp]
theorem distinct_nil : Distinct ([] : Keyed α) :=
  List.nodup_nil

@[simp]
theorem distinct_cons {name : String} {value : α} {rest : Keyed α} :
    Distinct ((name, value) :: rest) ↔ name ∉ rest.keys ∧ rest.Distinct :=
  List.nodup_cons

theorem mem_keys_insert {entries : Keyed α} {name key : String} {value : α} :
    key ∈ (entries.insert name value).keys ↔ key = name ∨ key ∈ entries.keys := by
  induction entries with
  | nil => simp [insert, keys]
  | cons entry rest ih =>
      obtain ⟨first, old⟩ := entry
      unfold keys at ih
      rw [insert]
      split
      · next hfirst => simp [keys, hfirst]
      · simp [keys, ih, or_left_comm]

theorem mem_insert {entries : Keyed α} {name : String} {value : α} {entry : String × α}
    (hmem : entry ∈ entries.insert name value) :
    entry = (name, value) ∨ entry ∈ entries := by
  induction entries with
  | nil => simpa [insert] using hmem
  | cons first rest ih =>
      obtain ⟨other, old⟩ := first
      rw [insert] at hmem
      split at hmem
      · rcases List.mem_cons.mp hmem with rfl | hmem
        · exact Or.inl rfl
        · exact Or.inr (List.mem_cons_of_mem _ hmem)
      · rcases List.mem_cons.mp hmem with rfl | hmem
        · exact Or.inr List.mem_cons_self
        · exact (ih hmem).imp_right (List.mem_cons_of_mem _)

theorem Distinct.insert {entries : Keyed α} (hentries : entries.Distinct) (name : String)
    (value : α) : (entries.insert name value).Distinct := by
  induction entries with
  | nil => simp [Keyed.insert, Distinct, keys]
  | cons entry rest ih =>
      obtain ⟨first, old⟩ := entry
      obtain ⟨hfirst, hrest⟩ := distinct_cons.mp hentries
      rw [Keyed.insert]
      split
      · next hname =>
          subst hname
          exact distinct_cons.mpr ⟨hfirst, hrest⟩
      · next hname =>
          refine distinct_cons.mpr ⟨?_, ih hrest⟩
          rw [mem_keys_insert]
          rintro (hsame | hmem)
          · exact hname hsame
          · exact hfirst hmem

theorem distinct_ofList (entries : List (String × α)) : (ofList entries).Distinct := by
  suffices ∀ bound : Keyed α, bound.Distinct →
      (entries.foldl (fun bound entry => bound.insert entry.1 entry.2) bound).Distinct from
    this [] distinct_nil
  induction entries with
  | nil => exact fun bound hbound => hbound
  | cons entry rest ih => exact fun bound hbound => ih _ (hbound.insert entry.1 entry.2)

theorem mem_ofList {entries : List (String × α)} {entry : String × α}
    (hmem : entry ∈ ofList entries) : entry ∈ entries := by
  suffices ∀ bound : Keyed α,
      entry ∈ entries.foldl (fun bound entry => bound.insert entry.1 entry.2) bound →
        entry ∈ bound ∨ entry ∈ entries from
    (this [] hmem).resolve_left List.not_mem_nil
  clear hmem
  induction entries with
  | nil => exact fun bound hmem => Or.inl hmem
  | cons first rest ih =>
      intro bound hmem
      rcases ih _ hmem with hbound | hrest
      · rcases mem_insert hbound with rfl | hbound
        · exact Or.inr List.mem_cons_self
        · exact Or.inl hbound
      · exact Or.inr (List.mem_cons_of_mem _ hrest)

theorem Distinct.filter {entries : Keyed α} (hentries : entries.Distinct)
    (keep : String × α → Bool) : Distinct (entries.filter keep) :=
  List.Nodup.sublist (List.filter_sublist.map Prod.fst) hentries

theorem Distinct.map {entries : Keyed α} (hentries : entries.Distinct)
    (convert : String → α → β) :
    Distinct (entries.map fun entry => (entry.1, convert entry.1 entry.2)) := by
  rw [Distinct, keys, List.map_map]
  exact hentries

/-! ## Increasing names -/

/-- The names increase, so each of them is bound once. -/
def Increasing (entries : Keyed α) : Prop :=
  entries.keys.Pairwise (· < ·)

instance (entries : Keyed α) : Decidable entries.Increasing :=
  inferInstanceAs (Decidable (entries.keys.Pairwise (· < ·)))

@[simp]
theorem increasing_nil : Increasing ([] : Keyed α) :=
  List.Pairwise.nil

@[simp]
theorem increasing_cons {name : String} {value : α} {rest : Keyed α} :
    Increasing ((name, value) :: rest) ↔
      (∀ other ∈ rest.keys, name < other) ∧ rest.Increasing :=
  List.pairwise_cons

theorem mem_insertSorted {entries : Keyed α} {name : String} {value : α} {entry : String × α}
    (hmem : entry ∈ entries.insertSorted name value) :
    entry = (name, value) ∨ entry ∈ entries := by
  induction entries with
  | nil => simpa [insertSorted] using hmem
  | cons first rest ih =>
      obtain ⟨other, old⟩ := first
      rw [insertSorted] at hmem
      split at hmem
      · exact List.mem_cons.mp hmem
      · split at hmem
        · rcases List.mem_cons.mp hmem with rfl | hmem
          · exact Or.inl rfl
          · exact Or.inr (List.mem_cons_of_mem _ hmem)
        · rcases List.mem_cons.mp hmem with rfl | hmem
          · exact Or.inr List.mem_cons_self
          · exact (ih hmem).imp_right (List.mem_cons_of_mem _)

theorem mem_keys_insertSorted {entries : Keyed α} {name key : String} {value : α}
    (hkey : key ∈ (entries.insertSorted name value).keys) : key = name ∨ key ∈ entries.keys := by
  obtain ⟨⟨key, found⟩, hmem, rfl⟩ := List.mem_map.mp hkey
  rcases mem_insertSorted hmem with heq | hmem
  · exact Or.inl (Prod.mk.inj heq).1
  · exact Or.inr (mem_keys_of_mem hmem)

theorem Increasing.insertSorted {entries : Keyed α} (hentries : entries.Increasing)
    (name : String) (value : α) : (entries.insertSorted name value).Increasing := by
  induction entries with
  | nil => simp [Keyed.insertSorted, Increasing, keys]
  | cons entry rest ih =>
      obtain ⟨first, old⟩ := entry
      obtain ⟨hfirst, hrest⟩ := increasing_cons.mp hentries
      rw [Keyed.insertSorted]
      split
      · next hlt =>
          refine increasing_cons.mpr ⟨?_, hentries⟩
          intro other hother
          rcases List.mem_cons.mp hother with rfl | hother
          · exact hlt
          · exact String.lt_trans hlt (hfirst other hother)
      · next hlt =>
          split
          · next hname =>
              subst hname
              exact increasing_cons.mpr ⟨hfirst, hrest⟩
          · next hname =>
              refine increasing_cons.mpr ⟨?_, ih hrest⟩
              intro other hother
              rcases mem_keys_insertSorted hother with rfl | hother
              · exact String.not_le.mp fun hle =>
                  hname (String.le_antisymm (String.not_lt.mp hlt) hle)
              · exact hfirst other hother

/-! ## Going through the entries -/

/-- The entries that are kept, in their order, each with the value it is kept with. -/
def restrict (keep : String → α → Option β) (entries : Keyed α) : Keyed β :=
  entries.filterMap fun entry => (keep entry.1 entry.2).map (entry.1, ·)

@[simp]
theorem restrict_nil (keep : String → α → Option β) : restrict keep [] = [] := rfl

theorem restrict_cons (keep : String → α → Option β) (name : String) (value : α)
    (rest : Keyed α) :
    restrict keep ((name, value) :: rest) =
      match keep name value with
      | some kept => (name, kept) :: restrict keep rest
      | none => restrict keep rest := by
  cases hkeep : keep name value <;> simp [restrict, hkeep]

theorem mem_restrict {keep : String → α → Option β} {entries : Keyed α} {name : String}
    {kept : β} :
    (name, kept) ∈ restrict keep entries ↔
      ∃ value, (name, value) ∈ entries ∧ keep name value = some kept := by
  simp only [restrict, List.mem_filterMap, Prod.exists, Option.map_eq_some_iff, Prod.mk.injEq]
  constructor
  · rintro ⟨_, value, hmem, _, hkeep, rfl, rfl⟩
    exact ⟨value, hmem, hkeep⟩
  · rintro ⟨value, hmem, hkeep⟩
    exact ⟨name, value, hmem, kept, hkeep, rfl, rfl⟩

/-- The kept names are those of the entries that are kept. -/
theorem keys_restrict (keep : String → α → Option β) (entries : Keyed α) :
    (restrict keep entries).keys =
      keys (entries.filter fun entry => (keep entry.1 entry.2).isSome) := by
  induction entries with
  | nil => rfl
  | cons entry rest ih =>
      obtain ⟨name, value⟩ := entry
      rw [restrict_cons, List.filter_cons]
      cases hkeep : keep name value with
      | none => simpa using ih
      | some kept => simpa [keys] using ih

theorem keys_restrict_sublist (keep : String → α → Option β) (entries : Keyed α) :
    (restrict keep entries).keys.Sublist entries.keys := by
  rw [keys_restrict]
  exact List.filter_sublist.map Prod.fst

theorem Distinct.restrict {entries : Keyed α} (hentries : entries.Distinct)
    (keep : String → α → Option β) : (restrict keep entries).Distinct :=
  List.Nodup.sublist (keys_restrict_sublist keep entries) hentries

end Keyed

/-- A keyed list that binds every name once. -/
@[ext]
structure Dictionary (α : Type) where
  entries : Keyed α := []
  distinct : entries.Distinct := by decide

namespace Dictionary

variable {α : Type}

def empty : Dictionary α where
  entries := []
  distinct := Keyed.distinct_nil

def keys (dictionary : Dictionary α) : List String :=
  dictionary.entries.keys

def get? (dictionary : Dictionary α) (key : String) : Option α :=
  dictionary.entries.get? key

def contains (dictionary : Dictionary α) (key : String) : Bool :=
  dictionary.entries.contains key

def insert (dictionary : Dictionary α) (key : String) (value : α) : Dictionary α where
  entries := dictionary.entries.insert key value
  distinct := dictionary.distinct.insert key value

/-- Binds the names one after the other, a later value of a name replacing an earlier one. -/
def ofList (entries : List (String × α)) : Dictionary α where
  entries := Keyed.ofList entries
  distinct := Keyed.distinct_ofList entries

theorem entries_ofList (entries : List (String × α)) :
    (ofList entries).entries = Keyed.ofList entries := rfl

end Dictionary

end QueryShape
