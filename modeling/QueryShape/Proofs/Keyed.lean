import Mathlib.Data.List.Basic
import Mathlib.Data.List.Nodup
import Mathlib.Data.String.Basic
import QueryShape.Keyed

/-!
# Names of keyed lists

A keyed list that is built by binding names has distinct names, and one that is built in sorted
order has increasing names.  Both facts are what makes a lookup speak about the whole list.  Going
through a list entry by entry, keeping some entries and replacing their values, is `Keyed.restrict`;
binding a name that is there already is such a pass, and this is how a loop that puts values back
into an object is understood.
-/

namespace QueryShape.Keyed

variable {α β γ : Type}

theorem Increasing.distinct {entries : Keyed α} (hentries : entries.Increasing) :
    entries.Distinct :=
  hentries.imp ne_of_lt

/-! ## Lookup -/

@[simp]
theorem get?_nil (key : String) : get? ([] : Keyed α) key = none := rfl

@[simp]
theorem get?_cons (name : String) (value : α) (rest : Keyed α) (key : String) :
    get? ((name, value) :: rest) key =
      if name = key then some value else rest.get? key := by
  by_cases hname : name = key
  · simp [get?, hname]
  · have hkey : (key == name) = false := by simpa using Ne.symm hname
    simp [get?, List.lookup_cons, hkey, hname]

theorem mem_of_get?_eq_some {entries : Keyed α} {key : String} {value : α}
    (hget : entries.get? key = some value) : (key, value) ∈ entries := by
  induction entries with
  | nil => simp at hget
  | cons entry rest ih =>
      obtain ⟨name, first⟩ := entry
      rw [get?_cons] at hget
      split at hget
      · next hname =>
          obtain rfl := Option.some.inj hget
          simp [hname]
      · exact List.mem_cons_of_mem _ (ih hget)

theorem get?_eq_some_of_mem {entries : Keyed α} {key : String} {value : α}
    (hentries : entries.Distinct) (hmem : (key, value) ∈ entries) :
    entries.get? key = some value := by
  induction entries with
  | nil => simp at hmem
  | cons entry rest ih =>
      obtain ⟨name, first⟩ := entry
      obtain ⟨hname, hrest⟩ := distinct_cons.mp hentries
      rcases List.mem_cons.mp hmem with heq | hmem
      · obtain ⟨rfl, rfl⟩ := Prod.mk.inj heq
        simp
      · have hne : name ≠ key := by
          rintro rfl
          exact hname (mem_keys_of_mem hmem)
        rw [get?_cons, if_neg hne, ih hrest hmem]

theorem get?_eq_some_iff {entries : Keyed α} {key : String} {value : α}
    (hentries : entries.Distinct) :
    entries.get? key = some value ↔ (key, value) ∈ entries :=
  ⟨mem_of_get?_eq_some, get?_eq_some_of_mem hentries⟩

theorem get?_isSome_iff {entries : Keyed α} {key : String} :
    (entries.get? key).isSome ↔ key ∈ entries.keys := by
  induction entries with
  | nil => simp [keys]
  | cons entry rest ih =>
      obtain ⟨name, value⟩ := entry
      rw [get?_cons]
      by_cases hname : name = key
      · simp [keys, hname]
      · simp only [if_neg hname, ih]
        simp [keys, Ne.symm hname]

theorem get?_eq_none_iff {entries : Keyed α} {key : String} :
    entries.get? key = none ↔ key ∉ entries.keys := by
  rw [← get?_isSome_iff, Option.not_isSome_iff_eq_none]

theorem get?_filter_ne {entries : Keyed α} {name key : String} (hkey : key ≠ name) :
    get? (entries.filter (·.1 ≠ name)) key = entries.get? key := by
  induction entries with
  | nil => rfl
  | cons entry rest ih =>
      obtain ⟨first, value⟩ := entry
      by_cases hfirst : first = name
      · subst hfirst
        simpa [Ne.symm hkey] using ih
      · by_cases hsame : first = key <;> simp_all

theorem get?_append (first second : Keyed α) (key : String) :
    get? (first ++ second) key = (first.get? key).or (second.get? key) :=
  List.lookup_append

theorem keys_filter (keep : String → Bool) (entries : Keyed α) :
    keys (entries.filter fun entry => keep entry.1) = entries.keys.filter keep := by
  rw [keys, keys, List.filter_map]
  rfl

theorem Distinct.perm {entries others : Keyed α} (hentries : entries.Distinct)
    (hperm : entries.Perm others) : others.Distinct :=
  (hperm.map Prod.fst).nodup_iff.mp hentries

theorem Distinct.append {first second : Keyed α} (hfirst : first.Distinct)
    (hsecond : second.Distinct) (hapart : ∀ name ∈ first.keys, name ∉ second.keys) :
    Distinct (first ++ second) := by
  rw [Distinct, keys, List.map_append]
  exact List.Nodup.append hfirst hsecond hapart

/-- Entries of distinct names are known by their names. -/
theorem Distinct.eq_of_mem {entries : Keyed α} (hentries : entries.Distinct)
    {first second : String × α} (hfirst : first ∈ entries) (hsecond : second ∈ entries)
    (hname : first.1 = second.1) : first = second := by
  obtain ⟨name, value⟩ := first
  obtain ⟨other, again⟩ := second
  obtain rfl : name = other := hname
  have hvalue := get?_eq_some_of_mem hentries hfirst
  rw [get?_eq_some_of_mem hentries hsecond] at hvalue
  rw [Option.some.inj hvalue]

/-- The entries of a name are what a lookup of it finds. -/
theorem Distinct.filter_eq {entries : Keyed α} (hentries : entries.Distinct) (key : String) :
    entries.filter (·.1 = key) = ((entries.get? key).map (key, ·)).toList := by
  induction entries with
  | nil => rfl
  | cons entry rest ih =>
      obtain ⟨name, value⟩ := entry
      obtain ⟨hname, hrest⟩ := distinct_cons.mp hentries
      rw [List.filter_cons, get?_cons, ih hrest]
      by_cases hkey : name = key
      · subst hkey
        simp [get?_eq_none_iff.mpr hname]
      · simp [hkey]

/-- A lookup does not depend on the order of distinct names. -/
theorem get?_eq_of_perm {entries others : Keyed α} (hperm : entries.Perm others)
    (hentries : entries.Distinct) (key : String) : entries.get? key = others.get? key := by
  ext value
  rw [get?_eq_some_iff hentries, get?_eq_some_iff (hentries.perm hperm)]
  exact hperm.mem_iff

/-- A lookup in a list whose values were converted. -/
theorem get?_map (convert : String → α → β) (entries : Keyed α) (key : String) :
    get? (entries.map fun entry => (entry.1, convert entry.1 entry.2)) key =
      (entries.get? key).map (convert key) := by
  induction entries with
  | nil => rfl
  | cons entry rest ih =>
      obtain ⟨name, value⟩ := entry
      rw [List.map_cons, get?_cons, get?_cons, ih]
      by_cases hname : name = key
      · rw [if_pos hname, if_pos hname, hname, Option.map_some]
      · rw [if_neg hname, if_neg hname]

/-! ## Replacing a value -/

section Replacing

variable {before after : Keyed α} {name : String} {old value : α}

theorem Distinct.replace (hentries : Distinct (before ++ (name, old) :: after)) (value : α) :
    Distinct (before ++ (name, value) :: after) := by
  unfold Distinct keys at *
  rw [List.map_append, List.map_cons] at *
  exact hentries

/-- What holds of the other entries and of the new value holds of all entries. -/
theorem forall_mem_replace {Good : String → α → Prop}
    (hentries : ∀ key found, (key, found) ∈ before ++ (name, old) :: after → Good key found)
    (hvalue : Good name value) :
    ∀ key found, (key, found) ∈ before ++ (name, value) :: after → Good key found := by
  intro key found hmem
  rw [List.mem_append, List.mem_cons] at hmem
  rcases hmem with hmem | heq | hmem
  · exact hentries key found (List.mem_append_left _ hmem)
  · cases heq
    exact hvalue
  · exact hentries key found (List.mem_append_right _ (List.mem_cons_of_mem _ hmem))

/-- What holds of the other values holds of all of them, if the new value takes it over from the
old one. -/
theorem forall_mem_replace_some {Good : α → Prop} {before after : Keyed (Option α)}
    (hentries : ∀ key found, (key, some found) ∈ before ++ (name, some old) :: after → Good found)
    (hvalue : Good old → Good value) :
    ∀ key found, (key, some found) ∈ before ++ (name, some value) :: after → Good found := by
  have hall : ∀ key entry, (key, entry) ∈ before ++ (name, some value) :: after →
      ∀ found, entry = some found → Good found := by
    apply forall_mem_replace
    · rintro key _ hmem found rfl
      exact hentries key found hmem
    · rintro _ ⟨⟩
      exact hvalue (hentries name old (List.mem_append_right _ List.mem_cons_self))
  intro key found hmem
  exact hall key _ hmem found rfl

/-- A lookup that does not tell the old value from the new one. -/
theorem map_get?_replace {see : α → β} (hsee : see old = see value) (key : String) :
    (get? (before ++ (name, old) :: after) key).map see =
      (get? (before ++ (name, value) :: after) key).map see := by
  rw [get?_append, get?_append, get?_cons, get?_cons]
  cases before.get? key with
  | some found => rfl
  | none =>
      by_cases hname : name = key
      · rw [if_pos hname, if_pos hname, Option.none_or, Option.none_or, Option.map_some, hsee]
        rfl
      · rw [if_neg hname, if_neg hname]

end Replacing

/-! ## Binding a name -/

theorem insert_of_notMem {entries : Keyed α} {name : String} (hname : name ∉ entries.keys)
    (value : α) : entries.insert name value = entries ++ [(name, value)] := by
  induction entries with
  | nil => rfl
  | cons entry rest ih =>
      obtain ⟨first, old⟩ := entry
      have hfirst : first ≠ name := fun heq => hname (heq ▸ List.mem_cons_self)
      have hrest : name ∉ keys rest := fun hmem => hname (List.mem_cons_of_mem _ hmem)
      rw [insert, if_neg hfirst, ih hrest, List.cons_append]

/-- Binding distinct names one after the other lists them in this order. -/
theorem ofList_eq_self {entries : Keyed α} (hentries : entries.Distinct) :
    ofList entries = entries := by
  suffices ∀ bound : Keyed α, Distinct (bound ++ entries) →
      entries.foldl (fun bound entry => bound.insert entry.1 entry.2) bound = bound ++ entries from
    this [] hentries
  clear hentries
  induction entries with
  | nil => exact fun bound _ => (List.append_nil bound).symm
  | cons entry rest ih =>
      obtain ⟨name, value⟩ := entry
      intro bound hall
      have hname : name ∉ bound.keys := by
        rw [Distinct, keys, List.map_append, List.nodup_append] at hall
        exact fun hmem => hall.2.2 name hmem name List.mem_cons_self rfl
      rw [List.foldl_cons, insert_of_notMem hname, ih _ (by simpa using hall),
        List.append_assoc, List.singleton_append]

/-! ## Binding a name in order -/

theorem get?_insertSorted (entries : Keyed α) (name : String) (value : α) (key : String) :
    (entries.insertSorted name value).get? key =
      if name = key then some value else entries.get? key := by
  induction entries with
  | nil => simp [insertSorted]
  | cons entry rest ih =>
      obtain ⟨first, old⟩ := entry
      rw [insertSorted]
      split
      · exact get?_cons name value _ key
      · split
        · next hfirst =>
            subst hfirst
            by_cases hkey : first = key <;> simp [hkey]
        · next hfirst =>
            rw [get?_cons, get?_cons, ih]
            by_cases hkey : first = key
            · rw [if_pos hkey, if_pos hkey, if_neg (hkey ▸ Ne.symm hfirst)]
            · rw [if_neg hkey, if_neg hkey]

/-- After distinct names are bound in order, a lookup finds what they are bound to, and what was
bound before for other names. -/
theorem get?_foldl_insertSorted {entries : Keyed α} (hentries : entries.Distinct)
    (bound : Keyed α) (key : String) :
    get? (entries.foldl (fun bound entry => bound.insertSorted entry.1 entry.2) bound) key =
      (entries.get? key).or (bound.get? key) := by
  induction entries generalizing bound with
  | nil => rfl
  | cons entry rest ih =>
      obtain ⟨name, value⟩ := entry
      obtain ⟨hname, hrest⟩ := distinct_cons.mp hentries
      rw [List.foldl_cons, ih hrest, get?_insertSorted, get?_cons]
      by_cases hkey : name = key
      · subst hkey
        rw [get?_eq_none_iff.mpr hname, if_pos rfl, if_pos rfl]
        rfl
      · rw [if_neg hkey, if_neg hkey]

theorem insertSorted_before {name first : String} (hlt : name < first) (value old : α)
    (rest : Keyed α) :
    insertSorted ((first, old) :: rest) name value = (name, value) :: (first, old) :: rest := by
  rw [insertSorted, if_pos hlt]

theorem insertSorted_here (name : String) (value old : α) (rest : Keyed α) :
    insertSorted ((name, old) :: rest) name value = (name, value) :: rest := by
  rw [insertSorted, if_neg (lt_irrefl name), if_pos rfl]

theorem insertSorted_after {name first : String} (hlt : first < name) (value old : α)
    (rest : Keyed α) :
    insertSorted ((first, old) :: rest) name value =
      (first, old) :: rest.insertSorted name value := by
  rw [insertSorted, if_neg (lt_asymm hlt), if_neg hlt.ne]

/-- Two names can be bound in either order. -/
theorem insertSorted_comm {name other : String} (hname : name ≠ other) (value again : α)
    (entries : Keyed α) :
    (entries.insertSorted name value).insertSorted other again =
      (entries.insertSorted other again).insertSorted name value := by
  wlog hlt : name < other generalizing name other value again
  · have hgt : other < name := lt_of_le_of_ne (not_lt.mp hlt) hname.symm
    exact (this hname.symm again value hgt).symm
  induction entries with
  | nil =>
      have hafter := insertSorted_after hlt again value []
      have hbefore := insertSorted_before hlt value again []
      exact hafter.trans hbefore.symm
  | cons entry rest ih =>
      obtain ⟨first, old⟩ := entry
      rcases lt_trichotomy name first with hfirst | rfl | hfirst
      · rw [insertSorted_before hfirst, insertSorted_after hlt]
        rcases lt_trichotomy other first with hother | rfl | hother
        · rw [insertSorted_before hother, insertSorted_before hlt]
        · rw [insertSorted_here, insertSorted_before hlt]
        · rw [insertSorted_after hother, insertSorted_before hfirst]
      · rw [insertSorted_here, insertSorted_after hlt, insertSorted_after hlt, insertSorted_here]
      · have hother := hfirst.trans hlt
        rw [insertSorted_after hfirst, insertSorted_after hother, insertSorted_after hother,
          insertSorted_after hfirst, ih]

/-! ## Going through the entries -/

theorem Increasing.restrict {entries : Keyed α} (hentries : entries.Increasing)
    (keep : String → α → Option β) : (restrict keep entries).Increasing :=
  List.Pairwise.sublist (keys_restrict_sublist keep entries) hentries

theorem restrict_congr {keep other : String → α → Option β} {entries : Keyed α}
    (heq : ∀ name value, (name, value) ∈ entries → keep name value = other name value) :
    restrict keep entries = restrict other entries := by
  apply List.filterMap_congr
  intro entry hmem
  rw [heq entry.1 entry.2 hmem]

theorem restrict_eq_self {keep : String → α → Option α} {entries : Keyed α}
    (hkeep : ∀ name value, (name, value) ∈ entries → keep name value = some value) :
    restrict keep entries = entries := by
  have hall : restrict (fun _ value => some value) entries = entries := by simp [restrict]
  exact (restrict_congr hkeep).trans hall

theorem restrict_restrict (keep : String → α → Option β) (again : String → β → Option γ)
    (entries : Keyed α) :
    restrict again (restrict keep entries) =
      restrict (fun name value => (keep name value).bind (again name)) entries := by
  induction entries with
  | nil => rfl
  | cons entry rest ih =>
      obtain ⟨name, value⟩ := entry
      cases hkeep : keep name value with
      | none => simp [restrict_cons, hkeep, ih]
      | some kept => cases hagain : again name kept <;> simp [restrict_cons, hkeep, hagain, ih]

theorem filter_eq_restrict (keep : String → Bool) (entries : Keyed α) :
    entries.filter (fun entry => keep entry.1) =
      restrict (fun name value => if keep name then some value else none) entries := by
  induction entries with
  | nil => rfl
  | cons entry rest ih =>
      obtain ⟨name, value⟩ := entry
      cases hkeep : keep name <;> simp [restrict_cons, hkeep, ih]

/-- A lookup in the kept entries is a lookup in all of them, of a name that is kept. -/
theorem get?_restrict {entries : Keyed α} (hentries : entries.Distinct)
    (keep : String → α → Option β) (key : String) :
    (restrict keep entries).get? key = (entries.get? key).bind (keep key) := by
  have hkept := hentries.restrict keep
  ext kept
  rw [get?_eq_some_iff hkept, mem_restrict, Option.bind_eq_some_iff]
  simp only [get?_eq_some_iff hentries]

/-- Binding a name of the list changes only what that name is kept with. -/
theorem insertSorted_restrict {entries : Keyed α} (hentries : entries.Increasing)
    (keep : String → α → Option β) {name : String} (hname : name ∈ entries.keys) (kept : β) :
    (restrict keep entries).insertSorted name kept =
      restrict (fun other value => if other = name then some kept else keep other value)
        entries := by
  induction entries with
  | nil => simp [keys] at hname
  | cons entry rest ih =>
      obtain ⟨first, value⟩ := entry
      obtain ⟨hfirst, hrest⟩ := increasing_cons.mp hentries
      by_cases heq : first = name
      · subst heq
        have hlater : restrict (fun other value => if other = first then some kept
            else keep other value) rest = restrict keep rest := by
          apply restrict_congr
          intro other value hmem
          rw [if_neg (ne_of_gt (hfirst other (mem_keys_of_mem hmem)))]
        rw [restrict_cons, restrict_cons, if_pos rfl, hlater]
        cases hkeep : keep first value with
        | some old => simp [insertSorted]
        | none =>
            -- The name was left out, so it comes back in front of the names that follow it.
            cases hkept : restrict keep rest with
            | nil => rfl
            | cons next later =>
                have hnext : next.1 ∈ keys rest := by
                  apply (keys_restrict_sublist keep rest).subset
                  rw [hkept]
                  exact List.mem_cons_self
                simp [insertSorted, hfirst next.1 hnext]
      · have hmem : name ∈ keys rest := (List.mem_cons.mp hname).resolve_left (Ne.symm heq)
        have hlt : first < name := hfirst name hmem
        rw [restrict_cons, restrict_cons, if_neg heq, ← ih hrest hmem]
        cases hkeep : keep first value with
        | some old => simp [insertSorted, not_lt_of_gt hlt, heq]
        | none => rfl

end QueryShape.Keyed

namespace QueryShape.Dictionary

variable {α : Type}

theorem ofList_entries (dictionary : Dictionary α) : ofList dictionary.entries = dictionary :=
  Dictionary.ext (Keyed.ofList_eq_self dictionary.distinct)

end QueryShape.Dictionary
