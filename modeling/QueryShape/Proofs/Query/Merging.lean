import QueryShape.Proofs.Query.SelectionOrder

/-!
# Merging selections

A merge is known by the names that it lists and by the entry that it has for each of them.  The
names are those of the first selection and after them the new ones of the second, and the entry of a
name is merged from the entries that the two selections have for it.  Equations between merges, the
order of the names included, are proved from these two facts, level by level.
-/

namespace QueryShape

namespace Keyed

variable {α : Type} {entries others : Keyed α}

theorem eq_nil_of_get? (hentries : ∀ name, entries.get? name = none) : entries = [] := by
  apply List.map_eq_nil_iff.mp
  apply List.eq_nil_iff_forall_not_mem.mpr
  intro name
  exact get?_eq_none_iff.mp (hentries name)

theorem get?_filter_self (entries : Keyed α) (name : String) :
    get? (entries.filter (·.1 ≠ name)) name = none := by
  apply get?_eq_none_iff.mpr
  simp [keys]

/-- Two lists that bind the same names in the same order, each to the same value, are the same. -/
theorem eq_of_keys_eq (hentries : entries.Distinct)
    (hkeys : entries.keys = others.keys) (hget : ∀ name, entries.get? name = others.get? name) :
    entries = others := by
  have hothers : others.Distinct := by
    rw [Distinct, ← hkeys]
    exact hentries
  induction entries generalizing others with
  | nil => exact (List.map_eq_nil_iff.mp hkeys.symm).symm
  | cons first rest ih =>
      obtain ⟨name, value⟩ := first
      obtain ⟨⟨other, again⟩, later, rfl⟩ : ∃ entry later, others = entry :: later :=
        List.exists_cons_of_ne_nil (by rintro rfl; cases hkeys)
      obtain ⟨rfl, hrest⟩ : name = other ∧ keys rest = keys later := List.cons.inj hkeys
      obtain ⟨hname, hdistinct⟩ := distinct_cons.mp hentries
      obtain ⟨hother, hlater⟩ := distinct_cons.mp hothers
      have hvalue : value = again := by simpa using hget name
      have hsame : rest = later := by
        apply ih hdistinct hrest _ hlater
        intro key
        by_cases hkey : name = key
        · subst hkey
          rw [get?_eq_none_iff.mpr hname, get?_eq_none_iff.mpr hother]
        · simpa [hkey] using hget key
      rw [hvalue, hsame]

end Keyed

namespace SelectionKind

theorem merge_assoc (first second third : SelectionKind) :
    (first.merge second).merge third = first.merge (second.merge third) := by
  cases first <;> cases second <;> cases third <;> rfl

theorem merge_comm (first second : SelectionKind) :
    first.merge second = second.merge first := by
  cases first <;> cases second <;> rfl

theorem merge_eq_selecting_iff {first second : SelectionKind} :
    first.merge second = .selecting ↔ first = .selecting ∨ second = .selecting := by
  cases first <;> cases second <;> decide

end SelectionKind

namespace Selection

/-! ## The names and the entries of a merge -/

theorem keys_mergeEntries (entries others : Keyed (Option Selection)) :
    Keyed.keys (mergeEntries entries others) =
      entries.keys ++ others.keys.filter (· ∉ entries.keys) := by
  induction entries generalizing others with
  | nil => simp [mergeEntries, Keyed.keys]
  | cons first rest ih =>
      obtain ⟨name, entry⟩ := first
      have hothers : Keyed.keys (others.filter (·.1 ≠ name)) = others.keys.filter (· ≠ name) :=
        Keyed.keys_filter (· ≠ name) others
      have hrest : Keyed.keys (mergeEntries rest (others.filter (·.1 ≠ name))) =
          Keyed.keys rest ++ others.keys.filter (· ∉ name :: Keyed.keys rest) := by
        rw [ih, hothers, List.filter_filter]
        simp [Bool.and_comm]
      cases entry with
      | none =>
          rw [mergeEntries]
          exact congrArg (name :: ·) hrest
      | some nested =>
          rw [mergeEntries]
          exact congrArg (name :: ·) hrest

theorem distinct_mergeEntries {entries others : Keyed (Option Selection)}
    (hentries : entries.Distinct) (hothers : others.Distinct) :
    Keyed.Distinct (mergeEntries entries others) := by
  rw [Keyed.Distinct, keys_mergeEntries]
  apply List.Nodup.append hentries (List.Nodup.filter _ hothers)
  intro name hname hother
  exact of_decide_eq_true (List.mem_filter.mp hother).2 hname

/-- A name has the entry of the selection that lists it, or the merged one if both do. -/
theorem get?_merge (left right : Selection) (name : String) :
    (left.merge right).entries.get? name =
      Option.merge mergeEntry (left.entries.get? name) (right.entries.get? name) := by
  rw [entries_merge, get?_mergeEntries]
  cases left.entries.get? name <;> cases right.entries.get? name <;> rfl

theorem WellFormed.distinct {selection : Selection} (hselection : selection.WellFormed) :
    selection.entries.Distinct := by
  cases hselection with
  | mk distinct _ => exact distinct

theorem WellFormed.of_get? {selection nested : Selection} {name : String}
    (hselection : selection.WellFormed)
    (hentry : selection.entries.get? name = some (some nested)) : nested.WellFormed := by
  cases hselection with
  | mk _ hnested => exact hnested name nested (Keyed.mem_of_get?_eq_some hentry)

theorem WellFormed.of_entries {selection : Selection} (hdistinct : selection.entries.Distinct)
    (hnested : ∀ name nested, selection.entries.get? name = some (some nested) →
      nested.WellFormed) : selection.WellFormed := by
  obtain ⟨kind, entries⟩ := selection
  apply WellFormed.mk hdistinct
  intro name nested hmem
  exact hnested name nested (Keyed.get?_eq_some_of_mem hdistinct hmem)

theorem wellFormed_empty : empty.WellFormed :=
  .mk Keyed.distinct_nil (by simp)

/-- What is shown for a selection from its nested ones holds of every well-formed selection. -/
@[elab_as_elim]
theorem WellFormed.levelwise {motive : ∀ selection : Selection, selection.WellFormed → Prop}
    (level : ∀ (selection : Selection) (hselection : selection.WellFormed),
      (∀ (name : String) (nested : Selection)
        (hentry : selection.entries.get? name = some (some nested)),
          motive nested (hselection.of_get? hentry)) → motive selection hselection)
    {selection : Selection} (hselection : selection.WellFormed) : motive selection hselection := by
  induction hselection with
  | @mk kind entries distinct nested ih =>
      apply level (.mk kind entries) (.mk distinct nested)
      intro name nested hentry
      exact ih name nested (Keyed.mem_of_get?_eq_some hentry)

/-- Merging keeps the names of every level distinct. -/
theorem WellFormed.merge {left right : Selection} (hleft : left.WellFormed)
    (hright : right.WellFormed) : (left.merge right).WellFormed := by
  induction hleft using WellFormed.levelwise generalizing right with
  | level left hleft ih =>
      apply WellFormed.of_entries
      · rw [entries_merge]
        exact distinct_mergeEntries hleft.distinct hright.distinct
      · intro name merged hmerged
        rw [get?_merge] at hmerged
        match hone : left.entries.get? name, htwo : right.entries.get? name with
        | none, two =>
            rw [hone, htwo, Option.merge_none_left] at hmerged
            exact hright.of_get? (htwo.trans hmerged)
        | some one, none =>
            rw [hone, htwo, Option.merge_none_right] at hmerged
            exact hleft.of_get? (hone.trans hmerged)
        | some none, some two =>
            rw [hone, htwo, Option.merge, mergeEntry_none_left] at hmerged
            cases hmerged
        | some (some one), some none =>
            rw [hone, htwo] at hmerged
            cases hmerged
        | some (some one), some (some two) =>
            rw [hone, htwo] at hmerged
            cases hmerged
            exact ih name one hone (hright.of_get? htwo)

/-! ## Equations -/

theorem eq_of_entries {left right : Selection} (hleft : left.WellFormed)
    (hkind : left.kind = right.kind) (hkeys : left.entries.keys = right.entries.keys)
    (hget : ∀ name, left.entries.get? name = right.entries.get? name) : left = right := by
  have hentries := Keyed.eq_of_keys_eq hleft.distinct hkeys hget
  cases left
  cases right
  exact congrArg₂ mk hkind hentries

theorem empty_merge (selection : Selection) : empty.merge selection = selection := by
  obtain ⟨kind, entries⟩ := selection
  rw [empty, merge, mergeEntries]
  cases kind <;> rfl

theorem merge_empty {selection : Selection} (hselection : selection.WellFormed) :
    selection.merge empty = selection := by
  apply eq_of_entries (hselection.merge wellFormed_empty)
  · rw [kind_merge]
    cases selection.kind <;> rfl
  · rw [entries_merge, keys_mergeEntries]
    exact List.append_nil _
  · intro name
    rw [get?_merge]
    exact Option.merge_none_right

theorem merge_self {selection : Selection} (hselection : selection.WellFormed) :
    selection.merge selection = selection := by
  induction hselection using WellFormed.levelwise with
  | level selection hselection ih =>
      apply eq_of_entries (hselection.merge hselection)
      · rw [kind_merge]
        cases selection.kind <;> rfl
      · rw [entries_merge, keys_mergeEntries, List.filter_eq_nil_iff.mpr (by simp), List.append_nil]
      · intro name
        rw [get?_merge]
        match hentry : selection.entries.get? name with
        | none => rfl
        | some none => rfl
        | some (some nested) =>
            have hnested := ih name nested hentry
            simp only [Option.merge, mergeEntry, hnested]

/-- The names of the third selection come last on either side, without those that the first two
list. -/
theorem keys_merge_assoc (first second third : Selection) :
    ((first.merge second).merge third).entries.keys =
      (first.merge (second.merge third)).entries.keys := by
  simp only [entries_merge, keys_mergeEntries, List.append_assoc, List.filter_append,
    List.filter_filter, List.mem_append, List.mem_filter, not_or]
  congr 2
  apply List.filter_congr
  intro name _
  by_cases hfirst : name ∈ first.entries.keys <;> by_cases hsecond : name ∈ second.entries.keys <;>
    simp [hfirst, hsecond]

theorem merge_assoc {first second third : Selection} (hfirst : first.WellFormed)
    (hsecond : second.WellFormed) (hthird : third.WellFormed) :
    (first.merge second).merge third = first.merge (second.merge third) := by
  induction hfirst using WellFormed.levelwise generalizing second third with
  | level first hfirst ih =>
      apply eq_of_entries ((hfirst.merge hsecond).merge hthird)
      · simp only [kind_merge, SelectionKind.merge_assoc]
      · exact keys_merge_assoc first second third
      · intro name
        simp only [get?_merge]
        -- A name that all three nest is the only case in which the merge goes on below it.
        match hone : first.entries.get? name, htwo : second.entries.get? name,
            hthree : third.entries.get? name with
        | none, two, three => simp only [Option.merge_none_left]
        | some one, none, three => simp only [Option.merge_none_left, Option.merge_none_right]
        | some one, some two, none => simp only [Option.merge_none_right]
        | some none, some two, some three => simp only [Option.merge, mergeEntry_none_left]
        | some (some one), some none, some three => rfl
        | some (some one), some (some two), some none => rfl
        | some (some one), some (some two), some (some three) =>
            have hnested := ih name one hone (hsecond.of_get? htwo) (hthird.of_get? hthree)
            simp only [Option.merge, mergeEntry, hnested]

end Selection

namespace WellFormedSelection

def empty : WellFormedSelection :=
  ⟨.empty, Selection.wellFormed_empty⟩

def merge (left right : WellFormedSelection) : WellFormedSelection :=
  ⟨left.val.merge right.val, left.property.merge right.property⟩

theorem empty_merge (selection : WellFormedSelection) : empty.merge selection = selection :=
  Subtype.ext selection.val.empty_merge

theorem merge_empty (selection : WellFormedSelection) : selection.merge empty = selection :=
  Subtype.ext (Selection.merge_empty selection.property)

theorem merge_self (selection : WellFormedSelection) : selection.merge selection = selection :=
  Subtype.ext (Selection.merge_self selection.property)

theorem merge_assoc (first second third : WellFormedSelection) :
    (first.merge second).merge third = first.merge (second.merge third) :=
  Subtype.ext (Selection.merge_assoc first.property second.property third.property)

end WellFormedSelection

end QueryShape
