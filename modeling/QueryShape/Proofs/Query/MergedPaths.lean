import QueryShape.Proofs.Query.Merging
import QueryShape.Proofs.Query.Trust

/-!
# Paths through a merge

Where a path leads in a merge is known from where it leads in the two selections.  A name that
either of them fetches whole takes in everything below it, whatever the other one lists there; apart
from this, a path leads to a nested selection in the merge if it does in one of the two, and what it
leads to is merged from what it leads to in both.
-/

namespace QueryShape

namespace Selection

/-! ## Paths to names that are fetched whole -/

/-- A path leads to a name that is fetched whole. -/
def EndsWhole (selection : Selection) (path : List String) : Prop :=
  ∃ start name level, path = start ++ [name] ∧ selection.resolve? start = some level ∧
    level.entries.get? name = some none

/-- A name on the path is fetched whole, with everything that the path leads to below it. -/
def Absorbs (selection : Selection) (path : List String) : Prop :=
  ∃ start, start <+: path ∧ selection.EndsWhole start

section

variable {selection : Selection} {name : String} {rest : List String}

theorem resolve?_cons_eq_some_iff {level : Selection} :
    selection.resolve? (name :: rest) = some level ↔
      ∃ nested, selection.entries.get? name = some (some nested) ∧
        nested.resolve? rest = some level := by
  simp only [resolve?, Option.bind_eq_some_iff]
  constructor
  · rintro ⟨_, hentry, nested, rfl, hlevel⟩
    exact ⟨nested, hentry, hlevel⟩
  · rintro ⟨nested, hentry, hlevel⟩
    exact ⟨some nested, hentry, nested, rfl, hlevel⟩

theorem not_endsWhole_nil : ¬selection.EndsWhole [] := by
  rintro ⟨start, name, level, hpath, -⟩
  exact List.append_ne_nil_of_right_ne_nil start (List.cons_ne_nil name []) hpath.symm

theorem endsWhole_cons :
    selection.EndsWhole (name :: rest) ↔
      (rest = [] ∧ selection.entries.get? name = some none) ∨
        ∃ nested, selection.entries.get? name = some (some nested) ∧ nested.EndsWhole rest := by
  constructor
  · rintro ⟨start, last, level, hpath, hlevel, hlast⟩
    cases start with
    | nil =>
        cases hpath
        cases hlevel
        exact Or.inl ⟨rfl, hlast⟩
    | cons first start =>
        cases hpath
        obtain ⟨nested, hnested, hlevel⟩ := resolve?_cons_eq_some_iff.mp hlevel
        exact Or.inr ⟨nested, hnested, start, last, level, rfl, hlevel, hlast⟩
  · rintro (⟨rfl, hentry⟩ | ⟨nested, hnested, start, last, level, rfl, hlevel, hlast⟩)
    · exact ⟨[], name, selection, rfl, rfl, hentry⟩
    · have hstart := resolve?_cons_eq_some_iff.mpr ⟨nested, hnested, hlevel⟩
      exact ⟨name :: start, last, level, rfl, hstart, hlast⟩

@[simp]
theorem not_absorbs_nil : ¬selection.Absorbs [] := by
  rintro ⟨start, hstart, hwhole⟩
  rw [List.prefix_nil.mp hstart] at hwhole
  exact not_endsWhole_nil hwhole

theorem absorbs_cons :
    selection.Absorbs (name :: rest) ↔
      selection.entries.get? name = some none ∨
        ∃ nested, selection.entries.get? name = some (some nested) ∧ nested.Absorbs rest := by
  constructor
  · rintro ⟨start, hstart, hwhole⟩
    rcases List.prefix_cons_iff.mp hstart with rfl | ⟨more, rfl, hmore⟩
    · exact absurd hwhole not_endsWhole_nil
    · rcases endsWhole_cons.mp hwhole with ⟨-, hentry⟩ | ⟨nested, hnested, hwhole⟩
      · exact Or.inl hentry
      · exact Or.inr ⟨nested, hnested, more, hmore, hwhole⟩
  · rintro (hentry | ⟨nested, hnested, start, hstart, hwhole⟩)
    · exact ⟨[name], by simp, endsWhole_cons.mpr (Or.inl ⟨rfl, hentry⟩)⟩
    · exact ⟨name :: start, List.prefix_cons_iff.mpr (Or.inr ⟨start, rfl, hstart⟩),
        endsWhole_cons.mpr (Or.inr ⟨nested, hnested, hwhole⟩)⟩

end

/-- A path does not lead on from a name that is fetched whole. -/
theorem not_absorbs_of_resolve? {selection level : Selection} {path : List String}
    (hlevel : selection.resolve? path = some level) : ¬selection.Absorbs path := by
  induction path generalizing selection with
  | nil => exact not_absorbs_nil
  | cons name rest ih =>
      obtain ⟨nested, hnested, hlevel⟩ := resolve?_cons_eq_some_iff.mp hlevel
      rw [absorbs_cons, hnested]
      rintro (hentry | ⟨other, hother, habsorbs⟩)
      · cases hentry
      · cases hother
        exact ih hlevel habsorbs

/-! ## Paths through a merge -/

theorem absorbs_merge (left right : Selection) (path : List String) :
    (left.merge right).Absorbs path ↔ left.Absorbs path ∨ right.Absorbs path := by
  induction path generalizing left right with
  | nil => simp
  | cons name rest ih =>
      simp only [absorbs_cons, get?_merge]
      match left.entries.get? name, right.entries.get? name with
      | none, two => simp
      | some one, none => simp
      | some none, some two => simp [Option.merge, mergeEntry_none_left]
      | some (some one), some none => simp [Option.merge, mergeEntry]
      | some (some one), some (some two) => simp [Option.merge, mergeEntry, ih]

/-- Unless a name on the path is fetched whole, a path through a merge leads to the merge of what it
leads to. -/
theorem resolve?_merge (left right : Selection) (path : List String)
    (hleft : ¬left.Absorbs path) (hright : ¬right.Absorbs path) :
    (left.merge right).resolve? path =
      Option.merge merge (left.resolve? path) (right.resolve? path) := by
  induction path generalizing left right with
  | nil => rfl
  | cons name rest ih =>
      rw [absorbs_cons] at hleft hright
      simp only [resolve?, get?_merge]
      rcases hone : left.entries.get? name with _ | _ | one
      · simp
      · exact absurd (Or.inl hone) hleft
      · rcases htwo : right.entries.get? name with _ | _ | two
        · simp
        · exact absurd (Or.inl htwo) hright
        · apply ih one two
          · intro habsorbs
            exact hleft (Or.inr ⟨one, hone, habsorbs⟩)
          · intro habsorbs
            exact hright (Or.inr ⟨two, htwo, habsorbs⟩)

theorem resolve?_eq_none_of_absorbs {selection : Selection} {path : List String}
    (habsorbs : selection.Absorbs path) : selection.resolve? path = none := by
  by_contra hresolve
  obtain ⟨level, hlevel⟩ := Option.ne_none_iff_exists'.mp hresolve
  exact not_absorbs_of_resolve? hlevel habsorbs

theorem WellFormed.resolve? {selection level : Selection} {path : List String}
    (hselection : selection.WellFormed) (hlevel : selection.resolve? path = some level) :
    level.WellFormed := by
  induction path generalizing selection with
  | nil =>
      cases hlevel
      exact hselection
  | cons name rest ih =>
      obtain ⟨nested, hnested, hlevel⟩ := resolve?_cons_eq_some_iff.mp hlevel
      exact ih (hselection.of_get? hnested) hlevel

/-- The names that a selection lists where a path leads; there are none if it does not lead to a
nested selection. -/
def namesAt (selection : Selection) (path : List String) : List String :=
  ((selection.resolve? path).map (·.entries.keys)).getD []

theorem namesAt_eq {selection level : Selection} {path : List String}
    (hlevel : selection.resolve? path = some level) :
    selection.namesAt path = level.entries.keys := by
  rw [namesAt, hlevel]
  rfl

theorem namesAt_eq_nil {selection : Selection} {path : List String}
    (hlevel : selection.resolve? path = none) : selection.namesAt path = [] := by
  rw [namesAt, hlevel]
  rfl

theorem narrows_iff {selection level : Selection} {path : List String}
    (hlevel : selection.resolve? path = some level) :
    selection.Narrows path ↔ level.kind = .selecting := by
  simp [Narrows, hlevel]

theorem not_narrows {selection : Selection} {path : List String}
    (hlevel : selection.resolve? path = none) : ¬selection.Narrows path := by
  simp [Narrows, hlevel]

section

variable {left right merged : Selection} {path : List String}

theorem isSome_resolve?_merge_iff :
    ((left.merge right).resolve? path).isSome ↔
      ¬(left.merge right).Absorbs path ∧
        ((left.resolve? path).isSome ∨ (right.resolve? path).isSome) := by
  by_cases habsorbs : (left.merge right).Absorbs path
  · simp [habsorbs, resolve?_eq_none_of_absorbs habsorbs]
  · obtain ⟨hleft, hright⟩ := not_or.mp ((absorbs_merge left right path).not.mp habsorbs)
    rw [resolve?_merge left right path hleft hright]
    cases left.resolve? path <;> cases right.resolve? path <;> simp [habsorbs, Option.merge]

/-- What a path through a merge leads to is what it leads to in one of the two selections, or the
merge of what it leads to in both. -/
theorem resolve?_merge_cases (hmerged : (left.merge right).resolve? path = some merged) :
    (left.resolve? path = some merged ∧ right.resolve? path = none) ∨
      (left.resolve? path = none ∧ right.resolve? path = some merged) ∨
      ∃ one two, left.resolve? path = some one ∧ right.resolve? path = some two ∧
        merged = one.merge two := by
  have habsorbs := (absorbs_merge left right path).not.mp (not_absorbs_of_resolve? hmerged)
  obtain ⟨hleft, hright⟩ := not_or.mp habsorbs
  rw [resolve?_merge left right path hleft hright] at hmerged
  match left.resolve? path, right.resolve? path, hmerged with
  | some one, none, hmerged => exact Or.inl ⟨hmerged, rfl⟩
  | none, some two, hmerged => exact Or.inr (Or.inl ⟨rfl, hmerged⟩)
  | some one, some two, hmerged =>
      exact Or.inr (Or.inr ⟨one, two, rfl, rfl, (Option.some.inj hmerged).symm⟩)

theorem narrows_merge_iff (hmerged : (left.merge right).resolve? path = some merged) :
    (left.merge right).Narrows path ↔ left.Narrows path ∨ right.Narrows path := by
  rw [narrows_iff hmerged]
  rcases resolve?_merge_cases hmerged with
    ⟨hleft, hright⟩ | ⟨hleft, hright⟩ | ⟨one, two, hleft, hright, rfl⟩
  · simp [narrows_iff hleft, not_narrows hright]
  · simp [not_narrows hleft, narrows_iff hright]
  · rw [narrows_iff hleft, narrows_iff hright, kind_merge, SelectionKind.merge_eq_selecting_iff]

/-- The names of the first selection come first, and then the other names of the second. -/
theorem keys_of_resolve?_merge (hmerged : (left.merge right).resolve? path = some merged) :
    merged.entries.keys =
      left.namesAt path ++ (right.namesAt path).filter (· ∉ left.namesAt path) := by
  rcases resolve?_merge_cases hmerged with
    ⟨hleft, hright⟩ | ⟨hleft, hright⟩ | ⟨one, two, hleft, hright, rfl⟩
  · simp [namesAt_eq hleft, namesAt_eq_nil hright]
  · simp [namesAt_eq_nil hleft, namesAt_eq hright]
  · rw [namesAt_eq hleft, namesAt_eq hright, entries_merge, keys_mergeEntries]

end

end Selection

namespace WellFormedSelection

/-- A merge neither loses nor invents an entry, at any level.  A path leads to something that is
fetched whole if it does in one of the two selections; otherwise it leads to a nested selection if
it does in one of them, which narrows what it selects from if one of them does, and which lists the
names of the first selection and then those that the second one has more, each of them once. -/
theorem merge_keeps_entries (left right : WellFormedSelection) :
    (∀ path, (left.merge right).val.Absorbs path ↔
      left.val.Absorbs path ∨ right.val.Absorbs path) ∧
      (∀ path, ((left.merge right).val.resolve? path).isSome ↔
        ¬(left.merge right).val.Absorbs path ∧
          ((left.val.resolve? path).isSome ∨ (right.val.resolve? path).isSome)) ∧
      (∀ path, ((left.merge right).val.resolve? path).isSome →
        ((left.merge right).val.Narrows path ↔
          left.val.Narrows path ∨ right.val.Narrows path)) ∧
      ((left.merge right).val.kind = .selecting ↔
        left.val.kind = .selecting ∨ right.val.kind = .selecting) ∧
      ∀ path level, (left.merge right).val.resolve? path = some level →
        level.entries.keys.Nodup ∧ level.entries.keys =
          left.val.namesAt path ++
            (right.val.namesAt path).filter (· ∉ left.val.namesAt path) := by
  refine ⟨Selection.absorbs_merge left.val right.val,
    fun _ => Selection.isSome_resolve?_merge_iff, ?narrowed, ?kind, ?listed⟩
  case narrowed =>
    intro path hsome
    obtain ⟨level, hlevel⟩ := Option.isSome_iff_exists.mp hsome
    exact Selection.narrows_merge_iff hlevel
  case kind =>
    rw [merge, Selection.kind_merge]
    exact SelectionKind.merge_eq_selecting_iff
  case listed =>
    intro path level hlevel
    exact ⟨((left.merge right).property.resolve? hlevel).distinct,
      Selection.keys_of_resolve?_merge hlevel⟩

/-- One selection fetches the authors of posts whole, the other one the names of authors.  Merged,
authors are fetched whole, and posts are narrowed as the other selection asks. -/
theorem merge_keeps_entries_authorsOfPosts :
    let authors : Selection := .mk .including [("author", none)]
    let names : Selection := .mk .selecting [
      ("title", none), ("author", some (.mk .selecting [("name", none)]))]
    let left : WellFormedSelection :=
      ⟨.mk .selecting [("id", none), ("posts", some authors)], by decide⟩
    let right : WellFormedSelection :=
      ⟨.mk .including [("best", none), ("posts", some names)], by decide⟩
    let merged := (left.merge right).val
    merged.kind = .selecting ∧ merged.Absorbs ["posts", "author", "name"] ∧
      merged.resolve? ["posts", "author"] = none ∧ merged.Narrows ["posts"] ∧
      merged.namesAt ["posts"] = ["author", "title"] ∧
      merged.entries.keys = ["id", "posts", "best"] := by
  intro authors names left right merged
  obtain ⟨habsorbs, hresolves, hnarrows, hkind, hlisted⟩ := merge_keeps_entries left right
  have hwhole : left.val.EndsWhole ["posts", "author"] :=
    ⟨["posts"], "author", authors, rfl, rfl, rfl⟩
  have habsorbed : ∀ rest, merged.Absorbs (["posts", "author"] ++ rest) := by
    intro rest
    exact (habsorbs _).mpr (Or.inl ⟨_, List.prefix_append _ _, hwhole⟩)
  have hposts : merged.resolve? ["posts"] = some (authors.merge names) := rfl
  refine ⟨hkind.mpr (Or.inl rfl), habsorbed ["name"], ?_, ?_, ?_, ?_⟩
  · by_contra hlevel
    exact ((hresolves _).mp (Option.isSome_iff_ne_none.mpr hlevel)).1 (habsorbed [])
  · exact (hnarrows ["posts"] (by rw [hposts]; rfl)).mpr (Or.inr ⟨names, rfl, rfl⟩)
  · exact (Selection.namesAt_eq hposts).trans (hlisted _ _ hposts).2
  · exact (hlisted [] _ rfl).2

end WellFormedSelection

end QueryShape
