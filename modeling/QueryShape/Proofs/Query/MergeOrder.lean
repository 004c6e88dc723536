import QueryShape.Proofs.Query.Merging

/-!
# The order of merges

Up to the order of their names, merges form a semilattice: a selection covers another one if merging
with it adds nothing, and the merge of a list is the least selection that covers all of its members.
So neither the order of the list matters, nor the way in which its members are grouped, nor whether
some of them are repeated.
-/

namespace QueryShape

namespace Selection

/-! ## Selections with the same entries -/

theorem Reordered.symm {left right : Selection} (hreordered : left.Reordered right) :
    right.Reordered left := by
  induction hreordered with
  | entries kind perm => exact .entries kind perm.symm
  | nested kind before after name _ ih => exact .nested kind before after name ih
  | trans _ _ ihFirst ihSecond => exact ihSecond.trans ihFirst

theorem Reordered.kind_eq {left right : Selection} (hreordered : left.Reordered right) :
    left.kind = right.kind := by
  induction hreordered with
  | entries => rfl
  | nested => rfl
  | trans _ _ ihFirst ihSecond => exact ihFirst.trans ihSecond

/-- Two entries for the same name: both are missing, both are fetched whole, or one nested selection
is the other one reordered. -/
def EntriesReordered : Option (Option Selection) → Option (Option Selection) → Prop :=
  Option.Rel (Option.Rel Reordered)

theorem EntriesReordered.refl (entry : Option (Option Selection)) :
    EntriesReordered entry entry := by
  match entry with
  | none => exact .none
  | some none => exact .some .none
  | some (some nested) => exact .some (.some (Reordered.refl nested))

theorem EntriesReordered.trans {first second third : Option (Option Selection)}
    (hfirst : EntriesReordered first second) (hsecond : EntriesReordered second third) :
    EntriesReordered first third := by
  match hfirst, hsecond with
  | .none, .none => exact .none
  | .some .none, .some .none => exact .some .none
  | .some (.some hnested), .some (.some hlater) => exact .some (.some (hnested.trans hlater))

theorem EntriesReordered.eq_none {entry : Option (Option Selection)}
    (hentry : EntriesReordered entry none) : entry = none := by
  cases hentry
  rfl

theorem EntriesReordered.exists_eq_some {entry : Option (Option Selection)}
    {value : Option Selection} (hentry : EntriesReordered entry (some value)) :
    ∃ found, entry = some found ∧ Option.Rel Reordered found value := by
  cases hentry with
  | some hinner => exact ⟨_, rfl, hinner⟩

theorem Reordered.get? {left right : Selection} (hreordered : left.Reordered right)
    (hleft : left.WellFormed) (name : String) :
    EntriesReordered (left.entries.get? name) (right.entries.get? name) := by
  induction hreordered with
  | entries kind perm =>
      have hsame := Keyed.get?_eq_of_perm perm hleft.distinct name
      rw [Selection.entries, Selection.entries, hsame]
      exact EntriesReordered.refl _
  | @nested kind before after other left right inside _ =>
      simp only [Selection.entries, Keyed.get?_append, Keyed.get?_cons]
      cases Keyed.get? before name with
      | some found => exact EntriesReordered.refl _
      | none =>
          by_cases hname : other = name
          · rw [if_pos hname, if_pos hname]
            exact .some (.some inside)
          · rw [if_neg hname, if_neg hname]
            exact EntriesReordered.refl _
  | trans first _ ihFirst ihSecond =>
      exact (ihFirst hleft).trans (ihSecond (first.wellFormed hleft))

/-- A name is moved to the front of a list. -/
theorem perm_cons_filter {entries : Keyed (Option Selection)} {name : String}
    {entry : Option Selection} (hentries : entries.Distinct)
    (hentry : entries.get? name = some entry) :
    List.Perm entries ((name, entry) :: entries.filter (·.1 ≠ name)) := by
  have hhere : entries.filter (·.1 = name) = [(name, entry)] := by
    rw [hentries.filter_eq, hentry]
    rfl
  have hsplit := List.filter_append_perm (fun other => decide (other.1 = name)) entries
  rw [hhere] at hsplit
  simpa using hsplit.symm

/-- Lists of distinct names with the same entries are reordered into each other, name by name. -/
theorem reordered_of_get? (kind : SelectionKind) (before : List (String × Option Selection))
    {entries others : Keyed (Option Selection)} (hentries : entries.Distinct)
    (hothers : others.Distinct)
    (hget : ∀ name, EntriesReordered (entries.get? name) (others.get? name)) :
    (mk kind (before ++ entries)).Reordered (mk kind (before ++ others)) := by
  induction others generalizing entries before with
  | nil =>
      have hempty : entries = [] := Keyed.eq_nil_of_get? fun name => (hget name).eq_none
      rw [hempty]
      exact Reordered.refl _
  | cons first rest ih =>
      obtain ⟨name, value⟩ := first
      obtain ⟨hname, hrest⟩ := Keyed.distinct_cons.mp hothers
      have hhere := hget name
      rw [Keyed.get?_cons, if_pos rfl] at hhere
      obtain ⟨entry, hentry, hinner⟩ := hhere.exists_eq_some
      have hfront : (mk kind (before ++ entries)).Reordered
          (mk kind (before ++ (name, entry) :: entries.filter (·.1 ≠ name))) :=
        .entries kind ((perm_cons_filter hentries hentry).append_left before)
      have hreplaced : (mk kind (before ++ (name, entry) :: entries.filter (·.1 ≠ name))).Reordered
          (mk kind (before ++ (name, value) :: entries.filter (·.1 ≠ name))) := by
        cases hinner with
        | none => exact Reordered.refl _
        | some hnested => exact .nested kind before _ name hnested
      have hlater : (mk kind ((before ++ [(name, value)]) ++ entries.filter (·.1 ≠ name))).Reordered
          (mk kind ((before ++ [(name, value)]) ++ rest)) := by
        apply ih _ (hentries.filter (·.1 ≠ name)) hrest
        intro key
        by_cases hkey : key = name
        · rw [hkey, Keyed.get?_filter_self, Keyed.get?_eq_none_iff.mpr hname]
          exact .none
        · have hother := hget key
          rw [Keyed.get?_cons, if_neg (Ne.symm hkey)] at hother
          rw [Keyed.get?_filter_ne hkey]
          exact hother
      rw [List.append_assoc, List.append_assoc] at hlater
      exact (hfront.trans hreplaced).trans hlater

theorem reordered_of_entries {left right : Selection} (hleft : left.WellFormed)
    (hright : right.WellFormed) (hkind : left.kind = right.kind)
    (hget : ∀ name, EntriesReordered (left.entries.get? name) (right.entries.get? name)) :
    left.Reordered right := by
  obtain ⟨kind, entries⟩ := left
  obtain ⟨otherKind, others⟩ := right
  obtain rfl : kind = otherKind := hkind
  exact reordered_of_get? kind [] hleft.distinct hright.distinct hget

/-! ## Merging in another order -/

theorem merge_comm {left right : Selection} (hleft : left.WellFormed)
    (hright : right.WellFormed) : (left.merge right).Reordered (right.merge left) := by
  induction hleft using WellFormed.levelwise generalizing right with
  | level left hleft ih =>
      apply reordered_of_entries (hleft.merge hright) (hright.merge hleft)
      · rw [kind_merge, kind_merge, SelectionKind.merge_comm]
      · intro name
        rw [get?_merge, get?_merge]
        match hone : left.entries.get? name, htwo : right.entries.get? name with
        | none, two =>
            rw [Option.merge_none_left, Option.merge_none_right]
            exact EntriesReordered.refl _
        | some one, none => exact EntriesReordered.refl _
        | some none, some two =>
            simp only [Option.merge, mergeEntry_none_left]
            cases two <;> exact .some .none
        | some (some one), some none => exact .some .none
        | some (some one), some (some two) =>
            exact .some (.some (ih name one hone (hright.of_get? htwo)))

/-- Reordering a part of a merge reorders the merge. -/
theorem Reordered.merge_right {left right selection : Selection} (hselection : selection.WellFormed)
    (hleft : left.WellFormed) (hreordered : left.Reordered right) :
    (selection.merge left).Reordered (selection.merge right) := by
  have hright := hreordered.wellFormed hleft
  induction hselection using WellFormed.levelwise generalizing left right with
  | level selection hselection ih =>
      apply reordered_of_entries (hselection.merge hleft) (hselection.merge hright)
      · rw [kind_merge, kind_merge, hreordered.kind_eq]
      · intro name
        rw [get?_merge, get?_merge]
        have hentry := hreordered.get? hleft name
        match hone : selection.entries.get? name, htwo : left.entries.get? name,
            hthree : right.entries.get? name, hentry with
        | none, two, three, hentry => simpa only [Option.merge_none_left] using hentry
        | some one, none, none, .none => exact EntriesReordered.refl _
        | some none, some two, some three, .some _ =>
            simp only [Option.merge, mergeEntry_none_left]
            exact EntriesReordered.refl _
        | some (some one), some none, some none, .some .none => exact EntriesReordered.refl _
        | some (some one), some (some two), some (some three), .some (.some hnested) =>
            have htwo := hleft.of_get? htwo
            exact .some (.some (ih name one hone htwo hnested (hnested.wellFormed htwo)))

theorem Reordered.merge_left {left right selection : Selection} (hleft : left.WellFormed)
    (hselection : selection.WellFormed) (hreordered : left.Reordered right) :
    (left.merge selection).Reordered (right.merge selection) := by
  have hright := hreordered.wellFormed hleft
  have hturned := hreordered.merge_right hselection hleft
  exact ((merge_comm hleft hselection).trans hturned).trans (merge_comm hselection hright)

end Selection

namespace WellFormedSelection

/-! ## Covering -/

/-- Merging with the other selection adds nothing. -/
def Covers (selection other : WellFormedSelection) : Prop :=
  (selection.merge other).val.Reordered selection.val

theorem merge_comm (left right : WellFormedSelection) :
    (left.merge right).val.Reordered (right.merge left).val :=
  Selection.merge_comm left.property right.property

theorem covers_merge_left (left right : WellFormedSelection) : (left.merge right).Covers left := by
  have hsame : left.merge (left.merge right) = left.merge right := by
    rw [← merge_assoc, merge_self]
  rw [Covers]
  nth_rewrite 2 [← hsame]
  exact merge_comm (left.merge right) left

section

variable {selection left right : WellFormedSelection}

theorem Covers.merge_right (hcovers : right.Covers selection) :
    (left.merge right).Covers selection := by
  rw [Covers, merge_assoc]
  exact Selection.Reordered.merge_right left.property (right.merge selection).property hcovers

theorem Covers.merge (hleft : selection.Covers left) (hright : selection.Covers right) :
    selection.Covers (left.merge right) := by
  rw [Covers, ← merge_assoc]
  exact (Selection.Reordered.merge_left (selection.merge left).property right.property hleft).trans
    hright

theorem Covers.antisymm (hforth : left.Covers right) (hback : right.Covers left) :
    left.val.Reordered right.val :=
  (hforth.symm.trans (merge_comm left right)).trans hback

end

/-! ## Merging a list -/

/-- The merge of a list, from its first member to its last. -/
def mergeAll (selections : List WellFormedSelection) : WellFormedSelection :=
  selections.foldl merge empty

/-- A merge that has come to `start` ends at the merge of `start` with all that follows. -/
theorem foldl_merge_eq (start : WellFormedSelection) (selections : List WellFormedSelection) :
    selections.foldl merge start = start.merge (mergeAll selections) := by
  induction selections generalizing start with
  | nil => exact start.merge_empty.symm
  | cons first rest ih =>
      have hall : mergeAll (first :: rest) = first.merge (mergeAll rest) := by
        rw [mergeAll, List.foldl_cons, empty_merge]
        exact ih first
      calc
        (first :: rest).foldl merge start
        _ = (start.merge first).merge (mergeAll rest) := ih (start.merge first)
        _ = start.merge (first.merge (mergeAll rest)) := merge_assoc start first _
        _ = start.merge (mergeAll (first :: rest)) := by rw [hall]

theorem mergeAll_cons (first : WellFormedSelection) (rest : List WellFormedSelection) :
    mergeAll (first :: rest) = first.merge (mergeAll rest) := by
  rw [mergeAll, List.foldl_cons, empty_merge]
  exact foldl_merge_eq first rest

theorem mergeAll_append (selections others : List WellFormedSelection) :
    mergeAll (selections ++ others) = (mergeAll selections).merge (mergeAll others) := by
  rw [mergeAll, List.foldl_append]
  exact foldl_merge_eq (mergeAll selections) others

section

variable {selections others : List WellFormedSelection}

/-- The merge of a list covers its members. -/
theorem covers_mergeAll_of_mem {selection : WellFormedSelection} (hmem : selection ∈ selections) :
    (mergeAll selections).Covers selection := by
  induction selections with
  | nil => cases hmem
  | cons first rest ih =>
      rw [mergeAll_cons]
      rcases List.mem_cons.mp hmem with rfl | hlater
      · exact covers_merge_left _ _
      · exact (ih hlater).merge_right

/-- What covers the members of a list covers their merge. -/
theorem covers_mergeAll {selection : WellFormedSelection}
    (hcovers : ∀ member ∈ selections, selection.Covers member) :
    selection.Covers (mergeAll selections) := by
  induction selections with
  | nil =>
      rw [mergeAll, List.foldl_nil, Covers, merge_empty]
      exact Selection.Reordered.refl selection
  | cons first rest ih =>
      obtain ⟨hhere, hlater⟩ := List.forall_mem_cons.mp hcovers
      rw [mergeAll_cons]
      exact hhere.merge (ih hlater)

/-- Only what a list contains matters for its merge. -/
theorem mergeAll_reordered (hsame : ∀ selection, selection ∈ selections ↔ selection ∈ others) :
    (mergeAll selections).val.Reordered (mergeAll others).val := by
  apply Covers.antisymm
  · apply covers_mergeAll
    intro member hmember
    exact covers_mergeAll_of_mem ((hsame member).mpr hmember)
  · apply covers_mergeAll
    intro member hmember
    exact covers_mergeAll_of_mem ((hsame member).mp hmember)

end

/-- A way to merge some selections, two at a time. -/
inductive Grouping where
  | single (selection : WellFormedSelection)
  | pair (left right : Grouping)

namespace Grouping

def members : Grouping → List WellFormedSelection
  | .single selection => [selection]
  | .pair left right => left.members ++ right.members

def merged : Grouping → WellFormedSelection
  | .single selection => selection
  | .pair left right => left.merged.merge right.merged

theorem merged_eq_mergeAll (grouping : Grouping) : grouping.merged = mergeAll grouping.members := by
  induction grouping with
  | single selection => exact selection.empty_merge.symm
  | pair left right ihLeft ihRight => rw [merged, members, mergeAll_append, ihLeft, ihRight]

end Grouping

/-- Merging is associative and idempotent with the empty selection as its unit, the order of the
names included, and commutative up to this order.  What a list merges to is therefore the same,
however its members are grouped, and it depends on nothing but which members there are, up to the
order of the names. -/
theorem merge_isSemilattice (first second third : WellFormedSelection) :
    first.merge (second.merge third) = (first.merge second).merge third ∧
      first.merge first = first ∧ empty.merge first = first ∧ first.merge empty = first ∧
      (first.merge second).val.Reordered (second.merge first).val ∧
      (∀ grouping : Grouping, grouping.merged = mergeAll grouping.members) ∧
      ∀ selections others : List WellFormedSelection,
        (∀ selection, selection ∈ selections ↔ selection ∈ others) →
          (mergeAll selections).val.Reordered (mergeAll others).val :=
  ⟨(merge_assoc first second third).symm, first.merge_self, first.empty_merge, first.merge_empty,
    merge_comm first second, Grouping.merged_eq_mergeAll, fun _ _ => mergeAll_reordered⟩

/-- Posts with their authors, posts with their titles, and posts whole: in whatever order and
however often these are merged, posts are fetched whole. -/
theorem merge_isSemilattice_posts :
    let authors : WellFormedSelection :=
      ⟨.mk .including [("posts", some (.mk .including [("author", none)]))], by decide⟩
    let titles : WellFormedSelection :=
      ⟨.mk .selecting [("id", none), ("posts", some (.mk .selecting [("title", none)]))],
        by decide⟩
    let whole : WellFormedSelection :=
      ⟨.mk .including [("posts", none), ("best", none)], by decide⟩
    let grouping : Grouping := .pair (.single authors) (.pair (.single titles) (.single whole))
    ((authors.merge titles).merge whole).val =
        .mk .selecting [("posts", none), ("id", none), ("best", none)] ∧
      grouping.merged = (authors.merge titles).merge whole ∧
      (mergeAll [whole, titles, authors, titles]).val.Reordered grouping.merged.val := by
  intro authors titles whole grouping
  obtain ⟨hassoc, -, -, -, -, hgrouped, hlisted⟩ := merge_isSemilattice authors titles whole
  refine ⟨rfl, hassoc, ?_⟩
  rw [hgrouped grouping]
  apply hlisted
  intro selection
  simp only [grouping, Grouping.members, List.cons_append, List.nil_append, List.mem_cons,
    List.not_mem_nil, or_false]
  tauto

end WellFormedSelection

end QueryShape
