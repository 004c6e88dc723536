import Mathlib.Order.Bounds.Basic
import QueryShape.Proofs.Schema.Unfolding

/-!
# Walks through a relation graph

The depth of a relation graph is the length of its longest walk: a sequence of names that leads from
an entity through nested relations.  A map that is nested and empty adds nothing to it.  The walks
through the graph of a schema are the chains of its relation fields up to the number of levels, so
the depth is this number wherever models refer to each other in a circle.
-/

namespace QueryShape

namespace Relation

@[simp]
theorem depth_eq (relation : Relation) : relation.depth = 1 + mapDepth relation.nested := by
  obtain ⟨target, cardinality, optional, nested⟩ := relation
  cases nested with
  | none =>
      rw [depth, nested, nested?, Option.getD_none, mapDepth]
  | some below =>
      rw [depth, nested, nested?, Option.getD_some]

theorem mapDepth_le_iff {relations : RelationMap} {bound : Nat} :
    mapDepth relations ≤ bound ↔
      ∀ name relation, (name, relation) ∈ relations → relation.depth ≤ bound := by
  induction relations with
  | nil => simp [mapDepth]
  | cons first rest ih =>
      obtain ⟨name, relation⟩ := first
      rw [mapDepth, max_le_iff, ih]
      constructor
      · rintro ⟨hfirst, hrest⟩ other found hmem
        rcases List.mem_cons.mp hmem with heq | hmem
        · cases heq
          exact hfirst
        · exact hrest other found hmem
      · intro hall
        exact ⟨hall name relation List.mem_cons_self,
          fun other found hmem => hall other found (List.mem_cons_of_mem _ hmem)⟩

theorem depth_le_mapDepth {relations : RelationMap} {name : String} {relation : Relation}
    (hrelation : relations.get? name = some relation) : relation.depth ≤ mapDepth relations :=
  mapDepth_le_iff.mp le_rfl name relation (Keyed.mem_of_get?_eq_some hrelation)

/-- Some relation is as deep as all of them. -/
theorem exists_depth_eq_mapDepth {relations : RelationMap} (hsome : relations ≠ []) :
    ∃ name relation, (name, relation) ∈ relations ∧ relation.depth = mapDepth relations := by
  induction relations with
  | nil => exact absurd rfl hsome
  | cons first rest ih =>
      obtain ⟨name, relation⟩ := first
      rw [mapDepth]
      rcases Nat.le_total (mapDepth rest) relation.depth with hfirst | hlater
      · exact ⟨name, relation, List.mem_cons_self, (Nat.max_eq_left hfirst).symm⟩
      · have hrest : rest ≠ [] := by
          rintro rfl
          rw [mapDepth, depth_eq] at hlater
          omega
        obtain ⟨other, deepest, hmem, hdepth⟩ := ih hrest
        exact ⟨other, deepest, List.mem_cons_of_mem _ hmem,
          hdepth.trans (Nat.max_eq_right hlater).symm⟩

theorem mapDepth_pos {relations : RelationMap} (hsome : relations ≠ []) :
    0 < mapDepth relations := by
  obtain ⟨_, relation, -, hdepth⟩ := exists_depth_eq_mapDepth hsome
  rw [← hdepth, depth_eq]
  omega

end Relation

namespace RelationMap

theorem along?_cons (relations : RelationMap) (name : String) {rest : List String}
    (hrest : rest ≠ []) :
    along? relations (name :: rest) =
      (relations.get? name).bind fun relation => along? relation.nested rest := by
  cases rest with
  | nil => exact absurd rfl hrest
  | cons next rest => rfl

theorem ne_nil_of_along? {relations : RelationMap} {names : List String} {relation : Relation}
    (hfound : along? relations names = some relation) : names ≠ [] := by
  rintro rfl
  cases hfound

/-- Each name of a walk leads one level deeper. -/
theorem length_le_mapDepth {relations : RelationMap} {names : List String} {relation : Relation}
    (hfound : along? relations names = some relation) :
    names.length ≤ Relation.mapDepth relations := by
  induction names generalizing relations with
  | nil => exact Nat.zero_le _
  | cons name rest ih =>
      by_cases hrest : rest = []
      · subst hrest
        have hdepth := Relation.depth_le_mapDepth hfound
        rw [Relation.depth_eq] at hdepth
        exact (Nat.le_add_right 1 _).trans hdepth
      · rw [along?_cons relations name hrest] at hfound
        obtain ⟨first, hfirst, honward⟩ := Option.bind_eq_some_iff.mp hfound
        calc
          rest.length + 1 ≤ Relation.mapDepth first.nested + 1 := Nat.succ_le_succ (ih honward)
          _ = first.depth := by rw [Relation.depth_eq, Nat.add_comm]
          _ ≤ Relation.mapDepth relations := Relation.depth_le_mapDepth hfirst

/-- Following the deepest relation at every level is a walk of the greatest length. -/
theorem WellFormed.exists_along? {relations : RelationMap} (hrelations : relations.WellFormed)
    (hsome : relations ≠ []) :
    ∃ names relation, names.length = Relation.mapDepth relations ∧
      along? relations names = some relation := by
  induction hrelations with
  | @mk relations distinct _ ih =>
      obtain ⟨name, deepest, hmem, hdepth⟩ := Relation.exists_depth_eq_mapDepth hsome
      have hfirst := Keyed.get?_eq_some_of_mem distinct hmem
      rw [Relation.depth_eq] at hdepth
      by_cases hnested : deepest.nested = []
      · rw [hnested, Relation.mapDepth] at hdepth
        exact ⟨[name], deepest, hdepth, hfirst⟩
      · obtain ⟨names, relation, hlength, hfound⟩ := ih name deepest hmem hnested
        refine ⟨name :: names, relation, ?_, ?_⟩
        · rw [List.length_cons, hlength, Nat.add_comm, hdepth]
        · rw [along?_cons relations name (ne_nil_of_along? hfound), hfirst]
          exact hfound

end RelationMap

namespace RelationGraph

/-- Some sequence of so many names leads from an entity to a relation. -/
def HasWalk (graph : RelationGraph) (length : Nat) : Prop :=
  ∃ entity names relation, names.length = length ∧ graph.along? entity names = some relation

theorem foldl_max_le_iff {values : List Nat} {start bound : Nat} :
    values.foldl max start ≤ bound ↔ start ≤ bound ∧ ∀ value ∈ values, value ≤ bound := by
  induction values generalizing start with
  | nil => simp
  | cons value values ih => rw [List.foldl_cons, ih, max_le_iff, List.forall_mem_cons, and_assoc]

theorem depth_le_iff {graph : RelationGraph} {bound : Nat} :
    graph.depth ≤ bound ↔
      ∀ entity relations, (entity, relations) ∈ graph.entries →
        Relation.mapDepth relations.val ≤ bound := by
  rw [depth, foldl_max_le_iff, List.forall_mem_map]
  simp

/-- If the graph has any depth, some entity has relations of this depth. -/
theorem exists_mapDepth_eq_depth {graph : RelationGraph} (hdepth : graph.depth ≠ 0) :
    ∃ entity relations, (entity, relations) ∈ graph.entries ∧
      Relation.mapDepth relations.val = graph.depth := by
  by_contra hnone
  have hless : graph.depth ≤ graph.depth - 1 := by
    apply depth_le_iff.mpr
    intro entity relations hmem
    have hle := depth_le_iff.mp le_rfl entity relations hmem
    have hne : Relation.mapDepth relations.val ≠ graph.depth := fun heq =>
      hnone ⟨entity, relations, hmem, heq⟩
    omega
  omega

/-- The depth of a graph is the length of its longest walk, and zero if there is none. -/
theorem isGreatest_depth (graph : RelationGraph) :
    IsGreatest {length | length = 0 ∨ graph.HasWalk length} graph.depth := by
  constructor
  · by_cases hdepth : graph.depth = 0
    · exact Or.inl hdepth
    · obtain ⟨entity, relations, hmem, hdeepest⟩ := exists_mapDepth_eq_depth hdepth
      have hsome : relations.val ≠ [] := by
        intro hempty
        rw [← hdeepest, hempty, Relation.mapDepth] at hdepth
        exact hdepth rfl
      obtain ⟨names, relation, hlength, hfound⟩ := relations.property.exists_along? hsome
      refine Or.inr ⟨entity, names, relation, hlength.trans hdeepest, ?_⟩
      rw [along?, Dictionary.get?, Keyed.get?_eq_some_of_mem graph.distinct hmem]
      exact hfound
  · rintro length (rfl | ⟨entity, names, relation, rfl, hfound⟩)
    · exact Nat.zero_le _
    · obtain ⟨relations, hrelations, hfound⟩ := Option.bind_eq_some_iff.mp hfound
      exact (RelationMap.length_le_mapDepth hfound).trans
        (depth_le_iff.mp le_rfl entity relations (Keyed.mem_of_get?_eq_some hrelations))

end RelationGraph

/-! ## The graph of a schema -/

namespace Schema

/-- Some sequence of so many names leads from a model through relation fields to a model. -/
def HasChain (schema : Schema) (length : Nat) : Prop :=
  ∃ entity names field target, names.length = length ∧
    schema.LeadsAlong entity names field target

/-- The walks through the graph of a schema are its chains, up to the number of levels. -/
theorem hasWalk_relationGraph_iff {schema : Schema} {maxDepth length : Nat} :
    (schema.relationGraph maxDepth).HasWalk length ↔
      length ≤ max 1 maxDepth ∧ schema.HasChain length := by
  simp only [RelationGraph.HasWalk, along?_relationGraph_eq_some_iff]
  constructor
  · rintro ⟨entity, names, relation, rfl, hlength, field, target, hleads, -⟩
    exact ⟨hlength, entity, names, field, target, rfl, hleads⟩
  · rintro ⟨hlength, entity, names, field, target, rfl, hleads⟩
    exact ⟨entity, names, _, rfl, hlength, field, target, hleads, rfl⟩

variable {schema : Schema} {entity middle target : String} {first field : Field}

/-- A chain goes on where another one ends. -/
theorem LeadsAlong.append {names rest : List String}
    (hnames : schema.LeadsAlong entity names first middle)
    (hrest : schema.LeadsAlong middle rest field target) :
    schema.LeadsAlong entity (names ++ rest) field target := by
  induction hnames with
  | last leads => exact .step leads hrest
  | step leads _ ih => exact .step leads (ih hrest)

/-- A chain that is broken off is still a chain. -/
theorem LeadsAlong.take {names : List String}
    (hnames : schema.LeadsAlong entity names field target) (length : Nat) :
    ∃ last reached, schema.LeadsAlong entity (names.take (length + 1)) last reached := by
  induction hnames generalizing length with
  | last leads => exact ⟨_, _, by simpa using .last leads⟩
  | @step entity name _ _ first _ _ leads onward ih =>
      cases length with
      | zero => exact ⟨first, _, .last leads⟩
      | succ length =>
          obtain ⟨last, reached, hrest⟩ := ih length
          exact ⟨last, reached, .step leads hrest⟩

theorem LeadsAlong.length_pos {names : List String}
    (hnames : schema.LeadsAlong entity names field target) : 0 < names.length := by
  cases hnames <;> exact Nat.succ_pos _

/-- Going round a circle takes as many steps as one likes. -/
theorem LeadsAlong.exists_round {names : List String}
    (hround : schema.LeadsAlong entity names field entity) (length : Nat) :
    ∃ longer, length ≤ longer.length ∧ schema.LeadsAlong entity longer field entity := by
  induction length with
  | zero => exact ⟨names, Nat.zero_le _, hround⟩
  | succ length ih =>
      obtain ⟨longer, hlength, hleads⟩ := ih
      refine ⟨names ++ longer, ?_, hround.append hleads⟩
      have hpos := hround.length_pos
      rw [List.length_append]
      omega

theorem hasChain_of_round {names : List String}
    (hround : schema.LeadsAlong entity names field entity) {length : Nat} (hlength : 0 < length) :
    schema.HasChain length := by
  obtain ⟨below, rfl⟩ := Nat.exists_eq_succ_of_ne_zero hlength.ne'
  obtain ⟨longer, hlonger, hleads⟩ := hround.exists_round (below + 1)
  obtain ⟨last, reached, hchain⟩ := hleads.take below
  exact ⟨entity, _, last, reached, List.length_take_of_le hlonger, hchain⟩

/-- The depth of the graph of a schema is the length of its longest chain up to the number of
levels. -/
theorem isGreatest_depth_relationGraph (schema : Schema) (maxDepth : Nat) :
    IsGreatest {length | length = 0 ∨ length ≤ max 1 maxDepth ∧ schema.HasChain length}
      (schema.relationGraph maxDepth).depth := by
  simpa only [hasWalk_relationGraph_iff] using (schema.relationGraph maxDepth).isGreatest_depth

theorem depth_relationGraph_of_round {names : List String}
    (hround : schema.LeadsAlong entity names field entity) (maxDepth : Nat) :
    (schema.relationGraph maxDepth).depth = max 1 maxDepth := by
  obtain ⟨hattained, hgreatest⟩ := isGreatest_depth_relationGraph schema maxDepth
  have hlevels : 0 < max 1 maxDepth := Nat.lt_of_lt_of_le Nat.one_pos (Nat.le_max_left _ _)
  have hlongest := hgreatest (Or.inr ⟨le_rfl, hasChain_of_round hround hlevels⟩)
  rcases hattained with hnone | ⟨hlength, -⟩
  · omega
  · exact Nat.le_antisymm hlength hlongest

end Schema

/-- The depth of a relation graph is the length of its longest walk.  For the graph of a schema this
is the longest chain of relation fields that does not go beyond the number of levels, and the number
of levels itself if some models refer to each other in a circle. -/
theorem RelationGraph.depth_isGreatest_walk (graph : RelationGraph) (schema : Schema)
    (maxDepth : Nat) :
    IsGreatest {length | length = 0 ∨ graph.HasWalk length} graph.depth ∧
      IsGreatest {length | length = 0 ∨ length ≤ max 1 maxDepth ∧ schema.HasChain length}
        (schema.relationGraph maxDepth).depth ∧
      ((∃ entity names field, schema.LeadsAlong entity names field entity) →
        (schema.relationGraph maxDepth).depth = max 1 maxDepth) := by
  refine ⟨graph.isGreatest_depth, Schema.isGreatest_depth_relationGraph schema maxDepth, ?_⟩
  rintro ⟨entity, names, field, hround⟩
  exact Schema.depth_relationGraph_of_round hround maxDepth

/-- Users lead to their posts, which have a map without relations nested in them. -/
def RelationGraph.userPosts : RelationGraph where
  entries := [
    ("user", ⟨[("posts", .mk "post" .many true (some []))],
      RelationMap.wellFormed_nil.cons List.not_mem_nil RelationMap.wellFormed_nil⟩),
    ("post", ⟨[], RelationMap.wellFormed_nil⟩)]

/-- A nested map without relations adds no level.  Users and posts refer to each other, so their
graph is as deep as it may be. -/
theorem RelationGraph.depth_isGreatest_walk_blog :
    IsGreatest {length | length = 0 ∨ userPosts.HasWalk length} 1 ∧
      (Schema.blog.relationGraph 0).depth = 1 ∧ (Schema.blog.relationGraph 7).depth = 7 := by
  have hposts : Schema.blog.FieldLeads "user" "posts"
      { Field.relationTo "post" with list := true } "post" := ⟨⟨_, rfl, by decide⟩, rfl, rfl, rfl⟩
  have hauthor : Schema.blog.FieldLeads "post" "author"
      { Field.relationTo "user" with optional := true } "user" :=
    ⟨⟨_, rfl, by decide⟩, rfl, rfl, rfl⟩
  obtain ⟨hwalks, -, hzero⟩ := depth_isGreatest_walk userPosts .blog 0
  obtain ⟨-, -, hseven⟩ := depth_isGreatest_walk userPosts .blog 7
  have hround := Schema.LeadsAlong.step hposts (.last hauthor)
  exact ⟨hwalks, hzero ⟨_, _, _, hround⟩, hseven ⟨_, _, _, hround⟩⟩

end QueryShape
