import QueryShape.Proofs.Query.Conformance

/-!
# Reshaping twice

What reshaping gives conforms to the specification again and is not changed by a second pass.
Pruning twice prunes no more than pruning once, whatever the data.  That a second pass accepts the
pruned data needs more: the columns of an entity are never among its followed relations, so the
validator finds in the pruned object exactly the columns that it accepted before.
-/

namespace QueryShape

open Json (OrderedValue Value)

namespace Schema

variable {engine : PatternEngine} {schema : Schema}

theorem eq_null_of_prune {spec : Spec} {relations : RelationMap} {entity : String} {raw : Value}
    (hnull : schema.prune spec relations entity raw = .null) : raw = .null := by
  rcases schema.object_or_prune_eq_self raw with ⟨entries, rfl⟩ | hsame
  · rw [prune_object] at hnull
    cases hnull
  · rw [hsame] at hnull
    exact hnull

/-- What is kept of a value is kept again, if that is so of the records of the relation that the
value may be that of. -/
theorem kept_kept {spec : Spec} {relations : RelationMap} {entity name : String}
    (hnested : ∀ nested relation, spec.requested? name = some nested →
      relations.get? name = some relation → ∀ record,
        schema.prune nested relation.nested relation.target
            (schema.prune nested relation.nested relation.target record) =
          schema.prune nested relation.nested relation.target record) (raw : Value) :
    (schema.kept spec relations entity name raw).bind (schema.kept spec relations entity name) =
      schema.kept spec relations entity name raw := by
  rcases spec.followed_or_skipped relations name with
    ⟨nested, relation, hrequested, hrelation⟩ | hskip
  · simp only [kept_of_requested hrequested hrelation, Option.bind_some,
      Relation.mapRecords_mapRecords fun _ => eq_null_of_prune,
      hnested nested relation hrequested hrelation]
  · cases hkept : schema.kept spec relations entity name raw with
    | none => rfl
    | some value =>
        have hsame := hkept
        rw [kept_of_skipped hskip, Option.ite_none_right_eq_some] at hsame
        obtain rfl := Option.some.inj hsame.2
        exact hkept

theorem prune_prune (spec : Spec) (relations : RelationMap) (entity : String) (raw : Value) :
    schema.prune spec relations entity (schema.prune spec relations entity raw) =
      schema.prune spec relations entity raw := by
  induction spec using Spec.induction generalizing relations entity raw with
  | mk fields requests ih =>
      rcases schema.object_or_prune_eq_self raw with ⟨entries, rfl⟩ | hsame
      · rw [prune_object, prune_object, Keyed.restrict_restrict]
        congr 1
        apply Keyed.restrict_congr
        intro name raw _
        apply kept_kept
        intro nested relation hrequested _ record
        obtain ⟨request, hrequest, rfl⟩ := Spec.exists_mem_of_requested? hrequested
        exact ih name request hrequest relation.nested relation.target record
      · rw [hsame, hsame]

/-- What is kept of a value is in order, if the records are that are pruned in it. -/
theorem ordered_of_kept {spec : Spec} {relations : RelationMap} {entity name : String}
    {raw value : Value} (hraw : raw.Ordered)
    (hnested : ∀ nested relation, spec.requested? name = some nested →
      relations.get? name = some relation → ∀ record ∈ relation.records raw,
        (schema.prune nested relation.nested relation.target record).Ordered)
    (hkept : schema.kept spec relations entity name raw = some value) : value.Ordered := by
  rcases spec.followed_or_skipped relations name with
    ⟨nested, relation, hrequested, hrelation⟩ | hskip
  · rw [kept_of_requested hrequested hrelation] at hkept
    obtain rfl := Option.some.inj hkept
    exact Relation.ordered_mapRecords hraw (hnested nested relation hrequested hrelation)
  · rw [kept_of_skipped hskip, Option.ite_none_right_eq_some] at hkept
    rw [← Option.some.inj hkept.2]
    exact hraw

theorem ordered_prune (spec : Spec) (relations : RelationMap) (entity : String) {raw : Value}
    (hraw : raw.Ordered) : (schema.prune spec relations entity raw).Ordered := by
  induction spec using Spec.induction generalizing relations entity raw with
  | mk fields requests ih =>
      rcases schema.object_or_prune_eq_self raw with ⟨entries, rfl⟩ | hsame
      · rw [prune_object]
        refine .object (hraw.increasing.restrict _) ?_
        intro name value hmem
        obtain ⟨raw, hpresent, hkept⟩ := Keyed.mem_restrict.mp hmem
        have hvalue := (Value.ordered_object_iff.mp hraw).2 name raw hpresent
        refine ordered_of_kept hvalue ?_ hkept
        intro nested relation hrequested _ record hrecord
        obtain ⟨request, hrequest, rfl⟩ := Spec.exists_mem_of_requested? hrequested
        exact ih name request hrequest relation.nested relation.target
          (Relation.ordered_of_mem_records hvalue hrecord)
      · rw [hsame]
        exact hraw

section Pruned

variable {spec : Spec} {relations : RelationMap} {entity : String} {entries : Keyed Value}
  (hentries : entries.Distinct)
include hentries

/-- What is followed in a pruned object was followed in the object before. -/
theorem exists_follows_of_pruned {name : String} {nested : Spec} {relation : Relation}
    {value : Value}
    (hfollows : spec.Follows relations
      (entries.restrict (schema.kept spec relations entity)) name nested relation value) :
    ∃ raw, spec.Follows relations entries name nested relation raw ∧
      value = relation.mapRecords (schema.prune nested relation.nested relation.target) raw := by
  obtain ⟨hrequested, hrelation, hvalue⟩ := hfollows
  rw [Keyed.get?_restrict hentries, Option.bind_eq_some_iff] at hvalue
  obtain ⟨raw, hraw, hkept⟩ := hvalue
  rw [kept_of_requested hrequested hrelation] at hkept
  exact ⟨raw, ⟨hrequested, hrelation, hraw⟩, (Option.some.inj hkept).symm⟩

/-- A pruned object has the columns that the object had before. -/
theorem get?_column_of_pruned (hdescribes : schema.Describes entity relations) {name : String}
    (hname : name ∈ schema.columnNames entity) :
    (entries.restrict (schema.kept spec relations entity)).get? name = entries.get? name := by
  have hrelation := hdescribes.get?_eq_none_of_column hname
  rw [Keyed.get?_restrict hentries]
  cases entries.get? name with
  | none => rfl
  | some raw => simp [kept_of_skipped (Or.inr hrelation), hname]

end Pruned

/-- Pruned data conforms again. -/
theorem Conforms.prune {spec : Spec} {relations : RelationMap} {entity : String} {raw : Value}
    (hconforms : schema.Conforms engine spec relations entity raw)
    (hdescribes : schema.Describes entity relations) (hraw : raw.Ordered) :
    schema.Conforms engine spec relations entity (schema.prune spec relations entity raw) := by
  induction hconforms with
  | @record spec relations entity entries accepted admitted followed ih =>
      have hentries := hraw.distinct
      rw [prune_object]
      refine .record ?_ ?_ ?_
      · intro hnarrowed
        refine accepts_congr ?_ (accepted hnarrowed)
        intro name hname
        exact (get?_column_of_pruned hentries hdescribes hname).symm
      · intro name nested relation value hfollows
        obtain ⟨raw, hbefore, rfl⟩ := exists_follows_of_pruned hentries hfollows
        exact Relation.admits_mapRecords (fun _ => eq_null_of_prune)
          (admitted name nested relation raw hbefore)
      · intro name nested relation value hfollows record hrecord
        obtain ⟨raw, hbefore, rfl⟩ := exists_follows_of_pruned hentries hfollows
        rw [Relation.records_mapRecords fun _ => eq_null_of_prune] at hrecord
        obtain ⟨original, horiginal, rfl⟩ := List.mem_map.mp hrecord
        exact ih name nested relation raw hbefore original horiginal
          (hdescribes.nested hbefore.described)
          (Relation.ordered_of_mem_records (hraw.get? hbefore.present) horiginal)

end Schema

/-- Reshaping what reshaping gave changes nothing, neither for a record nor for a list of them. -/
theorem Query.parse_parse {engine : PatternEngine} {schema : Schema} {maxDepth : Nat}
    {catalog : Catalog} (hcatalog : Catalog.ofSchema engine schema maxDepth = .ok catalog)
    {entity : String} {spec : WellFormedSpec} {query : Query}
    (hquery : catalog.query entity spec = .ok query) (raw : OrderedValue) :
    (∀ value, (query.parse raw).outcome = .ok value → (query.parse value).outcome = .ok value) ∧
      ∀ values, (query.parseList raw).outcome = .ok values →
        (query.parseList (.array values)).outcome = .ok values := by
  obtain ⟨hentity, hasked, hdescribes, hvalidators⟩ := Catalog.query_ofSchema hcatalog hquery
  obtain ⟨raw, hraw⟩ := raw
  have hreshapes := Schema.reshapes_reshapeAt hvalidators spec.property hdescribes
  rw [← hentity, ← hasked] at hreshapes
  rw [← hentity] at hdescribes
  constructor
  · intro value hvalue
    obtain ⟨hconforms, rfl⟩ := (hreshapes raw .root value hraw).mp hvalue
    refine (hreshapes _ .root _ (Schema.ordered_prune _ _ _ hraw)).mpr ⟨?_, ?_⟩
    · exact hconforms.prune hdescribes hraw
    · exact (Schema.prune_prune _ _ _ raw).symm
  · intro values hvalues
    cases raw with
    | array items =>
        have hitems := Value.ordered_array_iff.mp hraw
        obtain ⟨hconform, rfl⟩ := (hreshapes.each hitems .root 0).mp hvalues
        refine (hreshapes.each ?_ .root 0).mpr ⟨?_, ?_⟩
        · simp only [List.mem_map]
          rintro _ ⟨item, hitem, rfl⟩
          exact Schema.ordered_prune _ _ _ (hitems item hitem)
        · simp only [List.mem_map]
          rintro _ ⟨item, hitem, rfl⟩
          exact (hconform item hitem).prune hdescribes (hitems item hitem)
        · rw [List.map_map]
          apply List.map_congr_left
          intro item _
          exact (Schema.prune_prune _ _ _ item).symm
    | _ => cases hvalues

theorem parse_parse_fetchedUser :
    let query := Query.ofUser WellFormedSpec.userWithPosts
    (query.parse .fetchedUser).outcome = .ok .reshapedUser ∧
      (query.parse .reshapedUser).outcome = .ok .reshapedUser ∧
      (query.parseList (.array [.fetchedUser])).outcome = .ok [.reshapedUser] ∧
      (query.parseList (.array [.reshapedUser])).outcome = .ok [.reshapedUser] := by
  have hrecord : (Value.fetchedUser).Ordered := by decide
  have hlist : (Value.array [.fetchedUser]).Ordered := by decide
  have hparse := @Query.parse_parse _ _ _ _ Catalog.ofSchema_blog _ .userWithPosts _
    (Catalog.query_blog _)
  exact ⟨rfl, (hparse ⟨_, hrecord⟩).1 _ rfl, rfl, (hparse ⟨_, hlist⟩).2 _ rfl⟩

end QueryShape
