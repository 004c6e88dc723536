import QueryShape.Proofs.Query.Compile
import QueryShape.Proofs.Query.Conformance

/-!
# Data of the shape that was asked for

A specification is compiled into the selection with which data is fetched, and the data is reshaped
along the specification itself.  The two agree: data that has the shape of the selection comes
through reshaping unchanged.  Where a field has the name of a relation, its records are fetched
whole although the specification names fields for them; such records have nothing but columns, and
these are kept at every level.
-/

namespace QueryShape

open Json (OrderedValue Value)

/-- In an object, a relation is fetched if the selection has the name, the entity has the relation,
and the object has the name. -/
structure Selection.Fetches (selection : Selection) (relations : RelationMap)
    (entries : Keyed Value) (name : String) (nested : Selection) (relation : Relation)
    (raw : Value) : Prop where
  requested : selection.requested? name = some nested
  described : relations.get? name = some relation
  present : entries.get? name = some raw

namespace Schema

/-- The data is an object with names of the selection only, or else also with columns that are
accepted, and every relation in it has the right shape and records that are shaped in turn. -/
inductive Shaped (engine : PatternEngine) (schema : Schema) :
    Selection → RelationMap → String → Value → Prop
  | record {selection : Selection} {relations : RelationMap} {entity : String}
      {entries : Keyed Value}
      (listed : ∀ name ∈ entries.keys, name ∈ selection.entries.keys ∨
        selection.kind = .including ∧ name ∈ schema.columnNames entity)
      (accepted : selection.kind = .including → schema.Accepts engine entity (.object entries))
      (admitted : ∀ name nested relation raw,
        selection.Fetches relations entries name nested relation raw → relation.Admits raw)
      (fetched : ∀ name nested relation raw,
        selection.Fetches relations entries name nested relation raw →
          ∀ record ∈ relation.records raw,
            schema.Shaped engine nested relation.nested relation.target record) :
      schema.Shaped engine selection relations entity (.object entries)

variable {engine : PatternEngine} {schema : Schema} {relations : RelationMap} {entity : String}
  {raw : Value}

/-- An accepted object with nothing but columns is shaped like a record that is fetched whole. -/
theorem Shaped.of_columns {entries : Keyed Value}
    (hcolumns : ∀ name ∈ entries.keys, name ∈ schema.columnNames entity)
    (haccepted : schema.Accepts engine entity (.object entries)) :
    schema.Shaped engine .empty relations entity (.object entries) := by
  have hnothing : ∀ name nested relation raw,
      ¬ Selection.empty.Fetches relations entries name nested relation raw := by
    rintro name nested relation raw ⟨hrequested, -, -⟩
    simp [Selection.requested?, Selection.empty, Selection.entries] at hrequested
  refine .record ?_ (fun _ => haccepted) ?_ ?_
  · intro name hname
    exact Or.inr ⟨rfl, hcolumns name hname⟩
  · intro name nested relation raw hfetches
    exact absurd hfetches (hnothing name nested relation raw)
  · intro name nested relation raw hfetches
    exact absurd hfetches (hnothing name nested relation raw)

/-- A record that was fetched whole has nothing but columns, so nothing is followed in it and
nothing is left out. -/
theorem Shaped.of_empty (hshaped : schema.Shaped engine .empty relations entity raw)
    (hdescribes : schema.Describes entity relations) (hraw : raw.Ordered) (spec : Spec) :
    schema.Conforms engine spec relations entity raw ∧
      schema.prune spec relations entity raw = raw := by
  cases hshaped with
  | @record _ _ _ entries listed accepted =>
      have hcolumn : ∀ name ∈ entries.keys, name ∈ schema.columnNames entity := by
        intro name hname
        rcases listed name hname with hlisted | ⟨-, hcolumn⟩
        · cases hlisted
        · exact hcolumn
      have hnothing : ∀ name nested relation raw,
          ¬ spec.Follows relations entries name nested relation raw := by
        rintro name nested relation raw ⟨-, hrelation, hpresent⟩
        have hname := Keyed.mem_keys_of_mem (Keyed.mem_of_get?_eq_some hpresent)
        rw [hdescribes.get?_eq_none_of_column (hcolumn name hname)] at hrelation
        cases hrelation
      constructor
      · refine .record (fun _ => accepted rfl) ?_ ?_
        · intro name nested relation raw hfollows
          exact absurd hfollows (hnothing name nested relation raw)
        · intro name nested relation raw hfollows
          exact absurd hfollows (hnothing name nested relation raw)
      · apply prune_object_eq_self hraw.distinct
        · intro name nested relation raw hfollows
          exact absurd hfollows (hnothing name nested relation raw)
        · intro name hname _
          exact Or.inr (hcolumn name hname)

/-- A name that the selection of a level lists, or that is a column where all of them are fetched,
belongs to the level unless it is followed. -/
theorem narrowed_or_column_of_listed {spec : Spec} {name : String}
    (hskip : spec.requested? name = none ∨ relations.get? name = none)
    (hlisted : name ∈ (spec.compile relations).entries.keys ∨
      (spec.compile relations).kind = .including ∧ name ∈ schema.columnNames entity) :
    spec.isNarrowed = true ∨ name ∈ schema.columnNames entity := by
  rcases hlisted with hlisted | ⟨-, hcolumn⟩
  · rcases Spec.mem_keys_compile.mp hlisted with hfield | ⟨hrequested, hrelation⟩
    · exact Or.inl (Spec.isNarrowed_of_mem hfield)
    · rcases hskip with hskip | hskip
      · simp [hskip] at hrequested
      · simp [hskip] at hrelation
  · exact Or.inr hcolumn

/-- Data of the shape that the selection of a specification asks for conforms to the specification,
and there is nothing to prune. -/
theorem Shaped.conforms {spec : Spec}
    (hshaped : schema.Shaped engine (spec.compile relations) relations entity raw)
    (hdescribes : schema.Describes entity relations) (hraw : raw.Ordered) :
    schema.Conforms engine spec relations entity raw ∧
      schema.prune spec relations entity raw = raw := by
  induction spec using Spec.induction generalizing relations entity raw with
  | mk fields requests ih =>
      generalize hselection : (Spec.mk fields requests).compile relations = selection at hshaped
      cases hshaped with
      | @record _ _ _ entries listed accepted admitted fetched =>
          subst hselection
          have hrecords : ∀ name nested relation raw,
              (Spec.mk fields requests).Follows relations entries name nested relation raw →
              relation.Admits raw ∧ ∀ record ∈ relation.records raw,
                schema.Conforms engine nested relation.nested relation.target record ∧
                  schema.prune nested relation.nested relation.target record = record := by
            intro name nested relation raw hfollows
            have hfetches : ((Spec.mk fields requests).compile relations).Fetches relations
                entries name _ relation raw :=
              ⟨Spec.requested?_compile hfollows.requested hfollows.described,
                hfollows.described, hfollows.present⟩
            have hnested := hdescribes.nested hfollows.described
            refine ⟨admitted _ _ _ _ hfetches, ?_⟩
            intro record hrecord
            have hrecordShaped := fetched _ _ _ _ hfetches record hrecord
            have hordered : record.Ordered :=
              Relation.ordered_of_mem_records (hraw.get? hfollows.present) hrecord
            -- The relation is fetched whole if it is also a field, and along its own level if not.
            split at hrecordShaped
            · exact hrecordShaped.of_empty hnested hordered nested
            · obtain ⟨request, hrequest, rfl⟩ := Spec.exists_mem_of_requested? hfollows.requested
              exact ih name request hrequest hrecordShaped hnested hordered
          constructor
          · refine .record ?_ ?_ ?_
            · intro hnarrowed
              apply accepted
              simp [Spec.kind_compile, hnarrowed]
            · intro name nested relation raw hfollows
              exact (hrecords name nested relation raw hfollows).1
            · intro name nested relation raw hfollows record hrecord
              exact ((hrecords name nested relation raw hfollows).2 record hrecord).1
          · apply prune_object_eq_self hraw.distinct
            · intro name nested relation raw hfollows record hrecord
              exact ((hrecords name nested relation raw hfollows).2 record hrecord).2
            · intro name hname hskip
              exact narrowed_or_column_of_listed hskip (listed name hname)

end Schema

/-- Data of the shape that the selection of a query asks for is accepted by the query and not
changed. -/
theorem Query.parse_of_shaped {engine : PatternEngine} {schema : Schema} {maxDepth : Nat}
    {catalog : Catalog} (hcatalog : Catalog.ofSchema engine schema maxDepth = .ok catalog)
    {entity : String} {spec : WellFormedSpec} {query : Query}
    (hquery : catalog.query entity spec = .ok query) {raw : OrderedValue}
    (hshaped : schema.Shaped engine query.selection query.relations entity raw) :
    (query.parse raw).outcome = .ok raw.val := by
  obtain ⟨hentity, hasked, hdescribes, hvalidators⟩ := Catalog.query_ofSchema hcatalog hquery
  rw [Query.selection, hasked] at hshaped
  obtain ⟨hconforms, hsame⟩ := hshaped.conforms hdescribes raw.property
  rw [Query.parse, hentity, hasked]
  have hreshapes := Schema.reshapes_reshapeAt hvalidators spec.property hdescribes
  exact (hreshapes raw .root raw raw.property).mpr ⟨hconforms, hsame.symm⟩

/-- A user whose posts are asked for as a field and as a relation. -/
def WellFormedSpec.userWithPostsTwice : WellFormedSpec :=
  (empty.withFields ["id", "posts"]).withRelation "posts" (some (empty.withFields ["title"]))

/-- Posts that are fetched whole come through although only their titles are asked for. -/
theorem parse_userWithPostsTwice :
    let raw : Value :=
      .object [("id", .string "u1"), ("posts", .array [.object [("title", .string "first")]])]
    ((Query.ofUser WellFormedSpec.userWithPostsTwice).parse raw).outcome = .ok raw := by
  intro raw
  have hordered : raw.Ordered := by decide
  refine @Query.parse_of_shaped _ _ _ _ Catalog.ofSchema_blog _ .userWithPostsTwice _
    (Catalog.query_blog _) ⟨raw, hordered⟩ ?_
  refine .record (by decide) nofun ?_ ?_
  · rintro name nested relation value ⟨-, hrelation, hvalue⟩
    obtain ⟨rfl, rfl⟩ :=
      Prod.mk.inj (List.mem_singleton.mp (Keyed.mem_of_get?_eq_some hrelation))
    cases hvalue
    exact ⟨_, rfl⟩
  · rintro name nested relation value ⟨hrequested, hrelation, hvalue⟩ record hrecord
    obtain ⟨rfl, rfl⟩ :=
      Prod.mk.inj (List.mem_singleton.mp (Keyed.mem_of_get?_eq_some hrelation))
    cases hvalue
    cases hrequested
    obtain rfl := List.mem_singleton.mp hrecord
    exact Schema.Shaped.of_columns (by decide) ⟨_, _, rfl, rfl⟩

end QueryShape
