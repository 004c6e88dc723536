import QueryShape.Json.Ordered
import QueryShape.Proofs.Keyed

/-!
# Entries of JSON data

An object with increasing names binds each of them once, and in whatever order distinct names are
bound, the same object comes out.
-/

namespace QueryShape.Json.Value

theorem Ordered.distinct {entries : Keyed Value} (hentries : (Value.object entries).Ordered) :
    entries.Distinct :=
  hentries.increasing.distinct

theorem Ordered.get? {entries : Keyed Value} (hentries : (Value.object entries).Ordered)
    {name : String} {value : Value} (hget : entries.get? name = some value) : value.Ordered :=
  (ordered_object_iff.mp hentries).2 name value (Keyed.mem_of_get?_eq_some hget)

/-- The order in which distinct names are bound does not show in an object. -/
theorem ofEntries_eq_of_perm {entries others : Keyed Value} (hperm : entries.Perm others)
    (hentries : entries.Distinct) : ofEntries entries = ofEntries others := by
  unfold ofEntries
  congr 1
  apply hperm.foldl_eq'
  intro first hfirst second hsecond bound
  by_cases hname : first.1 = second.1
  · rw [hentries.eq_of_mem hfirst hsecond hname]
  · exact Keyed.insertSorted_comm hname first.2 second.2 bound

/-- An object made of distinct names tells what each name is bound to. -/
theorem get?_eq_of_ofEntries_eq {entries others : Keyed Value} (hentries : entries.Distinct)
    (hothers : others.Distinct) (hsame : ofEntries entries = ofEntries others) (key : String) :
    entries.get? key = others.get? key := by
  have hbound := congrArg (Keyed.get? · key) (Value.object.inj hsame)
  simp only [Keyed.get?_foldl_insertSorted hentries, Keyed.get?_foldl_insertSorted hothers,
    Keyed.get?_nil, Option.or_none] at hbound
  exact hbound

end QueryShape.Json.Value
