import Mathlib.Data.List.Forall2
import QueryShape.Attempt

/-!
# Traversals that may fail

Each step of a traversal gave the result that stands in the place of its item.
-/

namespace QueryShape

variable {ε α β : Type}

theorem forall₂_of_mapM_eq_ok {convert : α → Except ε β} {items : List α} {results : List β}
    (hresults : items.mapM convert = .ok results) :
    List.Forall₂ (fun item result => convert item = .ok result) items results := by
  induction items generalizing results with
  | nil =>
      obtain rfl : [] = results := Except.ok.inj hresults
      exact .nil
  | cons item items ih =>
      rw [List.mapM_cons] at hresults
      obtain ⟨result, hresult, hresults⟩ := except_bind_eq_ok.mp hresults
      obtain ⟨rest, hrest, hresults⟩ := except_bind_eq_ok.mp hresults
      cases hresults
      exact .cons hresult (ih hrest)

theorem exists_of_forall₂_of_mem {Related : α → β → Prop} {items : List α} {results : List β}
    (hall : List.Forall₂ Related items results) {item : α} (hmem : item ∈ items) :
    ∃ result ∈ results, Related item result := by
  induction hall with
  | nil => simp at hmem
  | cons hfirst _ ih =>
      cases List.mem_cons.mp hmem with
      | inl heq => exact ⟨_, List.mem_cons_self, heq ▸ hfirst⟩
      | inr hmem =>
          obtain ⟨result, hresult, hrelated⟩ := ih hmem
          exact ⟨result, List.mem_cons_of_mem _ hresult, hrelated⟩

end QueryShape
