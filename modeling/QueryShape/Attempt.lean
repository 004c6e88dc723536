/-!
# Computations that may fail

What a computation with failures did when it gave a result: both parts of a sequence succeeded, and
each step of a traversal did.  A result is certified when it comes with a proof of what is known of
every result.
-/

namespace QueryShape

variable {ε α β : Type}

theorem except_bind_eq_ok {first : Except ε α} {next : α → Except ε β} {result : β} :
    (first >>= next) = .ok result ↔ ∃ value, first = .ok value ∧ next value = .ok result := by
  cases first with
  | error error => simp [bind, Except.bind]
  | ok value => simp [bind, Except.bind]

theorem except_bind_eq_error {first : Except ε α} {next : α → Except ε β} {error : ε} :
    (first >>= next) = .error error ↔
      first = .error error ∨ ∃ value, first = .ok value ∧ next value = .error error := by
  cases first with
  | error error => simp [bind, Except.bind]
  | ok value => simp [bind, Except.bind]

theorem except_bind_pure_eq_error {first : Except ε α} {convert : α → β} {error : ε} :
    (first >>= fun value => pure (convert value)) = .error error ↔ first = .error error := by
  rw [except_bind_eq_error]
  simp [pure, Except.pure]

theorem except_map_eq_ok {convert : α → β} {attempt : Except ε α} {result : β} :
    (convert <$> attempt) = .ok result ↔
      ∃ value, attempt = .ok value ∧ convert value = result := by
  cases attempt with
  | error error => simp [Functor.map, Except.map]
  | ok value => simp [Functor.map, Except.map]

theorem except_map_eq_error {convert : α → β} {attempt : Except ε α} {error : ε} :
    (convert <$> attempt) = .error error ↔ attempt = .error error := by
  cases attempt with
  | error error => simp [Functor.map, Except.map]
  | ok value => simp [Functor.map, Except.map]

/-- Each result of a traversal is the result of a step. -/
theorem exists_of_mapM_eq_ok {convert : α → Except ε β} {items : List α} {results : List β}
    (hresults : items.mapM convert = .ok results) {result : β} (hmem : result ∈ results) :
    ∃ item ∈ items, convert item = .ok result := by
  induction items generalizing results with
  | nil =>
      obtain rfl : [] = results := Except.ok.inj hresults
      cases hmem
  | cons item items ih =>
      rw [List.mapM_cons] at hresults
      obtain ⟨first, hfirst, hresults⟩ := except_bind_eq_ok.mp hresults
      obtain ⟨rest, hrest, hresults⟩ := except_bind_eq_ok.mp hresults
      cases hresults
      rcases List.mem_cons.mp hmem with rfl | hmem
      · exact ⟨item, List.mem_cons_self, hfirst⟩
      · obtain ⟨other, hother, hconvert⟩ := ih hrest hmem
        exact ⟨other, List.mem_cons_of_mem _ hother, hconvert⟩

/-- The failure of a traversal is the failure of a step. -/
theorem exists_of_mapM_eq_error {convert : α → Except ε β} {items : List α} {error : ε}
    (hfailed : items.mapM convert = .error error) :
    ∃ item ∈ items, convert item = .error error := by
  induction items with
  | nil => cases hfailed
  | cons item items ih =>
      rw [List.mapM_cons] at hfailed
      cases except_bind_eq_error.mp hfailed with
      | inl hfirst => exact ⟨item, List.mem_cons_self, hfirst⟩
      | inr hrest =>
          obtain ⟨result, -, hfailed⟩ := hrest
          cases except_bind_eq_error.mp hfailed with
          | inl hrest =>
              obtain ⟨other, hother, hconvert⟩ := ih hrest
              exact ⟨other, List.mem_cons_of_mem _ hother, hconvert⟩
          | inr hdone =>
              obtain ⟨results, -, hdone⟩ := hdone
              cases hdone

/-- A result together with what is known of every result. -/
def certify {Good : α → Prop} (attempt : Except ε α)
    (hgood : ∀ value, attempt = .ok value → Good value) : Except ε { value // Good value } :=
  match attempt, hgood with
  | .ok value, hgood => .ok ⟨value, hgood value rfl⟩
  | .error error, _ => .error error

theorem map_val_certify {Good : α → Prop} {attempt : Except ε α}
    (hgood : ∀ value, attempt = .ok value → Good value) :
    Subtype.val <$> certify attempt hgood = attempt := by
  cases attempt <;> rfl

/-- Certified computations are the same if they are without what is known of their results. -/
theorem eq_of_map_val_eq {Good : α → Prop} {left right : Except ε { value // Good value }}
    (heq : Subtype.val <$> left = Subtype.val <$> right) : left = right := by
  cases left with
  | error error =>
      cases right <;> cases heq
      rfl
  | ok left =>
      cases right with
      | error error => cases heq
      | ok right => rw [Subtype.ext (Except.ok.inj heq)]

end QueryShape
