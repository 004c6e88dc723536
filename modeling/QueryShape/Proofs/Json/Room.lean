import QueryShape.Proofs.Json.Written

/-!
# Reading within the room that there is

What was written is read back exactly as far as the arrays and objects that are nested in it fit
into the room.  A part that does not fit makes the whole malformed, so the parts of a document fit
together exactly if the one with the most levels does.
-/

namespace QueryShape.Json

variable {α β : Type}

/-- A value that is there if so many arrays and objects fit into the room. -/
def fitting (nesting room : Nat) (value : α) : Reading α :=
  if nesting ≤ room then .ok value else .error (.fault .malformed)

theorem fitting_succ (nesting room : Nat) (value : α) :
    fitting (nesting + 1) (room + 1) value = fitting nesting room value := by
  simp only [fitting, Nat.add_le_add_iff_right]

theorem fitting_succ_zero (nesting : Nat) (value : α) :
    fitting (nesting + 1) 0 value = .error (.fault .malformed) :=
  if_neg (Nat.not_succ_le_zero nesting)

theorem fitting_zero (room : Nat) (value : α) : fitting 0 room value = .ok value :=
  if_pos (Nat.zero_le room)

theorem map_fitting (nesting room : Nat) (value : α) (convert : α → β) :
    convert <$> fitting nesting room value = fitting nesting room (convert value) := by
  unfold fitting
  split <;> rfl

theorem fitting_bind {nesting room : Nat} {value : α} {next : α → Reading β} {result : β}
    (hnext : next value = .ok result) :
    (fitting nesting room value >>= next) = fitting nesting room result := by
  unfold fitting
  split
  · exact hnext
  · rfl

/-- Two parts are there if each of them fits. -/
theorem fitting_bind_fitting (nesting other room : Nat) (value : α) (next : α → β) :
    (fitting nesting room value >>= fun value => fitting other room (next value)) =
      fitting (max nesting other) room (next value) := by
  simp only [fitting, max_le_iff]
  by_cases hfirst : nesting ≤ room
  · simp only [hfirst, if_true, true_and]
    rfl
  · simp only [hfirst, if_false, false_and]
    rfl

namespace Document

theorem readMembers_fitting {read : Document → Reading α} {write : α → Document} {room : Nat}
    {entries : Keyed α}
    (hentries : ∀ name value, (name, value) ∈ entries →
      read (write value) = fitting (write value).nesting room value) :
    (named (entries.map fun (name, value) => (name, write value))).mapM (fun member => do
      let name ← readName member.1
      return (name, ← read member.2)) =
      fitting (membersNesting (named (entries.map fun (name, value) => (name, write value)))) room
        entries := by
  induction entries with
  | nil => exact (fitting_zero room []).symm
  | cons entry entries ih =>
      obtain ⟨name, value⟩ := entry
      have hvalue := hentries name value List.mem_cons_self
      have hrest := ih fun other again hmem => hentries other again (List.mem_cons_of_mem _ hmem)
      rw [List.map_cons, named_cons, List.mapM_cons, membersNesting, hrest]
      simp only [readName, pure_bind, hvalue, bind_pure_comp, map_fitting]
      exact fitting_bind_fitting _ _ room (name, value) fun entry => entry :: entries

/-- A written keyed list is read as far as there is room for it if its values are. -/
theorem readKeyed_record_fitting {read : Nat → Document → Reading α} {write : α → Document}
    {room : Nat} (dictionary : Dictionary α)
    (hentries : ∀ inner, room = inner + 1 → ∀ name value, (name, value) ∈ dictionary.entries →
      read inner (write value) = fitting (write value).nesting inner value) :
    (record (dictionary.entries.map fun (name, value) => (name, write value))).readKeyed read room =
      fitting (record (dictionary.entries.map fun (name, value) => (name, write value))).nesting
        room dictionary := by
  rw [record_eq, nesting, readKeyed]
  cases room with
  | zero => exact (fitting_succ_zero _ dictionary).symm
  | succ inner =>
      have hread := readMembers_fitting (hentries inner rfl)
      rw [fitting_succ]
      refine (congrArg (· >>= fun entries => do
        Ending.closed.closes
        return Dictionary.ofList entries) hread).trans ?_
      simp only [Ending.closes, map_pure, bind_pure_comp, map_fitting,
        dictionary.ofList_entries]

theorem nesting_map_le_iff (write : α → Document) {entries : Keyed α} {room : Nat} :
    (record (entries.map fun (name, value) => (name, write value))).nesting ≤ room ↔
      ∃ inner, room = inner + 1 ∧
        ∀ name value, (name, value) ∈ entries → (write value).nesting ≤ inner := by
  rw [nesting_record_le_iff]
  refine exists_congr fun inner => and_congr_right fun _ => ?_
  constructor
  · intro hall name value hmem
    exact hall name (write value) (List.mem_map_of_mem hmem)
  · intro hall name document hmem
    obtain ⟨⟨_, value⟩, hvalue, heq⟩ := List.mem_map.mp hmem
    cases heq
    exact hall _ value hvalue

theorem nesting_lt_of_mem (write : α → Document) {entries : Keyed α} {name : String} {value : α}
    (hmem : (name, value) ∈ entries) :
    (write value).nesting <
      (record (entries.map fun (name, value) => (name, write value))).nesting := by
  obtain ⟨inner, hinner, hentries⟩ := (nesting_map_le_iff write).mp
    (le_refl (record (entries.map fun (name, value) => (name, write value))).nesting)
  rw [hinner]
  exact Nat.lt_succ_of_le (hentries name value hmem)

end Document

end QueryShape.Json
