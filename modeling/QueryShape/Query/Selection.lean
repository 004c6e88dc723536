import QueryShape.Keyed

/-!
# Selections

A selection is the object with which a database is asked for data.  It either lists everything that
is fetched, or lists what is fetched beside all fields.  Two selections merge into one that fetches
what either of them asks for.  A `WellFormedSelection` lists no name twice.
-/

namespace QueryShape

inductive SelectionKind where
  /-- Only the listed names are fetched. -/
  | selecting
  /-- Every field is fetched, and the listed relations too. -/
  | including
deriving DecidableEq, Repr

namespace SelectionKind

def text : SelectionKind → String
  | .selecting => "select"
  | .including => "include"

def merge : SelectionKind → SelectionKind → SelectionKind
  | .including, .including => .including
  | _, _ => .selecting

end SelectionKind

/-- A name without a selection of its own is fetched whole. -/
inductive Selection where
  | mk (kind : SelectionKind) (entries : List (String × Option Selection))

namespace Selection

def kind : Selection → SelectionKind
  | .mk kind _ => kind

def entries : Selection → Keyed (Option Selection)
  | .mk _ entries => entries

/-- Fetches every field and no relation. -/
def empty : Selection :=
  .mk .including []

instance : Inhabited Selection := ⟨empty⟩

/-- Whether every field and no relation is fetched. -/
def isEmptyInclude (selection : Selection) : Bool :=
  selection.kind = .including && selection.entries.isEmpty

mutual

/-- Fetches what either selection fetches.  The names of the first one come first. -/
def merge : Selection → Selection → Selection
  | .mk kind entries, .mk otherKind others =>
      .mk (kind.merge otherKind) (mergeEntries entries others)

/-- The entry of a name that both selections have: what is fetched whole on one side is fetched
whole. -/
def mergeEntry : Option Selection → Option Selection → Option Selection
  | some nested, some other => some (nested.merge other)
  | _, _ => none

def mergeEntries : List (String × Option Selection) → List (String × Option Selection) →
    List (String × Option Selection)
  | [], others => others
  | (name, entry) :: rest, others =>
      let merged := match others.lookup name with
        | none => entry
        | some other => mergeEntry entry other
      (name, merged) :: mergeEntries rest (others.filter (·.1 ≠ name))

end

/-- At every level, no name is listed twice. -/
inductive WellFormed : Selection → Prop
  | mk {kind : SelectionKind} {entries : Keyed (Option Selection)} (distinct : entries.Distinct)
      (nested : ∀ name selection, (name, some selection) ∈ entries → selection.WellFormed) :
      WellFormed (.mk kind entries)

mutual

/-- Whether no name is listed twice at any level. -/
def isWellFormed : Selection → Bool
  | .mk _ entries => decide (Keyed.Distinct entries) && entriesWellFormed entries

def entriesWellFormed : List (String × Option Selection) → Bool
  | [] => true
  | (_, none) :: rest => entriesWellFormed rest
  | (_, some nested) :: rest => nested.isWellFormed && entriesWellFormed rest

end

mutual

theorem isWellFormed_iff (selection : Selection) :
    selection.isWellFormed = true ↔ selection.WellFormed := by
  obtain ⟨kind, entries⟩ := selection
  rw [isWellFormed, Bool.and_eq_true, decide_eq_true_iff, entriesWellFormed_iff]
  constructor
  · rintro ⟨hdistinct, hnested⟩
    exact .mk hdistinct hnested
  · rintro ⟨hdistinct, hnested⟩
    exact ⟨hdistinct, hnested⟩

theorem entriesWellFormed_iff (entries : List (String × Option Selection)) :
    entriesWellFormed entries = true ↔
      ∀ name nested, (name, some nested) ∈ entries → nested.WellFormed := by
  match entries with
  | [] => simp [entriesWellFormed]
  | (name, none) :: rest => simp [entriesWellFormed, entriesWellFormed_iff rest]
  | (name, some first) :: rest =>
      rw [entriesWellFormed, Bool.and_eq_true, isWellFormed_iff first, entriesWellFormed_iff rest]
      constructor
      · rintro ⟨hfirst, hrest⟩ other nested hmem
        rcases List.mem_cons.mp hmem with heq | hmem
        · cases heq
          exact hfirst
        · exact hrest other nested hmem
      · intro hall
        exact ⟨hall name first List.mem_cons_self,
          fun other nested hmem => hall other nested (List.mem_cons_of_mem _ hmem)⟩

end

instance (selection : Selection) : Decidable selection.WellFormed :=
  decidable_of_iff _ (isWellFormed_iff selection)

end Selection

/-- A selection that lists no name twice at any level. -/
abbrev WellFormedSelection := { selection : Selection // selection.WellFormed }

end QueryShape
