import QueryShape.Path
import QueryShape.Proofs.Text.Extent

/-!
# Texts of paths

Each segment of a path but the first starts with a point or an opening bracket.  If the names of the
fields have neither, a segment ends where the next one starts, and a path can be told from its text.
Only the text of the root is also that of one field.
-/

namespace QueryShape

/-! ## Segments -/

namespace Segment

/-- The name of a field has a character, and none that starts another segment. -/
def IsPlain : Segment → Prop
  | .field name => name ≠ "" ∧ '.' ∉ name.toList ∧ '[' ∉ name.toList
  | .index _ => True

instance : DecidablePred IsPlain
  | .field name => inferInstanceAs (Decidable (name ≠ "" ∧ '.' ∉ name.toList ∧ '[' ∉ name.toList))
  | .index _ => inferInstanceAs (Decidable True)

/-- What a segment adds to the text of the segments before it. -/
def spelling : Segment → List Char
  | .field name => '.' :: name.toList
  | .index position => '[' :: (Nat.toDigits 10 position ++ [']'])

/-- A character goes on with a name, and starts no other segment. -/
def inName (c : Char) : Bool :=
  c ≠ '.' && c ≠ '['

theorem IsPlain.inName {name : String} (hname : (field name).IsPlain) :
    ∀ c ∈ name.toList, inName c = true := by
  obtain ⟨-, hpoint, hbracket⟩ := hname
  intro c hc
  rw [Segment.inName, Bool.and_eq_true, decide_eq_true_eq, decide_eq_true_eq]
  exact ⟨fun heq => hpoint (heq ▸ hc), fun heq => hbracket (heq ▸ hc)⟩

theorem toList_text_index (position : Nat) :
    (index position).text.toList = (index position).spelling := by
  change ("[" ++ position.repr ++ "]").toList = _
  rw [String.toList_append, String.toList_append, Nat.toList_repr]
  rfl

theorem toDigits_injective : Function.Injective (Nat.toDigits 10) := by
  intro left right heq
  have hvalue := congrArg (fun digits => Nat.ofDigitChars 10 digits 0) heq
  rwa [Nat.ofDigitChars_ten_toDigits, Nat.ofDigitChars_ten_toDigits] at hvalue

section

variable {leftRest rightRest : List Char} (hleftRest : ∀ c ∈ leftRest.head?, inName c = false)
  (hrightRest : ∀ c ∈ rightRest.head?, inName c = false)
include hleftRest hrightRest

theorem name_append_inj {left right : String} (hleft : (field left).IsPlain)
    (hright : (field right).IsPlain) (heq : left.toList ++ leftRest = right.toList ++ rightRest) :
    left = right ∧ leftRest = rightRest := by
  obtain ⟨hname, hrest⟩ :=
    Text.append_inj_of_head hleft.inName hright.inName hleftRest hrightRest heq
  exact ⟨String.toList_inj.mp hname, hrest⟩

/-- What a segment adds to a text determines the segment, whatever segments follow. -/
theorem spelling_append_inj {left right : Segment} (hleft : left.IsPlain) (hright : right.IsPlain)
    (heq : left.spelling ++ leftRest = right.spelling ++ rightRest) :
    left = right ∧ leftRest = rightRest := by
  cases left with
  | field left =>
      cases right with
      | field right =>
          obtain ⟨rfl, hrest⟩ :=
            name_append_inj hleftRest hrightRest hleft hright (List.cons.inj heq).2
          exact ⟨rfl, hrest⟩
      | index right => exact absurd (List.cons.inj heq).1 (by decide)
  | index left =>
      cases right with
      | field right => exact absurd (List.cons.inj heq).1 (by decide)
      | index right =>
          have hdigits : Nat.toDigits 10 left ++ ']' :: leftRest =
              Nat.toDigits 10 right ++ ']' :: rightRest := by
            rw [List.append_cons, List.append_cons _ _ rightRest]
            exact (List.cons.inj heq).2
          obtain ⟨hposition, hrest⟩ := Text.append_inj_of_head
            (fun _ => Nat.isDigit_of_mem_toDigits (by decide) le_rfl)
            (fun _ => Nat.isDigit_of_mem_toDigits (by decide) le_rfl)
            (by rintro c ⟨⟩; rfl) (by rintro c ⟨⟩; rfl) hdigits
          cases toDigits_injective hposition
          exact ⟨rfl, (List.cons.inj hrest).2⟩

end

end Segment

/-! ## Paths -/

namespace Path

/-- The segments are plain, and the path is not the one field whose name is the text of the root. -/
structure IsPlain (path : Path) : Prop where
  segments : ∀ segment ∈ path, segment.IsPlain
  ne_root : path ≠ [.field "<root>"]

theorem tailText_index (position : Nat) (rest : Path) :
    tailText (.index position :: rest) = (Segment.index position).text ++ tailText rest := rfl

theorem toList_tailText (path : Path) : path.tailText.toList = path.flatMap Segment.spelling := by
  induction path with
  | nil => rfl
  | cons segment rest ih =>
      cases segment with
      | field name =>
          rw [tailText, String.toList_append, String.toList_append, ih]
          rfl
      | index position =>
          rw [tailText_index, String.toList_append, Segment.toList_text_index, ih,
            List.flatMap_cons]

/-- A field at the start is written without a point before it. -/
theorem toList_text_field (name : String) (rest : Path) :
    (text (.field name :: rest)).toList = name.toList ++ rest.flatMap Segment.spelling := by
  rw [text, String.toList_append, toList_tailText, Segment.text]

/-- A position is written in the same way wherever it stands. -/
theorem toList_text_index (position : Nat) (rest : Path) :
    (text (.index position :: rest)).toList =
      (Segment.index position :: rest).flatMap Segment.spelling := by
  rw [text, String.toList_append, toList_tailText, Segment.toList_text_index, List.flatMap_cons]

theorem inName_of_mem_head?_spelling (path : Path) :
    ∀ c ∈ (path.flatMap Segment.spelling).head?, Segment.inName c = false := by
  cases path with
  | nil => exact nofun
  | cons segment rest => cases segment <;> rintro c ⟨⟩ <;> rfl

theorem spelling_ne_nil (segment : Segment) (rest : Path) :
    (segment :: rest).flatMap Segment.spelling ≠ [] := by
  cases segment <;> exact nofun

theorem flatMap_spelling_inj {left right : Path} (hleft : ∀ segment ∈ left, segment.IsPlain)
    (hright : ∀ segment ∈ right, segment.IsPlain)
    (heq : left.flatMap Segment.spelling = right.flatMap Segment.spelling) : left = right := by
  induction left generalizing right with
  | nil =>
      cases right with
      | nil => rfl
      | cons other others => exact absurd heq.symm (spelling_ne_nil other others)
  | cons segment rest ih =>
      cases right with
      | nil => exact absurd heq (spelling_ne_nil segment rest)
      | cons other others =>
          rw [List.forall_mem_cons] at hleft hright
          rw [List.flatMap_cons, List.flatMap_cons] at heq
          -- Whatever follows the first segments starts where they end.
          obtain ⟨rfl, hrest⟩ := Segment.spelling_append_inj (inName_of_mem_head?_spelling rest)
            (inName_of_mem_head?_spelling others) hleft.1 hright.1 heq
          rw [ih hleft.2 hright.2 hrest]

/-- Of all plain segments in a row, only one field is written as the root is. -/
theorem eq_field_of_text_eq_root {segment : Segment} {rest : Path}
    (hpath : ∀ other ∈ segment :: rest, other.IsPlain)
    (htext : text (segment :: rest) = root.text) : segment :: rest = [.field "<root>"] := by
  rw [List.forall_mem_cons] at hpath
  have hchars := congrArg String.toList htext
  cases segment with
  | field name =>
      rw [toList_text_field, ← List.append_nil root.text.toList] at hchars
      obtain ⟨hname, hrest⟩ := Segment.name_append_inj (inName_of_mem_head?_spelling rest)
        (inName_of_mem_head?_spelling root) hpath.1 (by decide) hchars
      rw [hname, flatMap_spelling_inj hpath.2 (List.forall_mem_nil _) hrest]
      rfl
  | index position =>
      rw [toList_text_index] at hchars
      exact absurd (List.cons.inj hchars).1 (by decide)

theorem text_field_ne_text_index {name : String} (hname : (Segment.field name).IsPlain)
    (rest : Path) (position : Nat) (others : Path) :
    text (.field name :: rest) ≠ text (.index position :: others) := by
  intro htext
  obtain ⟨hnonempty, -, hbracket⟩ := hname
  -- A name that is not empty starts the text, and not with a bracket.
  obtain ⟨c, chars, hname⟩ := List.exists_cons_of_ne_nil (mt String.toList_eq_nil_iff.mp hnonempty)
  have hchars := congrArg String.toList htext
  rw [toList_text_field, toList_text_index, hname] at hchars
  obtain ⟨rfl, -⟩ := List.cons.inj hchars
  rw [hname] at hbracket
  exact hbracket List.mem_cons_self

/-- Two texts that are equal start with segments of the same kind, so they leave out a point at the
start both or neither. -/
theorem flatMap_spelling_eq_of_text_eq {segment other : Segment} {rest others : Path}
    (hsegment : segment.IsPlain) (hother : other.IsPlain)
    (htext : text (segment :: rest) = text (other :: others)) :
    (segment :: rest).flatMap Segment.spelling = (other :: others).flatMap Segment.spelling := by
  have hchars := congrArg String.toList htext
  cases segment with
  | field name =>
      cases other with
      | field otherName =>
          rw [toList_text_field, toList_text_field] at hchars
          exact congrArg ('.' :: ·) hchars
      | index position => exact absurd htext (text_field_ne_text_index hsegment _ _ _)
  | index position =>
      cases other with
      | field name => exact absurd htext.symm (text_field_ne_text_index hother _ _ _)
      | index otherPosition => rwa [toList_text_index, toList_text_index] at hchars

/-- A plain path can be told from its text. -/
theorem eq_of_text_eq {left right : Path} (hleft : left.IsPlain) (hright : right.IsPlain)
    (htext : left.text = right.text) : left = right := by
  cases left with
  | nil =>
      cases right with
      | nil => rfl
      | cons other others =>
          exact absurd (eq_field_of_text_eq_root hright.segments htext.symm) hright.ne_root
  | cons segment rest =>
      cases right with
      | nil => exact absurd (eq_field_of_text_eq_root hleft.segments htext) hleft.ne_root
      | cons other others =>
          have hsegment := hleft.segments segment List.mem_cons_self
          have hother := hright.segments other List.mem_cons_self
          exact flatMap_spelling_inj hleft.segments hright.segments
            (flatMap_spelling_eq_of_text_eq hsegment hother htext)

/-- A closing bracket and the text of the root may stand in a name.  One path is grown at its end,
the other one put together from two. -/
theorem eq_of_text_eq_grown :
    let left : Path := ((root.child (.field "posts")).child (.index 10)).child (.field "]<root>")
    let right : Path := prefixed [.index 10, .field "]<root>"] [.field "posts"]
    left.IsPlain ∧ right.IsPlain ∧ left.text = "posts[10].]<root>" ∧ left.text = right.text ∧
      left = right := by
  intro left right
  have hleft : left.IsPlain := ⟨by decide, by decide⟩
  have hright : right.IsPlain := ⟨by decide, by decide⟩
  have htext : left.text = right.text := by decide
  exact ⟨hleft, hright, by decide, htext, eq_of_text_eq hleft hright htext⟩

/-- Without any one of the conditions two paths have one text. -/
example : text [.field "", .index 0] = text [.index 0] ∧
    text [.field "a.b"] = text [.field "a", .field "b"] ∧
    text [.field "a[0]"] = text [.field "a", .index 0] ∧
    text [.field "<root>"] = text root := by decide

end Path

end QueryShape
