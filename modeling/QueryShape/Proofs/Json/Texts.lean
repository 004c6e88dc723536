import QueryShape.Proofs.Json.Written

/-!
# Reading the text of a document

The text of a legible document is read as this document, whatever the spaces between its parts.  The
text is cut into the tokens that the document is spelled with, and these are put together again.
Both steps are proved from the end of the text to its start: what comes after a part is given, and
the part is put in front of it.
-/

namespace QueryShape.Json

namespace Token

/-! ## Cutting the text -/

/-- The text is cut into these tokens, with any number of steps that bounds its length. -/
def Scans (text : List Char) (tokens : List Token) : Prop :=
  ∀ steps, text.length ≤ steps → scan steps text = tokens

theorem scans_nil : Scans [] [] := by
  intro steps _
  cases steps <;> rfl

theorem Scans.cons {c : Char} {rest after : List Char} {token : Token} {tokens : List Token}
    (hafter : Scans after tokens) (hspace : isSpace c = false)
    (hnext : next c rest = (token, after)) (hlength : after.length ≤ rest.length) :
    Scans (c :: rest) (token :: tokens) := by
  intro steps hsteps
  cases steps with
  | zero => cases hsteps
  | succ steps =>
      have hrest : after.length ≤ steps := hlength.trans (Nat.le_of_succ_le_succ hsteps)
      rw [scan.eq_def, List.dropWhile_cons_of_neg (by simp [hspace])]
      simp only [hnext, hafter steps hrest]

theorem Scans.spaces {rest : List Char} {tokens : List Token} (hrest : Scans rest tokens)
    {spaces : List Char} (hspaces : ∀ c ∈ spaces, isSpace c = true) :
    Scans (spaces ++ rest) tokens := by
  intro steps hsteps
  have hdrop : (spaces ++ rest).dropWhile isSpace = rest.dropWhile isSpace :=
    List.dropWhile_append_of_pos hspaces
  have hlength : rest.length ≤ steps := by
    rw [List.length_append] at hsteps
    exact Nat.le_of_add_left_le hsteps
  rw [← hrest steps hlength, scan.eq_def, hdrop, ← scan.eq_def]

theorem unit?_hexPair : ∀ code < 32,
    unit? '0' '0' (Nat.digitChar (code / 16)) (Nat.digitChar (code % 16)) = some code := by
  decide

theorem scanString_hexPair {code : Nat} (hcode : code < 32) (read rest : List Char) :
    scanString none true read (hexPair code ++ rest) =
      scanString none true (Char.ofNat code :: read) rest := by
  have hleading : isLeading code = false := by
    simp only [isLeading, Bool.and_eq_false_iff, decide_eq_false_iff_not]
    omega
  have htrailing : isTrailing code = false := by
    simp only [isTrailing, Bool.and_eq_false_iff, decide_eq_false_iff_not]
    omega
  simp [hexPair, scanString, unit?_hexPair code hcode, hleading, htrailing]

/-- Each character of a string is read back from what is written for it. -/
theorem scanString_escapedInString (c : Char) (read rest : List Char) :
    scanString none true read (escapedInString c ++ rest) =
      scanString none true (c :: read) rest := by
  unfold escapedInString
  split
  case h_8 hquote hbackslash _ _ _ _ _ =>
    -- The character has no letter to escape it: it is written by its code, or as it is.
    split
    · next hcontrol =>
        have hcode : c.toNat < 32 := hcontrol
        rw [scanString_hexPair hcode, Char.ofNat_toNat]
    · next hplain =>
        rw [List.singleton_append, scanString]
        · simp [hplain]
        · exact hquote
        all_goals intros; contradiction
  all_goals rfl

theorem scanString_flatMap (content read rest : List Char) :
    scanString none true read (content.flatMap escapedInString ++ '"' :: rest) =
      (.ok (String.ofList (read.reverse ++ content)), rest) := by
  induction content generalizing read with
  | nil => simp [scanString]
  | cons c content ih =>
      rw [List.flatMap_cons, List.append_assoc, scanString_escapedInString, ih]
      simp

theorem Scans.string {rest : List Char} {tokens : List Token} (hrest : Scans rest tokens)
    (content : String) :
    Scans (stringChars content ++ rest) (.string (.ok content) :: tokens) := by
  have hscan := scanString_flatMap content.toList [] rest
  have hnext : next '"' (content.toList.flatMap escapedInString ++ '"' :: rest) =
      (.string (.ok content), rest) := by
    simpa [next] using congrArg (fun scanned => (Token.string scanned.1, scanned.2)) hscan
  have hall := hrest.cons rfl hnext (by simp; omega)
  simpa [stringChars] using hall

theorem Scans.number {number : Number} (hnumber : number.Legible) {rest : List Char}
    {tokens : List Token} (hdelimited : Delimited rest) (hrest : Scans rest tokens) :
    Scans (number.text.toList ++ rest) (.scalar (.number number) :: tokens) := by
  obtain ⟨first, digits, htext, hspace, hnext⟩ := hnumber
  rw [htext]
  exact hrest.cons hspace (hnext rest hdelimited) (by simp)

end Token

/-! ## Layouts -/

/-- Only spaces stand between the parts of a container, beside the colon. -/
structure Layout.Spaced (layout : Layout) : Prop where
  gap : ∀ level, ∀ c ∈ layout.gap level, Token.isSpace c = true
  colon : ∃ spaces, layout.colon = ':' :: spaces ∧ ∀ c ∈ spaces, Token.isSpace c = true

theorem Layout.spaced_compact : Layout.compact.Spaced where
  gap _ := nofun
  colon := ⟨[], rfl, nofun⟩

theorem Layout.spaced_indented : Layout.indented.Spaced where
  gap level c hc := by
    rcases List.mem_cons.mp hc with rfl | hc
    · rfl
    · rw [List.eq_of_mem_replicate hc]
      rfl
  colon := ⟨[' '], rfl, by simp [Token.isSpace]⟩

theorem delimited_nil : Delimited [] := nofun

theorem delimited_cons {c : Char} (hc : c.isDigit = false ∧ c ≠ '.' ∧ c ≠ 'e' ∧ c ≠ 'E')
    (rest : List Char) : Delimited (c :: rest) := by
  rintro _ ⟨⟩
  exact hc

theorem Delimited.spaces {rest : List Char} (hrest : Delimited rest) {spaces : List Char}
    (hspaces : ∀ c ∈ spaces, Token.isSpace c = true) : Delimited (spaces ++ rest) := by
  cases spaces with
  | nil => exact hrest
  | cons c spaces =>
      apply delimited_cons
      have hc := hspaces c List.mem_cons_self
      simp only [Token.isSpace, Bool.or_eq_true, beq_iff_eq] at hc
      rcases hc with ((rfl | rfl) | rfl) | rfl <;> decide

namespace Document

/-! ## Spelling -/

mutual

/-- The tokens of a document. -/
def spelling : Document → List Token
  | .string content => [.string (.ok content)]
  | .array [] _ => [.openArray, .closeArray]
  | .array (item :: items) _ =>
      .openArray :: (item.spelling ++ (itemsSpelling items ++ [.closeArray]))
  | .object [] _ => [.openObject, .closeObject]
  | .object ((name, value) :: members) _ =>
      .openObject :: .string name :: .colon ::
        (value.spelling ++ (membersSpelling members ++ [.closeObject]))
  | document => [.scalar document]

def itemsSpelling : List Document → List Token
  | [] => []
  | item :: items => .comma :: (item.spelling ++ itemsSpelling items)

def membersSpelling : List (Name × Document) → List Token
  | [] => []
  | (name, value) :: members =>
      .comma :: .string name :: .colon :: (value.spelling ++ membersSpelling members)

end

section

variable {layout : Layout} (hlayout : layout.Spaced)

/-- The text of the document is cut into its tokens, whatever follows it. -/
def Spelled (layout : Layout) (document : Document) : Prop :=
  ∀ level after tokens, Delimited after → Token.Scans after tokens →
    Token.Scans (document.chars layout level ++ after) (document.spelling ++ tokens)

variable {after : List Char} {tokens : List Token}

include hlayout

theorem scans_itemChars {items : List Document} (hitems : ∀ item ∈ items, item.Spelled layout)
    (level : Nat) (hdelimited : Delimited after) (hafter : Token.Scans after tokens) :
    Delimited (itemChars layout level items ++ after) ∧
      Token.Scans (itemChars layout level items ++ after) (itemsSpelling items ++ tokens) := by
  induction items with
  | nil => exact ⟨hdelimited, hafter⟩
  | cons item items ih =>
      obtain ⟨hitem, hrest⟩ := List.forall_mem_cons.mp hitems
      obtain ⟨hbetween, hscans⟩ := ih hrest
      have hvalue := (hitem level _ _ hbetween hscans).spaces (hlayout.gap level)
      have hall := hvalue.cons rfl (c := ',') rfl le_rfl
      refine ⟨delimited_cons (by decide) _, ?_⟩
      simpa [itemChars, itemsSpelling] using hall

theorem scans_member (name : String) {value : Document} {level : Nat}
    (hvalue : Token.Scans (value.chars layout level ++ after) (value.spelling ++ tokens)) :
    Token.Scans (layout.gap level ++ nameChars (.ok name) ++ layout.colon ++
      value.chars layout level ++ after)
      (.string (.ok name) :: .colon :: (value.spelling ++ tokens)) := by
  obtain ⟨spaces, hcolon, hspaces⟩ := hlayout.colon
  have hmark := (hvalue.spaces hspaces).cons rfl (c := ':') rfl le_rfl
  have hall := (hmark.string name).spaces (hlayout.gap level)
  simpa [nameChars, hcolon] using hall

theorem scans_memberChars {members : Keyed Document}
    (hmembers : ∀ name value, (name, value) ∈ members → value.Spelled layout) (level : Nat)
    (hdelimited : Delimited after) (hafter : Token.Scans after tokens) :
    Delimited (memberChars layout level (named members) ++ after) ∧
      Token.Scans (memberChars layout level (named members) ++ after)
        (membersSpelling (named members) ++ tokens) := by
  induction members with
  | nil => exact ⟨hdelimited, hafter⟩
  | cons member members ih =>
      obtain ⟨name, value⟩ := member
      obtain ⟨hbetween, hscans⟩ := ih fun other again hmem =>
        hmembers other again (List.mem_cons_of_mem _ hmem)
      have hvalue := hmembers name value List.mem_cons_self level _ _ hbetween hscans
      have hall := (scans_member hlayout name hvalue).cons rfl (c := ',') rfl le_rfl
      refine ⟨delimited_cons (by decide) _, ?_⟩
      simpa [memberChars, membersSpelling] using hall

theorem Legible.spelled {document : Document} (hdocument : document.Legible) :
    document.Spelled layout := by
  induction hdocument with
  | null =>
      intro level after tokens _ hafter
      have hnext : Token.next 'n' ('u' :: 'l' :: 'l' :: after) = (.scalar .null, after) := rfl
      rw [chars, spelling]
      · exact hafter.cons rfl hnext (by simp; omega)
      all_goals exact nofun
  | bool flag =>
      intro level after tokens _ hafter
      have htrue : Token.next 't' ('r' :: 'u' :: 'e' :: after) = (.scalar (.bool true), after) :=
        rfl
      have hfalse : Token.next 'f' ('a' :: 'l' :: 's' :: 'e' :: after) =
          (.scalar (.bool false), after) := rfl
      cases flag with
      | true =>
          rw [chars, spelling]
          · exact hafter.cons rfl htrue (by simp; omega)
          all_goals exact nofun
      | false =>
          rw [chars, spelling]
          · exact hafter.cons rfl hfalse (by simp; omega)
          all_goals exact nofun
  | number legible =>
      intro level after tokens hdelimited hafter
      rw [chars, spelling]
      · exact hafter.number legible hdelimited
      all_goals exact nofun
  | string content =>
      intro level after tokens _ hafter
      rw [chars, spelling]
      exact hafter.string content
  | @list items each ih =>
      intro level after tokens _ hafter
      have hclose := hafter.cons rfl (c := ']') rfl le_rfl
      cases items with
      | nil => exact hclose.cons rfl (c := '[') rfl le_rfl
      | cons item items =>
          obtain ⟨hitem, hitems⟩ := List.forall_mem_cons.mp ih
          have hend := hclose.spaces (hlayout.gap level)
          have hdelimited := (delimited_cons (by decide) after (c := ']')).spaces
            (hlayout.gap level)
          obtain ⟨hbetween, hscans⟩ :=
            scans_itemChars hlayout hitems (level + 1) hdelimited hend
          have hfirst := (hitem (level + 1) _ _ hbetween hscans).spaces (hlayout.gap (level + 1))
          have hall := hfirst.cons rfl (c := '[') rfl le_rfl
          simpa [Document.list, chars, spelling] using hall
  | @record members each ih =>
      intro level after tokens _ hafter
      have hclose := hafter.cons rfl (c := '\x7d') rfl le_rfl
      cases members with
      | nil => exact hclose.cons rfl (c := '\x7b') rfl le_rfl
      | cons member members =>
          obtain ⟨name, value⟩ := member
          have hend := hclose.spaces (hlayout.gap level)
          have hdelimited := (delimited_cons (by decide) after (c := '\x7d')).spaces
            (hlayout.gap level)
          obtain ⟨hbetween, hscans⟩ := scans_memberChars hlayout
            (fun other again hmem => ih other again (List.mem_cons_of_mem _ hmem)) (level + 1)
            hdelimited hend
          have hvalue := ih name value List.mem_cons_self (level + 1) _ _ hbetween hscans
          have hall := (scans_member hlayout name hvalue).cons rfl (c := '\x7b') rfl le_rfl
          simpa [record_eq, chars, spelling] using hall

end

/-! ## Putting the tokens together -/

open Assembly (State deliver)

/-- The tokens of the document are put together to it, inside any open containers. -/
def Assembled (document : Document) : Prop :=
  ∀ outer tokens, Assembly.run (.value outer) (document.spelling ++ tokens) =
    Assembly.run (deliver document outer) tokens

/-- A token that closes nothing starts a first item as it starts any other value. -/
theorem run_firstItem {item : Document} (hitem : item.Legible) (outer : List Assembly.Frame)
    (tokens : List Token) :
    Assembly.run (.firstItem outer) (item.spelling ++ tokens) =
      Assembly.run (.value (.array [] :: outer)) (item.spelling ++ tokens) := by
  cases hitem with
  | @list items _ => cases items <;> rfl
  | @record members _ => cases members <;> rfl
  | _ => rfl

theorem run_items {items : List Document} (hitems : ∀ item ∈ items, item.Assembled)
    (read : List Document) (outer : List Assembly.Frame) (tokens : List Token) :
    Assembly.run (.afterItem read outer) (itemsSpelling items ++ .closeArray :: tokens) =
      Assembly.run (deliver (.list (read.reverse ++ items)) outer) tokens := by
  induction items generalizing read with
  | nil =>
      rw [List.append_nil]
      rfl
  | cons item items ih =>
      obtain ⟨hitem, hrest⟩ := List.forall_mem_cons.mp hitems
      have hfirst := hitem (.array read :: outer) (itemsSpelling items ++ .closeArray :: tokens)
      have hlater := ih hrest (item :: read)
      rw [List.reverse_cons, List.append_assoc, List.singleton_append] at hlater
      rw [itemsSpelling, List.cons_append, List.append_assoc, ← hlater]
      exact hfirst

theorem run_members {members : Keyed Document}
    (hmembers : ∀ name value, (name, value) ∈ members → value.Assembled)
    (read : Keyed Document) (outer : List Assembly.Frame) (tokens : List Token) :
    Assembly.run (.afterMember (named read) outer)
        (membersSpelling (named members) ++ .closeObject :: tokens) =
      Assembly.run (deliver (.record (read.reverse ++ members)) outer) tokens := by
  induction members generalizing read with
  | nil =>
      rw [List.append_nil, record_eq, named_reverse]
      rfl
  | cons member members ih =>
      obtain ⟨name, value⟩ := member
      have hfirst := hmembers name value List.mem_cons_self
        (.object (named read) (.ok name) :: outer)
        (membersSpelling (named members) ++ .closeObject :: tokens)
      have hlater := ih (fun other again hmem => hmembers other again (List.mem_cons_of_mem _ hmem))
        ((name, value) :: read)
      rw [List.reverse_cons, List.append_assoc, List.singleton_append] at hlater
      rw [named_cons, membersSpelling, List.cons_append, List.cons_append, List.cons_append,
        List.append_assoc, ← hlater]
      exact hfirst

theorem Legible.assembled {document : Document} (hdocument : document.Legible) :
    document.Assembled := by
  induction hdocument with
  | @list items each ih =>
      intro outer tokens
      cases items with
      | nil => rfl
      | cons item items =>
          obtain ⟨hitem, hitems⟩ := List.forall_mem_cons.mp ih
          have hread := run_items hitems [item] outer tokens
          have hfirst := hitem (.array [] :: outer) (itemsSpelling items ++ .closeArray :: tokens)
          rw [← run_firstItem (each item List.mem_cons_self)] at hfirst
          rw [Document.list, spelling, List.cons_append, List.append_assoc, List.append_assoc,
            List.singleton_append]
          exact hfirst.trans hread
  | @record members each ih =>
      intro outer tokens
      cases members with
      | nil => rfl
      | cons member members =>
          obtain ⟨name, value⟩ := member
          have hread := run_members
            (fun other again hmem => ih other again (List.mem_cons_of_mem _ hmem))
            [(name, value)] outer tokens
          have hfirst := ih name value List.mem_cons_self (.object [] (.ok name) :: outer)
            (membersSpelling (named members) ++ .closeObject :: tokens)
          rw [record_eq, named_cons, spelling, List.cons_append, List.cons_append,
            List.cons_append, List.append_assoc, List.append_assoc, List.singleton_append]
          exact hfirst.trans hread
  | _ => exact fun outer tokens => rfl

/-- The text of a legible document is read as this document, with nothing after it. -/
theorem Legible.ofText_eq {document : Document} (hdocument : document.Legible) {layout : Layout}
    (hlayout : layout.Spaced) :
    ofText (String.ofList (document.chars layout 0)) = (document, false) := by
  have hscans := hdocument.spelled hlayout 0 [] [] delimited_nil Token.scans_nil
  have hassembled := hdocument.assembled [] []
  rw [List.append_nil, List.append_nil] at hscans
  rw [List.append_nil] at hassembled
  rw [ofText, tokens, String.toList_ofList, hscans _ (by simp), hassembled]
  rfl

/-- A legible document is the same document in both of its texts. -/
theorem Legible.ofText_texts {document : Document} (hdocument : document.Legible) :
    ofText document.compactText = (document, false) ∧
      ofText document.indentedText = (document, false) :=
  ⟨hdocument.ofText_eq Layout.spaced_compact, hdocument.ofText_eq Layout.spaced_indented⟩

end Document

/-- What is read from the text of a legible document is what is read from the document. -/
theorem readText_compactText {α : Type} (read : Nat → Document → Reading α) {document : Document}
    (hdocument : document.Legible) :
    readText read document.compactText = read nestingLimit document := by
  rw [readText, hdocument.ofText_texts.1]
  exact bind_pure _

theorem readText_indentedText {α : Type} (read : Nat → Document → Reading α) {document : Document}
    (hdocument : document.Legible) :
    readText read document.indentedText = read nestingLimit document := by
  rw [readText, hdocument.ofText_texts.2]
  exact bind_pure _

end QueryShape.Json
