import QueryShape.Proofs.Json.Numerals

/-!
# The integers of a text

Digits that stand for a number of more than 64 bits are read as a floating-point number.  So no
document of a text has an integer that large in it: the tokens of the text have none, and putting
them together makes no new one.
-/

namespace QueryShape.Json

/-- An integer has at most 64 bits. -/
def Number.Sized : Number → Prop
  | .integer value => value.toNat < 2 ^ 64
  | .float _ => True

theorem Number.sized_of_ofDigits? {negative : Bool} {whole fraction : List Char} {exponent : Int}
    {plain : Bool} {number : Number}
    (hdigits : ofDigits? negative whole fraction exponent plain = some number) :
    number.Sized := by
  unfold ofDigits? at hdigits
  dsimp only at hdigits
  split at hdigits
  · next hfits =>
      cases hdigits
      have hvalue := of_decide_eq_true (Bool.and_eq_true_iff.mp hfits).2
      exact hvalue
  · split at hdigits
    · cases hdigits
      rw [Sized]
      omega
    · obtain ⟨x, -, rfl⟩ := Option.map_eq_some_iff.mp hdigits
      trivial

namespace Document

/-- No integer in the document has more than 64 bits. -/
inductive Sized : Document → Prop
  | mk {document : Document} (number : ∀ value, document = .number value → value.Sized)
      (parts : ∀ part ∈ document.parts, part.Sized) : document.Sized

theorem Sized.of_mem_parts {document part : Document} (hdocument : document.Sized)
    (hpart : part ∈ document.parts) : part.Sized := by
  obtain ⟨-, hparts⟩ := hdocument
  exact hparts part hpart

theorem sized_string (content : String) : (string content).Sized :=
  ⟨nofun, nofun⟩

theorem sized_broken (flaw : Flaw) : (broken flaw).Sized :=
  ⟨nofun, nofun⟩

theorem sized_array {items : List Document} (hitems : ∀ item ∈ items, item.Sized)
    (ending : Ending) : (array items ending).Sized :=
  ⟨nofun, hitems⟩

theorem sized_object {members : List (Name × Document)}
    (hmembers : ∀ member ∈ members, member.2.Sized) (ending : Ending) :
    (object members ending).Sized :=
  ⟨nofun, List.forall_mem_map.mpr hmembers⟩

end Document

namespace Token

/-- The value of a scalar has no integer of more than 64 bits in it. -/
def Sized : Token → Prop
  | .scalar value => value.Sized
  | _ => True

theorem parts_of_next {c : Char} {rest after : List Char} {document : Document}
    (hnext : next c rest = (.scalar document, after)) : document.parts = [] := by
  have hname : ∀ value opening name text, document = (scanName value opening name text).1 →
      value.parts = [] → document.parts = [] := by
    rintro value opening name text rfl hvalue
    rcases scanName_cases value opening name text with hsame | ⟨flaw, hflaw⟩
    · rw [hsame, hvalue]
    · rw [hflaw]
      rfl
  have hnumber : ∀ scanned, numberToken scanned = (.scalar document, after) →
      document.parts = [] := by
    rintro ⟨_ | value, _⟩ htoken <;> cases htoken <;> rfl
  unfold next at hnext
  split at hnext
  case h_8 | h_9 | h_10 =>
    obtain ⟨hscalar, -⟩ := Prod.mk.inj hnext
    exact hname _ _ _ _ (Token.scalar.inj hscalar).symm rfl
  case h_11 => exact hnumber _ hnext
  case h_12 =>
    split at hnext
    · exact hnumber _ hnext
    · cases hnext
      rfl
  all_goals cases hnext

theorem sized_next (c : Char) (rest : List Char) : (next c rest).1.Sized := by
  cases hnext : next c rest with
  | mk token after =>
      cases token with
      | scalar document =>
          refine ⟨?_, ?_⟩
          · rintro number rfl
            obtain ⟨_, _, hscan, -⟩ := exists_scanNumber_of_next hnext
            obtain ⟨_, _, _, _, hdigits, -⟩ := scanNumber_eq_ok hscan
            exact Number.sized_of_ofDigits? hdigits
          · rw [parts_of_next hnext]
            exact nofun
      | _ => trivial

theorem sized_of_mem_scan {steps : Nat} {text : List Char} {token : Token}
    (hmem : token ∈ scan steps text) : token.Sized := by
  induction steps generalizing text with
  | zero => cases hmem
  | succ steps ih =>
      rw [scan.eq_def] at hmem
      cases hdrop : text.dropWhile isSpace with
      | nil =>
          simp only [hdrop] at hmem
          cases hmem
      | cons c rest =>
          simp only [hdrop] at hmem
          rcases List.mem_cons.mp hmem with rfl | hmem
          · exact sized_next c rest
          · exact ih hmem

end Token

namespace Assembly

/-- The parts of an open container, so far. -/
def Frame.Sized : Frame → Prop
  | .array items => ∀ item ∈ items, item.Sized
  | .object members _ => ∀ member ∈ members, member.2.Sized

/-- The open containers of a state, and what it finished. -/
def State.Sized : State → Prop
  | .value outer | .firstItem outer | .firstName outer => ∀ frame ∈ outer, frame.Sized
  | .afterItem items outer => (∀ item ∈ items, item.Sized) ∧ ∀ frame ∈ outer, frame.Sized
  | .nextName members outer | .nameEnd members _ outer | .afterMember members outer =>
      (∀ member ∈ members, member.2.Sized) ∧ ∀ frame ∈ outer, frame.Sized
  | .finished document => document.Sized

section

variable {outer : List Frame} (houter : ∀ frame ∈ outer, frame.Sized)
include houter

theorem sized_enclose {value : Document} (hvalue : value.Sized) :
    (enclose value outer).Sized := by
  induction outer generalizing value with
  | nil => exact hvalue
  | cons frame outer ih =>
      obtain ⟨hframe, hrest⟩ := List.forall_mem_cons.mp houter
      cases frame with
      | array items =>
          apply ih hrest
          apply Document.sized_array
          intro item hmem
          rcases List.mem_cons.mp (List.mem_reverse.mp hmem) with rfl | hmem
          · exact hvalue
          · exact hframe item hmem
      | object members name =>
          apply ih hrest
          apply Document.sized_object
          intro member hmem
          rcases List.mem_cons.mp (List.mem_reverse.mp hmem) with rfl | hmem
          · exact hvalue
          · exact hframe member hmem

theorem sized_deliver {value : Document} (hvalue : value.Sized) : (deliver value outer).Sized := by
  cases outer with
  | nil => exact hvalue
  | cons frame outer =>
      obtain ⟨hframe, hrest⟩ := List.forall_mem_cons.mp houter
      cases frame with
      | array items => exact ⟨List.forall_mem_cons.mpr ⟨hvalue, hframe⟩, hrest⟩
      | object members name => exact ⟨List.forall_mem_cons.mpr ⟨hvalue, hframe⟩, hrest⟩

end

theorem State.Sized.breakOff {state : State} (hstate : state.Sized) (flaw : Flaw) :
    (state.breakOff flaw).Sized := by
  have hflaw := Document.sized_broken flaw
  cases state with
  | value outer => exact sized_enclose hstate hflaw
  | firstItem outer =>
      exact sized_enclose hstate (Document.sized_array (List.forall_mem_singleton.mpr hflaw) _)
  | afterItem items outer =>
      exact sized_enclose hstate.2
        (Document.sized_array (fun item hmem => hstate.1 item (List.mem_reverse.mp hmem)) _)
  | firstName outer => exact sized_enclose hstate (Document.sized_object (List.forall_mem_nil _) _)
  | nextName members outer | nameEnd members name outer =>
      refine sized_enclose (List.forall_mem_cons.mpr ⟨?_, hstate.2⟩) hflaw
      exact hstate.1
  | afterMember members outer =>
      exact sized_enclose hstate.2
        (Document.sized_object (fun member hmem => hstate.1 member (List.mem_reverse.mp hmem)) _)
  | finished document => exact hstate

/-- The state that a token leads to, or the document that it ends. -/
def SizedNext : Except Document State → Prop
  | .ok state => state.Sized
  | .error document => document.Sized

theorem sized_startValue {outer : List Frame} (houter : ∀ frame ∈ outer, frame.Sized)
    {token : Token} (htoken : token.Sized) :
    SizedNext (startValue outer token) := by
  unfold startValue
  split
  · exact houter
  · exact houter
  · exact sized_deliver houter (Document.sized_string _)
  · split
    · exact sized_enclose houter (Document.sized_broken _)
    · exact sized_deliver houter (Document.sized_broken _)
  · split
    · exact sized_enclose houter (Document.sized_broken _)
    · exact sized_deliver houter (Document.sized_broken _)
  · exact sized_deliver houter htoken
  all_goals exact sized_enclose houter (Document.sized_broken _)

theorem sized_startName {members : List (Name × Document)} {outer : List Frame}
    (hmembers : ∀ member ∈ members, member.2.Sized) (houter : ∀ frame ∈ outer, frame.Sized)
    (token : Token) : SizedNext (startName members outer token) := by
  have hstate : (State.nextName members outer).Sized := ⟨hmembers, houter⟩
  unfold startName
  split
  · exact hstate
  · split
    · exact hstate.breakOff _
    · exact hstate
  · exact hstate.breakOff _

theorem State.Sized.next {state : State} (hstate : state.Sized) {token : Token}
    (htoken : token.Sized) : SizedNext (state.next token) := by
  unfold State.next
  split
  · exact sized_startValue hstate htoken
  · exact sized_deliver hstate (Document.sized_array (List.forall_mem_nil _) _)
  · refine sized_startValue (List.forall_mem_cons.mpr ⟨?_, hstate⟩) htoken
    exact List.forall_mem_nil _
  · exact List.forall_mem_cons.mpr ⟨hstate.1, hstate.2⟩
  · exact sized_deliver hstate.2
      (Document.sized_array (fun item hmem => hstate.1 item (List.mem_reverse.mp hmem)) _)
  · exact sized_deliver hstate (Document.sized_object (List.forall_mem_nil _) _)
  · exact sized_startName (List.forall_mem_nil _) hstate _
  · exact sized_startName hstate.1 hstate.2 _
  · exact List.forall_mem_cons.mpr ⟨hstate.1, hstate.2⟩
  · exact hstate
  · exact sized_deliver hstate.2
      (Document.sized_object (fun member hmem => hstate.1 member (List.mem_reverse.mp hmem)) _)
  · exact hstate.breakOff _

theorem sized_run {state : State} (hstate : state.Sized) {tokens : List Token}
    (htokens : ∀ token ∈ tokens, token.Sized) : (run state tokens).1.Sized := by
  induction tokens generalizing state with
  | nil =>
      rw [run.eq_def]
      split
      · exact hstate
      · exact hstate.breakOff _
      · next heq => cases heq
  | cons token tokens ih =>
      obtain ⟨htoken, hrest⟩ := List.forall_mem_cons.mp htokens
      have hnext := hstate.next htoken
      rw [run.eq_def]
      split
      · exact hstate
      · next heq => cases heq
      · next _ _ _ heq =>
          cases heq
          split
          · next heq =>
              rw [heq] at hnext
              exact ih hnext hrest
          · next heq =>
              rw [heq] at hnext
              exact hnext

end Assembly

theorem Document.sized_ofText (text : String) : (ofText text).1.Sized :=
  have hstart : (Assembly.State.value []).Sized := List.forall_mem_nil _
  Assembly.sized_run hstart fun _ => Token.sized_of_mem_scan

end QueryShape.Json
