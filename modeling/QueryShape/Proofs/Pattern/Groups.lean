import QueryShape.Pattern.Engine

/-!
# Groups have to be closed

An engine may be expected to refuse a group without an end.  It does so too where the group holds a
text that is a pattern on its own.  The engine of this library reads such a text inside the group as
it does outside, so at the end of the text the group is still open.
-/

namespace QueryShape

/-- A group that starts before a pattern is still open after it. -/
def PatternEngine.GroupsEnd (engine : PatternEngine) : Prop :=
  ∀ text, engine.Accepts text → ¬engine.Accepts ("^(?:" ++ text)

namespace Pattern

namespace Parser

namespace State

/-- The state within further groups, which are open around all of its own. -/
def within (state : State) (base : List (Group × Flags)) : State :=
  { state with outer := state.outer ++ base }

variable (state : State) (base : List (Group × Flags)) (text : List Char)

theorem openNamed?_within :
    (state.within base).openNamed? text =
      (state.openNamed? text).map (Prod.map (·.within base) id) := by
  simp only [openNamed?]
  cases groupName? text with
  | none => rfl
  | some named =>
      change (if state.names.contains named.1 then none else _) = _
      simp only [Option.bind_eq_bind, Option.bind_some]
      split
      · rfl
      · rfl

theorem openFlagged?_within :
    (state.within base).openFlagged? text =
      (state.openFlagged? text).map (Prod.map (·.within base) id) := by
  have hflags : (state.within base).flags = state.flags := rfl
  simp only [openFlagged?, hflags]
  cases readFlags? state.flags [] text with
  | none => rfl
  | some read =>
      simp only [Option.bind_eq_bind, Option.bind_some]
      split
      · rfl
      · split
        · rfl
        · rfl

theorem readGroup?_within :
    (state.within base).readGroup? text =
      (state.readGroup? text).map (Prod.map (·.within base) id) := by
  have hflags : (state.within base).flags = state.flags := rfl
  simp only [readGroup?, hflags]
  split
  · rfl
  · rfl
  · rfl
  · rfl
  · exact openNamed?_within state base _
  · exact openNamed?_within state base _
  · exact openFlagged?_within state base _
  · rfl

theorem repeat?_within (least : Nat) (most : Option Nat) :
    (state.within base).repeat? least most text =
      (state.repeat? least most text).map (Prod.map (·.within base) id) := by
  have hgroup : (state.within base).group = state.group := rfl
  simp only [repeat?, hgroup]
  cases state.group.repeat? least most with
  | none => rfl
  | some group => rfl

/-- Only the end of a group depends on the groups around it. -/
theorem next?_within_of_ne {c : Char} (hc : c ≠ ')') :
    (state.within base).next? c text =
      (state.next? c text).map (Prod.map (·.within base) id) := by
  have hflags : (state.within base).flags = state.flags := rfl
  have hgroup : (state.within base).group = state.group := rfl
  fun_cases next? state c text with
  | case1 => exact readGroup?_within state base text
  | case2 => exact absurd rfl hc
  | case4 current after hopen =>
      simp only [next?, hflags, hopen]
      cases readClass? state.flags after.length current [] after with
      | none => rfl
      | some read => rfl
  | case5 => exact repeat?_within state base text 0 (some 1)
  | case6 => exact repeat?_within state base text 0 none
  | case7 => exact repeat?_within state base text 1 none
  | case8 =>
      simp only [next?, hflags, hgroup]
      cases state.group.repeat? 0 none with
      | none => rfl
      | some group =>
          cases readBounds? state.flags text with
          | none => rfl
          | some bounds => exact repeat?_within state base _ bounds.1 bounds.2.1
  | case9 =>
      simp only [next?, hflags]
      cases readEscape? state.flags text with
      | none => rfl
      | some read => rfl
  | case10 =>
      simp only [next?, hflags]
      cases state.flags.dot? with
      | none => rfl
      | some set => rfl
  | case3 | case11 | case12 => rfl
  | case13 =>
      rw [next?.eq_13]
      · rfl
      all_goals assumption

variable {state} {text} {next : State} {rest : List Char}

theorem closeGroup?_within (hclose : state.closeGroup? = some next) :
    (state.within base).closeGroup? = some (next.within base) := by
  simp only [closeGroup?] at hclose ⊢
  split at hclose
  · cases hclose
  · next houter =>
      cases hclose
      simp [within, houter]

theorem next?_within {c : Char} (hnext : state.next? c text = some (next, rest)) :
    (state.within base).next? c text = some (next.within base, rest) := by
  by_cases hc : c = ')'
  · subst hc
    obtain ⟨closed, hclose, hnext⟩ := Option.bind_eq_some_iff.mp hnext
    cases hnext
    exact Option.bind_eq_some_iff.mpr ⟨_, closeGroup?_within base hclose, rfl⟩
  · rw [next?_within_of_ne state base text hc, hnext]
    rfl

end State

theorem run?_step {steps : Nat} {state : State} {text : List Char} {c : Char} {rest : List Char}
    (hskip : state.flags.skip text = c :: rest) :
    run? (steps + 1) state text =
      (state.next? c rest).bind fun (next, after) => run? steps next after := by
  rw [run?, hskip]
  rfl

/-- At the end of a text no group may be open. -/
theorem run?_end {state : State} {text : List Char} (hskip : state.flags.skip text = [])
    {base : List (Group × Flags)} (hbase : base ≠ []) (fuel : Nat) :
    run? fuel (state.within base) text = none := by
  have hwithin : (state.within base).flags.skip text = [] := hskip
  rw [run?, hwithin]
  simp [State.within, hbase]

/-- A run within a further group comes to the end of its text before that group is closed. -/
theorem run?_within_eq_none {steps : Nat} {state : State} {text : List Char}
    {expression : Expression} (hrun : run? steps state text = some expression)
    {base : List (Group × Flags)} (hbase : base ≠ []) {fuel : Nat} (hfuel : steps ≤ fuel) :
    run? fuel (state.within base) text = none := by
  induction steps generalizing state text fuel with
  | zero =>
      have hskip : state.flags.skip text = [] := by
        cases hskip : state.flags.skip text with
        | nil => rfl
        | cons c rest => simp [run?, hskip] at hrun
      exact run?_end hskip hbase fuel
  | succ steps ih =>
      obtain ⟨fuel, rfl⟩ : ∃ more, fuel = more + 1 := Nat.exists_eq_add_of_le' (by omega)
      cases hskip : state.flags.skip text with
      | nil => exact run?_end hskip hbase _
      | cons c rest =>
          rw [run?_step hskip] at hrun
          obtain ⟨⟨next, after⟩, hnext, hrun⟩ := Option.bind_eq_some_iff.mp hrun
          have hwithin : (state.within base).flags.skip text = c :: rest := hskip
          rw [run?_step hwithin, State.next?_within base hnext]
          exact ih hrun (by omega)

end Parser

/-- The group is read before the text, and is open around all that the text opens. -/
theorem ofText?_group (text : String) :
    Expression.ofText? ("^(?:" ++ text) =
      Parser.run? (text.length + 2)
        (({} : Parser.State).within [({ parts := [.place .textStart] }, {})]) text.toList := by
  have hlist : ("^(?:" ++ text).toList = '^' :: '(' :: '?' :: ':' :: text.toList := by simp
  have hlength : ("^(?:" ++ text).length = text.length + 2 + 2 := by
    rw [← String.length_toList, hlist]
    simp [String.length_toList]
  rw [Expression.ofText?, hlength, hlist]
  rfl

theorem isSome_expression_of_isSome_ofText? {text : String} (htext : (ofText? text).isSome) :
    (Expression.ofText? text).isSome := by
  unfold ofText? at htext
  cases hread : Expression.ofText? text with
  | none => simp [hread] at htext
  | some expression => rfl

/-- The engine of this library knows no group without an end. -/
theorem groupsEnd_engine : engine.GroupsEnd := by
  intro text htext hgroup
  have htext := isSome_expression_of_isSome_ofText? (accepts_engine_iff.mp htext)
  have hgroup := isSome_expression_of_isSome_ofText? (accepts_engine_iff.mp hgroup)
  obtain ⟨expression, hexpression⟩ := Option.isSome_iff_exists.mp htext
  rw [ofText?_group, Parser.run?_within_eq_none hexpression (List.cons_ne_nil _ _) (by omega)]
    at hgroup
  exact Bool.false_ne_true hgroup

end Pattern

end QueryShape
