import Mathlib.Data.List.DropRight
import QueryShape.Proofs.Text.Extent
import QueryShape.Text.Address

/-!
# Mail addresses

Without the white space at its ends, a mail address is a mailbox, an `@` and a domain of two or more
labels with points between them.  The texts that pass as mail addresses are exactly these, and each
of them has its parts in one way only.
-/

namespace QueryShape.Text

/-! ## White space at the ends -/

/-- A text is another one with white space around it, and the other one has none at its ends. -/
structure Trims (text core : List Char) : Prop where
  around : ∃ before after, text = before ++ core ++ after ∧
    (∀ c ∈ before, isBlank c = true) ∧ ∀ c ∈ after, isBlank c = true
  first : ∀ c ∈ core.head?, isBlank c = false
  last : ∀ c ∈ core.getLast?, isBlank c = false

theorem trim_eq_rdropWhile (text : List Char) :
    trim text = (text.dropWhile isBlank).rdropWhile isBlank := rfl

theorem trims_trim (text : List Char) : Trims text (trim text) := by
  refine ⟨⟨text.takeWhile isBlank, (text.dropWhile isBlank).rtakeWhile isBlank, ?_, ?_, ?_⟩, ?_, ?_⟩
  · rw [trim_eq_rdropWhile, List.append_assoc, List.rdropWhile_append_rtakeWhile,
      List.takeWhile_append_dropWhile]
  · exact fun c => List.mem_takeWhile_imp
  · exact fun c => List.mem_rtakeWhile_imp
  · intro c hc
    obtain ⟨after, hafter⟩ := List.rdropWhile_prefix isBlank (text.dropWhile isBlank)
    have hhead : (text.dropWhile isBlank).head? = some c := by
      rw [← hafter, List.head?_append]
      exact Option.or_eq_some_iff.mpr (Or.inl hc)
    exact eq_false_of_mem_head?_dropWhile c hhead
  · rw [trim, List.getLast?_reverse]
    exact eq_false_of_mem_head?_dropWhile

theorem Trims.trim_eq {text core : List Char} (htrims : Trims text core) : trim text = core := by
  obtain ⟨⟨before, after, rfl, hbefore, hafter⟩, hfirst, hlast⟩ := htrims
  by_cases hcore : core = []
  -- White space alone is taken away from its front, and nothing is left for its end.
  · have hblank : (before ++ core ++ after).dropWhile isBlank = [] := by
      rw [hcore, List.append_nil, List.dropWhile_eq_nil_iff]
      intro c hc
      exact (List.mem_append.mp hc).elim (hbefore c) (hafter c)
    rw [trim, hblank, hcore]
    rfl
  · have hfront : (before ++ core ++ after).dropWhile isBlank = core ++ after := by
      rw [List.append_assoc]
      apply dropWhile_append_eq hbefore
      rwa [List.head?_append_of_ne_nil _ hcore]
    have hback : (core ++ after).reverse.dropWhile isBlank = core.reverse := by
      rw [List.reverse_append]
      apply dropWhile_append_eq
      · exact fun c hc => hafter c (List.mem_reverse.mp hc)
      · rwa [List.head?_reverse]
    rw [trim, hfront, hback, List.reverse_reverse]

theorem trims_iff {text core : List Char} : Trims text core ↔ trim text = core := by
  constructor
  · exact Trims.trim_eq
  · rintro rfl
    exact trims_trim text

/-! ## The labels of a domain -/

theorem labels_eq_splitOn (text : List Char) : labels text = text.splitOn '.' := by
  induction text with
  | nil => rfl
  | cons c text ih =>
      rw [labels, ih, List.splitOn_cons_eq_if_modifyHead]
      by_cases hc : c = '.'
      · rw [if_pos hc, if_pos (beq_iff_eq.mpr hc)]
      · rw [if_neg hc, if_neg (by simpa using hc)]
        cases hsplit : text.splitOn '.' with
        | nil => exact absurd hsplit (List.splitOn_ne_nil _ _)
        | cons label others => rfl

theorem point_notMem_of_mem_labels {text label : List Char} (hlabel : label ∈ labels text) :
    '.' ∉ label := by
  induction text generalizing label with
  | nil =>
      cases List.mem_singleton.mp hlabel
      exact List.not_mem_nil
  | cons c text ih =>
      rw [labels] at hlabel
      split at hlabel
      · rcases List.mem_cons.mp hlabel with rfl | hlabel
        · exact List.not_mem_nil
        · exact ih hlabel
      · next hc =>
          split at hlabel
          · cases List.mem_singleton.mp hlabel
            exact fun hpoint => hc (List.mem_singleton.mp hpoint).symm
          · next first others hlabels =>
              rcases List.mem_cons.mp hlabel with rfl | hlabel
              · have hfirst : '.' ∉ first := ih (hlabels ▸ List.mem_cons_self)
                exact List.not_mem_cons_of_ne_of_not_mem (Ne.symm hc) hfirst
              · exact ih (hlabels ▸ List.mem_cons_of_mem _ hlabel)

/-- The characters of parts with a separator between them. -/
theorem mem_intercalate_iff {c separator : Char} {parts : List (List Char)} :
    c ∈ [separator].intercalate parts ↔
      (∃ part ∈ parts, c ∈ part) ∨ c = separator ∧ 2 ≤ parts.length := by
  induction parts with
  | nil => simp
  | cons part parts ih =>
      cases parts with
      | nil => simp
      | cons next parts =>
          have hlength : 2 ≤ (part :: next :: parts).length := by simp
          -- From the second part on there is a separator already.
          rw [List.intercalate_cons_cons, List.mem_append, List.mem_append, List.mem_singleton, ih,
            List.exists_mem_cons_iff (c ∈ ·) part, and_iff_left hlength]
          by_cases hc : c = separator
          · simp only [hc, or_true, true_or]
          · simp only [hc, or_false, false_and]

/-! ## Mail addresses -/

/-- The parts of a mail address. -/
structure MailAddress where
  mailbox : List Char
  labels : List (List Char)
  mailbox_ne_nil : mailbox ≠ []
  at_notMem_mailbox : '@' ∉ mailbox
  two_le_length_labels : 2 ≤ labels.length
  label_ne_nil : ∀ label ∈ labels, label ≠ []
  at_notMem_label : ∀ label ∈ labels, '@' ∉ label
  point_notMem_label : ∀ label ∈ labels, '.' ∉ label

namespace MailAddress

variable (address : MailAddress)

/-- The labels with points between them. -/
def domain : List Char :=
  ['.'].intercalate address.labels

def text : List Char :=
  address.mailbox ++ '@' :: address.domain

theorem labels_domain : Text.labels address.domain = address.labels := by
  have hlabels : address.labels ≠ [] :=
    List.ne_nil_of_length_pos (Nat.lt_of_succ_lt address.two_le_length_labels)
  rw [labels_eq_splitOn, domain, List.splitOn_intercalate '.' address.point_notMem_label hlabels]

theorem at_notMem_domain : '@' ∉ address.domain := by
  rw [domain, mem_intercalate_iff]
  rintro (⟨label, hlabel, hat⟩ | ⟨hat, -⟩)
  · exact address.at_notMem_label label hlabel hat
  · exact absurd hat (by decide)

theorem point_mem_domain : '.' ∈ address.domain :=
  mem_intercalate_iff.mpr (Or.inr ⟨rfl, address.two_le_length_labels⟩)

/-- The first `@` ends the mailbox, and each point after it a label. -/
theorem text_injective : Function.Injective text := by
  intro left right htext
  obtain ⟨hmailbox, -, hdomain⟩ :=
    (List.append_cons_inj_of_notMem left.at_notMem_mailbox left.at_notMem_domain).mp htext
  have hlabels : left.labels = right.labels := by
    rw [← left.labels_domain, ← right.labels_domain, hdomain]
  cases left
  cases right
  cases hmailbox
  cases hlabels
  rfl

/-- What stands around an `@` are the parts of an address, if the domain has a point and no label of
it is empty. -/
theorem exists_text_eq {mailbox domain : List Char} (hmailbox : mailbox ≠ [])
    (hat : '@' ∉ mailbox) (hone : '@' ∉ domain) (hpoint : '.' ∈ domain)
    (hlabels : ∀ label ∈ Text.labels domain, label ≠ []) :
    ∃ address : MailAddress, address.text = mailbox ++ '@' :: domain := by
  have hjoined : ['.'].intercalate (Text.labels domain) = domain := by
    rw [labels_eq_splitOn, List.intercalate_splitOn]
  have htwo : 2 ≤ (Text.labels domain).length := by
    rw [← hjoined, mem_intercalate_iff] at hpoint
    rcases hpoint with ⟨label, hlabel, hpoint⟩ | ⟨-, htwo⟩
    · exact absurd hpoint (point_notMem_of_mem_labels hlabel)
    · exact htwo
  have hnone : ∀ label ∈ Text.labels domain, '@' ∉ label := by
    intro label hlabel hat
    apply hone
    rw [← hjoined, mem_intercalate_iff]
    exact Or.inl ⟨label, hlabel, hat⟩
  refine ⟨⟨mailbox, Text.labels domain, hmailbox, hat, htwo, hlabels, hnone, ?_⟩, ?_⟩
  · exact fun label => point_notMem_of_mem_labels
  · rw [text, MailAddress.domain, hjoined]

end MailAddress

/-! ## What passes as a mail address -/

theorem decide_ne_of_notMem {separator : Char} {text : List Char} (htext : separator ∉ text) :
    ∀ c ∈ text, decide (c ≠ separator) = true := by
  intro c hc
  exact decide_eq_true fun heq => htext (heq ▸ hc)

theorem isEmail_of_notMem {text : List Char} (hat : '@' ∉ trim text) : isEmail text = false := by
  have hdrop : (trim text).dropWhile (· ≠ '@') = [] :=
    List.dropWhile_eq_nil_iff.mpr (decide_ne_of_notMem hat)
  rw [isEmail, hdrop]

theorem isEmail_iff_of_split {text mailbox domain : List Char}
    (htrim : trim text = mailbox ++ '@' :: domain) (hat : '@' ∉ mailbox) :
    isEmail text = true ↔ mailbox ≠ [] ∧ '@' ∉ domain ∧ '.' ∈ domain ∧
      ∀ label ∈ labels domain, label ≠ [] := by
  have hmailbox := decide_ne_of_notMem hat
  have htake : (trim text).takeWhile (· ≠ '@') = mailbox := by
    rw [htrim, List.takeWhile_append_of_pos hmailbox, List.takeWhile_cons_of_neg (by simp),
      List.append_nil]
  have hdrop : (trim text).dropWhile (· ≠ '@') = '@' :: domain := by
    rw [htrim, List.dropWhile_append_of_pos hmailbox, List.dropWhile_cons_of_neg (by simp)]
  simp only [isEmail, hdrop, htake, Bool.and_eq_true, Bool.not_eq_true', List.isEmpty_eq_false_iff,
    List.contains_eq_mem, decide_eq_false_iff_not, decide_eq_true_eq, List.all_eq_true]
  constructor
  · rintro ⟨⟨⟨⟨hmailbox, -⟩, hone⟩, hpoint⟩, hlabels⟩
    exact ⟨hmailbox, hone, hpoint, hlabels⟩
  · rintro ⟨hmailbox, hone, hpoint, hlabels⟩
    exact ⟨⟨⟨⟨hmailbox, List.ne_nil_of_mem hpoint⟩, hone⟩, hpoint⟩, hlabels⟩

/-- A text passes as a mail address if it is the text of one without the white space at its
ends. -/
theorem isEmail_iff {text : List Char} :
    isEmail text = true ↔ ∃ address : MailAddress, Trims text address.text := by
  constructor
  · intro hemail
    have hat : '@' ∈ trim text := by
      by_contra hat
      rw [isEmail_of_notMem hat] at hemail
      cases hemail
    obtain ⟨mailbox, domain, htrim, hat⟩ := List.eq_append_cons_of_mem hat
    obtain ⟨hmailbox, hone, hpoint, hlabels⟩ := (isEmail_iff_of_split htrim hat).mp hemail
    obtain ⟨address, haddress⟩ := MailAddress.exists_text_eq hmailbox hat hone hpoint hlabels
    exact ⟨address, trims_iff.mpr (htrim.trans haddress.symm)⟩
  · rintro ⟨address, htrims⟩
    refine (isEmail_iff_of_split htrims.trim_eq address.at_notMem_mailbox).mpr ?_
    refine ⟨address.mailbox_ne_nil, address.at_notMem_domain, address.point_mem_domain, ?_⟩
    rw [address.labels_domain]
    exact address.label_ne_nil

/-- A text passes as a mail address exactly if what it is without the white space at its ends is the
text of a mail address, whose parts it then determines. -/
theorem accepts_exactly_addresses (text : List Char) :
    (isEmail text = true ↔ ∃ address : MailAddress, Trims text address.text) ∧
      ∀ left right : MailAddress, Trims text left.text → Trims text right.text → left = right := by
  refine ⟨isEmail_iff, ?_⟩
  intro left right hleft hright
  exact MailAddress.text_injective (hleft.trim_eq.symm.trans hright.trim_eq)

/-- White space is left out at the ends only, and a point in the mailbox ends no label. -/
theorem accepts_exactly_addresses_spaced :
    let text := "\u3000 j. doe@mail .example\n".toList
    let address : MailAddress :=
      { mailbox := "j. doe".toList, labels := ["mail ".toList, "example".toList],
        mailbox_ne_nil := by decide, at_notMem_mailbox := by decide,
        two_le_length_labels := by decide, label_ne_nil := by decide,
        at_notMem_label := by decide, point_notMem_label := by decide }
    Trims text address.text ∧ isEmail text = true ∧
      ∃! address : MailAddress, Trims text address.text := by
  intro text address
  have htrims : Trims text address.text := trims_iff.mpr (by decide)
  obtain ⟨hpasses, hunique⟩ := accepts_exactly_addresses text
  refine ⟨htrims, hpasses.mpr ⟨address, htrims⟩, address, htrims, ?_⟩
  intro other hother
  exact hunique other address hother htrims

example : isEmail "a@b@c.com".toList = false ∧ isEmail "a@b..c".toList = false ∧
    isEmail "a@b.".toList = false := by decide

end QueryShape.Text
