import Mathlib.Algebra.GroupWithZero.Nat
import Mathlib.Data.List.Infix
import CelWatch.Proofs.Settings.Balance

/-!
Where parameters are cut. A comma is an outer one if as many parentheses are
opened as closed in front of it. Parameters are refused if a parenthesis is
closed that was not opened or if 2 ^ 31 are open at once, and else they are cut
at the outer commas and nowhere else.
-/

namespace CelWatch.TypeText

open Text

/-- At some place more parentheses are closed than opened. -/
def Overclosed (text : List Char) : Prop :=
  ∃ front, front <+: text ∧ front.count '(' < front.count ')'

instance (text : List Char) : Decidable (Overclosed text) :=
  decidable_of_iff (∃ front ∈ text.inits, front.count '(' < front.count ')')
    (by simp [Overclosed, List.mem_inits])

/-- Between `front` and `rest` stands a comma that is in no parentheses. -/
structure OuterComma (text front rest : List Char) : Prop where
  split : text = front ++ ',' :: rest
  level : front.count '(' = front.count ')'

/-- `front` holds some of the pieces and `rest` the others. -/
def CutBetween (pieces : List (List Char)) (front rest : List Char) : Prop :=
  ∃ before after, before ≠ [] ∧ after ≠ [] ∧ pieces = before ++ after ∧
    [','].intercalate before = front ∧ [','].intercalate after = rest

/-- The pieces of a text that is cut at its outer commas, at each of them and
nowhere else. Only the last piece may leave parentheses open. -/
structure OuterPieces (text : List Char) (pieces : List (List Char)) : Prop where
  ne_nil : pieces ≠ []
  joined : [','].intercalate pieces = text
  cut_iff : ∀ front rest, CutBetween pieces front rest ↔ OuterComma text front rest
  balanced : ∀ piece ∈ pieces.dropLast, Balanced piece
  front : ∀ piece ∈ pieces, ¬ Overclosed piece

section Leaves

variable {depth : Nat} {text front rest : List Char} {c : Char}

theorem not_overclosed_iff :
    ¬ Overclosed text ↔ ∀ front, front <+: text → front.count ')' ≤ front.count '(' := by
  simp [Overclosed]

theorem outerComma_concat (h : OuterComma (text ++ [c]) front rest) :
    c = ',' ∧ text.count '(' = text.count ')' ∨ ∃ rest, OuterComma text front rest := by
  obtain ⟨hsplit, hlevel⟩ := h
  rcases List.eq_nil_or_concat' rest with rfl | ⟨rest, last, rfl⟩
  · obtain ⟨rfl, hc⟩ := List.append_inj' hsplit rfl
    exact .inl ⟨List.singleton_inj.mp hc, hlevel⟩
  · rw [← List.cons_append, ← List.append_assoc] at hsplit
    exact .inr ⟨rest, (List.append_inj' hsplit rfl).1, hlevel⟩

theorem not_outerComma_concat (h : ∀ rest, ¬ OuterComma text front rest)
    (hcomma : c = ',' → text.count '(' ≠ text.count ')') (rest : List Char) :
    ¬ OuterComma (text ++ [c]) front rest := by
  intro hlast
  rcases outerComma_concat hlast with ⟨hc, hlevel⟩ | ⟨shorter, hearlier⟩
  · exact hcomma hc hlevel
  · exact h shorter hearlier

theorem Leaves.not_outerComma (h : Leaves depth text) (front rest : List Char) :
    ¬ OuterComma text front rest := by
  induction h generalizing rest with
  | nil =>
      intro hcomma
      simpa using hcomma.split
  | opening _ ih => exact not_outerComma_concat ih (by simp) rest
  | closing _ ih => exact not_outerComma_concat ih (by simp) rest
  | char h _ hinside ih =>
      refine not_outerComma_concat ih (fun hc hlevel => hinside hc ?_) rest
      have htotal := h.total
      omega

/-- What is read since the last cut, said by counting. -/
theorem leaves_iff :
    Leaves depth text ↔ ¬ Overclosed text ∧ text.count '(' = text.count ')' + depth ∧
      ∀ front rest, ¬ OuterComma text front rest := by
  refine ⟨fun h => ⟨not_overclosed_iff.mpr h.front, h.total, h.not_outerComma⟩, ?_⟩
  rintro ⟨hfront, htotal, hcomma⟩
  rw [not_overclosed_iff] at hfront
  induction text using List.reverseRecOn generalizing depth with
  | nil =>
      obtain rfl : depth = 0 := by simpa using htotal.symm
      exact .nil
  | append_singleton text c ih =>
      have hearlier : ∀ front, front <+: text → front.count ')' ≤ front.count '(' :=
        fun front hshorter => hfront front (hshorter.trans (List.prefix_append text [c]))
      have hnone : ∀ front rest, ¬ OuterComma text front rest := by
        rintro front rest ⟨rfl, hlevel⟩
        exact hcomma front (rest ++ [c]) ⟨by simp, hlevel⟩
      have hwhole := hearlier text List.prefix_rfl
      rw [count_concat, count_concat] at htotal
      by_cases hopen : c = '('
      · subst hopen
        rw [if_pos rfl, if_neg (by decide)] at htotal
        obtain ⟨outer, rfl⟩ : ∃ outer, depth = outer + 1 := ⟨depth - 1, by omega⟩
        exact (ih hearlier (by omega) hnone).opening
      · by_cases hclose : c = ')'
        · subst hclose
          rw [if_neg (by decide), if_pos rfl] at htotal
          exact (ih hearlier (by omega) hnone).closing
        · rw [if_neg hopen, if_neg hclose] at htotal
          refine (ih hearlier htotal hnone).char (by simp [hopen, hclose]) ?_
          rintro rfl rfl
          exact hcomma text [] ⟨rfl, htotal⟩

end Leaves

section Pieces

variable {depth : Nat} {text front rest first : List Char} {pieces : List (List Char)}

theorem cutBetween_cons (hmore : pieces ≠ []) :
    CutBetween (first :: pieces) front rest ↔
      (front = first ∧ rest = [','].intercalate pieces) ∨
        ∃ later, front = first ++ ',' :: later ∧ CutBetween pieces later rest := by
  constructor
  · rintro ⟨before, after, hbefore, hafter, hpieces, rfl, rfl⟩
    obtain ⟨piece, before, rfl⟩ := List.exists_cons_of_ne_nil hbefore
    obtain ⟨rfl, rfl⟩ := List.cons.inj hpieces
    by_cases hlater : before = []
    · subst hlater
      exact .inl ⟨List.intercalate_singleton, rfl⟩
    · exact .inr ⟨_, intercalate_cons first hlater, before, after, hlater, hafter, rfl, rfl, rfl⟩
  · rintro (⟨rfl, rfl⟩ | ⟨later, rfl, before, after, hbefore, hafter, rfl, rfl, rfl⟩)
    · exact ⟨[front], pieces, by simp, hmore, rfl, List.intercalate_singleton, rfl⟩
    · exact ⟨first :: before, after, by simp, hafter, rfl, intercalate_cons first hbefore, rfl⟩

theorem not_cutBetween_one : ¬ CutBetween [first] front rest := by
  rintro ⟨before, after, hbefore, hafter, hpieces, _, _⟩
  rcases List.append_eq_singleton_iff.mp hpieces.symm with ⟨hnone, _⟩ | ⟨_, hnone⟩
  · exact hbefore hnone
  · exact hafter hnone

/-- A piece has no outer comma, so the first one stands behind it. -/
theorem Leaves.outerComma_iff (h : Leaves 0 first) :
    OuterComma (first ++ ',' :: text) front rest ↔
      (front = first ∧ rest = text) ∨
        ∃ later, front = first ++ ',' :: later ∧ OuterComma text later rest := by
  have htotal := h.total
  constructor
  · rintro ⟨hsplit, hlevel⟩
    rcases List.append_eq_append_iff.mp hsplit with ⟨later, rfl, hrest⟩ | ⟨inner, rfl, hrest⟩
    · rcases List.cons_eq_append_iff.mp hrest with ⟨rfl, hbehind⟩ | ⟨later, rfl, htext⟩
      · exact .inl ⟨List.append_nil first, (List.cons.inj hbehind).2⟩
      · refine .inr ⟨later, rfl, htext, ?_⟩
        simp only [List.count_append, List.count_cons] at hlevel
        simpa [htotal] using hlevel
    · rcases List.cons_eq_append_iff.mp hrest with ⟨rfl, hbehind⟩ | ⟨inner, rfl, _⟩
      · exact .inl ⟨(List.append_nil front).symm, (List.cons.inj hbehind).2.symm⟩
      · exact absurd ⟨rfl, hlevel⟩ (h.not_outerComma front inner)
  · rintro (⟨rfl, rfl⟩ | ⟨later, rfl, rfl, hlevel⟩)
    · exact ⟨rfl, htotal⟩
    · exact ⟨by simp, by simp [List.count_append, htotal, hlevel]⟩

theorem OuterPieces.one (h : Leaves depth text) : OuterPieces text [text] where
  ne_nil := by simp
  joined := List.intercalate_singleton
  cut_iff front rest := iff_of_false not_cutBetween_one (h.not_outerComma front rest)
  balanced := by simp
  front := by simpa using not_overclosed_iff.mpr h.front

theorem OuterPieces.cons (hfirst : Leaves 0 first) (h : OuterPieces text pieces) :
    OuterPieces (first ++ ',' :: text) (first :: pieces) where
  ne_nil := by simp
  joined := by rw [intercalate_cons first h.ne_nil, h.joined]
  cut_iff front rest := by
    simp only [cutBetween_cons h.ne_nil, hfirst.outerComma_iff, h.joined, h.cut_iff]
  balanced := by
    rw [List.dropLast_cons_of_ne_nil h.ne_nil]
    exact List.forall_mem_cons.mpr ⟨hfirst.balanced, h.balanced⟩
  front := List.forall_mem_cons.mpr ⟨not_overclosed_iff.mpr hfirst.front, h.front⟩

theorem OuterPieces.leaves_one (h : OuterPieces text [first]) : ∃ depth, Leaves depth first := by
  obtain rfl : first = text := List.intercalate_singleton.symm.trans h.joined
  have hfront := h.front first List.mem_cons_self
  have hwhole := not_overclosed_iff.mp hfront first List.prefix_rfl
  refine ⟨first.count '(' - first.count ')', leaves_iff.mpr ⟨hfront, by omega, ?_⟩⟩
  exact fun front rest hcomma => not_cutBetween_one ((h.cut_iff front rest).mpr hcomma)

section Cons

variable (h : OuterPieces text (first :: pieces)) (hmore : pieces ≠ [])

include h hmore

theorem OuterPieces.text_eq : text = first ++ ',' :: [','].intercalate pieces := by
  rw [← intercalate_cons first hmore, h.joined]

theorem OuterPieces.leaves_first : Leaves 0 first := by
  have hbalanced := h.balanced first (by simp [List.dropLast_cons_of_ne_nil hmore])
  refine leaves_iff.mpr ⟨not_overclosed_iff.mpr hbalanced.front, hbalanced.total, ?_⟩
  -- A comma inside the first piece would be an outer one of the text, but no cut stands there.
  rintro front rest ⟨hsplit, hlevel⟩
  have hcomma : OuterComma text front (rest ++ ',' :: [','].intercalate pieces) :=
    ⟨by simp [h.text_eq hmore, hsplit], hlevel⟩
  rcases (cutBetween_cons hmore).mp ((h.cut_iff _ _).mpr hcomma) with ⟨rfl, _⟩ | ⟨later, rfl, _⟩
  · simp at hsplit
  · simp at hsplit

theorem OuterPieces.tail : OuterPieces ([','].intercalate pieces) pieces := by
  have hfirst := h.leaves_first hmore
  refine ⟨hmore, rfl, ?_, ?_, fun piece member => h.front piece (List.mem_cons_of_mem _ member)⟩
  · intro later rest
    have hcut := h.cut_iff (first ++ ',' :: later) rest
    rw [cutBetween_cons hmore, h.text_eq hmore, hfirst.outerComma_iff] at hcut
    simpa using hcut
  · intro piece member
    refine h.balanced piece ?_
    rw [List.dropLast_cons_of_ne_nil hmore]
    exact List.mem_cons_of_mem _ member

end Cons

/-- Closing what is opened and cutting at the outer commas are the same. -/
theorem cuts_iff_outerPieces : Cuts text pieces ↔ OuterPieces text pieces := by
  constructor
  · rintro ⟨rfl, before, last, depth, rfl, hbefore, hlast⟩
    induction before with
    | nil => simpa using OuterPieces.one hlast
    | cons first before ih =>
        obtain ⟨hfirst, hmore⟩ := List.forall_mem_cons.mp hbefore
        rw [List.cons_append, intercalate_cons first (by simp)]
        exact (ih hmore).cons hfirst
  · intro h
    induction pieces generalizing text with
    | nil => exact absurd rfl h.ne_nil
    | cons first pieces ih =>
        obtain rfl := h.joined
        by_cases hmore : pieces = []
        · subst hmore
          obtain ⟨depth, hfirst⟩ := h.leaves_one
          simpa using Cuts.one hfirst
        · rw [intercalate_cons first hmore]
          exact (ih (h.tail hmore)).cons (h.leaves_first hmore)

end Pieces

section Cut

variable {depth : Nat} {piece text : List Char}

/-- With no bound on the count, reading fails exactly where more is closed than
what is opened and was open before. -/
theorem exactCut?_isSome_iff :
    (exactCut? depth piece text).isSome ↔
      ∀ front, front <+: text → front.count ')' ≤ front.count '(' + depth := by
  fun_induction exactCut? depth piece text with
  | case1 => simp
  | case2 depth piece rest ih =>
      rw [ih, Lists.forall_prefix_cons]
      simp [Nat.add_assoc, Nat.add_comm 1]
  | case3 piece rest =>
      rw [Lists.forall_prefix_cons]
      exact iff_of_false (by simp) fun h => absurd (h.2 [] List.nil_prefix) (by decide)
  | case4 piece rest depth ih =>
      rw [ih, Lists.forall_prefix_cons]
      simp [← Nat.add_assoc]
  | case5 depth piece c rest _ _ hcut ih =>
      obtain ⟨rfl, rfl⟩ := hcut
      rw [Option.isSome_map, ih, Lists.forall_prefix_cons]
      simp
  | case6 depth piece c rest hopen hclose _ ih =>
      have hparen : c ≠ '(' ∧ c ≠ ')' := ⟨hopen, hclose⟩
      rw [ih, Lists.forall_prefix_cons]
      simp [hparen]

/-- A text in which nothing is closed too early has pieces. -/
theorem exists_cuts_iff : (∃ pieces, Cuts text pieces) ↔ ¬ Overclosed text := by
  have hsome : (exactCut? 0 [] text).isSome ↔ ¬ Overclosed text :=
    exactCut?_isSome_iff.trans not_overclosed_iff.symm
  rw [← hsome, Option.isSome_iff_exists]
  exact exists_congr fun pieces => ⟨Cuts.exactCut?, fun h => exactCut?_sound h .nil⟩

theorem cut?_eq_none_iff :
    cut? 0 [] text = none ↔ Overclosed text ∨ ¬ OpensAtMost (2 ^ 31 - 1) text := by
  rw [Option.eq_none_iff_forall_ne_some, ← not_iff_not]
  simp only [ne_eq, not_forall, not_not, cut?_eq_some_iff, not_or, exists_and_left, exists_cuts_iff]
  exact and_comm

theorem splitParameters_eq_error_iff {cause : TypeError} :
    splitParameters text = .error cause ↔
      (Overclosed text ∨ ¬ OpensAtMost (2 ^ 31 - 1) text) ∧
        cause = .unbalanced (String.ofList text) := by
  rw [splitParameters, ← cut?_eq_none_iff]
  cases cut? 0 [] text with
  | none => simp [eq_comm]
  | some pieces => simp

/-- One that is opened later does not make up for a parenthesis closed too early. -/
example : splitParameters "a)(b".toList = .error (.unbalanced "a)(b") := by rfl

end Cut

/-- Parameters are refused exactly if more parentheses are closed than opened in
front of some place or 2 ^ 31 more opened than closed. Otherwise they are the
pieces between the outer commas, without the blanks around them, and no other
pieces are cut like these. -/
theorem parameters_cut_exactly (text : List Char) :
    (∀ cause, splitParameters text = .error cause ↔
      (Overclosed text ∨ ¬ OpensAtMost (2 ^ 31 - 1) text) ∧
        cause = .unbalanced (String.ofList text)) ∧
    (¬ Overclosed text → OpensAtMost (2 ^ 31 - 1) text → ∃ pieces, cut? 0 [] text = some pieces ∧
      splitParameters text = .ok (pieces.map trim) ∧ OuterPieces text pieces ∧
      ∀ others, OuterPieces text others → others = pieces) := by
  refine ⟨fun cause => splitParameters_eq_error_iff, fun h hopens => ?_⟩
  obtain ⟨pieces, hcuts⟩ := exists_cuts_iff.mpr h
  have hread : cut? 0 [] text = some pieces := cut?_eq_some_iff.mpr ⟨hopens, hcuts⟩
  refine ⟨pieces, hread, by rw [splitParameters, hread], cuts_iff_outerPieces.mp hcuts, ?_⟩
  intro others hothers
  have hsame := cut?_eq_some_iff.mpr ⟨hopens, cuts_iff_outerPieces.mpr hothers⟩
  exact Option.some.inj (hsame.symm.trans hread)

/-- Nested commas, an empty parameter and one that is left open. -/
theorem parameters_cut_exactly_left_open :
    let text := " map(k,(v)) ,,list(é,x".toList
    ¬ Overclosed text ∧ OpensAtMost (2 ^ 31 - 1) text ∧
      splitParameters text = .ok ["map(k,(v))".toList, [], "list(é,x".toList] ∧
      OuterPieces text [" map(k,(v)) ".toList, [], "list(é,x".toList] := by
  intro text
  have h : ¬ Overclosed text := by decide
  have hopens : OpensAtMost (2 ^ 31 - 1) text := opensAtMost_of_count_le (by decide)
  obtain ⟨pieces, hcut, hsplit, houter, _⟩ := (parameters_cut_exactly text).2 h hopens
  have hread : cut? 0 [] text = some [" map(k,(v)) ".toList, [], "list(é,x".toList] := by decide
  obtain rfl := Option.some.inj (hcut.symm.trans hread)
  exact ⟨h, hopens, hsplit, houter⟩

section Deep

variable {depth : Nat}

theorem not_overclosed_replicate (depth : Nat) : ¬ Overclosed (List.replicate depth '(') := by
  refine not_overclosed_iff.mpr fun front hfront => ?_
  have hnone : front.count ')' = 0 := by
    refine List.count_eq_zero.mpr fun member => ?_
    exact absurd (List.eq_of_mem_replicate (hfront.subset member)) (by decide)
  omega

/-- Where nothing is closed, the word wraps around at 2 ^ 31. -/
theorem splitParameters_replicate (h : 2 ^ 31 ≤ depth) :
    splitParameters (List.replicate depth '(') =
      .error (.unbalanced (String.ofList (List.replicate depth '('))) := by
  refine splitParameters_eq_error_iff.mpr ⟨.inr fun hopens => ?_, rfl⟩
  have hwhole := hopens _ List.prefix_rfl
  have hnone : (List.replicate depth '(').count ')' = 0 := by simp [List.count_replicate]
  rw [List.count_replicate_self, hnone] at hwhole
  omega

end Deep

/-- So many parentheses that are all left open are refused, though none is closed. -/
theorem deep_parameters_refused :
    let text := List.replicate (2 ^ 31) '('
    ¬ Overclosed text ∧ splitParameters text = .error (.unbalanced (String.ofList text)) :=
  ⟨not_overclosed_replicate _, splitParameters_replicate (Nat.le_refl _)⟩

end CelWatch.TypeText
