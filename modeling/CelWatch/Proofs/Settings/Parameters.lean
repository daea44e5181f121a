import Mathlib.Algebra.GroupWithZero.Nat
import Mathlib.Data.List.Infix
import CelWatch.Lists
import CelWatch.Settings.TypeText

/-!
The cuts between the parameters of a constructor. What is read since the last
cut leaves some parentheses open, closes none that was not opened and holds no
comma outside of all of them. The pieces of a text are exactly the texts of this
kind that give it back with commas between them, when only the last of them
leaves something open.

The reader counts the open parentheses in a signed word of 32 bits. A count
without bound, which is easier to reason about, gives the same pieces as long as
the word holds the count, and nothing is read beyond that.
-/

namespace CelWatch.TypeText

/-- A text leaves `depth` parentheses open, with no more closed than opened at
any place and no comma outside of all. -/
inductive Leaves : (depth : Nat) → List Char → Prop where
  | nil : Leaves 0 []
  | opening {depth : Nat} {text : List Char} (h : Leaves depth text) :
      Leaves (depth + 1) (text ++ ['('])
  | closing {depth : Nat} {text : List Char} (h : Leaves (depth + 1) text) :
      Leaves depth (text ++ [')'])
  | char {depth : Nat} {text : List Char} {c : Char} (h : Leaves depth text)
      (hparen : c ∉ ['(', ')']) (hcomma : c = ',' → depth ≠ 0) : Leaves depth (text ++ [c])

section Leaves

variable {depth inner : Nat} {front text : List Char}

theorem Leaves.append (hfront : Leaves depth front) (h : Leaves inner text) :
    Leaves (depth + inner) (front ++ text) := by
  induction h with
  | nil => simpa using hfront
  | opening _ ih =>
      rw [← List.append_assoc]
      exact ih.opening
  | closing _ ih =>
      rw [← List.append_assoc]
      exact ih.closing
  | char _ hparen hcomma ih =>
      rw [← List.append_assoc]
      exact ih.char hparen fun hc hzero => hcomma hc (Nat.add_eq_zero_iff.mp hzero).2

theorem leaves_of_plain (h : ∀ c ∈ text, c ∉ ['(', ')', ',']) : Leaves 0 text := by
  induction text with
  | nil => exact .nil
  | cons c rest ih =>
      have hc := h c List.mem_cons_self
      simp only [List.mem_cons, List.not_mem_nil, or_false, not_or] at hc
      have hfirst : Leaves 0 [c] :=
        Leaves.nil.char (by simp [hc.1, hc.2.1]) fun hcomma => absurd hcomma hc.2.2
      exact hfirst.append (ih fun other member => h other (List.mem_cons_of_mem c member))

/-- Between parentheses commas are free. -/
theorem Leaves.enclosed (h : Leaves 0 text) : Leaves 0 ('(' :: text ++ [')']) :=
  (Leaves.nil.opening.append h).closing

theorem Leaves.enclosed_pair {rest : List Char} (h : Leaves 0 text) (hrest : Leaves 0 rest) :
    Leaves 0 ('(' :: (text ++ ',' :: rest) ++ [')']) := by
  have hcomma : Leaves 1 ('(' :: text ++ [',']) :=
    (Leaves.nil.opening.append h).char (by decide) fun _ => Nat.one_ne_zero
  simpa using (hcomma.append hrest).closing

/-- Without an opening parenthesis there are no closing ones and no commas. -/
theorem Leaves.plain (h : Leaves depth text) (hopen : '(' ∉ text) :
    depth = 0 ∧ ∀ c ∈ text, c ∉ ['(', ')', ','] := by
  induction h with
  | nil => simp
  | opening _ _ => simp at hopen
  | closing _ ih =>
      have hnone := (ih (mt (List.mem_append_left _) hopen)).1
      exact absurd hnone (Nat.succ_ne_zero _)
  | @char depth text c _ hparen hcomma ih =>
      obtain ⟨rfl, hplain⟩ := ih (mt (List.mem_append_left _) hopen)
      refine ⟨rfl, ?_⟩
      intro other member
      rcases List.mem_append.mp member with hbefore | hlast
      · exact hplain other hbefore
      · obtain rfl := List.mem_singleton.mp hlast
        have hother : other ≠ ',' := fun hc => hcomma hc rfl
        simpa [hother] using hparen

theorem count_concat (c : Char) (text : List Char) (last : Char) :
    (text ++ [last]).count c = text.count c + if last = c then 1 else 0 := by
  simp [List.count_append, List.count_singleton]

theorem Leaves.total (h : Leaves depth text) : text.count '(' = text.count ')' + depth := by
  induction h with
  | nil => rfl
  | opening _ ih =>
      rw [count_concat, count_concat, ih, if_pos rfl, if_neg (by decide)]
      omega
  | closing _ ih =>
      rw [count_concat, count_concat, ih, if_pos rfl, if_neg (by decide)]
      omega
  | @char depth text c _ hparen _ ih =>
      simp only [List.mem_cons, List.not_mem_nil, or_false, not_or] at hparen
      rw [count_concat, count_concat, ih, if_neg hparen.1, if_neg hparen.2]
      omega

end Leaves

section OpensAtMost

/-- At no place are more than `limit` parentheses open. -/
def OpensAtMost (limit : Nat) (text : List Char) : Prop :=
  ∀ front, front <+: text → front.count '(' ≤ front.count ')' + limit

instance (limit : Nat) (text : List Char) : Decidable (OpensAtMost limit text) :=
  decidable_of_iff (∀ front ∈ text.inits, front.count '(' ≤ front.count ')' + limit)
    (by simp [OpensAtMost, List.mem_inits])

variable {limit more : Nat} {front text back : List Char} {c : Char}

theorem OpensAtMost.mono (h : OpensAtMost limit text) (hle : limit ≤ more) :
    OpensAtMost more text := fun front hfront =>
  (h front hfront).trans (Nat.add_le_add_left hle _)

theorem opensAtMost_of_count_le (h : text.count '(' ≤ limit) : OpensAtMost limit text :=
  fun _ hfront => (hfront.sublist.count_le '(').trans (h.trans (Nat.le_add_left _ _))

theorem opensAtMost_opening : OpensAtMost (limit + 1) ('(' :: text) ↔ OpensAtMost limit text := by
  simp [OpensAtMost, Lists.forall_prefix_cons, ← Nat.add_assoc]

theorem not_opensAtMost_opening : ¬ OpensAtMost 0 ('(' :: text) := by
  simp only [OpensAtMost, Lists.forall_prefix_cons]
  rintro ⟨_, h⟩
  exact absurd (h [] List.nil_prefix) (by decide)

theorem opensAtMost_closing : OpensAtMost limit (')' :: text) ↔ OpensAtMost (limit + 1) text := by
  simp [OpensAtMost, Lists.forall_prefix_cons, Nat.add_right_comm, Nat.add_assoc]

theorem opensAtMost_char (hopen : c ≠ '(') (hclose : c ≠ ')') :
    OpensAtMost limit (c :: text) ↔ OpensAtMost limit text := by
  simp [OpensAtMost, Lists.forall_prefix_cons, hopen, hclose]

/-- What is open already counts for the text behind it. -/
theorem OpensAtMost.behind (h : OpensAtMost more (front ++ text))
    (hfront : front.count ')' + more ≤ front.count '(' + limit) : OpensAtMost limit text := by
  intro shorter hshorter
  have hwhole := h _ ((List.prefix_append_right_inj front).mpr hshorter)
  rw [List.count_append, List.count_append] at hwhole
  omega

theorem OpensAtMost.append (hfront : OpensAtMost more front) (h : OpensAtMost limit text)
    (hcount : front.count '(' + limit ≤ front.count ')' + more) :
    OpensAtMost more (front ++ text) := by
  intro whole hwhole
  rcases Lists.exists_of_prefix_append hwhole with hshort | ⟨shorter, hshorter, rfl⟩
  · exact hfront whole hshort
  · have hbehind := h shorter hshorter
    rw [List.count_append, List.count_append]
    omega

/-- What opens none does not matter behind a text. -/
theorem opensAtMost_append_iff (hback : '(' ∉ back) :
    OpensAtMost limit (text ++ back) ↔ OpensAtMost limit text := by
  constructor
  · exact fun h front hfront => h front (hfront.trans (List.prefix_append text back))
  · intro h front hfront
    rcases Lists.exists_of_prefix_append hfront with hshort | ⟨shorter, hshorter, rfl⟩
    · exact h front hshort
    · have hnone : shorter.count '(' = 0 :=
        List.count_eq_zero.mpr fun member => hback (hshorter.subset member)
      have hwhole := h text List.prefix_rfl
      rw [List.count_append, List.count_append]
      omega

end OpensAtMost

section Word

/-- Cuts at the commas under no parenthesis, with a count that has no bound. -/
def exactCut? (depth : Nat) (piece : List Char) : List Char → Option (List (List Char))
  | [] => some [piece.reverse]
  | '(' :: rest => exactCut? (depth + 1) ('(' :: piece) rest
  | ')' :: rest =>
    match depth with
    | 0 => none
    | depth + 1 => exactCut? depth (')' :: piece) rest
  | c :: rest =>
    if c = ',' ∧ depth = 0 then
      (exactCut? 0 [] rest).map (piece.reverse :: ·)
    else
      exactCut? depth (c :: piece) rest

variable {depth inner limit : Nat} {piece text rest : List Char} {c : Char}

theorem word_nonneg (h : depth < 2 ^ 31) : ¬ Int32.ofNat depth < 0 := by
  rw [Int32.lt_iff_toInt_lt, Int32.toInt_ofNat_of_lt h]
  simp

theorem word_eq_zero_iff (h : depth < 2 ^ 31) : Int32.ofNat depth = 0 ↔ depth = 0 := by
  rw [← Int32.toInt_inj, Int32.toInt_ofNat_of_lt h]
  simp

theorem countBehind_opening (depth : Nat) :
    countBehind (Int32.ofNat depth) '(' = Int32.ofNat (depth + 1) :=
  (Int32.ofNat_add depth 1).symm

theorem countBehind_closing (depth : Nat) :
    countBehind (Int32.ofNat (depth + 1)) ')' = Int32.ofNat depth := by
  rw [Int32.ofNat_add]
  exact Int32.add_sub_cancel _ 1

/-- Where no cut is made, reading goes on with the next count if that fits. -/
theorem cut?_cons {depth : Int32} (hcut : ¬ (c = ',' ∧ depth = 0))
    (hnext : countBehind depth c = Int32.ofNat inner) (h : inner < 2 ^ 31) :
    cut? depth piece (c :: rest) = cut? (Int32.ofNat inner) (c :: piece) rest := by
  rw [cut?, if_neg hcut, hnext, if_neg (word_nonneg h)]

/-- One more than what the word holds wraps around. -/
theorem cut?_wraps (h : depth + 1 = 2 ^ 31) :
    cut? (Int32.ofNat depth) piece ('(' :: rest) = none := by
  rw [cut?, if_neg (by simp), countBehind_opening, h]
  rfl

theorem cut?_overclosed (piece rest : List Char) : cut? 0 piece (')' :: rest) = none := by
  rfl

/-- The pieces are those of a count without bound, and none where more
parentheses are open than what the word holds: `limit` more than `depth`. -/
theorem cut?_eq_some_iff_exactCut? {pieces : List (List Char)} (h : depth + limit + 1 = 2 ^ 31) :
    cut? (Int32.ofNat depth) piece text = some pieces ↔
      OpensAtMost limit text ∧ exactCut? depth piece text = some pieces := by
  fun_induction exactCut? depth piece text generalizing limit pieces with
  | case1 depth piece =>
      have hnil : OpensAtMost limit [] := opensAtMost_of_count_le (Nat.zero_le limit)
      simp [cut?, hnil]
  | case2 depth piece rest ih =>
      cases limit with
      | zero => simp [cut?_wraps h, not_opensAtMost_opening]
      | succ limit =>
          have hrest : depth + 1 + limit + 1 = 2 ^ 31 := by omega
          rw [cut?_cons (by simp) (countBehind_opening depth) (by omega), ih hrest,
            opensAtMost_opening]
  | case3 piece rest => simp [cut?_overclosed]
  | case4 piece rest depth ih =>
      have hrest : depth + (limit + 1) + 1 = 2 ^ 31 := by omega
      rw [cut?_cons (by simp) (countBehind_closing depth) (by omega), ih hrest,
        opensAtMost_closing]
  | case5 depth piece c rest _ _ hcut ih =>
      obtain ⟨rfl, rfl⟩ := hcut
      rw [cut?, if_pos ⟨rfl, rfl⟩, opensAtMost_char (by decide) (by decide)]
      simp only [Option.map_eq_some_iff]
      constructor
      · rintro ⟨later, hlater, rfl⟩
        obtain ⟨hopens, hexact⟩ := (ih h).mp hlater
        exact ⟨hopens, later, hexact, rfl⟩
      · rintro ⟨hopens, later, hexact, rfl⟩
        exact ⟨later, (ih h).mpr ⟨hopens, hexact⟩, rfl⟩
  | case6 depth piece c rest hopen hclose hcut ih =>
      have hdepth : depth < 2 ^ 31 := by omega
      have hcount : countBehind (Int32.ofNat depth) c = Int32.ofNat depth := by
        rw [countBehind, if_neg hopen, if_neg hclose]
      rw [cut?_cons (by rwa [word_eq_zero_iff hdepth]) hcount hdepth, ih h,
        opensAtMost_char hopen hclose]

theorem cut?_zero_eq_some_iff {pieces : List (List Char)} :
    cut? 0 [] text = some pieces ↔
      OpensAtMost (2 ^ 31 - 1) text ∧ exactCut? 0 [] text = some pieces :=
  @cut?_eq_some_iff_exactCut? 0 (2 ^ 31 - 1) [] text pieces (by decide)

theorem cut?_eq_exactCut? (h : OpensAtMost (2 ^ 31 - 1) text) :
    cut? 0 [] text = exactCut? 0 [] text :=
  Option.ext fun _ => cut?_zero_eq_some_iff.trans (and_iff_right h)

end Word

section Cut

variable {depth : Nat} {piece text : List Char} {c : Char}

theorem exactCut?_char (hparen : c ∉ ['(', ')']) (hcomma : c = ',' → depth ≠ 0) (rest : List Char) :
    exactCut? depth piece (c :: rest) = exactCut? depth (c :: piece) rest := by
  simp only [List.mem_cons, List.not_mem_nil, or_false, not_or] at hparen
  rw [exactCut?, if_neg fun hc => hcomma hc.1 hc.2]
  · exact hparen.1
  · exact hparen.2

theorem exactCut?_comma (piece rest : List Char) :
    exactCut? 0 piece (',' :: rest) = (exactCut? 0 [] rest).map (piece.reverse :: ·) := by
  rw [exactCut?, if_pos ⟨rfl, rfl⟩]
  · decide
  · decide

/-- What leaves parentheses open is read on as one piece. -/
theorem Leaves.exactCut? (h : Leaves depth text) (rest : List Char) :
    exactCut? 0 [] (text ++ rest) = TypeText.exactCut? depth text.reverse rest := by
  induction h generalizing rest with
  | nil => rfl
  | opening _ ih =>
      rw [List.append_assoc, ih, List.reverse_append]
      rfl
  | closing _ ih =>
      rw [List.append_assoc, ih, List.reverse_append]
      rfl
  | char _ hparen hcomma ih =>
      rw [List.append_assoc, ih, List.reverse_append]
      exact exactCut?_char hparen hcomma rest

/-- The pieces of a text that is read from within a piece: all of them but the
last close what they open. -/
structure Cuts (text : List Char) (pieces : List (List Char)) : Prop where
  joined : [','].intercalate pieces = text
  split : ∃ before last depth, pieces = before ++ [last] ∧ (∀ piece ∈ before, Leaves 0 piece) ∧
    Leaves depth last

theorem Cuts.one (h : Leaves depth text) : Cuts text [text] :=
  ⟨by simp [List.intercalate], [], text, depth, rfl, by simp, h⟩

theorem Cuts.leaves {pieces : List (List Char)} (h : Cuts text pieces) :
    ∀ piece ∈ pieces, ∃ depth, Leaves depth piece := by
  obtain ⟨before, last, depth, rfl, hbefore, hlast⟩ := h.split
  intro piece member
  rcases List.mem_append.mp member with hearlier | hend
  · exact ⟨0, hbefore piece hearlier⟩
  · obtain rfl := List.mem_singleton.mp hend
    exact ⟨depth, hlast⟩

theorem intercalate_cons (first : List Char) {pieces : List (List Char)} (h : pieces ≠ []) :
    [','].intercalate (first :: pieces) = first ++ ',' :: [','].intercalate pieces := by
  obtain ⟨second, pieces, rfl⟩ := List.exists_cons_of_ne_nil h
  simp [List.intercalate]

theorem Cuts.cons {pieces : List (List Char)} (hpiece : Leaves 0 piece) (h : Cuts text pieces) :
    Cuts (piece ++ ',' :: text) (piece :: pieces) := by
  obtain ⟨before, last, depth, rfl, hbefore, hlast⟩ := h.split
  refine ⟨?_, piece :: before, last, depth, rfl, ?_, hlast⟩
  · rw [intercalate_cons piece (by simp), h.joined]
  · intro other member
    rcases List.mem_cons.mp member with rfl | hlater
    · exact hpiece
    · exact hbefore other hlater

theorem exactCut?_sound {pieces : List (List Char)} (h : exactCut? depth piece text = some pieces)
    (hpiece : Leaves depth piece.reverse) : Cuts (piece.reverse ++ text) pieces := by
  fun_induction TypeText.exactCut? depth piece text generalizing pieces with
  | case1 depth piece =>
      obtain rfl := Option.some.inj h
      exact ⟨by simp [List.intercalate], [], _, depth, rfl, by simp, hpiece⟩
  | case2 depth piece rest ih =>
      have hcuts := ih h (by simpa using hpiece.opening)
      simpa using hcuts
  | case3 => cases h
  | case4 piece rest depth ih =>
      have hcuts := ih h (by simpa using hpiece.closing)
      simpa using hcuts
  | case5 depth piece c rest hopen hclose hcut ih =>
      obtain ⟨rfl, rfl⟩ := hcut
      obtain ⟨later, hlater, rfl⟩ := Option.map_eq_some_iff.mp h
      exact Cuts.cons hpiece (ih hlater .nil)
  | case6 depth piece c rest hopen hclose hcut ih =>
      have hc : Leaves depth (piece.reverse ++ [c]) := by
        refine hpiece.char ?_ fun hcomma hdepth => hcut ⟨hcomma, hdepth⟩
        simpa using ⟨hopen, hclose⟩
      have hcuts := ih h (by simpa using hc)
      simpa using hcuts

theorem Cuts.exactCut? {pieces : List (List Char)} (h : Cuts text pieces) :
    exactCut? 0 [] text = some pieces := by
  obtain ⟨rfl, before, last, depth, rfl, hbefore, hlast⟩ := h
  induction before with
  | nil =>
      have hread := hlast.exactCut? []
      simpa [List.intercalate, TypeText.exactCut?] using hread
  | cons first before ih =>
      obtain ⟨hfirst, hmore⟩ := List.forall_mem_cons.mp hbefore
      rw [List.cons_append, intercalate_cons first (by simp), hfirst.exactCut?, exactCut?_comma, ih hmore,
        List.reverse_reverse]
      rfl

/-- A text has the pieces it is made of, unless too many parentheses are open. -/
theorem cut?_eq_some_iff {pieces : List (List Char)} :
    cut? 0 [] text = some pieces ↔ OpensAtMost (2 ^ 31 - 1) text ∧ Cuts text pieces :=
  cut?_zero_eq_some_iff.trans
    (and_congr_right fun _ => ⟨fun h => exactCut?_sound h .nil, Cuts.exactCut?⟩)

theorem splitParameters_eq_ok_iff {parameters : List (List Char)} :
    splitParameters text = .ok parameters ↔ OpensAtMost (2 ^ 31 - 1) text ∧
      ∃ pieces, Cuts text pieces ∧ parameters = pieces.map Text.trim := by
  constructor
  · intro h
    unfold splitParameters at h
    split at h
    · cases h
    · next pieces hcut =>
        obtain ⟨hopens, hcuts⟩ := cut?_eq_some_iff.mp hcut
        exact ⟨hopens, pieces, hcuts, (Except.ok.inj h).symm⟩
  · rintro ⟨hopens, pieces, hcuts, rfl⟩
    rw [splitParameters, cut?_eq_some_iff.mpr ⟨hopens, hcuts⟩]

end Cut

end CelWatch.TypeText
