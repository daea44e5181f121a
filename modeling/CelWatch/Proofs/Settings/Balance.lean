import CelWatch.Proofs.Settings.Declared
import CelWatch.Proofs.Settings.Spelling

/-!
The parentheses of types. A written form closes all that it opens and nothing
else, so a text whose parentheses do not match is no type, and an entry with
such a text declares nothing. The exception is a text that only closes: without
a parenthesis to open it is taken for the name of a message, whatever it holds.
-/

namespace CelWatch.TypeText

open Text

/-- Every parenthesis that is opened is closed behind it, and no other is. -/
structure Balanced (text : List Char) : Prop where
  front : ∀ front, front <+: text → front.count ')' ≤ front.count '('
  total : text.count '(' = text.count ')'

section Balance

variable {depth : Nat} {text core : List Char} {ty : Ty}

theorem front_concat {last : Char} (h : ∀ front, front <+: text → front.count ')' ≤ front.count '(')
    (hwhole : (text ++ [last]).count ')' ≤ (text ++ [last]).count '(') :
    ∀ front, front <+: text ++ [last] → front.count ')' ≤ front.count '(' := by
  intro front hfront
  rcases List.prefix_concat_iff.mp hfront with rfl | hshorter
  · exact hwhole
  · exact h front hshorter

theorem Leaves.whole (h : Leaves depth text) : text.count ')' ≤ text.count '(' := by
  have htotal := h.total
  omega

/-- What leaves parentheses open closes none too early. -/
theorem Leaves.front (h : Leaves depth text) :
    ∀ front, front <+: text → front.count ')' ≤ front.count '(' := by
  induction h with
  | nil =>
      intro front hfront
      rw [List.prefix_nil.mp hfront]
      exact Nat.le_refl _
  | opening h ih => exact front_concat ih h.opening.whole
  | closing h ih => exact front_concat ih h.closing.whole
  | char h hparen hcomma ih => exact front_concat ih (h.char hparen hcomma).whole

theorem Leaves.balanced (h : Leaves 0 text) : Balanced text :=
  ⟨h.front, h.total⟩

theorem balanced_of_not_mem (hopen : '(' ∉ text) (hclose : ')' ∉ text) : Balanced text := by
  have hnone : ∀ front, front <+: text → front.count ')' = 0 := fun front hfront =>
    List.count_eq_zero.mpr fun member => hclose (hfront.subset member)
  constructor
  · intro front hfront
    rw [hnone front hfront]
    exact Nat.zero_le _
  · rw [hnone text List.prefix_rfl, List.count_eq_zero.mpr hopen]

theorem mem_of_padded {c : Char} (h : Padded text core) (hblank : isBlank c = false) :
    c ∈ text ↔ c ∈ core := by
  obtain ⟨front, back, rfl, hfront, hback⟩ := h
  have hedges : c ∉ front ∧ c ∉ back :=
    ⟨fun member => Bool.false_ne_true (hblank.symm.trans (hfront c member)),
      fun member => Bool.false_ne_true (hblank.symm.trans (hback c member))⟩
  simp [hedges]

/-- Only without a parenthesis to open can a text be read as a type when its
parentheses do not match. -/
theorem parse_unbalanced_iff (h : ¬ Balanced text) :
    parse text = .ok ty ↔ '(' ∉ text ∧ ty = .message (String.ofList (trim text)) := by
  have hmem := fun c => mem_of_padded (c := c) (padded_trim text)
  constructor
  · intro hparse
    rcases spellsAlone_of_parse hparse with hspells | ⟨_, hopen, hmessage⟩
    · exact absurd (hspells.leaves.padded (padded_trim text)).balanced h
    · exact ⟨fun member => hopen ((hmem '(' rfl).mp member), hmessage⟩
  · rintro ⟨hopen, rfl⟩
    have hclose : ')' ∈ trim text := by
      by_contra hnone
      exact h (balanced_of_not_mem hopen fun member => hnone ((hmem ')' rfl).mp member))
    have hother : String.ofList (trim text) ∉ basics.map Prod.fst := by
      intro member
      obtain ⟨entry, hentry, hname⟩ := List.mem_map.mp member
      have hplain := word_plain (word_of_basic hentry) ')'
      rw [hname, String.toList_ofList] at hplain
      exact hplain hclose (by decide)
    have hname : IsMessageName (trim text) :=
      ⟨List.ne_nil_of_mem hclose, trimmed_trim text, hother⟩
    have halone : SpellsAlone (trim text) (.message (String.ofList (trim text))) :=
      .inr ⟨hname, fun member => hopen ((hmem '(' rfl).mpr member), rfl⟩
    have hnone : (trim text).count '(' = 0 :=
      List.count_eq_zero.mpr fun member => hopen ((hmem '(' rfl).mpr member)
    exact halone.parse (opensAtMost_of_count_le (by omega)) (padded_trim text)

end Balance

/-- A text whose parentheses do not match is read as a type exactly if it opens
none, and then as the name of a message. With one to open it is refused, and an
entry of the settings with the text declares nothing: beside the warning the
environment is that of the other entries. -/
theorem unbalanced_refused {text : String} (h : ¬ Balanced text.toList) :
    (∀ ty, ofString text = .ok ty ↔
      '(' ∉ text.toList ∧ ty = .message (String.ofList (trim text.toList))) ∧
    ('(' ∈ text.toList → ∃ cause, ofString text = .error cause ∧
      ∀ (settings : Settings) (given : EnvironmentSettings) (name : String)
        (before after : List (String × String)),
        let built :=
          (settings.withVariables given (before ++ (name, text) :: after)).environmentWithWarnings
        built.1 = (settings.withVariables given (before ++ after)).environmentWithWarnings.1 ∧
          .badVariable name cause ∈ built.2) := by
  refine ⟨fun ty => parse_unbalanced_iff h, fun hopen => ?_⟩
  cases hread : ofString text with
  | ok ty => exact absurd hopen ((parse_unbalanced_iff h).mp hread).1
  | error cause =>
      refine ⟨cause, rfl, ?_⟩
      intro settings given name before after
      exact settings.environment_of_refused given before after hread

/-- A type with one parenthesis too many behind it, between two good entries. -/
theorem unbalanced_refused_closing :
    let built := (Settings.default.withVariables ⟨none, none, none⟩
      [("a", "int"), ("v", "list(int))"), ("b", "bool")]).environmentWithWarnings
    ¬ Balanced "list(int))".toList ∧ '(' ∈ "list(int))".toList ∧
      ∃ cause, ofString "list(int))" = .error cause ∧
        built.1 = (Settings.default.withVariables ⟨none, none, none⟩
          [("a", "int"), ("b", "bool")]).environmentWithWarnings.1 ∧
        .badVariable "v" cause ∈ built.2 := by
  intro built
  have hbalance : ¬ Balanced "list(int))".toList := fun h => absurd h.total (by decide)
  have hopen : '(' ∈ "list(int))".toList := by decide
  obtain ⟨cause, hcause, hentry⟩ := (unbalanced_refused hbalance).2 hopen
  have hbuilt := hentry .default ⟨none, none, none⟩ "v" [("a", "int")] [("b", "bool")]
  exact ⟨hbalance, hopen, cause, hcause, hbuilt⟩

/-- A name with a parenthesis behind it is a type, and a variable has it. -/
theorem closing_parenthesis_read :
    let built := (Settings.default.withVariables ⟨none, none, none⟩
      [("v", "int)")]).environmentWithWarnings
    ¬ Balanced "int)".toList ∧ ofString "int)" = .ok (.message "int)") ∧
      built.1.variableType? "v" = some (.message "int)") := by
  intro built
  have hbalance : ¬ Balanced "int)".toList := fun h => absurd h.total (by decide)
  have htrim : trim "int)".toList = "int)".toList := by decide
  have hread : ofString "int)" = .ok (.message "int)") := by
    rw [ofString, parse_unbalanced_iff hbalance, htrim, String.ofList_toList]
    exact ⟨by decide, rfl⟩
  have hbuilt : built = _ := Settings.environmentWithWarnings_withVariables _ _ _
  have hdeclared : [("v", "int)")].filterMap Settings.declared? = [("v", .message "int)")] := by
    simp [Settings.declared?, hread]
  refine ⟨hbalance, hread, ?_⟩
  rw [hbuilt, hdeclared]
  simp [Environment.declareAll, Environment.declare, Environment.variableType?]

end CelWatch.TypeText
