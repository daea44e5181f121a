import CelWatch.Proofs.Template.Interpolation

/-!
The scans of a template with a guard on every access. The scans go over the
bytes by index, and an index may come to stand inside a character or past the
end; no result at all stands for a byte that is not there, a cut inside a
character or out of order, and a count taken below zero. Whatever the text, the
guards let everything pass: a slice is only taken between two braces, and their
bytes occur in no other character.
-/

namespace CelWatch.Template

open Text

/-- The bytes from an index on. -/
def bytesFrom? (bytes : List UInt8) (i : Nat) : Option (List UInt8) :=
  if i ≤ bytes.length then some (bytes.drop i) else none

/-- The count before another; zero has none. -/
def before? : Nat → Option Nat
  | 0 => none
  | n + 1 => some n

/-- What a byte means to the scan: it is the brace looked for, or the scan goes
on behind it and `passed` more bytes. -/
inductive Step where
  | closed
  | onward (quote : Option UInt8) (depth passed : Nat)

/-- What a byte means inside `quote` (if any) and under `depth` open braces. -/
def guardedStep : (quote : Option UInt8) → (depth : Nat) → UInt8 → Option Step
  | some mark, depth, b =>
    if b = backslash then some (.onward (some mark) depth 1)
    else if b = mark then some (.onward none depth 0)
    else some (.onward (some mark) depth 0)
  | none, depth, b =>
    if isQuote b then some (.onward (some b) depth 0)
    else if b = openBrace then some (.onward none (depth + 1) 0)
    else if b = closeBrace then
      if depth = 0 then some .closed
      else (before? depth).map (.onward none · 0)
    else some (.onward none depth 0)

/-- The index of the brace that closes a body, read from byte `j` on. -/
def guardedClosing (bytes : List UInt8) (quote : Option UInt8) (depth j : Nat) :
    Option (Option Nat) :=
  if j < bytes.length then
    match bytes[j]?.bind (guardedStep quote depth) with
    | none => none
    | some .closed => some (some j)
    | some (.onward quote depth passed) => guardedClosing bytes quote depth (j + 1 + passed)
  else
    some none
termination_by bytes.length - j

section Closing

variable {bytes rest : List UInt8} {quote : Option UInt8} {b mark : UInt8} {depth j : Nat}

/-- What the scan finds by a step, given the bytes behind the one it read. -/
def Step.found? (step : Step) (rest : List UInt8) : Option Nat :=
  match step with
  | .closed => some 0
  | .onward quote depth passed => (closing? quote depth (rest.drop passed)).map (· + (passed + 1))

/-- A backslash passes over the byte behind it also where there is none. -/
theorem closing?_escape :
    closing? (some mark) depth (backslash :: rest) =
      (Step.onward (some mark) depth 1).found? rest := by
  cases rest with
  | nil => simp [closing?, Step.found?]
  | cons next rest =>
      rw [closing?, if_pos rfl]
      rfl

theorem closing?_end_inside (h : mark ≠ backslash) :
    closing? (some mark) depth (mark :: rest) = (closing? none depth rest).map (· + 1) := by
  cases rest with
  | nil => simp [closing?]
  | cons next rest => rw [closing?, if_neg h, if_pos rfl]

/-- A step is always defined: a brace is only counted off where one is open. -/
theorem guardedStep_spec (quote : Option UInt8) (depth : Nat) (b : UInt8) :
    ∃ step, guardedStep quote depth b = some step ∧
      ∀ rest, closing? quote depth (b :: rest) = step.found? rest := by
  cases quote with
  | some mark =>
      rw [guardedStep]
      by_cases hescape : b = backslash
      · subst hescape
        exact ⟨_, if_pos rfl, fun rest => closing?_escape⟩
      · rw [if_neg hescape]
        by_cases hend : b = mark
        · subst hend
          exact ⟨_, if_pos rfl, fun rest => closing?_end_inside hescape⟩
        · exact ⟨_, if_neg hend, fun rest => closing?_inside hescape hend⟩
  | none =>
      rw [guardedStep]
      by_cases hquote : isQuote b = true
      · exact ⟨_, if_pos hquote, fun rest => closing?_quote_byte hquote⟩
      · rw [if_neg hquote]
        by_cases hopen : b = openBrace
        · subst hopen
          exact ⟨_, if_pos rfl, fun rest => closing?_open_byte⟩
        · rw [if_neg hopen]
          by_cases hclose : b = closeBrace
          · subst hclose
            rw [if_pos rfl]
            cases depth with
            | zero => exact ⟨_, if_pos rfl, fun rest => closing?_end_byte⟩
            | succ outer =>
                exact ⟨_, if_neg (Nat.succ_ne_zero outer), fun rest => closing?_close_byte⟩
          · exact ⟨_, if_neg hclose,
              fun rest => closing?_plain_byte (Bool.eq_false_iff.mpr hquote) hopen hclose⟩

theorem exists_step (h : j < bytes.length) (quote : Option UInt8) (depth : Nat) :
    ∃ step, bytes[j]?.bind (guardedStep quote depth) = some step ∧
      closing? quote depth (bytes.drop j) = step.found? (bytes.drop (j + 1)) := by
  obtain ⟨step, hstep, hfound⟩ := guardedStep_spec quote depth bytes[j]
  refine ⟨step, ?_, ?_⟩
  · rw [List.getElem?_eq_getElem h]
    exact hstep
  · rw [List.drop_eq_getElem_cons h]
    exact hfound _

/-- By index the scan finds what it finds in the bytes from there on. -/
theorem guardedClosing_eq :
    guardedClosing bytes quote depth j =
      some ((closing? quote depth (bytes.drop j)).map (j + ·)) := by
  fun_induction guardedClosing bytes quote depth j with
  | case1 quote depth j hlt hfault =>
      obtain ⟨step, hstep, _⟩ := exists_step hlt quote depth
      cases hstep.symm.trans hfault
  | case2 quote depth j hlt hclosed =>
      obtain ⟨step, hstep, hfound⟩ := exists_step hlt quote depth
      obtain rfl : step = .closed := Option.some.inj (hstep.symm.trans hclosed)
      rw [hfound]
      rfl
  | case3 quote depth j hlt inside level passed honward ih =>
      obtain ⟨step, hstep, hfound⟩ := exists_step hlt quote depth
      obtain rfl : step = .onward inside level passed := Option.some.inj (hstep.symm.trans honward)
      rw [ih, hfound, Step.found?, Option.map_map, List.drop_drop]
      congr 2
      funext length
      simp only [Function.comp_apply]
      omega
  | case4 quote depth j hend =>
      rw [List.drop_eq_nil_of_le (Nat.le_of_not_lt hend), closing?]
      rfl

end Closing

set_option linter.unusedVariables false in
/-- The regions of a template from byte `i` on. -/
def guardedRegions (text : String) (i : Nat) : Option (Except TemplateError (List Region)) :=
  if i < (bytesOf text).length then
    match bytesFrom? (bytesOf text) i with
    | none => none
    | some bytes =>
      if [dollar, dollar, openBrace].isPrefixOf bytes then guardedRegions text (i + 3)
      else if [dollar, openBrace].isPrefixOf bytes then
        match hclosing : guardedClosing (bytesOf text) none 0 (i + 2) with
        | none => none
        | some none => some (.error (.unterminated i))
        | some (some stop) =>
          match slice? text.toList ⟨i + 2, stop⟩ with
          | none => none
          | some source =>
            (guardedRegions text (stop + 1)).map
              (·.map (⟨String.ofList source, i + 2⟩ :: ·))
      else guardedRegions text (i + 1)
  else
    some (.ok [])
termination_by (bytesOf text).length - i
decreasing_by
  · omega
  · rw [guardedClosing_eq] at hclosing
    obtain ⟨length, _, rfl⟩ := Option.map_eq_some_iff.mp (Option.some.inj hclosing)
    omega
  · omega

section Regions

variable {text : String} {i stop : Nat}

/-- The regions that the scan finds from byte `i` on. -/
def regionsFrom (text : String) (i : Nat) : Except TemplateError (List Region) :=
  (spansFrom i ((bytesOf text).drop i)).map fun spans =>
    spans.map fun span => ⟨slice text.toList span, span.start⟩

theorem regionsFrom_end (h : (bytesOf text).length ≤ i) : regionsFrom text i = .ok [] := by
  rw [regionsFrom, List.drop_eq_nil_of_le h, spansFrom]
  rfl

section Reading

variable {bytes : List UInt8} (hbytes : bytesFrom? (bytesOf text) i = some bytes)
  (hlt : i < (bytesOf text).length)

include hbytes hlt

theorem bytesFrom?_cons :
    bytes = (bytesOf text).drop i ∧
      ∃ b, (bytesOf text).drop i = b :: (bytesOf text).drop (i + 1) := by
  rw [bytesFrom?, if_pos (Nat.le_of_lt hlt)] at hbytes
  exact ⟨(Option.some.inj hbytes).symm, _, List.drop_eq_getElem_cons hlt⟩

theorem regionsFrom_escaped (hescaped : [dollar, dollar, openBrace].isPrefixOf bytes = true) :
    regionsFrom text i = regionsFrom text (i + 3) := by
  obtain ⟨rfl, b, hcons⟩ := bytesFrom?_cons hbytes hlt
  rw [hcons] at hescaped
  rw [regionsFrom, hcons, spansFrom, if_pos hescaped, List.drop_drop]
  rfl

theorem regionsFrom_plain (hescaped : ¬ [dollar, dollar, openBrace].isPrefixOf bytes = true)
    (hopen : ¬ [dollar, openBrace].isPrefixOf bytes = true) :
    regionsFrom text i = regionsFrom text (i + 1) := by
  obtain ⟨rfl, b, hcons⟩ := bytesFrom?_cons hbytes hlt
  rw [hcons] at hescaped hopen
  rw [regionsFrom, hcons, spansFrom, if_neg hescaped, if_neg hopen]
  rfl

theorem regionsFrom_unterminated
    (hescaped : ¬ [dollar, dollar, openBrace].isPrefixOf bytes = true)
    (hopen : [dollar, openBrace].isPrefixOf bytes = true)
    (hclosing : guardedClosing (bytesOf text) none 0 (i + 2) = some none) :
    regionsFrom text i = .error (.unterminated i) := by
  obtain ⟨rfl, b, hcons⟩ := bytesFrom?_cons hbytes hlt
  rw [hcons] at hescaped hopen
  rw [guardedClosing_eq, Option.some_inj, Option.map_eq_none_iff] at hclosing
  rw [regionsFrom, hcons, spansFrom, if_neg hescaped, if_pos hopen, List.drop_drop, hclosing]
  rfl

/-- Between its marks a body can be cut out. -/
theorem regionsFrom_opened (hescaped : ¬ [dollar, dollar, openBrace].isPrefixOf bytes = true)
    (hopen : [dollar, openBrace].isPrefixOf bytes = true)
    (hclosing : guardedClosing (bytesOf text) none 0 (i + 2) = some (some stop)) :
    ∃ source, slice? text.toList ⟨i + 2, stop⟩ = some source ∧
      regionsFrom text i =
        (regionsFrom text (stop + 1)).map (⟨String.ofList source, i + 2⟩ :: ·) := by
  obtain ⟨rfl, b, hcons⟩ := bytesFrom?_cons hbytes hlt
  rw [guardedClosing_eq, Option.some_inj] at hclosing
  obtain ⟨length, hlength, rfl⟩ := Option.map_eq_some_iff.mp hclosing
  have hcloses : Closes text i (i + 2 + length) :=
    (closing?_drop_iff (marks_iff.mp hopen).2).mp hlength
  have hcovers := @covers_of_closes text i ⟨i + 2, i + 2 + length⟩ rfl hcloses
  have hsource := hcovers.1.source
  refine ⟨_, hsource, ?_⟩
  have hlater : ((bytesOf text).drop (i + 2)).drop (length + 1) =
      (bytesOf text).drop (i + 2 + length + 1) := by
    rw [List.drop_drop, Nat.add_assoc (i + 2)]
  rw [hcons] at hescaped hopen
  rw [regionsFrom, hcons, spansFrom, if_neg hescaped, if_pos hopen, List.drop_drop, hlength]
  simp only [hlater, regionsFrom, String.ofList_toList]
  cases spansFrom (i + 2 + length + 1) ((bytesOf text).drop (i + 2 + length + 1)) with
  | error cause => rfl
  | ok spans => rfl

end Reading

theorem guardedRegions_eq : guardedRegions text i = some (regionsFrom text i) := by
  fun_induction guardedRegions text i with
  | case1 i hlt hfault =>
      rw [bytesFrom?, if_pos (Nat.le_of_lt hlt)] at hfault
      cases hfault
  | case2 i hlt bytes hbytes hescaped ih => rw [ih, regionsFrom_escaped hbytes hlt hescaped]
  | case3 i hlt bytes hbytes hescaped hopen hfault =>
      rw [guardedClosing_eq] at hfault
      cases hfault
  | case4 i hlt bytes hbytes hescaped hopen hclosing =>
      rw [regionsFrom_unterminated hbytes hlt hescaped hopen hclosing]
  | case5 i hlt bytes hbytes hescaped hopen stop hclosing hfault =>
      obtain ⟨source, hsource, _⟩ := regionsFrom_opened hbytes hlt hescaped hopen hclosing
      cases hsource.symm.trans hfault
  | case6 i hlt bytes hbytes hescaped hopen stop hclosing source hsource ih =>
      obtain ⟨body, hbody, hregions⟩ := regionsFrom_opened hbytes hlt hescaped hopen hclosing
      obtain rfl : source = body := Option.some.inj (hsource.symm.trans hbody)
      rw [ih, hregions]
      rfl
  | case7 i hlt bytes hbytes hescaped hopen ih =>
      rw [ih, regionsFrom_plain hbytes hlt hescaped hopen]
  | case8 i hend => rw [regionsFrom_end (Nat.le_of_not_lt hend)]

end Regions

end CelWatch.Template
