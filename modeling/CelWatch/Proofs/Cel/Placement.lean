import CelWatch.Proofs.Cel.Scan

/-!
Where the lexemes of a text stand. Each takes a part of the text, and they
follow one another. The part of a name spells it: the name itself, which is a
word, or the name between backquotes.
-/

namespace CelWatch.Cel

open Text (byteLength)

/-- The ways to write a name. -/
inductive Writes (name : String) : List Char → Prop where
  | word (hne : name.toList ≠ []) (hword : ∀ c ∈ name.toList, isWordChar c = true) :
      Writes name name.toList
  | backquoted (hname : '`' ∉ name.toList) : Writes name ('`' :: name.toList ++ ['`'])

/-- A part of a text that spells a token. Of the marks only those count that
tell where a name starts or a call ends. -/
@[simp] def Token.SpelledBy (part : List Char) : Token → Prop
  | .ident name => Writes name part
  | .reserved word => Writes word part
  | .mark .dot => part = ['.']
  | .mark .rightParen => part = [')']
  | _ => True

/-- A token that is a value by itself. -/
def Token.IsValue : Token → Prop
  | .ident _ => False
  | .reserved _ => False
  | .mark _ => False
  | _ => True

theorem Token.IsValue.spelledBy {token : Token} (h : token.IsValue) (part : List Char) :
    token.SpelledBy part := by
  cases token with
  | ident name => exact h.elim
  | reserved word => exact h.elim
  | mark mark => exact h.elim
  | _ => trivial

section Values

theorem intScan_value (value more : Nat) (rest : List Char) :
    (intScan value more rest).Yields fun token _ => token.IsValue := by
  unfold intScan
  split
  · split
    · trivial
    · trivial
  · split
    · trivial
    · trivial

theorem digitsScan_value (digits rest : List Char) :
    (digitsScan digits rest).Yields fun token _ => token.IsValue := by
  simp only [digitsScan]
  split
  · trivial
  · exact intScan_value _ _ _

theorem decimalScan_value (whole rest : List Char) :
    (decimalScan whole rest).Yields fun token _ => token.IsValue := by
  obtain ⟨fraction, length, heq, _, _⟩ := decimalScan_eq whole rest
  rw [heq]
  split
  · exact digitsScan_value whole rest
  · trivial

theorem numberScan_value (c : Char) (rest : List Char) :
    (numberScan c rest).Yields fun token _ => token.IsValue := by
  unfold numberScan
  extract_lets hexDigits
  split
  · exact decimalScan_value _ _
  · exact intScan_value _ _ _

theorem quotedScan_value (raw bytes : Bool) (letters : Nat) (text : List Char) :
    (quotedScan raw bytes letters text).Yields fun token _ => token.IsValue := by
  unfold quotedScan
  split
  · simp only
    split
    · unfold QuoteShape.token
      split
      · trivial
      · trivial
    · trivial
  · trivial

end Values

section Spelling

variable {c : Char} {rest : List Char}

theorem ofWord_spelledBy {word : List Char} (hne : word ≠ [])
    (hword : ∀ c ∈ word, isWordChar c = true) :
    (Token.ofWord (String.ofList word)).SpelledBy word := by
  have hwrites : Writes (String.ofList word) word := by
    have hname := @Writes.word (String.ofList word)
    rw [String.toList_ofList] at hname
    exact hname hne hword
  unfold Token.ofWord
  split
  case h_5 =>
    split
    · exact hwrites
    · exact hwrites
  all_goals trivial

/-- What is found spells its token. -/
def Scan.Spells (c : Char) (rest : List Char) (found : Scan) : Prop :=
  found.Yields fun token more => token.SpelledBy (c :: rest.take more)

theorem spells_value {found : Scan} (h : found.Yields fun token _ => token.IsValue) :
    found.Spells c rest :=
  h.imp fun _ _ hvalue => hvalue.spelledBy _

theorem wordScan_spells (hc : isWordStart c = true) : (wordScan c rest).Spells c rest := by
  have hletter : isWordChar c = true := by simp [isWordChar, hc]
  have hletters : ∀ d ∈ c :: rest.takeWhile isWordChar, isWordChar d = true :=
    List.forall_mem_cons.mpr ⟨hletter, fun d member => List.mem_takeWhile_imp member⟩
  have hword : (wordScan.word c (rest.takeWhile isWordChar)).Spells c rest := by
    have htake : rest.take (rest.takeWhile isWordChar).length = rest.takeWhile isWordChar :=
      (List.prefix_iff_eq_take.mp (List.takeWhile_prefix _)).symm
    change Token.SpelledBy (c :: rest.take (rest.takeWhile isWordChar).length) _
    rw [htake]
    exact ofWord_spelledBy (List.cons_ne_nil _ _) hletters
  simp only [wordScan]
  split
  case h_2 => exact hword
  case h_1 =>
    split
    case isFalse => exact hword
    case isTrue => exact spells_value (quotedScan_value _ _ _ _)

theorem backquotedScan_spells : (backquotedScan rest).Spells '`' rest := by
  simp only [backquotedScan]
  split
  case isFalse => trivial
  case isTrue hname =>
    have hclosed := (Bool.and_eq_true_iff.mp hname).2
    obtain ⟨tail, htail⟩ := List.head?_eq_some_iff.mp (beq_iff_eq.mp hclosed)
    have hsplit : rest = rest.takeWhile isNameChar ++ '`' :: tail := by
      rw [← htail, List.takeWhile_append_dropWhile]
    have htake : rest.take ((rest.takeWhile isNameChar).length + 1) =
        rest.takeWhile isNameChar ++ ['`'] := by
      calc rest.take ((rest.takeWhile isNameChar).length + 1)
        _ = (rest.takeWhile isNameChar ++ '`' :: tail).take
            ((rest.takeWhile isNameChar).length + 1) := by rw [← hsplit]
        _ = rest.takeWhile isNameChar ++ ['`'] := List.take_length_add_append 1
    have hinside : '`' ∉ rest.takeWhile isNameChar := by
      intro member
      have hchar := List.mem_takeWhile_imp member
      simp [isNameChar] at hchar
    change Writes (String.ofList (rest.takeWhile isNameChar)) (_ :: rest.take _)
    rw [htake]
    have hwrites := @Writes.backquoted (String.ofList (rest.takeWhile isNameChar))
    rw [String.toList_ofList] at hwrites
    exact hwrites hinside

theorem markScan_spells : (markScan c rest).Spells c rest := by
  unfold markScan
  split
  case h_1 mark hpair =>
    obtain ⟨d, _, hmark⟩ := Option.bind_eq_some_iff.mp hpair
    unfold pairMark? at hmark
    split at hmark
    all_goals cases hmark
    all_goals trivial
  case h_2 mark hsingle =>
    unfold singleMark? at hsingle
    split at hsingle
    all_goals cases hsingle
    all_goals trivial
  case h_3 => trivial

/-- What stands at a place is a blank, or it spells its token. -/
theorem scan_spells (c : Char) (rest : List Char) :
    (∃ more, scan c rest = .blank more) ∨ (scan c rest).Spells c rest := by
  unfold scan
  split
  case isTrue => exact .inl ⟨_, rfl⟩
  split
  case isTrue => exact .inl ⟨_, rfl⟩
  refine .inr ?_
  split
  case isTrue => exact spells_value (numberScan_value c rest)
  split
  case isTrue => exact spells_value (decimalScan_value _ _)
  split
  case isTrue hstart => exact wordScan_spells hstart
  split
  case isTrue => exact spells_value (quotedScan_value _ _ _ _)
  split
  case isTrue hbackquote => exact hbackquote ▸ backquotedScan_spells
  case isFalse => exact markScan_spells

end Spelling

/-- A lexeme takes a part of the text that spells it. -/
def Lexeme.StandsIn (text : List Char) (lexeme : Lexeme) : Prop :=
  ∃ front part behind, text = front ++ part ++ behind ∧
    lexeme.span = ⟨byteLength front, byteLength front + byteLength part⟩ ∧
    lexeme.token.SpelledBy part

/-- Lexemes that stand in the text one behind the other, from a byte on. -/
def Laid (text : List Char) : Nat → List Lexeme → Prop
  | _, [] => True
  | start, lexeme :: rest =>
    start ≤ lexeme.span.start ∧ lexeme.StandsIn text ∧ Laid text lexeme.span.stop rest

section Layout

variable {text before rest : List Char} {found : List Lexeme} {offset skip first later : Nat}

theorem Laid.mono (hle : first ≤ later) (h : Laid text later found) : Laid text first found := by
  cases found with
  | nil => trivial
  | cons lexeme found => exact ⟨Nat.le_trans hle h.1, h.2⟩

/-- Behind the characters of a lexeme that was taken already the others follow. -/
theorem laid_of_lexemesFrom (htext : text = before ++ rest) (hbefore : byteLength before = offset)
    (h : lexemesFrom offset skip rest = .ok found) :
    Laid text (offset + byteLength (rest.take skip)) found := by
  induction rest generalizing before offset skip found with
  | nil =>
      cases h
      trivial
  | cons c rest ih =>
      have hnext : ∀ {skip found}, lexemesFrom (offset + c.utf8Size) skip rest = .ok found →
          Laid text (offset + byteLength (c :: rest.take skip)) found := by
        intro skip found hfound
        have hsplit : text = (before ++ [c]) ++ rest := by simp [htext]
        have hlength : byteLength (before ++ [c]) = offset + c.utf8Size := by
          simp [byteLength, hbefore]
        rw [byteLength, ← Nat.add_assoc]
        exact ih hsplit hlength hfound
      rw [lexemesFrom] at h
      by_cases hskip : skip > 0
      · obtain ⟨n, rfl⟩ : ∃ n, skip = n + 1 := ⟨skip - 1, by omega⟩
        exact hnext h
      · obtain rfl : skip = 0 := by omega
        simp only [gt_iff_lt, Nat.lt_irrefl, if_false] at h
        cases hscan : scan c rest with
        | blank more =>
            rw [hscan] at h
            exact (hnext h).mono (Nat.le_add_right _ _)
        | failure more =>
            rw [hscan] at h
            cases h
        | token token more =>
            have hspells : token.SpelledBy (c :: rest.take more) := by
              rcases scan_spells c rest with ⟨blank, hblank⟩ | hspells
              · cases hblank.symm.trans hscan
              · rwa [hscan] at hspells
            rw [hscan] at h
            cases hlater : lexemesFrom (offset + c.utf8Size) more rest with
            | error error =>
                simp only [hlater] at h
                cases h
            | ok later =>
                simp only [hlater] at h
                cases h
                refine ⟨Nat.le_refl _, ?_, hnext hlater⟩
                refine ⟨before, c :: rest.take more, rest.drop more, ?_, ?_, hspells⟩
                · simp [htext]
                · rw [hbefore]
                  rfl

theorem laid_of_lexemes (h : lexemes text = .ok found) : Laid text 0 found :=
  laid_of_lexemesFrom (List.nil_append text).symm rfl h

end Layout

end CelWatch.Cel
