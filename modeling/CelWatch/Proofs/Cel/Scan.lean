import CelWatch.Proofs.Cel.Nesting
import CelWatch.Proofs.Template.Body
import Mathlib.Data.List.TakeWhile

/-!
The parts that a CEL text is cut into, as the scan of a template sees them.
Where a part is a body on its own the scan passes over it as a whole. Numbers,
words, operators and plain string literals always are. What is left besides the
braces are comments, names between backquotes, raw literals and literals in
triple quotes, which end by other rules than the scan knows.
-/

namespace CelWatch.Cel

open Template (Body Quoted)

/-- A character that means nothing to the scan of a template. -/
def IsOrdinary (c : Char) : Prop := c ∉ ['\'', '"', '\x7b', '\x7d', '\\']

/-- Whether a part ends by a rule of its own: a comment, a name between
backquotes, a raw literal or one in triple quotes. -/
def isSpecial (part : List Char) : Bool :=
  let letters := part.takeWhile isWordChar
  ['/', '/'].isPrefixOf part || ['`'].isPrefixOf part ||
    match part.dropWhile isWordChar with
    | [] => false
    | quote :: rest =>
      isQuote quote &&
        (letters.contains 'r' || letters.contains 'R' || [quote, quote].isPrefixOf rest)

section Ordinary

variable {c : Char} {text : List Char}

theorem isOrdinary_of (test : Char → Bool) (h : test c = true)
    (hmarks : ['\'', '"', '\x7b', '\x7d', '\\'].any test = false) : IsOrdinary c := by
  intro member
  rw [List.any_eq_true.mpr ⟨c, member, h⟩] at hmarks
  cases hmarks

theorem IsOrdinary.plain (h : IsOrdinary c) : c ∉ ['\'', '"', '\x7b', '\x7d'] := by
  intro member
  exact h (List.mem_append_left ['\\'] member)

theorem body_of_ordinary (h : ∀ c ∈ text, IsOrdinary c) : Body text := by
  induction text with
  | nil => exact .nil
  | cons c text ih =>
      exact .char (h c List.mem_cons_self).plain
        (ih fun other member => h other (List.mem_cons_of_mem _ member))

theorem quoted_of_ordinary {quote : Char} {front : List Char} (hquote : isQuote quote = true)
    (h : ∀ c ∈ front, IsOrdinary c) (htext : Quoted quote text) : Quoted quote (front ++ text) := by
  induction front with
  | nil => exact htext
  | cons c front ih =>
      have hc := h c List.mem_cons_self
      have hother : ∀ mark, ¬ IsOrdinary mark → c ≠ mark := by
        rintro mark hmark rfl
        exact hmark hc
      have hmark : ¬ IsOrdinary quote := fun hplain => by simp_all [IsOrdinary, isQuote]
      exact .char (hother quote hmark) (hother '\\' (by simp [IsOrdinary]))
        (ih fun other member => h other (List.mem_cons_of_mem _ member))

theorem isOrdinary_of_isWordChar (h : isWordChar c = true) : IsOrdinary c :=
  isOrdinary_of _ h (by decide)

theorem isOrdinary_of_isDecimal (h : Text.isDecimal c = true) : IsOrdinary c :=
  isOrdinary_of _ h (by decide)

theorem isOrdinary_of_isDigitIn {base : Nat} (h : Text.isDigitIn base c = true) : IsOrdinary c := by
  refine isOrdinary_of (fun c => (Text.digit? c).isSome) ?_ (by decide)
  rw [Text.isDigitIn, Option.any_eq_true] at h
  obtain ⟨value, hvalue, _⟩ := h
  simp [hvalue]

/-- The text starts with these ordinary characters. -/
structure OrdinaryFront (front text : List Char) : Prop where
  initial : front <+: text
  ordinary : ∀ c ∈ front, IsOrdinary c

theorem OrdinaryFront.nil : OrdinaryFront [] text := ⟨List.nil_prefix, by simp⟩

theorem OrdinaryFront.cons {front : List Char} (hc : IsOrdinary c) (h : OrdinaryFront front text) :
    OrdinaryFront (c :: front) (c :: text) :=
  ⟨(List.prefix_cons_inj c).mpr h.initial, List.forall_mem_cons.mpr ⟨hc, h.ordinary⟩⟩

theorem OrdinaryFront.append {front middle rest : List Char} (hfront : ∀ c ∈ front, IsOrdinary c)
    (h : OrdinaryFront middle rest) : OrdinaryFront (front ++ middle) (front ++ rest) :=
  ⟨(List.prefix_append_right_inj front).mpr h.initial, List.forall_mem_append.mpr ⟨hfront, h.ordinary⟩⟩

theorem ordinaryFront_takeWhile (test : Char → Bool) (htest : ∀ c, test c = true → IsOrdinary c)
    (text : List Char) : OrdinaryFront (text.takeWhile test) text :=
  ⟨List.takeWhile_prefix _, fun c member => htest c (List.mem_takeWhile_imp member)⟩

theorem ordinaryFront_decimals (text : List Char) :
    OrdinaryFront (text.takeWhile Text.isDecimal) text :=
  ordinaryFront_takeWhile _ (fun _ => isOrdinary_of_isDecimal) text

end Ordinary

/-- The token is no brace. -/
def Token.IsNeutral (token : Token) : Prop := token.opens = 0 ∧ token.closes = 0

/-- The scan found no blank, and if it found a token it is as asked. -/
def Scan.Yields (asked : Token → Nat → Prop) : Scan → Prop
  | .blank _ => False
  | .token found more => asked found more
  | .failure _ => True

/-- The token is no brace. It has `taken` characters in front of `after`, and
takes only ordinary ones of these. -/
def Takes (taken : Nat) (after : List Char) (token : Token) (more : Nat) : Prop :=
  token.IsNeutral ∧ ∃ front, OrdinaryFront front after ∧ more + 1 = taken + front.length

section Number

variable {more : Nat} {after whole rest : List Char} {token : Token}

theorem Takes.none (htoken : token.IsNeutral) : Takes (more + 1) after token more :=
  ⟨htoken, [], .nil, rfl⟩

theorem intScan_yields (value more : Nat) (after : List Char) :
    (intScan value more after).Yields (Takes (more + 1) after) := by
  unfold intScan
  split
  case isTrue hunsigned =>
    split
    case isTrue =>
      refine ⟨⟨rfl, rfl⟩, ?_⟩
      cases after with
      | nil => simp at hunsigned
      | cons u after =>
          have hu : IsOrdinary u := isOrdinary_of (fun c => c = 'u' || c = 'U') hunsigned (by decide)
          exact ⟨[u], .cons hu .nil, rfl⟩
    case isFalse => trivial
  case isFalse =>
    split
    · exact Takes.none ⟨rfl, rfl⟩
    · trivial

theorem digitsScan_yields (hwhole : whole ≠ []) (rest : List Char) :
    (digitsScan whole rest).Yields (Takes whole.length rest) := by
  have hlength : whole.length - 1 + 1 = whole.length :=
    Nat.sub_add_cancel (List.length_pos_iff.mpr hwhole)
  rw [← hlength]
  simp only [digitsScan]
  split
  · exact Takes.none ⟨rfl, rfl⟩
  · exact intScan_yields _ _ _

theorem exponent?_front {power : Int} {length : Nat} (h : exponent? rest = some (power, length)) :
    ∃ front, OrdinaryFront front rest ∧ front.length = length := by
  cases rest with
  | nil => cases h
  | cons e rest =>
      simp only [exponent?] at h
      split at h
      case isFalse => cases h
      case isTrue he =>
        have hmark : IsOrdinary e :=
          isOrdinary_of (fun c => c = 'e' || c = 'E') (by simpa using he) (by decide)
        have hdigits : ∀ {sign : Int} {signLength : Nat} {digits front : List Char},
            OrdinaryFront front rest → front.length = signLength + digits.length →
              (if digits.isEmpty then none
              else some (sign * Text.digitsValue 10 digits, 1 + signLength + digits.length)) =
                some (power, length) →
              ∃ front, OrdinaryFront front (e :: rest) ∧ front.length = length := by
          intro sign signLength digits front hfront hlength h
          split at h
          case isTrue => cases h
          case isFalse =>
            cases h
            exact ⟨e :: front, .cons hmark hfront, by rw [List.length_cons, hlength]; omega⟩
        split at h
        case h_1 digits =>
          exact hdigits (.cons (by simp [IsOrdinary]) (ordinaryFront_decimals digits))
            (Nat.add_comm _ 1) h
        case h_2 digits =>
          exact hdigits (.cons (by simp [IsOrdinary]) (ordinaryFront_decimals digits))
            (Nat.add_comm _ 1) h
        case h_3 => exact hdigits (ordinaryFront_decimals rest) (Nat.zero_add _).symm h

/-- A number is read in three pieces: its whole digits, the point with the digits
behind it, and the exponent. Either of the last two may be missing. -/
theorem decimalScan_eq (whole rest : List Char) :
    ∃ fraction length,
      decimalScan whole rest =
        (if fraction.isEmpty && (exponent? (rest.drop length)).isNone then digitsScan whole rest
        else .token (.float (Text.digitsValue 10 (whole ++ fraction))
            (((exponent? (rest.drop length)).getD (0, 0)).1 - fraction.length))
          (whole.length + length + ((exponent? (rest.drop length)).getD (0, 0)).2 - 1)) ∧
      (∃ front, OrdinaryFront front rest ∧ front.length = length) ∧
      (∀ d tail, rest = '.' :: d :: tail → Text.isDecimal d = true → fraction ≠ [] ∧ 0 < length) := by
  refine ⟨_, _, rfl, ?_, ?_⟩
  · split
    case h_1 digits =>
      split
      · exact ⟨[], .nil, rfl⟩
      · exact ⟨_, .cons (by simp [IsOrdinary]) (ordinaryFront_decimals digits), rfl⟩
    case h_2 => exact ⟨[], .nil, rfl⟩
  · rintro d tail rfl hd
    simp [hd]

theorem decimalScan_yields
    (hwhole : whole ≠ [] ∨ ∃ d tail, rest = '.' :: d :: tail ∧ Text.isDecimal d = true) :
    (decimalScan whole rest).Yields (Takes whole.length rest) := by
  obtain ⟨fraction, length, heq, ⟨front, hfront, rfl⟩, hpoint⟩ := decimalScan_eq whole rest
  rw [heq]
  split
  case isTrue hdigits =>
    refine digitsScan_yields ?_ rest
    rcases hwhole with hwhole | ⟨d, tail, hrest, hd⟩
    · exact hwhole
    · simp [(hpoint d tail hrest hd).1] at hdigits
  case isFalse =>
    have hpositive : 0 < whole.length + front.length := by
      rcases hwhole with hwhole | ⟨d, tail, hrest, hd⟩
      · exact Nat.add_pos_left (List.length_pos_iff.mpr hwhole) _
      · exact Nat.add_pos_right _ (hpoint d tail hrest hd).2
    obtain ⟨tail, rfl⟩ := hfront.initial
    rw [List.drop_left]
    cases hexponent : exponent? tail with
    | none =>
        refine ⟨⟨rfl, rfl⟩, front, hfront, ?_⟩
        simp
        omega
    | some exponent =>
        obtain ⟨power, length⟩ := exponent
        obtain ⟨more, hmore, hlength⟩ := exponent?_front hexponent
        refine ⟨⟨rfl, rfl⟩, front ++ more, .append hfront.ordinary hmore, ?_⟩
        simp [hlength]
        omega

theorem drop_length_takeWhile (test : Char → Bool) (text : List Char) :
    text.drop (text.takeWhile test).length = text.dropWhile test :=
  calc text.drop (text.takeWhile test).length
    _ = (text.takeWhile test ++ text.dropWhile test).drop (text.takeWhile test).length := by
      rw [List.takeWhile_append_dropWhile]
    _ = text.dropWhile test := List.drop_left

/-- What is taken behind ordinary characters is taken together with them. -/
theorem Takes.behind {taken : Nat} {front : List Char} (hfront : OrdinaryFront front after)
    (h : Takes (taken + front.length) (after.drop front.length) token more) :
    Takes taken after token more := by
  obtain ⟨tail, rfl⟩ := hfront.initial
  obtain ⟨htoken, found, hfound, hmore⟩ := h
  rw [List.drop_left] at hfound
  refine ⟨htoken, front ++ found, .append hfront.ordinary hfound, ?_⟩
  rw [hmore, List.length_append, Nat.add_assoc]

theorem Scan.Yields.imp {asked other : Token → Nat → Prop} {found : Scan}
    (h : ∀ token more, asked token more → other token more) (hfound : found.Yields asked) :
    found.Yields other := by
  cases found with
  | blank => exact hfound
  | token token more => exact h token more hfound
  | failure => trivial

theorem numberScan_yields (c : Char) (rest : List Char) :
    (numberScan c rest).Yields (Takes 1 rest) := by
  have hdecimal : (decimalScan (c :: rest.takeWhile Text.isDecimal)
      (rest.dropWhile Text.isDecimal)).Yields (Takes 1 rest) := by
    refine (decimalScan_yields (.inl (List.cons_ne_nil _ _))).imp fun token more htakes => ?_
    rw [List.length_cons, Nat.add_comm, ← drop_length_takeWhile] at htakes
    exact htakes.behind (ordinaryFront_decimals rest)
  have hhex : ∀ mark digits value, IsOrdinary mark →
      (intScan value ((digits.takeWhile (Text.isDigitIn 16)).length + 1)
        ((mark :: digits).drop ((digits.takeWhile (Text.isDigitIn 16)).length + 1))).Yields
          (Takes 1 (mark :: digits)) := by
    intro mark digits value hmark
    have hdigits := ordinaryFront_takeWhile (Text.isDigitIn 16)
      (fun _ => isOrdinary_of_isDigitIn) digits
    refine (intScan_yields _ _ _).imp fun token more htakes => .behind (.cons hmark hdigits) ?_
    rw [List.length_cons, Nat.add_comm 1]
    exact htakes
  simp only [numberScan]
  split
  case h_1 digits =>
    split
    · exact hdecimal
    · exact hhex 'x' digits _ (by simp [IsOrdinary])
  case h_2 digits =>
    split
    · exact hdecimal
    · exact hhex 'X' digits _ (by simp [IsOrdinary])
  case h_3 => exact hdecimal

end Number

section Literal

variable {shape : QuoteShape} {base count value used : Nat} {values : List Nat}
  {digits rest text : List Char}

theorem escapeDigits?_ordinary (h : escapeDigits? base digits = some value) :
    ∀ c ∈ digits, IsOrdinary c := by
  simp only [escapeDigits?, Text.digitsValue?] at h
  split at h
  case isTrue => cases h
  case isFalse =>
    split at h
    case isTrue hall =>
      intro c member
      exact isOrdinary_of_isDigitIn (List.all_eq_true.mp hall c member)
    case isFalse => cases h

theorem escapeNumber?_front (h : escapeNumber? count rest = some value) :
    OrdinaryFront (rest.take count) rest ∧ (rest.take count).length = count := by
  simp only [escapeNumber?] at h
  split at h
  case isTrue => cases h
  case isFalse hlong =>
    refine ⟨⟨List.take_prefix count rest, ?_⟩, by have := List.length_take_le count rest; omega⟩
    split at h
    case h_1 digits htake =>
      rw [htake]
      exact List.forall_mem_cons.mpr ⟨by simp [IsOrdinary], escapeDigits?_ordinary h⟩
    case h_2 => exact escapeDigits?_ordinary h

/-- Behind its first character an escape holds digits only. -/
theorem escape?_front {c : Char} (h : shape.escape? (c :: rest) = some (values, used)) :
    ∃ front, OrdinaryFront front rest ∧ used = front.length + 1 := by
  have hnumber : ∀ {count value}, escapeNumber? count rest = some value →
      ∃ front, OrdinaryFront front rest ∧ count + 1 = front.length + 1 := by
    intro count value hvalue
    obtain ⟨hfront, hlength⟩ := escapeNumber?_front hvalue
    exact ⟨_, hfront, by rw [hlength]⟩
  have hcode : (escapeNumber? 2 rest).map (fun value => ([value], 3)) = some (values, used) →
      ∃ front, OrdinaryFront front rest ∧ used = front.length + 1 := by
    intro h
    obtain ⟨value, hvalue, hused⟩ := Option.map_eq_some_iff.mp h
    cases hused
    exact hnumber hvalue
  have hscalar : ∀ {count : Nat},
      ((escapeNumber? count rest).bind fun value =>
        (charOf? value).bind fun scalar => some (shape.valuesOf scalar, count + 1)) =
          some (values, used) →
      ∃ front, OrdinaryFront front rest ∧ used = front.length + 1 := by
    intro count h
    obtain ⟨value, hvalue, hscalar⟩ := Option.bind_eq_some_iff.mp h
    obtain ⟨scalar, _, hused⟩ := Option.bind_eq_some_iff.mp hscalar
    cases hused
    exact hnumber hvalue
  simp only [QuoteShape.escape?] at h
  split at h
  case h_14 => exact hcode h
  case h_15 => exact hcode h
  case h_16 => exact hscalar h
  case h_17 => exact hscalar h
  case h_18 =>
    split at h
    case isFalse => cases h
    case isTrue hlength =>
      obtain ⟨value, hvalue, hused⟩ := Option.bind_eq_some_iff.mp h
      split at hused
      case isFalse => cases hused
      case isTrue =>
        cases hused
        have hdigits := escapeDigits?_ordinary hvalue
        refine ⟨rest.take 2, ⟨List.take_prefix 2 rest, ?_⟩, ?_⟩
        · exact fun c member => hdigits c (List.mem_cons_of_mem _ member)
        · simpa using hlength.symm
  all_goals
    cases h
    exact ⟨[], .nil, rfl⟩

/-- What stands in front of the closing quote of a plain literal is quoted for
the scan of a template as well. -/
theorem quotedBody?_quoted (hquote : isQuote shape.quote = true) (htriple : shape.triple = false)
    (hraw : shape.raw = false) {skip : Nat}
    (h : quotedBody? shape skip text = some (values, count)) :
    ∃ content after, text.drop skip = content ++ shape.quote :: after ∧
      Quoted shape.quote content ∧ count = skip + content.length + 1 := by
  induction text generalizing skip values count with
  | nil => cases h
  | cons c rest ih =>
      have hnext : ∀ {front : List Nat} {more : Nat},
          (quotedBody? shape more rest).map (fun found => (front ++ found.1, found.2 + 1)) =
              some (values, count) →
            ∃ content after, rest.drop more = content ++ shape.quote :: after ∧
              Quoted shape.quote content ∧ count = more + content.length + 1 + 1 := by
        intro front more hmore
        obtain ⟨⟨later, shorter⟩, hlater, hcount⟩ := Option.map_eq_some_iff.mp hmore
        obtain ⟨content, after, hrest, hcontent, rfl⟩ := ih hlater
        cases hcount
        exact ⟨content, after, hrest, hcontent, rfl⟩
      simp only [quotedBody?] at h
      split at h
      case isTrue hskip =>
        obtain ⟨content, after, hrest, hcontent, rfl⟩ := hnext h
        obtain ⟨n, rfl⟩ : ∃ n, skip = n + 1 := ⟨skip - 1, by omega⟩
        exact ⟨content, after, hrest, hcontent, by omega⟩
      case isFalse hskip =>
        obtain rfl : skip = 0 := by omega
        split at h
        case isTrue hcloses =>
          cases h
          obtain rfl : shape.quote = c := by simpa [QuoteShape.closes, htriple] using hcloses
          exact ⟨[], rest, rfl, .nil, by simp [htriple]⟩
        case isFalse hcloses =>
          have hend : c ≠ shape.quote := by
            rintro rfl
            simp [QuoteShape.closes, htriple] at hcloses
          split at h
          case isTrue hescape =>
            obtain ⟨⟨inner, used⟩, hinner, hmore⟩ := Option.bind_eq_some_iff.mp h
            obtain ⟨content, after, hrest, hcontent, rfl⟩ := hnext hmore
            obtain rfl : c = '\\' := by simpa [hraw] using hescape
            cases rest with
            | nil => cases hinner
            | cons escaped tail =>
                obtain ⟨front, hfront, rfl⟩ := escape?_front hinner
                obtain ⟨tail, rfl⟩ := hfront.initial
                rw [List.drop_succ_cons, List.drop_left] at hrest
                exact ⟨'\\' :: escaped :: (front ++ content), after, by simp [hrest],
                  .escape (quoted_of_ordinary hquote hfront.ordinary hcontent), by simp; omega⟩
          case isFalse hescape =>
            split at h
            case isTrue => cases h
            case isFalse =>
              obtain ⟨content, after, hrest, hcontent, rfl⟩ := hnext h
              have hplain : c ≠ '\\' := by simpa [hraw] using hescape
              exact ⟨c :: content, after, by simpa using hrest, .char hend hplain hcontent,
                by simp⟩

/-- The token is no brace, and its `more + 1` characters are special or a body. -/
def Passes (text : List Char) (token : Token) (more : Nat) : Prop :=
  token.IsNeutral ∧ (isSpecial (text.take (more + 1)) = true ∨ Body (text.take (more + 1)))

theorem mem_quotes_of_isQuote {quote : Char} (h : isQuote quote = true) : quote ∈ ['\'', '"'] := by
  simpa [isQuote] using h

theorem token_isNeutral (shape : QuoteShape) (values : List Nat) : (shape.token values).IsNeutral := by
  unfold QuoteShape.token
  split
  · exact ⟨rfl, rfl⟩
  · exact ⟨rfl, rfl⟩

theorem take_behind (letters : List Char) (quote : Char) (rest : List Char) (n : Nat) :
    (letters ++ quote :: rest).take (letters.length + n + 1) = letters ++ quote :: rest.take n := by
  rw [Nat.add_assoc, List.take_length_add_append, List.take_succ_cons]

theorem isSpecial_literal {letters : List Char} {quote : Char} (hquote : isQuote quote = true)
    (hletters : ∀ c ∈ letters, isWordChar c = true)
    (h : 'r' ∈ letters ∨ 'R' ∈ letters ∨ [quote, quote] <+: rest) :
    isSpecial (letters ++ quote :: rest) = true := by
  have hother : isWordChar quote = false := by
    simp only [isQuote, Bool.or_eq_true, decide_eq_true_eq] at hquote
    rcases hquote with rfl | rfl
    · decide
    · decide
  simp only [isSpecial, List.takeWhile_append_of_pos hletters, List.dropWhile_append_of_pos hletters]
  simp [hother, hquote, h, List.isPrefixOf_iff_prefix, or_assoc]

/-- A literal behind its letters. The letters say whether it is raw. -/
theorem quotedScan_yields {raw bytes : Bool} {quote : Char} (letters : List Char)
    (hquote : isQuote quote = true) (hletters : ∀ c ∈ letters, isWordChar c = true)
    (hraw : raw = true → 'r' ∈ letters ∨ 'R' ∈ letters) (rest : List Char) :
    (quotedScan raw bytes letters.length (quote :: rest)).Yields
      (Passes (letters ++ quote :: rest)) := by
  simp only [quotedScan]
  split
  case h_2 => trivial
  case h_1 values count hbody =>
    refine ⟨token_isNeutral _ _, ?_⟩
    split at hbody
    case isTrue htriple =>
      obtain ⟨tail, rfl⟩ := List.isPrefixOf_iff_prefix.mp htriple
      have hlength : letters.length + 3 + count - 1 + 1 = letters.length + (2 + count) + 1 := by omega
      rw [if_pos htriple, hlength, take_behind]
      exact .inl (isSpecial_literal hquote hletters (.inr (.inr (by simp [Nat.add_comm 2]))))
    case isFalse htriple =>
      have hlength : letters.length + 1 + count - 1 + 1 = letters.length + count + 1 := by omega
      rw [if_neg htriple, hlength, take_behind]
      cases raw with
      | true =>
          refine .inl (isSpecial_literal hquote hletters ?_)
          exact (hraw rfl).imp_right .inl
      | false =>
          obtain ⟨content, after, hrest, hcontent, rfl⟩ :=
            quotedBody?_quoted hquote (Bool.eq_false_iff.mpr htriple) rfl hbody
          obtain rfl : rest = content ++ quote :: after := hrest
          have htake : (content ++ quote :: after).take (0 + content.length + 1) =
              content ++ [quote] := by
            simpa using take_behind content quote after 0
          have hordinary : ∀ c ∈ letters, IsOrdinary c := fun c member =>
            isOrdinary_of_isWordChar (hletters c member)
          rw [htake]
          exact .inr ((body_of_ordinary hordinary).append
            (.literal (mem_quotes_of_isQuote hquote) hcontent .nil))

theorem literalPrefix?_raw {letters : List Char} {bytes : Bool}
    (h : literalPrefix? letters = some (true, bytes)) : 'r' ∈ letters ∨ 'R' ∈ letters := by
  have hsingle : ∀ c bytes, literalPrefix? [c] = some (true, bytes) → c = 'r' ∨ c = 'R' := by
    intro c bytes h
    simp only [literalPrefix?] at h
    split at h
    case isTrue hraw => exact hraw
    case isFalse =>
      split at h
      · cases h
      · cases h
  rcases letters with _ | ⟨c, _ | ⟨d, _ | ⟨e, more⟩⟩⟩
  · simp [literalPrefix?] at h
  · rcases hsingle c bytes h with rfl | rfl
    · exact .inl List.mem_cons_self
    · exact .inr List.mem_cons_self
  · rw [literalPrefix?] at h
    split at h
    case h_1 hc hd =>
      rcases hsingle c _ hc with rfl | rfl
      · exact .inl List.mem_cons_self
      · exact .inr List.mem_cons_self
    case h_2 hd =>
      rcases hsingle d _ hd with rfl | rfl
      · exact .inl (by simp)
      · exact .inr (by simp)
    case h_3 => cases h
  · simp [literalPrefix?] at h

end Literal

section Word

theorem ofWord_isNeutral (word : String) : (Token.ofWord word).IsNeutral := by
  unfold Token.ofWord
  split
  case h_5 =>
    split
    · exact ⟨rfl, rfl⟩
    · exact ⟨rfl, rfl⟩
  all_goals exact ⟨rfl, rfl⟩

/-- Ordinary characters pass. -/
theorem Takes.passes {more : Nat} {after : List Char} {token : Token} (front : List Char)
    (hfront : ∀ c ∈ front, IsOrdinary c) (h : Takes front.length after token more) :
    Passes (front ++ after) token more := by
  obtain ⟨hneutral, found, hfound, hmore⟩ := h
  have htake : (front ++ after).take (more + 1) = front ++ found := by
    rw [hmore, List.take_length_add_append, ← List.prefix_iff_eq_take.mp hfound.initial]
  refine ⟨hneutral, .inr ?_⟩
  rw [htake]
  exact body_of_ordinary (List.forall_mem_append.mpr ⟨hfront, hfound.ordinary⟩)

theorem wordScan_yields {c : Char} (hc : isWordStart c = true) (rest : List Char) :
    (wordScan c rest).Yields (Passes (c :: rest)) := by
  have hletter : isWordChar c = true := by simp [isWordChar, hc]
  have hletters : ∀ d ∈ c :: rest.takeWhile isWordChar, isWordChar d = true :=
    List.forall_mem_cons.mpr ⟨hletter, fun d member => List.mem_takeWhile_imp member⟩
  have hsplit : c :: rest = c :: rest.takeWhile isWordChar ++ rest.dropWhile isWordChar := by
    rw [List.cons_append, List.takeWhile_append_dropWhile]
  have hword : (wordScan.word c (rest.takeWhile isWordChar)).Yields (Passes (c :: rest)) := by
    have htakes : Takes (c :: rest.takeWhile isWordChar).length (rest.dropWhile isWordChar)
        (Token.ofWord (String.ofList (c :: rest.takeWhile isWordChar)))
        (rest.takeWhile isWordChar).length :=
      Takes.none (ofWord_isNeutral _)
    rw [hsplit]
    exact htakes.passes _ fun d member => isOrdinary_of_isWordChar (hletters d member)
  simp only [wordScan]
  split
  case h_2 => exact hword
  case h_1 raw bytes quote hkind hquote =>
    split
    case isFalse => exact hword
    case isTrue hmark =>
      obtain ⟨tail, htail⟩ : ∃ tail, rest.dropWhile isWordChar = quote :: tail :=
        List.head?_eq_some_iff.mp hquote
      rw [htail] at hsplit ⊢
      rw [hsplit]
      refine quotedScan_yields _ hmark hletters ?_ tail
      rintro rfl
      exact literalPrefix?_raw hkind

end Word

section Mark

variable {c d : Char} {rest : List Char}

/-- A brace is a lexeme of its own, and no other lexeme is a brace. -/
inductive IsBrace : Char → Token → Prop where
  | left : IsBrace '\x7b' (.mark .leftBrace)
  | right : IsBrace '\x7d' (.mark .rightBrace)

/-- What the scan of a template makes of a lexeme: it is a brace or it passes. -/
def Counts (text : List Char) (token : Token) (more : Nat) : Prop :=
  (∃ c rest, text = c :: rest ∧ IsBrace c token ∧ more = 0) ∨ Passes text token more

theorem singleMark?_cases {mark : Mark} (h : singleMark? c = some mark) :
    IsBrace c (.mark mark) ∨ ((Token.mark mark).IsNeutral ∧ IsOrdinary c) := by
  unfold singleMark? at h
  split at h
  case h_5 =>
    cases h
    exact .inl .left
  case h_6 =>
    cases h
    exact .inl .right
  all_goals cases h
  all_goals exact .inr ⟨⟨rfl, rfl⟩, by simp [IsOrdinary]⟩

theorem pairMark?_ordinary {mark : Mark} (h : pairMark? c d = some mark) :
    (Token.mark mark).IsNeutral ∧ IsOrdinary c ∧ IsOrdinary d := by
  unfold pairMark? at h
  split at h
  all_goals cases h
  all_goals exact ⟨⟨rfl, rfl⟩, by simp [IsOrdinary], by simp [IsOrdinary]⟩

theorem markScan_yields (c : Char) (rest : List Char) :
    (markScan c rest).Yields (Counts (c :: rest)) := by
  unfold markScan
  split
  case h_1 hpair =>
    obtain ⟨d, hd, hmark⟩ := Option.bind_eq_some_iff.mp hpair
    obtain ⟨tail, rfl⟩ := List.head?_eq_some_iff.mp hd
    obtain ⟨hneutral, hc, hd⟩ := pairMark?_ordinary hmark
    exact .inr ⟨hneutral, .inr (body_of_ordinary (by simp [hc, hd]))⟩
  case h_2 hsingle =>
    rcases singleMark?_cases hsingle with hbrace | ⟨hneutral, hc⟩
    · exact .inl ⟨c, rest, rfl, hbrace, rfl⟩
    · exact .inr ⟨hneutral, .inr (body_of_ordinary (by simp [hc]))⟩
  case h_3 => trivial

end Mark

section Scan

variable {c : Char} {rest : List Char} {token : Token} {more : Nat}

theorem backquotedScan_yields (rest : List Char) :
    (backquotedScan rest).Yields (Passes ('`' :: rest)) := by
  simp only [backquotedScan]
  split
  · exact ⟨⟨rfl, rfl⟩, .inl (by simp [isSpecial])⟩
  · trivial

theorem Passes.counts {text : List Char} (h : Passes text token more) : Counts text token more :=
  .inr h

theorem decimal_yields (hc : Text.isDecimal c = true) :
    (numberScan c rest).Yields (Counts (c :: rest)) :=
  (numberScan_yields c rest).imp fun _ _ htakes =>
    (htakes.passes [c] (by simp [isOrdinary_of_isDecimal hc])).counts

theorem point_yields (hrest : rest.head?.any Text.isDecimal = true) :
    (decimalScan [] ('.' :: rest)).Yields (Counts ('.' :: rest)) := by
  obtain ⟨d, hd, hdecimal⟩ := (Option.any_eq_true _ _).mp hrest
  obtain ⟨tail, rfl⟩ := List.head?_eq_some_iff.mp hd
  have htakes : (decimalScan [] ('.' :: d :: tail)).Yields (Takes 0 ('.' :: d :: tail)) :=
    decimalScan_yields (.inr ⟨d, tail, rfl, hdecimal⟩)
  exact htakes.imp fun _ _ h => (h.passes [] (by simp)).counts

/-- What stands at a place of a text: a blank that passes, or a lexeme that
passes or is a brace. -/
theorem scan_cases (c : Char) (rest : List Char) :
    (∃ more, scan c rest = .blank more ∧
      (isSpecial (c :: rest.take more) = true ∨ Body (c :: rest.take more))) ∨
    (scan c rest).Yields (Counts (c :: rest)) := by
  unfold scan
  split
  case isTrue hblank =>
    have hc : IsOrdinary c := isOrdinary_of _ hblank (by decide)
    exact .inl ⟨0, rfl, .inr (body_of_ordinary (by simp [hc]))⟩
  split
  case isTrue hcomment =>
    simp only [Bool.and_eq_true, decide_eq_true_eq, beq_iff_eq] at hcomment
    obtain ⟨rfl, hmark⟩ := hcomment
    obtain ⟨tail, rfl⟩ := List.head?_eq_some_iff.mp hmark
    exact .inl ⟨_, rfl, .inl (by simp [isSpecial])⟩
  refine .inr ?_
  split
  case isTrue hdecimal => exact decimal_yields hdecimal
  split
  case isTrue hpoint =>
    simp only [Bool.and_eq_true, decide_eq_true_eq] at hpoint
    obtain ⟨rfl, hrest⟩ := hpoint
    exact point_yields hrest
  split
  case isTrue hword => exact (wordScan_yields hword rest).imp fun _ _ => Passes.counts
  split
  case isTrue hquote =>
    exact (quotedScan_yields [] hquote (by simp) (by simp) rest).imp fun _ _ => Passes.counts
  split
  case isTrue hname =>
    obtain rfl := hname
    exact (backquotedScan_yields rest).imp fun _ _ => Passes.counts
  case isFalse => exact markScan_yields c rest

end Scan

end CelWatch.Cel
