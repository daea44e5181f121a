import CelWatch.Template.Region
import CelWatch.Text.Utf8

/-!
The bodies of a template as a grammar over characters. The scan for the closing
brace reads bytes, and it finds a brace exactly where a body ends in front of
it. Bytes that are only part of a character mean nothing to the scan, so it
may as well be read as one over characters.
-/

namespace CelWatch.Template

open Text

/-- What stands between the quotes of a string literal. -/
inductive Quoted (quote : Char) : List Char → Prop where
  | nil : Quoted quote []
  | char {c : Char} {rest : List Char} (hquote : c ≠ quote) (hescape : c ≠ '\\')
      (hrest : Quoted quote rest) : Quoted quote (c :: rest)
  | escape {c : Char} {rest : List Char} (hrest : Quoted quote rest) :
      Quoted quote ('\\' :: c :: rest)

inductive Body : List Char → Prop where
  | nil : Body []
  | char {c : Char} {rest : List Char} (hplain : c ∉ ['\'', '"', '\x7b', '\x7d'])
      (hrest : Body rest) : Body (c :: rest)
  | literal {quote : Char} {content rest : List Char} (hquote : quote ∈ ['\'', '"'])
      (hcontent : Quoted quote content) (hrest : Body rest) :
      Body (quote :: content ++ quote :: rest)
  | braces {inner rest : List Char} (hinner : Body inner) (hrest : Body rest) :
      Body ('\x7b' :: inner ++ '\x7d' :: rest)

theorem Body.append {front rest : List Char} (hfront : Body front) (hrest : Body rest) :
    Body (front ++ rest) := by
  induction hfront with
  | nil => exact hrest
  | char hplain _ ih => exact .char hplain ih
  | literal hquote hcontent _ ih => simpa using Body.literal hquote hcontent ih
  | braces hinner _ _ ih => simpa using Body.braces hinner ih

/-- The byte of an ASCII character. -/
def byteOf (c : Char) : UInt8 := c.val.toUInt8

section Scan

attribute [local simp] closing?

variable {quote c : Char} {depth : Nat} {rest : List Char} {b : UInt8} {more : List UInt8}

/-- Outside of string literals each byte is one step of the scan. -/
theorem closing?_quote_byte (hquote : isQuote b = true) :
    closing? none depth (b :: more) = (closing? (some b) depth more).map (· + 1) := by
  cases depth with
  | _ => simp [hquote]

theorem closing?_open_byte :
    closing? none depth (openBrace :: more) = (closing? none (depth + 1) more).map (· + 1) := by
  have hquote : isQuote openBrace = false := by decide
  cases depth with
  | _ => simp [hquote]

theorem closing?_end_byte : closing? none 0 (closeBrace :: more) = some 0 := by
  have hother : isQuote closeBrace = false ∧ closeBrace ≠ openBrace := by decide
  simp [hother]

theorem closing?_close_byte :
    closing? none (depth + 1) (closeBrace :: more) = (closing? none depth more).map (· + 1) := by
  have hother : isQuote closeBrace = false ∧ closeBrace ≠ openBrace := by decide
  simp [hother]

theorem closing?_plain_byte (hquote : isQuote b = false) (hopen : b ≠ openBrace)
    (hclose : b ≠ closeBrace) :
    closing? none depth (b :: more) = (closing? none depth more).map (· + 1) := by
  cases depth with
  | _ => simp [hquote, hopen, hclose]

/-- A byte of another character is none of the bytes that mean something. -/
theorem ne_of_mem_utf8EncodeChar {mark : UInt8} (hb : b ∈ String.utf8EncodeChar c)
    (hmark : mark < 0x80) (hc : c ≠ Char.ofNat mark.toNat) : b ≠ mark := by
  rintro rfl
  exact hc (eq_of_mem_utf8EncodeChar hb hmark).1

/-- Bytes that mean nothing are passed over, outside of string literals. -/
theorem closing?_skip {bytes : List UInt8}
    (hbytes : ∀ b ∈ bytes, isQuote b = false ∧ b ≠ openBrace ∧ b ≠ closeBrace) :
    closing? none depth (bytes ++ more) = (closing? none depth more).map (· + bytes.length) := by
  induction bytes with
  | nil => simp
  | cons b bytes ih =>
      obtain ⟨hquote, hopen, hclose⟩ := hbytes b List.mem_cons_self
      have hrest := ih fun other member => hbytes other (List.mem_cons_of_mem _ member)
      rw [List.cons_append, closing?_plain_byte hquote hopen hclose, hrest, Option.map_map]
      rfl

theorem closing?_inside {mark : UInt8} (hescape : b ≠ backslash)
    (hmark : b ≠ mark) :
    closing? (some mark) depth (b :: more) = (closing? (some mark) depth more).map (· + 1) := by
  cases more with
  | nil => simp
  | cons next more => rw [closing?, if_neg hescape, if_neg hmark]

theorem closing?_skip_inside {mark : UInt8} {bytes : List UInt8}
    (hbytes : ∀ b ∈ bytes, b ≠ backslash ∧ b ≠ mark) :
    closing? (some mark) depth (bytes ++ more) =
      (closing? (some mark) depth more).map (· + bytes.length) := by
  induction bytes with
  | nil => simp
  | cons b bytes ih =>
      obtain ⟨hescape, hmark⟩ := hbytes b List.mem_cons_self
      have hrest := ih fun other member => hbytes other (List.mem_cons_of_mem _ member)
      rw [List.cons_append, closing?_inside hescape hmark, hrest, Option.map_map]
      rfl

theorem closing?_char (hplain : c ∉ ['\'', '"', '\x7b', '\x7d']) :
    closing? none depth (encode (c :: rest)) =
      (closing? none depth (encode rest)).map (· + c.utf8Size) := by
  simp only [List.mem_cons, List.not_mem_nil, or_false, not_or] at hplain
  obtain ⟨hsingle, hdouble, hopen, hclose⟩ := hplain
  rw [encode_cons, closing?_skip, String.length_utf8EncodeChar]
  intro b hb
  have hquote : b ≠ singleQuote ∧ b ≠ doubleQuote :=
    ⟨ne_of_mem_utf8EncodeChar hb (by decide) hsingle,
      ne_of_mem_utf8EncodeChar hb (by decide) hdouble⟩
  refine ⟨by simp [isQuote, hquote], ne_of_mem_utf8EncodeChar hb (by decide) hopen,
    ne_of_mem_utf8EncodeChar hb (by decide) hclose⟩

theorem encode_ascii (hsize : c.utf8Size = 1) : encode (c :: rest) = byteOf c :: encode rest := by
  rw [encode_cons, String.utf8EncodeChar_eq_singleton hsize]
  rfl

theorem isQuote_byteOf (hquote : quote ∈ ['\'', '"']) :
    isQuote (byteOf quote) = true ∧ quote.utf8Size = 1 ∧ byteOf quote ≠ backslash ∧
      byteOf quote < 0x80 := by
  simp only [List.mem_cons, List.not_mem_nil, or_false] at hquote
  rcases hquote with rfl | rfl
  · decide
  · decide

theorem closing?_quote (hquote : quote ∈ ['\'', '"']) :
    closing? none depth (encode (quote :: rest)) =
      (closing? (some (byteOf quote)) depth (encode rest)).map (· + 1) := by
  obtain ⟨hmark, hsize, _, _⟩ := isQuote_byteOf hquote
  rw [encode_ascii hsize, closing?_quote_byte hmark]

theorem closing?_open :
    closing? none depth (encode ('\x7b' :: rest)) =
      (closing? none (depth + 1) (encode rest)).map (· + 1) := by
  have hbyte : byteOf '\x7b' = openBrace := by decide
  rw [encode_ascii (by decide), hbyte, closing?_open_byte]

theorem closing?_close_zero : closing? none 0 (encode ('\x7d' :: rest)) = some 0 := by
  have hbyte : byteOf '\x7d' = closeBrace := by decide
  rw [encode_ascii (by decide), hbyte, closing?_end_byte]

theorem closing?_close_succ :
    closing? none (depth + 1) (encode ('\x7d' :: rest)) =
      (closing? none depth (encode rest)).map (· + 1) := by
  have hbyte : byteOf '\x7d' = closeBrace := by decide
  rw [encode_ascii (by decide), hbyte, closing?_close_byte]

theorem closing?_quoted_char (hquote : quote ∈ ['\'', '"']) (hend : c ≠ quote) (hescape : c ≠ '\\') :
    closing? (some (byteOf quote)) depth (encode (c :: rest)) =
      (closing? (some (byteOf quote)) depth (encode rest)).map (· + c.utf8Size) := by
  rw [encode_cons, closing?_skip_inside, String.length_utf8EncodeChar]
  intro b hb
  refine ⟨ne_of_mem_utf8EncodeChar hb (by decide) hescape, ?_⟩
  simp only [List.mem_cons, List.not_mem_nil, or_false] at hquote
  rcases hquote with rfl | rfl
  · exact ne_of_mem_utf8EncodeChar hb (by decide) hend
  · exact ne_of_mem_utf8EncodeChar hb (by decide) hend

theorem closing?_quoted_end (hquote : quote ∈ ['\'', '"']) :
    closing? (some (byteOf quote)) depth (encode (quote :: rest)) =
      (closing? none depth (encode rest)).map (· + 1) := by
  obtain ⟨_, hsize, hescape, _⟩ := isQuote_byteOf hquote
  rw [encode_ascii hsize]
  cases encode rest with
  | nil => simp
  | cons next more => simp [hescape]

theorem closing?_quoted_escape (hquote : quote ∈ ['\'', '"']) :
    closing? (some (byteOf quote)) depth (encode ('\\' :: c :: rest)) =
      (closing? (some (byteOf quote)) depth (encode rest)).map (· + (1 + c.utf8Size)) := by
  have hbyte : byteOf '\\' = backslash := by decide
  obtain ⟨_, _, _, hquoted⟩ := isQuote_byteOf hquote
  have hlength := String.length_utf8EncodeChar c
  rw [encode_ascii (by decide), hbyte, encode_cons, ← hlength]
  cases hbytes : String.utf8EncodeChar c with
  | nil => exact absurd hbytes String.utf8EncodeChar_ne_nil
  | cons first more =>
      -- The scan passes over one byte, and the others of the character mean nothing to it.
      have hmore : ∀ b ∈ more, b ≠ backslash ∧ b ≠ byteOf quote := by
        intro b member
        rcases utf8EncodeChar_cases c with ⟨_, hsingle⟩ | hhigh
        · simp [hbytes] at hsingle
          simp [hsingle] at member
        · have hb := hhigh b (hbytes ▸ List.mem_cons_of_mem first member)
          constructor
          · rintro rfl
            exact absurd hb (by decide)
          · rintro rfl
            exact absurd hb (UInt8.not_le.mpr hquoted)
      rw [List.cons_append, closing?, if_pos rfl, closing?_skip_inside hmore, Option.map_map]
      congr 1
      funext n
      simp
      omega

end Scan

section Completeness

variable {quote : Char} {depth n : Nat} {rest : List Char}

theorem Quoted.closing?_append {content : List Char} (hcontent : Quoted quote content)
    (hquote : quote ∈ ['\'', '"'])
    (hrest : closing? (some (byteOf quote)) depth (encode rest) = some n) :
    closing? (some (byteOf quote)) depth (encode (content ++ rest)) =
      some (n + byteLength content) := by
  induction hcontent with
  | nil => simpa [byteLength] using hrest
  | char hend hescape _ ih =>
      rw [List.cons_append, closing?_quoted_char hquote hend hescape, ih]
      simp [byteLength]
      omega
  | escape _ ih =>
      have hsize : '\\'.utf8Size = 1 := by decide
      rw [List.cons_append, List.cons_append, closing?_quoted_escape hquote, ih]
      simp [byteLength, hsize]
      omega

/-- The scan passes over a body and goes on behind it. -/
theorem Body.closing?_append {body : List Char} (hbody : Body body)
    (hrest : closing? none depth (encode rest) = some n) :
    closing? none depth (encode (body ++ rest)) = some (n + byteLength body) := by
  induction hbody generalizing depth rest n with
  | nil => simpa [byteLength] using hrest
  | char hplain _ ih =>
      rw [List.cons_append, closing?_char hplain, ih hrest]
      simp [byteLength]
      omega
  | @literal quote content tail hquote hcontent _ ih =>
      have hend : closing? (some (byteOf quote)) depth (encode (quote :: (tail ++ rest))) =
          some (n + byteLength tail + 1) := by
        rw [closing?_quoted_end hquote, ih hrest]
        rfl
      have hinside := hcontent.closing?_append hquote hend
      rw [List.cons_append, List.cons_append, List.append_assoc, List.cons_append,
        closing?_quote hquote, hinside]
      simp [byteLength, (isQuote_byteOf hquote).2.1]
      omega
  | @braces inner tail _ _ ihinner ihtail =>
      have hopen : '\x7b'.utf8Size = 1 := by decide
      have hclosing : '\x7d'.utf8Size = 1 := by decide
      have hclose : closing? none (depth + 1) (encode ('\x7d' :: (tail ++ rest))) =
          some (n + byteLength tail + 1) := by
        rw [closing?_close_succ, ihtail hrest]
        rfl
      have hinner := ihinner hclose
      rw [List.cons_append, List.cons_append, List.append_assoc, List.cons_append, closing?_open,
        hinner]
      simp [byteLength, hopen, hclosing]
      omega

end Completeness

section Soundness

/-- What is left of a body, with the rest of the braces around it that are open. -/
def Levels : Nat → List Char → Prop
  | 0, text => Body text
  | depth + 1, text => ∃ inner rest, text = inner ++ '\x7d' :: rest ∧ Body inner ∧ Levels depth rest

theorem Levels.prepend {depth : Nat} {front text : List Char}
    (hfront : ∀ body, Body body → Body (front ++ body)) (h : Levels depth text) :
    Levels depth (front ++ text) := by
  cases depth with
  | zero => exact hfront text h
  | succ depth =>
      obtain ⟨inner, rest, rfl, hinner, hrest⟩ := h
      exact ⟨front ++ inner, rest, by simp, hfront inner hinner, hrest⟩

theorem Levels.openBrace {depth : Nat} {text : List Char} (h : Levels (depth + 1) text) :
    Levels depth ('\x7b' :: text) := by
  obtain ⟨inner, rest, rfl, hinner, hrest⟩ := h
  have hbraces : Levels depth (('\x7b' :: inner ++ ['\x7d']) ++ rest) :=
    hrest.prepend fun body hbody => by simpa using Body.braces hinner hbody
  simpa using hbraces

theorem Levels.closeBrace {depth : Nat} {text : List Char} (h : Levels depth text) :
    Levels (depth + 1) ('\x7d' :: text) :=
  ⟨[], text, rfl, .nil, h⟩

/-- In a text the scan finds only braces that close a body. -/
structure Sound (text : List Char) : Prop where
  outside : ∀ {depth n}, closing? none depth (encode text) = some n →
    ∃ body rest, text = body ++ '\x7d' :: rest ∧ Levels depth body ∧ n = byteLength body
  inside : ∀ {quote depth n}, quote ∈ ['\'', '"'] →
    closing? (some (byteOf quote)) depth (encode text) = some n →
      ∃ content body rest, text = content ++ quote :: body ++ '\x7d' :: rest ∧
        Quoted quote content ∧ Levels depth body ∧ n = byteLength (content ++ quote :: body)

variable {c : Char} {depth n : Nat} {rest : List Char}

theorem Sound.outside_cons (hrest : Sound rest)
    (h : closing? none depth (encode (c :: rest)) = some n) :
    ∃ body tail, c :: rest = body ++ '\x7d' :: tail ∧ Levels depth body ∧ n = byteLength body := by
  have hopenSize : '\x7b'.utf8Size = 1 := by decide
  have hcloseSize : '\x7d'.utf8Size = 1 := by decide
  by_cases hquote : c ∈ ['\'', '"']
  · rw [closing?_quote hquote] at h
    obtain ⟨m, hm, rfl⟩ := Option.map_eq_some_iff.mp h
    obtain ⟨content, body, tail, rfl, hcontent, hbody, rfl⟩ := hrest.inside hquote hm
    have hliteral : Levels depth ((c :: content ++ [c]) ++ body) :=
      hbody.prepend fun other hother => by simpa using Body.literal hquote hcontent hother
    refine ⟨c :: content ++ [c] ++ body, tail, by simp, hliteral, ?_⟩
    simp [byteLength, (isQuote_byteOf hquote).2.1]
    omega
  · by_cases hopen : c = '\x7b'
    · subst hopen
      rw [closing?_open] at h
      obtain ⟨m, hm, rfl⟩ := Option.map_eq_some_iff.mp h
      obtain ⟨_, tail, rfl, ⟨inner, body, rfl, hinner, hbody⟩, rfl⟩ := hrest.outside hm
      have hbraces : Levels depth (('\x7b' :: inner ++ ['\x7d']) ++ body) :=
        hbody.prepend fun other hother => by simpa using Body.braces hinner hother
      refine ⟨'\x7b' :: inner ++ ['\x7d'] ++ body, tail, by simp, hbraces, ?_⟩
      simp [byteLength, hopenSize, hcloseSize]
      omega
    · by_cases hclose : c = '\x7d'
      · subst hclose
        cases depth with
        | zero =>
            rw [closing?_close_zero] at h
            obtain rfl := Option.some.inj h
            exact ⟨[], rest, rfl, Body.nil, rfl⟩
        | succ depth =>
            rw [closing?_close_succ] at h
            obtain ⟨m, hm, rfl⟩ := Option.map_eq_some_iff.mp h
            obtain ⟨body, tail, rfl, hbody, rfl⟩ := hrest.outside hm
            refine ⟨'\x7d' :: body, tail, rfl, ⟨[], body, rfl, Body.nil, hbody⟩, ?_⟩
            simp [byteLength, hcloseSize]
            omega
      · have hplain : c ∉ ['\'', '"', '\x7b', '\x7d'] := by
          simp at hquote ⊢
          exact ⟨hquote.1, hquote.2, hopen, hclose⟩
        rw [closing?_char hplain] at h
        obtain ⟨m, hm, rfl⟩ := Option.map_eq_some_iff.mp h
        obtain ⟨body, tail, rfl, hbody, rfl⟩ := hrest.outside hm
        have hchar : Levels depth ([c] ++ body) :=
          hbody.prepend fun other hother => Body.char hplain hother
        refine ⟨[c] ++ body, tail, rfl, hchar, ?_⟩
        simp [byteLength]
        omega

theorem Sound.inside_cons {quote : Char} (hrest : Sound rest)
    (hmore : ∀ escaped more, rest = escaped :: more → Sound more) (hquote : quote ∈ ['\'', '"'])
    (h : closing? (some (byteOf quote)) depth (encode (c :: rest)) = some n) :
    ∃ content body tail, c :: rest = content ++ quote :: body ++ '\x7d' :: tail ∧
      Quoted quote content ∧ Levels depth body ∧ n = byteLength (content ++ quote :: body) := by
  by_cases hend : c = quote
  · subst hend
    rw [closing?_quoted_end hquote] at h
    obtain ⟨m, hm, rfl⟩ := Option.map_eq_some_iff.mp h
    obtain ⟨body, tail, rfl, hbody, rfl⟩ := hrest.outside hm
    refine ⟨[], body, tail, rfl, Quoted.nil, hbody, ?_⟩
    simp [byteLength, (isQuote_byteOf hquote).2.1]
    omega
  · by_cases hescape : c = '\\'
    · subst hescape
      cases rest with
      | nil =>
          have hlast : encode ['\\'] = [backslash] := by
            rw [encode_ascii (by decide), encode_nil]
            rfl
          rw [hlast, closing?] at h
          cases h
      | cons escaped more =>
          have hsize : '\\'.utf8Size = 1 := by decide
          rw [closing?_quoted_escape hquote] at h
          obtain ⟨m, hm, rfl⟩ := Option.map_eq_some_iff.mp h
          obtain ⟨content, body, tail, rfl, hcontent, hbody, rfl⟩ :=
            (hmore escaped more rfl).inside hquote hm
          refine ⟨'\\' :: escaped :: content, body, tail, by simp, hcontent.escape, hbody, ?_⟩
          simp [byteLength, hsize]
          omega
    · rw [closing?_quoted_char hquote hend hescape] at h
      obtain ⟨m, hm, rfl⟩ := Option.map_eq_some_iff.mp h
      obtain ⟨content, body, tail, rfl, hcontent, hbody, rfl⟩ := hrest.inside hquote hm
      refine ⟨c :: content, body, tail, rfl, hcontent.char hend hescape, hbody, ?_⟩
      simp [byteLength]
      omega

/-- An escape takes two characters at once, so the rest behind both is needed. -/
theorem sound : ∀ text : List Char, Sound text
  | [] => ⟨fun h => by simp [closing?] at h, fun _ h => by simp [closing?] at h⟩
  | [_] => ⟨(sound []).outside_cons, (sound []).inside_cons fun _ _ hsplit => nomatch hsplit⟩
  | _ :: escaped :: more => by
      have hrest := sound (escaped :: more)
      refine ⟨hrest.outside_cons, hrest.inside_cons ?_⟩
      rintro _ _ ⟨⟩
      exact sound more

end Soundness

/-- The scan finds the brace behind a body. -/
theorem closing?_eq_some_iff {text : List Char} {n : Nat} :
    closing? none 0 (encode text) = some n ↔
      ∃ body rest, text = body ++ '\x7d' :: rest ∧ Body body ∧ n = byteLength body := by
  constructor
  · exact (sound text).outside
  · rintro ⟨body, rest, rfl, hbody, rfl⟩
    rw [hbody.closing?_append closing?_close_zero, Nat.zero_add]

end CelWatch.Template
