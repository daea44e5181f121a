import CelWatch.Proofs.Template.Interpolation

/-!
A template may be cut wherever no dollar sign stands in front of the cut. What
the scan makes of the front does not depend on what follows, for it has come to
the cut exactly when the front ends, and what it makes of the rest it would make
of the rest alone. So a template that is put together from plain text, escaped
marks and interpolations has the bodies of these for its regions.
-/

namespace CelWatch.Template

open Text

section Bytes

variable {front bytes : List UInt8}

theorem map_add_of_some {found more : Option Nat} {step n length : Nat}
    (h : found.map (· + step) = some n)
    (hmore : ∀ {m}, found = some m → more = some m ∧ m < length) :
    more.map (· + step) = some n ∧ n < length + step := by
  obtain ⟨m, hfound, rfl⟩ := Option.map_eq_some_iff.mp h
  obtain ⟨hsome, hlt⟩ := hmore hfound
  exact ⟨by rw [hsome]; rfl, Nat.add_lt_add_right hlt step⟩

/-- A brace that closes a body does so whatever stands behind it. -/
theorem closing?_append_of_some {quote : Option UInt8} {depth n : Nat}
    (h : closing? quote depth bytes = some n) (rest : List UInt8) :
    closing? quote depth (bytes ++ rest) = some n ∧ n < bytes.length := by
  fun_induction closing? quote depth bytes generalizing n with
  | case1 => cases h
  | case2 => cases h
  | case3 quote depth next bytes ih =>
      rw [List.cons_append, List.cons_append, closing?, if_pos rfl]
      exact map_add_of_some h ih
  | case4 depth quote next bytes hescape ih =>
      rw [List.cons_append, List.cons_append, closing?, if_neg hescape, if_pos rfl]
      exact map_add_of_some h ih
  | case5 quote depth b next bytes hescape hquote ih =>
      rw [List.cons_append, List.cons_append, closing?, if_neg hescape, if_neg hquote]
      exact map_add_of_some h ih
  | case6 depth b bytes hquote ih =>
      rw [List.cons_append, closing?_quote_byte hquote]
      exact map_add_of_some h ih
  | case7 depth bytes hquote ih =>
      rw [List.cons_append, closing?_open_byte]
      exact map_add_of_some h ih
  | case8 bytes hquote hopen =>
      obtain rfl := Option.some.inj h
      rw [List.cons_append]
      exact ⟨closing?_end_byte, Nat.zero_lt_succ _⟩
  | case9 bytes depth hquote hopen ih =>
      rw [List.cons_append, closing?_close_byte]
      exact map_add_of_some h ih
  | case10 depth b bytes hquote hopen hclose ih =>
      rw [List.cons_append, closing?_plain_byte (Bool.eq_false_iff.mpr hquote) hopen hclose]
      exact map_add_of_some h ih

/-- The marks of an interpolation do not reach over a cut behind another byte
than a dollar sign. -/
theorem marks_append (rest : List UInt8) (hne : bytes ≠ []) (hend : bytes.getLast? ≠ some dollar) :
    [dollar, openBrace].isPrefixOf (bytes ++ rest) = [dollar, openBrace].isPrefixOf bytes := by
  obtain ⟨first, bytes, rfl⟩ := List.exists_cons_of_ne_nil hne
  cases bytes with
  | nil =>
      have hfirst : (dollar == first) = false :=
        beq_eq_false_iff_ne.mpr fun heq => hend (congrArg some heq.symm)
      simp [List.isPrefixOf, hfirst]
  | cons second bytes => rfl

theorem escape_append (rest : List UInt8) (hne : bytes ≠ []) (hend : bytes.getLast? ≠ some dollar) :
    [dollar, dollar, openBrace].isPrefixOf (bytes ++ rest) =
      [dollar, dollar, openBrace].isPrefixOf bytes := by
  obtain ⟨first, bytes, rfl⟩ := List.exists_cons_of_ne_nil hne
  cases bytes with
  | nil =>
      have hfirst : (dollar == first) = false :=
        beq_eq_false_iff_ne.mpr fun heq => hend (congrArg some heq.symm)
      simp [List.isPrefixOf, hfirst]
  | cons second bytes =>
      have hlast : (second :: bytes).getLast? ≠ some dollar := by simpa using hend
      have hmarks := marks_append rest (List.cons_ne_nil second bytes) hlast
      simp only [List.cons_append, List.isPrefixOf] at hmarks ⊢
      rw [hmarks]

/-- What is left of a text ends as the text does, or is empty. -/
theorem getLast?_suffix_ne {left : List UInt8} (hsuffix : left <:+ bytes)
    (hend : bytes.getLast? ≠ some dollar) : left.getLast? ≠ some dollar := by
  obtain ⟨before, rfl⟩ := hsuffix
  intro hlast
  rw [List.getLast?_append, hlast] at hend
  exact hend rfl

/-- Marks that open an interpolation are not those of an escape. -/
theorem not_escaped_of_marks (hmarks : [dollar, openBrace].isPrefixOf bytes = true) :
    ¬ [dollar, dollar, openBrace].isPrefixOf bytes = true := by
  rw [List.isPrefixOf_iff_prefix, pair_prefix_iff] at hmarks
  rw [List.isPrefixOf_iff_prefix, triple_prefix_iff, hmarks.2]
  rintro ⟨_, hsecond, _⟩
  exact absurd hsecond (by decide)

section Steps

variable {i length : Nat} {b : UInt8}

theorem bind_cons (result : Except TemplateError (List ByteSpan)) (span : ByteSpan) :
    (do pure (span :: (← result))) = result.map (span :: ·) := by
  cases result with
  | error error => rfl
  | ok spans => rfl

theorem map_eq_ok_iff {ε α β : Type} {f : α → β} {result : Except ε α} {b : β} :
    result.map f = .ok b ↔ ∃ a, result = .ok a ∧ f a = b := by
  cases result with
  | error error => simp [Except.map]
  | ok a => simp [Except.map]

theorem spansFrom_escaped (hescaped : [dollar, dollar, openBrace].isPrefixOf bytes = true) :
    spansFrom i bytes = spansFrom (i + 3) (bytes.drop 3) := by
  cases bytes with
  | nil => cases hescaped
  | cons b bytes => rw [spansFrom, if_pos hescaped, List.drop_succ_cons]

theorem spansFrom_unclosed (hmarks : [dollar, openBrace].isPrefixOf bytes = true)
    (hclosing : closing? none 0 (bytes.drop 2) = none) :
    spansFrom i bytes = .error (.unterminated i) := by
  cases bytes with
  | nil => cases hmarks
  | cons b bytes =>
      rw [List.drop_succ_cons] at hclosing
      rw [spansFrom, if_neg (not_escaped_of_marks hmarks), if_pos hmarks, hclosing]

theorem spansFrom_closed (hmarks : [dollar, openBrace].isPrefixOf bytes = true)
    (hclosing : closing? none 0 (bytes.drop 2) = some length) :
    spansFrom i bytes =
      (spansFrom (i + 2 + length + 1) ((bytes.drop 2).drop (length + 1))).map
        (⟨i + 2, i + 2 + length⟩ :: ·) := by
  cases bytes with
  | nil => cases hmarks
  | cons b bytes =>
      rw [List.drop_succ_cons] at hclosing ⊢
      rw [spansFrom, if_neg (not_escaped_of_marks hmarks), if_pos hmarks, hclosing]
      exact bind_cons _ _

theorem spansFrom_plain (hescaped : ¬ [dollar, dollar, openBrace].isPrefixOf (b :: bytes) = true)
    (hmarks : ¬ [dollar, openBrace].isPrefixOf (b :: bytes) = true) :
    spansFrom i (b :: bytes) = spansFrom (i + 1) bytes := by
  rw [spansFrom, if_neg hescaped, if_neg hmarks]

end Steps

/-- What a scan finds, for a text that stands `offset` bytes further on. -/
def relocated (offset : Nat) :
    Except TemplateError (List ByteSpan) → Except TemplateError (List ByteSpan)
  | .ok spans => .ok (spans.map (·.shift offset))
  | .error (.unterminated mark) => .error (.unterminated (offset + mark))

theorem relocated_map_cons (offset : Nat) (span : ByteSpan)
    (result : Except TemplateError (List ByteSpan)) :
    relocated offset (result.map (span :: ·)) =
      (relocated offset result).map (span.shift offset :: ·) := by
  cases result with
  | error error => rfl
  | ok spans => rfl

theorem spansFrom_add (offset i : Nat) (bytes : List UInt8) :
    spansFrom (offset + i) bytes = relocated offset (spansFrom i bytes) := by
  fun_induction spansFrom i bytes with
  | case1 i =>
      rw [spansFrom]
      rfl
  | case2 i b bytes hescaped ih =>
      rw [spansFrom_escaped hescaped, List.drop_succ_cons, ← ih, Nat.add_assoc]
  | case3 i b bytes hescaped hmarks hnone => exact spansFrom_unclosed hmarks hnone
  | case4 i b bytes hescaped hmarks length hlength span ih =>
      have hstart : offset + i + 2 + length + 1 = offset + (i + 2 + length + 1) := by omega
      have hspan : (⟨offset + i + 2, offset + i + 2 + length⟩ : ByteSpan) = span.shift offset := by
        simp [span, ByteSpan.shift, Nat.add_assoc]
      rw [spansFrom_closed hmarks hlength, List.drop_succ_cons, hstart, ih, hspan, bind_cons,
        relocated_map_cons]
  | case5 i b bytes hescaped hmarks ih =>
      rw [spansFrom_plain hescaped hmarks, ← ih, Nat.add_assoc]

/-- The scan goes on behind a front as it began there. -/
theorem spansFrom_append (i : Nat) (hend : front.getLast? ≠ some dollar) (rest : List UInt8) :
    ∀ spans, spansFrom i front = .ok spans →
      spansFrom i (front ++ rest) = (spansFrom (i + front.length) rest).map (spans ++ ·) := by
  fun_induction spansFrom i front with
  | case1 i =>
      intro spans hspans
      obtain rfl := Except.ok.inj hspans
      rw [List.nil_append, List.length_nil, Nat.add_zero]
      cases spansFrom i rest with
      | error error => rfl
      | ok spans => rfl
  | case2 i b bytes hescaped ih =>
      intro spans hspans
      have hlong : 3 ≤ (b :: bytes).length := (List.isPrefixOf_iff_prefix.mp hescaped).length_le
      have hmore : [dollar, dollar, openBrace].isPrefixOf (b :: bytes ++ rest) = true := by
        rwa [escape_append rest (List.cons_ne_nil b bytes) hend]
      have hlength : i + 3 + ((b :: bytes).drop 3).length = i + (b :: bytes).length := by
        rw [List.length_drop]
        omega
      rw [spansFrom_escaped hmore, List.drop_append_of_le_length hlong, ← hlength]
      exact ih (getLast?_suffix_ne (List.drop_suffix 3 (b :: bytes)) hend) spans hspans
  | case3 i b bytes hescaped hmarks hnone =>
      intro spans hspans
      cases hspans
  | case4 i b bytes hescaped hmarks length hlength span ih =>
      intro spans hspans
      rw [bind_cons] at hspans
      obtain ⟨more, hmore, rfl⟩ := map_eq_ok_iff.mp hspans
      obtain ⟨hclosing, hshort⟩ := closing?_append_of_some hlength rest
      have hlong : 2 ≤ (b :: bytes).length := (List.isPrefixOf_iff_prefix.mp hmarks).length_le
      have hrest : ((b :: bytes ++ rest).drop 2).drop (length + 1) =
          (bytes.drop 1).drop (length + 1) ++ rest := by
        rw [List.drop_append_of_le_length hlong, List.drop_succ_cons,
          List.drop_append_of_le_length hshort]
      have hend' : ((bytes.drop 1).drop (length + 1)).getLast? ≠ some dollar := by
        have hsuffix : bytes.drop 1 <:+ b :: bytes :=
          (List.drop_suffix 1 bytes).trans (List.suffix_cons b bytes)
        exact getLast?_suffix_ne ((List.drop_suffix _ _).trans hsuffix) hend
      have hbehind : i + 2 + length + 1 + ((bytes.drop 1).drop (length + 1)).length =
          i + (b :: bytes).length := by
        simp only [List.length_drop, List.length_cons] at hshort ⊢
        omega
      have hstep : spansFrom i (b :: bytes ++ rest) =
          (spansFrom (i + 2 + length + 1) (((b :: bytes ++ rest).drop 2).drop (length + 1))).map
            (span :: ·) := by
        refine spansFrom_closed ?_ ?_
        · rwa [marks_append rest (List.cons_ne_nil b bytes) hend]
        · rwa [List.drop_append_of_le_length hlong, List.drop_succ_cons]
      rw [hstep, hrest, ih hend' more hmore, hbehind]
      cases spansFrom (i + (b :: bytes).length) rest with
      | error error => rfl
      | ok spans => rfl
  | case5 i b bytes hescaped hmarks ih =>
      intro spans hspans
      have hlength : i + 1 + bytes.length = i + (b :: bytes).length := by
        rw [List.length_cons]
        omega
      rw [List.cons_append, spansFrom_plain, ← hlength]
      · exact ih (getLast?_suffix_ne (List.suffix_cons b bytes) hend) spans hspans
      · rwa [← List.cons_append, escape_append rest (List.cons_ne_nil b bytes) hend]
      · rwa [← List.cons_append, marks_append rest (List.cons_ne_nil b bytes) hend]

/-- Without a dollar sign nothing opens. -/
theorem spansFrom_of_not_mem (i : Nat) (h : dollar ∉ bytes) : spansFrom i bytes = .ok [] := by
  induction bytes generalizing i with
  | nil => rw [spansFrom]
  | cons b bytes ih =>
      obtain ⟨hb, hrest⟩ := not_or.mp (mt List.mem_cons.mpr h)
      have hother : (dollar == b) = false := beq_eq_false_iff_ne.mpr hb
      rw [spansFrom_plain (by simp [List.isPrefixOf, hother]) (by simp [List.isPrefixOf, hother]),
        ih _ hrest]

end Bytes

section Texts

variable {front rest : String} {spans : List ByteSpan} {span : ByteSpan}

theorem bytesOf_append (front rest : String) :
    bytesOf (front ++ rest) = bytesOf front ++ bytesOf rest := by
  rw [bytesOf_eq_encode, bytesOf_eq_encode, bytesOf_eq_encode, String.toList_append, encode_append]

theorem length_bytesOf (text : String) : (bytesOf text).length = byteLength text.toList := by
  rw [bytesOf_eq_encode, length_encode]

theorem getLast?_bytesOf_ne (hend : front.toList.getLast? ≠ some '$') :
    (bytesOf front).getLast? ≠ some dollar := by
  intro hlast
  rw [List.getLast?_eq_getElem?, length_bytesOf, bytesOf_eq_encode] at hlast
  obtain ⟨before, behind, htext, hbefore⟩ := exists_split_of_ascii hlast (by decide)
  have hsize := (Char.ofNat dollar.toNat).utf8Size_pos
  have hlength := congrArg byteLength htext
  rw [byteLength_append, byteLength] at hlength
  obtain rfl := eq_nil_of_byteLength (show byteLength behind = 0 by omega)
  rw [htext, List.getLast?_concat] at hend
  exact hend rfl

theorem dollar_not_mem_bytesOf {text : String} (h : '$' ∉ text.toList) : dollar ∉ bytesOf text := by
  rw [bytesOf_eq_encode]
  intro member
  obtain ⟨i, hi⟩ := List.mem_iff_getElem?.mp member
  obtain ⟨before, behind, htext, _⟩ := exists_split_of_ascii hi (by decide)
  rw [htext] at h
  exact h (List.mem_append_right before List.mem_cons_self)

theorem bodySpans_append (hfront : bodySpans front = .ok spans)
    (hend : front.toList.getLast? ≠ some '$') (rest : String) :
    bodySpans (front ++ rest) =
      (relocated (byteLength front.toList) (bodySpans rest)).map (spans ++ ·) := by
  have hbehind : 0 + (bytesOf front).length = byteLength front.toList + 0 := by
    rw [length_bytesOf, Nat.add_comm]
  rw [bodySpans, bytesOf_append, spansFrom_append 0 (getLast?_bytesOf_ne hend) _ spans hfront,
    hbehind, spansFrom_add]
  rfl

theorem slice_append_left (h : bodySpans front = .ok spans) (member : span ∈ spans)
    (rest : String) : slice (front ++ rest).toList span = slice front.toList span := by
  obtain ⟨before, body, behind, htext, _, rfl⟩ := body_of_mem_bodySpans h member
  have hfront := slice?_append before body ('\x7d' :: behind)
  have hwhole := slice?_append before body ('\x7d' :: behind ++ rest.toList)
  rw [← htext] at hfront
  rw [← List.append_assoc, ← htext, ← String.toList_append] at hwhole
  rw [slice, slice, hfront, hwhole]

theorem slice_append_right (h : bodySpans rest = .ok spans) (member : span ∈ spans)
    (front : String) :
    slice (front ++ rest).toList (span.shift (byteLength front.toList)) =
      slice rest.toList span := by
  obtain ⟨before, body, behind, htext, _, rfl⟩ := body_of_mem_bodySpans h member
  have hrest := slice?_append before body ('\x7d' :: behind)
  have hwhole := slice?_append (front.toList ++ before) body ('\x7d' :: behind)
  rw [← htext] at hrest
  rw [List.append_assoc, List.append_assoc, ← List.append_assoc before, ← htext,
    ← String.toList_append, byteLength_append, Nat.add_assoc] at hwhole
  rw [slice, slice, ByteSpan.shift, hrest, hwhole]

/-- A region of a text that stands `offset` bytes further on. -/
def Region.shift (region : Region) (offset : Nat) : Region :=
  { region with offset := offset + region.offset }

theorem regions_append_ok {found more : List Region} (hfront : regions front = .ok found)
    (hend : front.toList.getLast? ≠ some '$') (hrest : regions rest = .ok more) :
    regions (front ++ rest) = .ok (found ++ more.map (·.shift (byteLength front.toList))) := by
  obtain ⟨spans, hspans, rfl⟩ := map_eq_ok_iff.mp hfront
  obtain ⟨others, hothers, rfl⟩ := map_eq_ok_iff.mp hrest
  rw [regions, bodySpans_append hspans hend, hothers]
  simp only [relocated, Except.map, List.map_append, List.map_map]
  congr 2
  · exact List.map_congr_left fun span member => by rw [slice_append_left hspans member]
  · refine List.map_congr_left fun span member => ?_
    simp only [Function.comp_apply, slice_append_right hothers member]
    rfl

theorem regions_append_unterminated {found : List Region} {offset : Nat}
    (hfront : regions front = .ok found) (hend : front.toList.getLast? ≠ some '$')
    (hrest : regions rest = .error (.unterminated offset)) :
    regions (front ++ rest) = .error (.unterminated (byteLength front.toList + offset)) := by
  obtain ⟨spans, hspans, rfl⟩ := map_eq_ok_iff.mp hfront
  cases hothers : bodySpans rest with
  | error error =>
      rw [regions, hothers] at hrest
      obtain rfl := Except.error.inj hrest
      rw [regions, bodySpans_append hspans hend, hothers]
      rfl
  | ok others =>
      rw [regions, hothers] at hrest
      cases hrest

end Texts

/-- The template that holds one expression and nothing else. -/
def embed (text : String) : String := "$\x7b" ++ text ++ "\x7d"

theorem toList_embed (text : String) :
    (embed text).toList = ['$', '\x7b'] ++ text.toList ++ ['\x7d'] := by
  simp [embed]

theorem bodySpans_embed {text : String} (h : Body text.toList) :
    bodySpans (embed text) = .ok [⟨2, 2 + byteLength text.toList⟩] := by
  let inside := encode (text.toList ++ ['\x7d'])
  have hbytes : bytesOf (embed text) = dollar :: openBrace :: inside := by
    rw [bytesOf_eq_encode, toList_embed]
    simp only [List.cons_append, List.nil_append]
    rw [encode_ascii (by decide), encode_ascii (by decide)]
    rfl
  have hclosing : closing? none 0 ((dollar :: openBrace :: inside).drop 2) =
      some (byteLength text.toList) := by
    simpa using h.closing?_append closing?_close_zero
  have hend : inside.drop (byteLength text.toList + 1) = [] := by
    rw [List.drop_eq_nil_iff, length_encode, byteLength_append]
    exact Nat.le_refl _
  rw [bodySpans, hbytes, spansFrom_closed rfl hclosing, List.drop_succ_cons, List.drop_succ_cons,
    List.drop_zero, hend, spansFrom]
  simp [Except.map]

/-- The template gives the text back exactly if the text is a body. -/
theorem regions_embed_iff {text : String} :
    regions (embed text) = .ok [⟨text, 2⟩] ↔ Body text.toList := by
  constructor
  · intro h
    obtain ⟨_, _, _, _, hbody⟩ := body_of_mem_regions h List.mem_cons_self
    exact hbody
  · intro h
    have hslice : slice (embed text).toList ⟨2, 2 + byteLength text.toList⟩ = text := by
      have hcut := slice?_append ['$', '\x7b'] text.toList ['\x7d']
      rw [← toList_embed] at hcut
      rw [slice, show slice? (embed text).toList ⟨2, 2 + byteLength text.toList⟩ = _ from hcut]
      simp
    rw [regions, bodySpans_embed h]
    simp [Except.map, hslice]

/-- A part of a template. -/
inductive Piece where
  | literal (text : String) (hplain : '$' ∉ text.toList)
  | escape
  | expression (body : String) (hbody : Body body.toList)

def Piece.text : Piece → String
  | .literal text _ => text
  | .escape => "$$\x7b"
  | .expression body _ => embed body

/-- The body of a part that starts at `offset`. -/
def Piece.bodies (offset : Nat) : Piece → List Region
  | .expression body _ => [⟨body, offset + 2⟩]
  | _ => []

/-- The bodies of parts that stand one behind the other from `offset` on. -/
def bodiesFrom (offset : Nat) : List Piece → List Region
  | [] => []
  | piece :: rest => piece.bodies offset ++ bodiesFrom (offset + byteLength piece.text.toList) rest

def assemble (pieces : List Piece) : String :=
  String.join (pieces.map Piece.text)

theorem Piece.regions_text (piece : Piece) : regions piece.text = .ok (piece.bodies 0) := by
  cases piece with
  | literal text hplain =>
      rw [regions, bodySpans, Piece.text, spansFrom_of_not_mem 0 (dollar_not_mem_bytesOf hplain)]
      rfl
  | escape =>
      have hbytes : bytesOf "$$\x7b" = [dollar, dollar, openBrace] := by decide +kernel
      rw [regions, bodySpans, Piece.text, hbytes, spansFrom_escaped rfl, List.drop_succ_cons,
        List.drop_succ_cons, List.drop_succ_cons, List.drop_nil, spansFrom]
      rfl
  | expression body hbody => exact regions_embed_iff.mpr hbody

theorem Piece.getLast?_text (piece : Piece) : piece.text.toList.getLast? ≠ some '$' := by
  cases piece with
  | literal text hplain => exact fun hlast => hplain (List.mem_of_getLast? hlast)
  | escape => decide
  | expression body hbody =>
      rw [Piece.text, toList_embed, List.getLast?_concat]
      decide

theorem bodiesFrom_add (offset start : Nat) (pieces : List Piece) :
    bodiesFrom (offset + start) pieces = (bodiesFrom start pieces).map (·.shift offset) := by
  induction pieces generalizing start with
  | nil => rfl
  | cons piece rest ih =>
      have hpiece : piece.bodies (offset + start) = (piece.bodies start).map (·.shift offset) := by
        cases piece with
        | expression body hbody => simp [Piece.bodies, Region.shift, Nat.add_assoc]
        | _ => rfl
      rw [bodiesFrom, bodiesFrom, List.map_append, hpiece, Nat.add_assoc, ih]

/-- A template has the regions of its front and of its rest, wherever it is cut
behind another character than a dollar sign; what is not closed in the rest is
not closed in the whole. So a template that is put together has the bodies of
its parts for its regions, each where its part stands. -/
theorem regions_compositional :
    (∀ (front rest : String) (found : List Region), regions front = .ok found →
      front.toList.getLast? ≠ some '$' →
        (∀ more, regions rest = .ok more →
          regions (front ++ rest) =
            .ok (found ++ more.map (·.shift (byteLength front.toList)))) ∧
        ∀ offset, regions rest = .error (.unterminated offset) →
          regions (front ++ rest) =
            .error (.unterminated (byteLength front.toList + offset))) ∧
      ∀ pieces, regions (assemble pieces) = .ok (bodiesFrom 0 pieces) := by
  refine ⟨?_, ?_⟩
  · intro front rest found hfront hend
    exact ⟨fun more hrest => regions_append_ok hfront hend hrest,
      fun offset hrest => regions_append_unterminated hfront hend hrest⟩
  · intro pieces
    induction pieces with
    | nil => exact (Piece.literal "" (by decide)).regions_text
    | cons piece rest ih =>
        have hbodies : bodiesFrom (byteLength piece.text.toList) rest =
            (bodiesFrom 0 rest).map (·.shift (byteLength piece.text.toList)) :=
          bodiesFrom_add _ 0 rest
        have happend := regions_append_ok piece.regions_text piece.getLast?_text ih
        rw [assemble, List.map_cons, String.join_cons, bodiesFrom, Nat.zero_add, hbodies]
        exact happend

/-- A brace in a string literal, and an open end, behind an escape. -/
theorem regions_compositional_escaped :
    let front := "a$$\x7b"
    regions front = .ok [] ∧ front.toList.getLast? ≠ some '$' ∧
      regions (embed "'\x7d'") = .ok [⟨"'\x7d'", 2⟩] ∧
      regions (front ++ embed "'\x7d'") = .ok [⟨"'\x7d'", 6⟩] ∧
      regions "$\x7b" = .error (.unterminated 0) ∧
      regions (front ++ "$\x7b") = .error (.unterminated 4) := by
  intro front
  have hbody : Body "'\x7d'".toList :=
    @Body.literal '\'' ['\x7d'] [] (by decide) (.char (by decide) (by decide) .nil) .nil
  have hfront : regions front = .ok [] :=
    regions_compositional.2 [.literal "a" (by decide), .escape]
  have hend : front.toList.getLast? ≠ some '$' := by decide
  have hrest : regions (embed "'\x7d'") = .ok [⟨"'\x7d'", 2⟩] := regions_embed_iff.mpr hbody
  have hopen : regions "$\x7b" = .error (.unterminated 0) := by
    have hbytes : bytesOf "$\x7b" = [dollar, openBrace] := by decide +kernel
    rw [regions, bodySpans, hbytes, spansFrom_unclosed rfl (by simp [closing?])]
    rfl
  have hlength : byteLength front.toList = 4 := by decide
  have hwhole := (regions_compositional.1 front (embed "'\x7d'") [] hfront hend).1 _ hrest
  have hopened := (regions_compositional.1 front "$\x7b" [] hfront hend).2 0 hopen
  rw [hlength] at hwhole hopened
  exact ⟨hfront, hend, hrest, hwhole, hopen, hopened⟩

end CelWatch.Template
