import CelWatch.Proofs.Template.Body

/-!
The interpolations of a template by what they are, and not by how they are
found: where one opens depends on those before it, and it is closed by the
brace behind its body. The scan over the whole text finds exactly these. Where
it stands it has passed every interpolation that opens before, and it does not
stand on the brace marks of an escaped one.
-/

namespace CelWatch.Template

open Text

/-- A brace at byte `stop` closes an interpolation that opens at byte `i`: what
stands between its delimiters is a body. -/
def Closes (text : String) (i stop : Nat) : Prop :=
  ∃ before body rest, text.toList = before ++ body ++ '\x7d' :: rest ∧
    byteLength before = i + 2 ∧ Body body ∧ stop = i + 2 + byteLength body

/-- An interpolation opens at byte `i`: its marks stand there with no dollar
sign in front, and every interpolation that opens before is over. -/
def Opens (text : String) (i : Nat) : Prop :=
  (bytesOf text)[i]? = some dollar ∧ (bytesOf text)[i + 1]? = some openBrace ∧
    (∀ j, j + 1 = i → (bytesOf text)[j]? ≠ some dollar) ∧
    ∀ j, j < i → Opens text j → ∀ stop, Closes text j stop → stop < i
termination_by i

theorem bytesOf_eq_encode (text : String) : bytesOf text = encode text.toList := by
  rw [encode, String.ofList_toList, bytesOf]

/-- A text is cut in one way only at a byte. -/
theorem append_inj_of_byteLength {first second rest tail : List Char}
    (h : first ++ rest = second ++ tail) (hlength : byteLength first = byteLength second) :
    first = second ∧ rest = tail := by
  have hdrop := dropBytes?_append first rest
  rw [h, hlength, dropBytes?_append] at hdrop
  obtain rfl := Option.some.inj hdrop
  exact ⟨List.append_cancel_right h, rfl⟩

theorem drop_encode (front rest : List Char) :
    (encode (front ++ rest)).drop (byteLength front) = encode rest := by
  rw [encode_append]
  exact List.drop_left' (length_encode front)

section Marks

variable {α : Type} {first second third : α} {list : List α}

theorem pair_prefix_iff : [first, second] <+: list ↔ list[0]? = some first ∧ list[1]? = some second := by
  rcases list with _ | ⟨a, _ | ⟨b, rest⟩⟩
  · simp
  · simp
  · simp [List.cons_prefix_cons, eq_comm]

theorem triple_prefix_iff : [first, second, third] <+: list ↔
    list[0]? = some first ∧ list[1]? = some second ∧ list[2]? = some third := by
  rcases list with _ | ⟨a, rest⟩
  · simp
  · rw [List.cons_prefix_cons, pair_prefix_iff]
    simp [eq_comm]

end Marks

section Scan

variable {text : String} {i k n : Nat}

theorem closing?_encode_iff {front rest : List Char} (htext : text.toList = front ++ rest)
    (hfront : byteLength front = i + 2) :
    closing? none 0 (encode rest) = some n ↔ Closes text i (i + 2 + n) := by
  rw [closing?_eq_some_iff]
  constructor
  · rintro ⟨body, tail, rfl, hbody, rfl⟩
    exact ⟨front, body, tail, by simp [htext], hfront, hbody, rfl⟩
  · rintro ⟨before, body, tail, hsplit, hbefore, hbody, hstop⟩
    rw [htext, List.append_assoc] at hsplit
    obtain ⟨_, rfl⟩ := append_inj_of_byteLength hsplit (hfront.trans hbefore.symm)
    exact ⟨body, tail, rfl, hbody, by omega⟩

theorem closes_unique {first second : Nat} (hfirst : Closes text i first)
    (hsecond : Closes text i second) : first = second := by
  obtain ⟨front, body, tail, htext, hfront, hbody, rfl⟩ := id hfirst
  obtain ⟨_, other, _, _, _, _, rfl⟩ := id hsecond
  rw [List.append_assoc] at htext
  have hlength := (closing?_encode_iff htext hfront).mpr hfirst
  rw [(closing?_encode_iff htext hfront).mpr hsecond] at hlength
  rw [Option.some.inj hlength]

/-- The scan from behind the opening marks finds the brace that closes. -/
theorem closing?_drop_iff (hopen : (bytesOf text)[i + 1]? = some openBrace) :
    closing? none 0 ((bytesOf text).drop (i + 2)) = some n ↔ Closes text i (i + 2 + n) := by
  rw [bytesOf_eq_encode] at hopen ⊢
  obtain ⟨before, rest, htext, hbefore⟩ := exists_split_of_ascii hopen (by decide)
  have hsize : (Char.ofNat openBrace.toNat).utf8Size = 1 := by decide
  have hsplit : text.toList = (before ++ [Char.ofNat openBrace.toNat]) ++ rest := by
    simp [htext]
  have hfront : byteLength (before ++ [Char.ofNat openBrace.toNat]) = i + 2 := by
    simp [byteLength, hsize]
    omega
  rw [← closing?_encode_iff hsplit hfront, hsplit, ← hfront, drop_encode]

/-- The scan has come to byte `i`: all that opened before is over, and what
stands here is not escaped. -/
structure Scanned (text : String) (i : Nat) : Prop where
  closed : ∀ j, j < i → Opens text j → ∃ stop, stop < i ∧ Closes text j stop
  unescaped : ∀ j, j + 1 = i → (bytesOf text)[i]? = some dollar →
    (bytesOf text)[i + 1]? = some openBrace → (bytesOf text)[j]? ≠ some dollar

theorem Scanned.opens_iff (h : Scanned text i) :
    Opens text i ↔ (bytesOf text)[i]? = some dollar ∧ (bytesOf text)[i + 1]? = some openBrace := by
  rw [Opens]
  constructor
  · rintro ⟨hdollar, hopen, _⟩
    exact ⟨hdollar, hopen⟩
  · rintro ⟨hdollar, hopen⟩
    refine ⟨hdollar, hopen, fun j hj => h.unescaped j hj hdollar hopen, ?_⟩
    intro j hj hopens stop hstop
    obtain ⟨found, hfound, hcloses⟩ := h.closed j hj hopens
    rwa [closes_unique hstop hcloses]

/-- The closing brace is part of its interpolation. -/
theorem Opens.closed_before {j stop : Nat} (hopens : Opens text i) (hcloses : Closes text j stop)
    (hearlier : Opens text j) (hlt : j < i) : stop < i := by
  rw [Opens] at hopens
  exact hopens.2.2.2 j hlt hearlier stop hcloses

theorem Closes.lt {stop : Nat} (h : Closes text i stop) : i < stop := by
  obtain ⟨_, body, _, _, _, _, rfl⟩ := h
  omega

theorem Closes.brace {stop : Nat} (h : Closes text i stop) :
    (bytesOf text)[stop]? = some closeBrace := by
  obtain ⟨before, body, rest, htext, hbefore, _, rfl⟩ := h
  have hlength : byteLength (before ++ body) = i + 2 + byteLength body := by
    rw [byteLength_append, hbefore]
  have hdrop := drop_encode (before ++ body) ('\x7d' :: rest)
  rw [← htext, ← bytesOf_eq_encode, hlength, encode_ascii (by decide)] at hdrop
  have hfirst := congrArg (·[0]?) hdrop
  simp only [List.getElem?_drop, Nat.add_zero] at hfirst
  exact hfirst

/-- The spans of the bodies of all interpolations that open from byte `i` on. -/
structure Bodies (text : String) (i : Nat) (spans : List ByteSpan) : Prop where
  complete : ∀ j, i ≤ j → Opens text j → ∃ span ∈ spans, span.start = j + 2
  sound : ∀ span ∈ spans, ∃ j, i ≤ j ∧ span.start = j + 2 ∧ Opens text j ∧ Closes text j span.stop
  ascending : spans.Pairwise fun first second => first.stop + 2 < second.start

/-- The first interpolation that no brace closes. -/
structure Unterminated (text : String) (i : Nat) : Prop where
  opens : Opens text i
  unclosed : ∀ stop, ¬ Closes text i stop
  first : ∀ j, j < i → Opens text j → ∃ stop, Closes text j stop

/-- A right result of the scan from byte `i` on. -/
def Answers (text : String) (i : Nat) : Except TemplateError (List ByteSpan) → Prop
  | .ok spans => Bodies text i spans
  | .error (.unterminated offset) => Unterminated text offset

theorem Answers.skip {result : Except TemplateError (List ByteSpan)} (hle : i ≤ k)
    (hnone : ∀ j, i ≤ j → j < k → ¬ Opens text j) (h : Answers text k result) :
    Answers text i result := by
  cases result with
  | error error => exact h
  | ok spans =>
      refine ⟨?_, ?_, h.ascending⟩
      · intro j hj hopens
        have hk : k ≤ j := Nat.le_of_not_lt fun hlt => hnone j hj hlt hopens
        exact h.complete j hk hopens
      · intro span member
        obtain ⟨j, hj, hspan⟩ := h.sound span member
        exact ⟨j, Nat.le_trans hle hj, hspan⟩

theorem Answers.cons {stop : Nat} {result : Except TemplateError (List ByteSpan)}
    (hopens : Opens text i) (hcloses : Closes text i stop) (h : Answers text (stop + 1) result) :
    Answers text i (result.map (⟨i + 2, stop⟩ :: ·)) := by
  have hlt := hcloses.lt
  cases result with
  | error error => exact h
  | ok spans =>
      constructor
      · intro j hj hlater
        rcases Nat.eq_or_lt_of_le hj with rfl | hij
        · exact ⟨⟨i + 2, stop⟩, List.mem_cons_self, rfl⟩
        · have hpast := hlater.closed_before hcloses hopens hij
          obtain ⟨span, member, hspan⟩ := h.complete j hpast hlater
          exact ⟨span, List.mem_cons_of_mem _ member, hspan⟩
      · intro span member
        rcases List.mem_cons.mp member with rfl | hlater
        · exact ⟨i, Nat.le_refl i, rfl, hopens, hcloses⟩
        · obtain ⟨j, hj, hspan⟩ := h.sound span hlater
          exact ⟨j, by omega, hspan⟩
      · refine List.pairwise_cons.mpr ⟨?_, h.ascending⟩
        intro span member
        obtain ⟨j, hj, hstart, _⟩ := h.sound span member
        simp only [hstart]
        omega

theorem Scanned.skip (h : Scanned text i) (hle : i ≤ k)
    (hnone : ∀ j, i ≤ j → j < k → ¬ Opens text j)
    (hmark : ∀ j, j + 1 = k → (bytesOf text)[k]? = some dollar →
      (bytesOf text)[k + 1]? = some openBrace → (bytesOf text)[j]? ≠ some dollar) :
    Scanned text k := by
  refine ⟨?_, hmark⟩
  intro j hj hopens
  by_cases hi : j < i
  · obtain ⟨stop, hstop, hcloses⟩ := h.closed j hi hopens
    exact ⟨stop, Nat.lt_of_lt_of_le hstop hle, hcloses⟩
  · exact absurd hopens (hnone j (Nat.le_of_not_lt hi) hj)

theorem Scanned.past (h : Scanned text i) {stop : Nat} (hopens : Opens text i)
    (hcloses : Closes text i stop) : Scanned text (stop + 1) := by
  constructor
  · intro j hj hopened
    rcases Nat.lt_trichotomy j i with hbefore | rfl | hafter
    · obtain ⟨found, hfound, hfoundCloses⟩ := h.closed j hbefore hopened
      exact ⟨found, Nat.lt_trans hfound (Nat.lt_succ_of_lt hcloses.lt), hfoundCloses⟩
    · exact ⟨stop, Nat.lt_succ_self stop, hcloses⟩
    · have hpast := hopened.closed_before hcloses hopens hafter
      omega
  · intro j hj _ _ hdollar
    obtain rfl := Nat.succ.inj hj
    rw [hcloses.brace] at hdollar
    exact absurd hdollar (by decide)

theorem escaped_iff :
    [dollar, dollar, openBrace].isPrefixOf ((bytesOf text).drop i) = true ↔
      (bytesOf text)[i]? = some dollar ∧ (bytesOf text)[i + 1]? = some dollar ∧
        (bytesOf text)[i + 2]? = some openBrace := by
  simp [List.isPrefixOf_iff_prefix, triple_prefix_iff, List.getElem?_drop]

theorem marks_iff :
    [dollar, openBrace].isPrefixOf ((bytesOf text).drop i) = true ↔
      (bytesOf text)[i]? = some dollar ∧ (bytesOf text)[i + 1]? = some openBrace := by
  simp [List.isPrefixOf_iff_prefix, pair_prefix_iff, List.getElem?_drop]

theorem spansFrom_answers {bytes : List UInt8} (hbytes : bytes = (bytesOf text).drop i)
    (h : Scanned text i) : Answers text i (spansFrom i bytes) := by
  fun_induction spansFrom i bytes with
  | case1 i =>
      have hend : (bytesOf text).length ≤ i := List.drop_eq_nil_iff.mp hbytes.symm
      refine ⟨?_, fun span member => (nomatch member), List.Pairwise.nil⟩
      intro j hj hopens
      rw [Opens, List.getElem?_eq_none (Nat.le_trans hend hj)] at hopens
      cases hopens.1
  | case2 i b rest hescaped ih =>
      have hrest : rest.drop 2 = (bytesOf text).drop (i + 3) := by
        rw [← List.drop_drop, ← hbytes]
        rfl
      rw [hbytes, escaped_iff] at hescaped
      obtain ⟨hfirst, hsecond, hthird⟩ := hescaped
      have hnone : ∀ j, i ≤ j → j < i + 3 → ¬ Opens text j := by
        intro j hij hj hopens
        rw [Opens] at hopens
        obtain ⟨hdollar, hopen, hbefore, _⟩ := hopens
        obtain rfl | rfl | rfl : j = i ∨ j = i + 1 ∨ j = i + 2 := by omega
        · rw [hsecond] at hopen
          exact absurd hopen (by decide)
        · exact hbefore i rfl hfirst
        · rw [hthird] at hdollar
          exact absurd hdollar (by decide)
      refine (ih hrest (h.skip (by omega) hnone ?_)).skip (by omega) hnone
      intro j hj _ _ hdollar
      obtain rfl : j = i + 2 := by omega
      rw [hthird] at hdollar
      exact absurd hdollar (by decide)
  | case3 i b rest hescaped hopen hnone =>
      have hrest : rest.drop 1 = (bytesOf text).drop (i + 2) := by
        rw [← List.drop_drop, ← hbytes]
        rfl
      rw [hbytes, marks_iff] at hopen
      refine ⟨h.opens_iff.mpr hopen, ?_, ?_⟩
      · intro stop hcloses
        obtain ⟨n, rfl⟩ : ∃ n, stop = i + 2 + n := by
          obtain ⟨_, body, _, _, _, _, rfl⟩ := hcloses
          exact ⟨byteLength body, rfl⟩
        rw [hrest] at hnone
        cases hnone.symm.trans ((closing?_drop_iff hopen.2).mpr hcloses)
      · intro j hj hopens
        obtain ⟨stop, _, hcloses⟩ := h.closed j hj hopens
        exact ⟨stop, hcloses⟩
  | case4 i b rest hescaped hopen length hlength span ih =>
      have hrest : rest.drop 1 = (bytesOf text).drop (i + 2) := by
        rw [← List.drop_drop, ← hbytes]
        rfl
      rw [hbytes, marks_iff] at hopen
      have hopens : Opens text i := h.opens_iff.mpr hopen
      have hcloses : Closes text i (i + 2 + length) := by
        rw [← closing?_drop_iff hopen.2, ← hrest]
        exact hlength
      have hlater : (rest.drop 1).drop (length + 1) =
          (bytesOf text).drop (i + 2 + length + 1) := by
        rw [hrest, List.drop_drop, Nat.add_assoc (i + 2)]
      have hanswers := Answers.cons hopens hcloses (ih hlater (h.past hopens hcloses))
      cases hresult : spansFrom (i + 2 + length + 1) ((rest.drop 1).drop (length + 1)) with
      | error error =>
          rw [hresult] at hanswers
          exact hanswers
      | ok spans =>
          rw [hresult] at hanswers
          exact hanswers
  | case5 i b rest hescaped hopen ih =>
      have hrest : rest = (bytesOf text).drop (i + 1) := by
        rw [← List.drop_drop, ← hbytes]
        rfl
      rw [hbytes, escaped_iff] at hescaped
      rw [hbytes, marks_iff] at hopen
      have hnone : ∀ j, i ≤ j → j < i + 1 → ¬ Opens text j := by
        intro j hij hj hopens
        obtain rfl : j = i := by omega
        exact hopen (h.opens_iff.mp hopens)
      refine (ih hrest (h.skip (by omega) hnone ?_)).skip (by omega) hnone
      intro j hj hdollar hbrace hbefore
      obtain rfl := Nat.succ.inj hj
      exact hescaped ⟨hbefore, hdollar, hbrace⟩

/-- The region of an interpolation: the text between its marks, with the way
back to where it stands. -/
structure Region.Covers (region : Region) (text : String) (i stop : Nat) : Prop where
  source : slice? text.toList ⟨i + 2, stop⟩ = some region.source.toList
  toHost : ∀ first last, region.spanInHost ⟨first, last⟩ = ⟨i + 2 + first, i + 2 + last⟩
  host : slice? text.toList (region.spanInHost ⟨0, byteLength region.source.toList⟩) =
    some region.source.toList

theorem covers_of_closes {span : ByteSpan} (hstart : span.start = i + 2)
    (hcloses : Closes text i span.stop) :
    let region : Region := ⟨slice text.toList span, span.start⟩
    region.Covers text i span.stop ∧
      region.offset + byteLength region.source.toList = span.stop := by
  obtain ⟨start, stop⟩ := span
  obtain ⟨before, body, rest, htext, hbefore, _, hstop⟩ := hcloses
  simp only at hstart hstop
  subst hstart hstop
  have hslice : slice? text.toList ⟨i + 2, i + 2 + byteLength body⟩ = some body := by
    rw [htext, ← hbefore]
    exact slice?_append before body ('\x7d' :: rest)
  have hsource : (slice text.toList ⟨i + 2, i + 2 + byteLength body⟩).toList = body := by
    simp [slice, hslice]
  refine ⟨⟨?_, fun _ _ => rfl, ?_⟩, ?_⟩
  · rw [hsource, hslice]
  · rw [hsource]
    exact hslice
  · rw [hsource]

theorem bodySpans_answers (text : String) : Answers text 0 (bodySpans text) := by
  apply spansFrom_answers (List.drop_zero).symm
  constructor
  · intro j hj
    exact absurd hj (Nat.not_lt_zero j)
  · intro j hj
    exact absurd hj (Nat.succ_ne_zero j)

/-- A body that the scan finds stands in the template in front of a closing
brace. -/
theorem body_of_mem_bodySpans {spans : List ByteSpan} {span : ByteSpan}
    (h : bodySpans text = .ok spans) (member : span ∈ spans) :
    ∃ before body rest, text.toList = before ++ body ++ '\x7d' :: rest ∧ Body body ∧
      span = ⟨byteLength before, byteLength before + byteLength body⟩ := by
  have hanswers := bodySpans_answers text
  rw [h] at hanswers
  obtain ⟨i, _, hstart, _, hcloses⟩ := hanswers.sound span member
  obtain ⟨before, body, rest, htext, hbefore, hbody, hstop⟩ := hcloses
  refine ⟨before, body, rest, htext, hbody, ?_⟩
  rw [ByteSpan.mk.injEq, hbefore]
  exact ⟨hstart, hstop⟩

/-- A region is a body that stands in the template in front of a closing brace. -/
theorem body_of_mem_regions {found : List Region} {region : Region} (h : regions text = .ok found)
    (member : region ∈ found) :
    ∃ before rest, text.toList = before ++ region.source.toList ++ '\x7d' :: rest ∧
      byteLength before = region.offset ∧ Body region.source.toList := by
  cases hspans : bodySpans text with
  | error error =>
      rw [regions, hspans] at h
      cases h
  | ok spans =>
      rw [regions, hspans] at h
      obtain rfl := Except.ok.inj h
      obtain ⟨span, hspan, rfl⟩ := List.mem_map.mp member
      obtain ⟨before, body, rest, htext, hbody, rfl⟩ := body_of_mem_bodySpans hspans hspan
      have hslice := slice?_append before body ('\x7d' :: rest)
      rw [← htext] at hslice
      refine ⟨before, rest, ?_, rfl, ?_⟩
      · simpa [slice, hslice] using htext
      · simpa [slice, hslice] using hbody

/-- A template has a region for every interpolation and no others, in their
order and apart from each other, and each brings the text between its marks and
leads back to it. An interpolation has one closing brace at most. If one has
none, the first of these is what is reported. -/
theorem regions_exact (text : String) :
    (∀ i first second, Closes text i first → Closes text i second → first = second) ∧
      ((∀ i, Opens text i → ∃ stop, Closes text i stop) →
        ∃ found, regions text = .ok found ∧
          (∀ i, Opens text i →
            ∃ region ∈ found, ∃ stop, Closes text i stop ∧ region.Covers text i stop) ∧
          (∀ region ∈ found, ∃ i stop,
            Opens text i ∧ Closes text i stop ∧ region.Covers text i stop) ∧
          found.Pairwise fun first second =>
            first.offset + byteLength first.source.toList + 2 < second.offset) ∧
      (¬ (∀ i, Opens text i → ∃ stop, Closes text i stop) →
        ∃ i, Unterminated text i ∧ regions text = .error (.unterminated i)) := by
  have hanswers := bodySpans_answers text
  refine ⟨fun i first second => closes_unique, ?_, ?_⟩
  · intro hclosed
    cases hspans : bodySpans text with
    | error error =>
        obtain ⟨offset⟩ := error
        rw [hspans] at hanswers
        obtain ⟨stop, hstop⟩ := hclosed offset hanswers.opens
        exact absurd hstop (hanswers.unclosed stop)
    | ok spans =>
        rw [hspans] at hanswers
        refine ⟨spans.map fun span => ⟨slice text.toList span, span.start⟩, ?_, ?_, ?_, ?_⟩
        · rw [regions, hspans]
          rfl
        · intro i hopens
          obtain ⟨span, member, hstart⟩ := hanswers.complete i (Nat.zero_le i) hopens
          obtain ⟨j, _, hspan, _, hcloses⟩ := hanswers.sound span member
          obtain rfl : j = i := by omega
          exact ⟨_, List.mem_map_of_mem member, span.stop, hcloses,
            (covers_of_closes hstart hcloses).1⟩
        · intro region member
          obtain ⟨span, hspan, rfl⟩ := List.mem_map.mp member
          obtain ⟨i, _, hstart, hopens, hcloses⟩ := hanswers.sound span hspan
          exact ⟨i, span.stop, hopens, hcloses, (covers_of_closes hstart hcloses).1⟩
        · rw [List.pairwise_map]
          refine hanswers.ascending.imp_of_mem ?_
          intro first second hfirst _ hlt
          obtain ⟨i, _, hstart, _, hcloses⟩ := hanswers.sound first hfirst
          rw [(covers_of_closes hstart hcloses).2]
          exact hlt
  · intro hunclosed
    cases hspans : bodySpans text with
    | error error =>
        obtain ⟨offset⟩ := error
        rw [hspans] at hanswers
        refine ⟨offset, hanswers, ?_⟩
        rw [regions, hspans]
        rfl
    | ok spans =>
        rw [hspans] at hanswers
        refine absurd ?_ hunclosed
        intro i hopens
        obtain ⟨span, member, hstart⟩ := hanswers.complete i (Nat.zero_le i) hopens
        obtain ⟨j, _, hspan, _, hcloses⟩ := hanswers.sound span member
        obtain rfl : j = i := by omega
        exact ⟨span.stop, hcloses⟩

/-- An escaped interpolation, and one with a brace in a string literal. -/
def escapedFirst : String := "$$\x7ba\x7d$\x7b'\x7d'\x7d"

theorem regions_exact_escaped :
    (∀ i, Opens escapedFirst i → ∃ stop, Closes escapedFirst i stop) ∧
      ∃ found, regions escapedFirst = .ok found ∧ found ≠ [] ∧
        ∀ region ∈ found, region.spanInHost ⟨0, 3⟩ = ⟨7, 10⟩ := by
  let bytes : List UInt8 := [0x24, 0x24, 0x7B, 0x61, 0x7D, 0x24, 0x7B, 0x27, 0x7D, 0x27, 0x7D]
  have hbytes : bytesOf escapedFirst = bytes := by decide +kernel
  have hmarks : ∀ i < 11, bytes[i]? = some dollar ∧ bytes[i + 1]? = some openBrace →
      i = 1 ∨ i = 5 := by decide
  have honly : ∀ i, Opens escapedFirst i → i = 5 := by
    intro i hopens
    rw [Opens, hbytes] at hopens
    obtain ⟨hdollar, hopen, hbefore, _⟩ := hopens
    have hi : i < 11 := (List.getElem?_eq_some_iff.mp hdollar).1
    rcases hmarks i hi ⟨hdollar, hopen⟩ with rfl | rfl
    · exact absurd rfl (hbefore 0 rfl)
    · rfl
  have hbody : Body ('\'' :: ['\x7d'] ++ '\'' :: []) :=
    .literal (by decide) (.char (by decide) (by decide) .nil) .nil
  have hcloses : Closes escapedFirst 5 10 :=
    ⟨['$', '$', '\x7b', 'a', '\x7d', '$', '\x7b'], _, [], by decide +kernel, by decide, hbody,
      by decide⟩
  have hopens : Opens escapedFirst 5 := by
    rw [Opens, hbytes]
    refine ⟨rfl, rfl, by simp [bytes, dollar], ?_⟩
    intro j hj hother
    have hfive := honly j hother
    omega
  have hclosed : ∀ i, Opens escapedFirst i → ∃ stop, Closes escapedFirst i stop := by
    intro i hother
    obtain rfl := honly i hother
    exact ⟨10, hcloses⟩
  obtain ⟨found, hfound, hcomplete, hsound, _⟩ := (regions_exact escapedFirst).2.1 hclosed
  obtain ⟨region, member, _⟩ := hcomplete 5 hopens
  refine ⟨hclosed, found, hfound, List.ne_nil_of_mem member, ?_⟩
  intro other hother
  obtain ⟨i, stop, hopened, _, hcovers⟩ := hsound other hother
  obtain rfl := honly i hopened
  exact hcovers.toHost 0 3

end Scan

end CelWatch.Template
