import CelWatch.Proofs.Cel.Standing
import CelWatch.Proofs.Engine.Reading
import CelWatch.Proofs.Symbol.Summary
import CelWatch.Proofs.Template.Composition

/-!
Where the symbols of a document point. The span of a symbol lies in the host
text, and its edges tell whether it is the symbol's name: a letter, a digit or an
underscore ends it and no dot starts it exactly if the name is written there as a
word. A name in backquotes, behind a dot that leads to the root, or brought in by
a macro has a span that is something else.
-/

namespace CelWatch

namespace Text

/-- The character that starts at a byte. -/
def charAt? (text : List Char) (start : Nat) : Option Char :=
  (dropBytes? text start).bind List.head?

/-- The character that ends at a byte. -/
def charBefore? (text : List Char) (stop : Nat) : Option Char :=
  (takeBytes? text stop).bind List.getLast?

section Cut

variable {text front part behind : List Char} {n : Nat} {c : Char} {span : ByteSpan}

theorem charAt?_eq (htext : text = front ++ c :: behind) (hn : n = byteLength front) :
    charAt? text n = some c := by
  rw [charAt?, htext, hn, dropBytes?_append]
  rfl

theorem charBefore?_eq (htext : text = front ++ part ++ behind)
    (hn : n = byteLength front + byteLength part) (hlast : part.getLast? = some c) :
    charBefore? text n = some c := by
  rw [charBefore?, htext, hn, ← byteLength_append, takeBytes?_append]
  simp [hlast]

theorem slice?_eq (htext : text = front ++ part ++ behind) (hstart : span.start = byteLength front)
    (hstop : span.stop = byteLength front + byteLength part) : slice? text span = some part := by
  obtain ⟨start, stop⟩ := span
  rw [htext, show start = byteLength front from hstart, show stop = _ from hstop, slice?_append]

theorem eq_append_of_dropBytes? (h : dropBytes? text n = some behind) :
    ∃ front, text = front ++ behind ∧ byteLength front = n := by
  induction text generalizing n with
  | nil =>
      cases n with
      | zero => exact ⟨[], Option.some.inj h, rfl⟩
      | succ n => cases h
  | cons c rest ih =>
      cases n with
      | zero => exact ⟨[], Option.some.inj h, rfl⟩
      | succ n =>
          rw [dropBytes?] at h
          split at h
          case isTrue hfits =>
            obtain ⟨front, rfl, hlength⟩ := ih h
            refine ⟨c :: front, rfl, ?_⟩
            rw [byteLength]
            omega
          case isFalse => cases h

theorem eq_append_of_takeBytes? (h : takeBytes? text n = some front) :
    ∃ behind, text = front ++ behind ∧ byteLength front = n := by
  induction text generalizing n front with
  | nil =>
      cases n with
      | zero => cases h; exact ⟨[], rfl, rfl⟩
      | succ n => cases h
  | cons c rest ih =>
      cases n with
      | zero => cases h; exact ⟨c :: rest, rfl, rfl⟩
      | succ n =>
          rw [takeBytes?] at h
          split at h
          case isTrue hfits =>
            obtain ⟨taken, htaken, rfl⟩ := Option.map_eq_some_iff.mp h
            obtain ⟨behind, rfl, hlength⟩ := ih htaken
            refine ⟨behind, rfl, ?_⟩
            rw [byteLength]
            omega
          case isFalse => cases h

/-- A part that can be cut out stands in the text, from character to character. -/
theorem eq_append_of_slice? (h : slice? text span = some part) :
    ∃ front behind, text = front ++ part ++ behind ∧ span.start = byteLength front ∧
      span.stop = byteLength front + byteLength part := by
  unfold slice? at h
  split at h
  case isFalse => cases h
  case isTrue hle =>
    obtain ⟨tail, hdrop, htake⟩ := Option.bind_eq_some_iff.mp h
    obtain ⟨front, rfl, hfront⟩ := eq_append_of_dropBytes? hdrop
    obtain ⟨behind, rfl, hpart⟩ := eq_append_of_takeBytes? htake
    refine ⟨front, behind, (List.append_assoc _ _ _).symm, hfront.symm, ?_⟩
    omega

/-- What ends a part that can be cut out ends its span. -/
theorem getLast?_of_slice? (h : slice? text span = some part) (hne : part ≠ []) :
    part.getLast? = charBefore? text span.stop := by
  obtain ⟨front, behind, htext, _, hstop⟩ := eq_append_of_slice? h
  have hlast := List.getLast?_eq_some_getLast hne
  rw [hlast, charBefore?_eq htext hstop hlast]

end Cut

end Text

open Text

namespace Cel

/-- Whether a span has the edges of a name that is written as a word: a letter,
a digit or an underscore ends it, and no dot starts it. -/
def hasWordEdges (text : List Char) (span : ByteSpan) : Bool :=
  (charBefore? text span.stop).any isWordChar && charAt? text span.start != some '.'

section Stands

variable {text : List Char} {name : String} {span : ByteSpan}

theorem Stands.start_le (h : Stands text name span) : span.start ≤ span.stop := by
  cases h with
  | expanded _ horder _ => exact horder
  | _ => omega

theorem Stands.stop_le (h : Stands text name span) : span.stop ≤ byteLength text := by
  cases h with
  | rooted _ _ _ hbound => exact hbound
  | word htext _ hstop _ _ =>
      rw [htext, hstop, byteLength_append, byteLength_append]
      exact Nat.le_add_right _ _
  | backquoted htext _ _ hstop =>
      rw [htext, hstop, byteLength_append, byteLength_append, byteLength_backquoted]
      omega
  | backquotedMember htext _ _ hstop =>
      rw [htext, hstop, byteLength_append, byteLength_append, byteLength_backquoted]
      omega
  | expanded htext _ hstop =>
      have hsize : Char.utf8Size ')' = 1 := rfl
      rw [htext, hstop, byteLength_append, byteLength, hsize]
      omega

/-- A name stands where it did in a text with more around it. -/
theorem Stands.shift (h : Stands text name span) (before after : List Char) :
    Stands (before ++ text ++ after) name (span.shift (byteLength before)) := by
  have hlength (front : List Char) :
      byteLength before + byteLength front = byteLength (before ++ front) :=
    (byteLength_append before front).symm
  have hinside {front part behind : List Char} (htext : text = front ++ part ++ behind) :
      before ++ text ++ after = (before ++ front) ++ part ++ (behind ++ after) := by simp [htext]
  have hfrom {c : Char} {front behind : List Char} (htext : text = front ++ c :: behind) :
      before ++ text ++ after = (before ++ front) ++ c :: (behind ++ after) := by simp [htext]
  cases h with
  | word htext hstart hstop hne hword =>
      refine .word (hinside htext) ?_ ?_ hne hword
      · rw [ByteSpan.shift, hstart, hlength]
      · rw [ByteSpan.shift, hstop, ← Nat.add_assoc, hlength]
  | backquoted htext hname hstart hstop =>
      refine .backquoted (hinside htext) hname ?_ ?_
      · rw [ByteSpan.shift, hstart, hlength]
      · rw [ByteSpan.shift, hstop, ← Nat.add_assoc, ← Nat.add_assoc, hlength]
  | backquotedMember htext hname hstart hstop =>
      refine .backquotedMember (hinside htext) hname ?_ ?_
      · rw [ByteSpan.shift, hstart, ← Nat.add_assoc, hlength]
      · rw [ByteSpan.shift, hstop, ← Nat.add_assoc, ← Nat.add_assoc, hlength]
  | rooted htext hstart hstop hbound =>
      refine .rooted (hfrom htext) ?_ ?_ ?_
      · rw [ByteSpan.shift, hstart, hlength]
      · simp only [ByteSpan.shift]
        omega
      · simp only [ByteSpan.shift, byteLength_append]
        omega
  | expanded htext horder hstop =>
      refine .expanded (hfrom htext) (Nat.add_le_add_left horder _) ?_
      rw [ByteSpan.shift, hstop, ← Nat.add_assoc, hlength]

theorem charBefore?_backquoted {front behind : List Char} {n : Nat}
    (htext : text = front ++ ('`' :: name.toList ++ ['`']) ++ behind)
    (hn : n = byteLength front + byteLength name.toList + 2) : charBefore? text n = some '`' := by
  refine charBefore?_eq htext ?_ List.getLast?_concat
  rw [hn, byteLength_backquoted, Nat.add_assoc]

theorem hasWordEdges_of_last {c : Char} (hlast : charBefore? text span.stop = some c)
    (hc : isWordChar c = false) : hasWordEdges text span = false := by
  simp [hasWordEdges, hlast, hc]

/-- A name that is written as a word has the edges of one. -/
theorem hasWordEdges_of_word {front behind : List Char}
    (htext : text = front ++ name.toList ++ behind) (hstart : span.start = byteLength front)
    (hstop : span.stop = byteLength front + byteLength name.toList) (hne : name.toList ≠ [])
    (hword : ∀ c ∈ name.toList, isWordChar c = true) : hasWordEdges text span = true := by
  obtain ⟨first, more, hname⟩ := List.exists_cons_of_ne_nil hne
  have hlast := List.getLast?_eq_some_getLast hne
  have hend := charBefore?_eq htext hstop hlast
  have hbegin : charAt? text span.start = some first := by
    have hfirst : text = front ++ first :: (more ++ behind) := by simp [htext, hname]
    exact charAt?_eq hfirst hstart
  have hnodot : first ≠ '.' := by
    rintro rfl
    have hdot : isWordChar '.' = true := hword _ (hname ▸ List.mem_cons_self)
    exact absurd hdot (by decide)
  simp [hasWordEdges, hend, hbegin, hnodot, hword _ (List.getLast_mem hne)]

/-- The edges of a span are those of a word where the name is written as one, and
then the span is the name. Elsewhere it is not, unless both end with a closing
parenthesis. -/
theorem Stands.edges (h : Stands text name span) :
    hasWordEdges text span = true ∧ slice? text span = some name.toList ∨
      hasWordEdges text span = false ∧ (slice? text span = some name.toList →
        name.toList ≠ [] → name.toList.getLast? = some ')') := by
  have hlength (hslice : slice? text span = some name.toList) :
      span.stop = span.start + byteLength name.toList := by
    obtain ⟨front, behind, _, hstart, hstop⟩ := eq_append_of_slice? hslice
    rw [hstart, hstop]
  cases h with
  | word htext hstart hstop hne hword =>
      exact .inl ⟨hasWordEdges_of_word htext hstart hstop hne hword, slice?_eq htext hstart hstop⟩
  | backquoted htext hname hstart hstop =>
      have hend := charBefore?_backquoted htext hstop
      refine .inr ⟨hasWordEdges_of_last hend (by decide), fun hslice _ => ?_⟩
      have hshort := hlength hslice
      omega
  | backquotedMember htext hname hstart hstop =>
      have hend := charBefore?_backquoted htext hstop
      refine .inr ⟨hasWordEdges_of_last hend (by decide), fun hslice hne => ?_⟩
      have hlast := (getLast?_of_slice? hslice hne).trans hend
      exact absurd (List.mem_of_getLast? hlast) hname
  | rooted htext hstart hstop hbound =>
      have hdot := charAt?_eq htext hstart
      refine .inr ⟨by simp [hasWordEdges, hdot], fun hslice _ => ?_⟩
      have hshort := hlength hslice
      omega
  | @expanded front behind htext horder hstop =>
      have hend : charBefore? text span.stop = some ')' := by
        have hcall : text = front ++ [')'] ++ behind := by simp [htext]
        exact charBefore?_eq hcall hstop rfl
      refine .inr ⟨hasWordEdges_of_last hend (by decide), fun hslice hne => ?_⟩
      exact (getLast?_of_slice? hslice hne).trans hend

end Stands

end Cel

namespace CelEngine

open Cel

variable {environment : Environment} {text : String} {isTemplate : Bool}

/-- A region is a part of the text. -/
theorem eq_append_of_mem_regions {found : List Template.Region} {region : Template.Region}
    (h : regions text isTemplate = .ok found) (member : region ∈ found) :
    ∃ before after, text.toList = before ++ region.source.toList ++ after ∧
      byteLength before = region.offset := by
  cases isTemplate with
  | false =>
      cases h
      obtain rfl := List.mem_singleton.mp member
      exact ⟨[], [], (List.append_nil _).symm, rfl⟩
  | true =>
      obtain ⟨before, rest, htext, hbefore, _⟩ := Template.body_of_mem_regions h member
      exact ⟨before, _, htext, hbefore⟩

theorem parse_of_read {source : String} {expr : Expr}
    (h : (Language.cel environment).read source = ⟨[], some expr⟩) : parse source = .ok expr := by
  cases hresult : parse source with
  | error error => simp [Language.cel, hresult] at h
  | ok found => simpa [Language.cel, hresult] using h

/-- All names of a document stand in its text. -/
theorem named_of_parsed {tree : CelTree} {issues : List Issue}
    (h : outcome environment text isTemplate = .parsed tree issues) :
    Named text.toList tree.occurrences := by
  obtain ⟨found, hfound, hroots⟩ := roots_of_parsed h
  intro occurrence member
  obtain ⟨root, hroot, hmember⟩ := List.mem_flatMap.mp member
  obtain ⟨inner, hinner, rfl⟩ := List.mem_map.mp hmember
  obtain ⟨region, hregion, hread⟩ := exists_region_of_mem_roots hroots root hroot
  obtain ⟨expr, hexpr, rfl⟩ := root_ok_iff.mp hread
  obtain ⟨before, after, htext, hbefore⟩ := eq_append_of_mem_regions hfound hregion
  have hstands := (named_of_parse (parse_of_read hexpr) inner hinner).shift before after
  rw [← htext, hbefore] at hstands
  exact hstands

/-- The name of a symbol stands at its span. -/
theorem symbol_stands {tree : CelTree} {issues : List Issue} {symbol : Symbol}
    (h : outcome environment text isTemplate = .parsed tree issues)
    (member : symbol ∈ tree.symbols.symbols) :
    Stands text.toList symbol.name symbol.span ∧ symbol.name.toList ≠ [] := by
  have hfirst := (SymbolTable.ofOccurrences_summarizes tree.occurrences).first symbol member
  obtain ⟨hmember, hkept⟩ := List.mem_filter.mp (List.mem_of_find?_eq_some hfirst)
  refine ⟨named_of_parsed h _ hmember, ?_⟩
  intro hnil
  simp [isSynthetic, String.toList_eq_nil_iff.mp hnil] at hkept

/-- The span of a symbol lies in the text. With the edges of a word it can be cut
out, and what is cut out is the symbol's name. With other edges it never is, but
for names that end with a closing parenthesis. -/
theorem symbol_spans (environment : Environment) {text : String} {isTemplate : Bool}
    {tree : CelTree} {issues : List Issue} {symbol : Symbol}
    (h : outcome environment text isTemplate = .parsed tree issues)
    (member : symbol ∈ tree.symbols.symbols) :
    symbol.span.start ≤ symbol.span.stop ∧ symbol.span.stop ≤ byteLength text.toList ∧
      (hasWordEdges text.toList symbol.span = true →
        slice? text.toList symbol.span = some symbol.name.toList) ∧
      (slice? text.toList symbol.span = some symbol.name.toList →
        hasWordEdges text.toList symbol.span = true ∨ symbol.name.toList.getLast? = some ')') := by
  obtain ⟨hstands, hne⟩ := symbol_stands h member
  refine ⟨hstands.start_le, hstands.stop_le, ?_, ?_⟩
  · intro hword
    rcases hstands.edges with ⟨_, hslice⟩ | ⟨hother, _⟩
    · exact hslice
    · cases hword.symm.trans hother
  · intro hslice
    rcases hstands.edges with ⟨hword, _⟩ | ⟨_, hlast⟩
    · exact .inl hword
    · exact .inr (hlast hslice hne)

/-- The tree of an embedded `a.b`. -/
def embeddedMember : CelTree := ⟨[⟨.member ⟨0, 3⟩ (.ident ⟨0, 1⟩ "a") "b" false, 2⟩]⟩

theorem symbol_spans_embedded_member :
    (∃ issues, outcome Environment.full (Template.embed "a.b") true =
        .parsed embeddedMember issues) ∧
      ⟨.field, "b", ⟨4, 5⟩, 1⟩ ∈ embeddedMember.symbols.symbols ∧
      hasWordEdges (Template.embed "a.b").toList ⟨4, 5⟩ = true ∧
      slice? (Template.embed "a.b").toList ⟨4, 5⟩ = some "b".toList := by
  have hfirst : scan 'a' ['.', 'b'] = .token (.ident "a") 0 := wordScan_of_not_quote rfl
  have hsecond : scan 'b' [] = .token (.ident "b") 0 := wordScan_of_not_quote rfl
  have hlexemes : lexemes "a.b".toList =
      .ok [⟨.ident "a", ⟨0, 1⟩⟩, ⟨.mark .dot, ⟨1, 2⟩⟩, ⟨.ident "b", ⟨2, 3⟩⟩] := by
    change lexemesFrom 0 0 ['a', '.', 'b'] = _
    simp only [lexemesFrom, hfirst, hsecond]
    rfl
  have hread : (Language.cel .full).read "a.b" =
      ⟨[], some (.member ⟨0, 3⟩ (.ident ⟨0, 1⟩ "a") "b" false)⟩ := by
    simp only [Language.cel, parse, hlexemes]
    rfl
  have hbody : Template.Body "a.b".toList :=
    .char (by decide) (.char (by decide) (.char (by decide) .nil))
  have hfound := regions_template (Template.regions_embed_iff.mpr hbody)
  have hroots : CelEngine.roots (Language.cel .full) [⟨"a.b", 2⟩] = .ok embeddedMember.roots := by
    rw [roots_singleton, root_ok_iff.mpr ⟨_, hread, rfl⟩]
    rfl
  have hparsed := outcome_of_roots hfound hroots
  have member : ⟨.field, "b", ⟨4, 5⟩, 1⟩ ∈ embeddedMember.symbols.symbols := by decide
  have hedges : hasWordEdges (Template.embed "a.b").toList ⟨4, 5⟩ = true := by decide
  obtain ⟨_, _, hslice, _⟩ := symbol_spans .full hparsed member
  exact ⟨⟨_, hparsed⟩, member, hedges, hslice hedges⟩

/-- A member whose name is between backquotes. -/
def quotedMember : String := "a.`é`"

def quotedMemberTree : CelTree := ⟨[⟨.member ⟨0, 6⟩ (.ident ⟨0, 1⟩ "a") "é" false, 0⟩]⟩

/-- The span of its symbol starts inside a character. -/
theorem quoted_member_cut :
    (∃ issues, outcome Environment.full quotedMember false = .parsed quotedMemberTree issues) ∧
      ⟨.field, "é", ⟨4, 6⟩, 1⟩ ∈ quotedMemberTree.symbols.symbols ∧
      slice? quotedMember.toList ⟨4, 6⟩ = none := by
  have hword : scan 'a' ".`é`".toList = .token (.ident "a") 0 := wordScan_of_not_quote rfl
  have hlexemes : lexemes quotedMember.toList =
      .ok [⟨.ident "a", ⟨0, 1⟩⟩, ⟨.mark .dot, ⟨1, 2⟩⟩, ⟨.ident "é", ⟨2, 6⟩⟩] := by
    change lexemesFrom 0 0 ('a' :: ".`é`".toList) = _
    simp only [lexemesFrom, hword]
    rfl
  have hread : (Language.cel .full).read quotedMember =
      ⟨[], some (.member ⟨0, 6⟩ (.ident ⟨0, 1⟩ "a") "é" false)⟩ := by
    simp only [Language.cel, parse, hlexemes]
    rfl
  have hparsed := outcome_source_parsed_iff.mpr ⟨_, hread, rfl, rfl⟩
  exact ⟨⟨_, hparsed⟩, by decide, by decide⟩

end CelEngine

end CelWatch
