import CelWatch.Proofs.Cel.Nesting
import CelWatch.Proofs.Cel.Scan

/-!
A text that is an expression is a body for the scan of a template, as far as
its special parts are. The text is its parts in a row, the parser sees to it
that the braces among them nest, and the scan passes over all the others.
-/

namespace CelWatch.Cel

open Template (Body Levels)

/-- How many characters belong to what was found, after the first one. -/
def Scan.more : Scan → Nat
  | .blank more => more
  | .token _ more => more
  | .failure more => more

/-- The parts that a text is cut into: lexemes, blanks and comments. The first
`skip` characters belong to a part that was taken already. -/
def partsFrom (skip : Nat) : List Char → List (List Char)
  | [] => []
  | c :: rest =>
    if skip > 0 then partsFrom (skip - 1) rest
    else (c :: rest.take (scan c rest).more) :: partsFrom (scan c rest).more rest

def parts (text : List Char) : List (List Char) := partsFrom 0 text

section Parse

variable {offset skip stop more : Nat} {found : List Lexeme} {state : ParseState} {expr : Expr}
  {c : Char} {text rest : List Char}

theorem parseFrom_nil (h : parseFrom stop state [] = .ok expr) : state.braces = 0 := by
  rw [parseFrom] at h
  split at h
  case h_1 hfinish => exact ParseState.braces_of_finish hfinish
  case h_2 => cases h

theorem parseFrom_cons {lexeme : Lexeme} {later : List Lexeme}
    (h : parseFrom stop state (lexeme :: later) = .ok expr) :
    ∃ next, state.step lexeme = .ok next ∧ parseFrom stop next later = .ok expr := by
  rw [parseFrom] at h
  split at h
  case h_1 next hnext => exact ⟨next, hnext, h⟩
  case h_2 => cases h
  case h_3 => cases h

/-- A lexeme takes the text behind it to the text in front of it. -/
theorem Counts.levels {token : Token} {before after : Nat} (h : Counts (c :: rest) token more)
    (hnests : ParseState.Nests before token after)
    (hspecial : isSpecial (c :: rest.take more) = true → Body (c :: rest.take more))
    (hrest : Levels after (rest.drop more)) : Levels before (c :: rest) := by
  rcases h with ⟨_, _, ⟨⟩, hbrace, rfl⟩ | ⟨⟨hopens, hcloses⟩, hpart⟩
  · cases hbrace with
    | left =>
        obtain rfl : before + 1 = after := hnests
        exact hrest.openBrace
    | right =>
        obtain rfl : before = after + 1 := hnests
        exact hrest.closeBrace
  · obtain rfl : before = after := by
      rwa [ParseState.Nests, hopens, hcloses] at hnests
    have hbody : Body (c :: rest.take more) := hpart.elim hspecial id
    have hlevels := hrest.prepend fun body => hbody.append
    rwa [List.cons_append, List.take_append_drop] at hlevels

/-- What is left of a text closes the braces that are open in the parser. -/
theorem levels_of_parseFrom (hfound : lexemesFrom offset skip text = .ok found)
    (hparse : parseFrom stop state found = .ok expr)
    (hspecial : ∀ part ∈ partsFrom skip text, isSpecial part = true → Body part) :
    Levels state.braces (text.drop skip) := by
  induction text generalizing offset skip found state with
  | nil =>
      cases hfound
      rw [parseFrom_nil hparse, List.drop_nil]
      exact .nil
  | cons c rest ih =>
      rw [lexemesFrom] at hfound
      rw [partsFrom] at hspecial
      by_cases hskip : skip > 0
      · obtain ⟨n, rfl⟩ : ∃ n, skip = n + 1 := ⟨skip - 1, by omega⟩
        exact ih hfound hparse hspecial
      · obtain rfl : skip = 0 := by omega
        simp only [gt_iff_lt, Nat.lt_irrefl, if_false] at hfound hspecial
        have hpart := hspecial _ List.mem_cons_self
        have hlater := fun part member => hspecial part (List.mem_cons_of_mem _ member)
        rw [List.drop_zero]
        rcases scan_cases c rest with ⟨more, hscan, hbody⟩ | hyields
        · rw [hscan] at hfound hpart hlater
          have hrest := (ih hfound hparse hlater).prepend fun body => (hbody.elim hpart id).append
          rwa [List.cons_append, Scan.more, List.take_append_drop] at hrest
        · cases hscan : scan c rest with
          | blank more =>
              rw [hscan] at hyields
              exact hyields.elim
          | failure more =>
              rw [hscan] at hfound
              cases hfound
          | token token more =>
              rw [hscan] at hfound hpart hlater hyields
              cases hrest : lexemesFrom (offset + c.utf8Size) more rest with
              | error error =>
                  simp only [hrest] at hfound
                  cases hfound
              | ok later =>
                  simp only [hrest] at hfound
                  cases hfound
                  obtain ⟨next, hstep, hnext⟩ := parseFrom_cons hparse
                  exact hyields.levels (ParseState.step_nests hstep) hpart (ih hrest hnext hlater)

end Parse

theorem body_of_parse {text : String} {expr : Expr} (h : parse text = .ok expr)
    (hspecial : ∀ part ∈ parts text.toList, isSpecial part = true → Body part) : Body text.toList := by
  rw [parse] at h
  split at h
  case h_1 => cases h
  case h_2 found hfound =>
    split at h
    case h_1 => cases h
    case h_2 => exact levels_of_parseFrom hfound h hspecial

end CelWatch.Cel
