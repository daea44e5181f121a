import CelWatch.Cel.Parse

/-!
Braces nest in every text that is an expression. A state of the parser knows
how many braces are open: each has its bracket or its place in the state. A
lexeme that is a brace changes that number by one and no other lexeme does, and
at the end no brace is open.
-/

namespace CelWatch.Cel

/-- How many braces a token opens. -/
def Token.opens (token : Token) : Nat :=
  if token = .mark .leftBrace then 1 else 0

/-- How many braces a token closes. -/
def Token.closes (token : Token) : Nat :=
  if token = .mark .rightBrace then 1 else 0

/-- How many braces stand open around what is in the bracket, and not around
the bracket. -/
@[simp] def Bracket.braces : Bracket → Nat
  | .key _ _ _ => 1
  | .value _ _ _ _ => 1
  | .field _ _ _ _ => 1
  | _ => 0

/-- How many braces are open at a place without a bracket for them. -/
@[simp] def Place.braces : Place → Nat
  | .entry _ _ => 1
  | .field _ _ => 1
  | .fieldName _ _ _ => 1
  | .fieldColon _ _ _ _ => 1
  | _ => 0

def bracesOf : List (Bracket × List Operator) → Nat
  | [] => 0
  | (bracket, _) :: outer => bracket.braces + bracesOf outer

/-- How many braces are open. -/
def ParseState.braces (state : ParseState) : Nat :=
  bracesOf state.brackets + state.place.braces

namespace ParseState

/-- The token takes so many open braces to so many. -/
def Nests (before : Nat) (token : Token) (after : Nat) : Prop :=
  before + token.opens = after + token.closes

variable {state next : ParseState} {lexeme : Lexeme}

@[simp] theorem bracesOf_cons (bracket : Bracket) (operators : List Operator)
    (brackets : List (Bracket × List Operator)) :
    bracesOf ((bracket, operators) :: brackets) = bracket.braces + bracesOf brackets := rfl

@[simp] theorem braces_mk (brackets : List (Bracket × List Operator)) (operators : List Operator)
    (place : Place) :
    (⟨brackets, operators, place⟩ : ParseState).braces = bracesOf brackets + place.braces := rfl

@[simp] theorem braces_complete (operand : Expr) :
    (state.complete operand).braces = bracesOf state.brackets := rfl

@[simp] theorem braces_enter (bracket : Bracket) :
    (state.enter bracket).braces = bracket.braces + bracesOf state.brackets := rfl

@[simp] theorem braces_await (operator : Operator) :
    (state.await operator).braces = bracesOf state.brackets := rfl

theorem smallestInt_braces {span : ByteSpan} (h : state.smallestInt span = .ok next) :
    next.braces = bracesOf state.brackets := by
  unfold smallestInt at h
  split at h
  · cases h
    rfl
  · cases h

theorem call_braces {stop : Nat} {callee : Expr} {arguments : List Expr}
    (h : state.call stop callee arguments = .ok next) : next.braces = bracesOf state.brackets := by
  unfold call at h
  split at h
  · cases h
    rfl
  · cases h

theorem startOperand_nests (h : state.startOperand lexeme = .ok next) :
    Nests (bracesOf state.brackets) lexeme.token next.braces := by
  simp only [startOperand, go] at h
  split at h
  case h_2 htoken => simp [htoken, Nests, Token.opens, Token.closes, smallestInt_braces h]
  all_goals cases h
  all_goals simp [*, Nests, Token.opens, Token.closes]

theorem startInside_nests {bracket : Bracket} (h : state.startInside bracket lexeme = .ok next) :
    Nests (bracket.braces + bracesOf state.brackets) lexeme.token next.braces :=
  startOperand_nests h

theorem leave_nests {bracket : Bracket} {inner : Expr}
    (h : state.leave bracket inner lexeme = .ok next) :
    Nests (bracket.braces + bracesOf state.brackets) lexeme.token next.braces := by
  simp only [leave, go] at h
  split at h
  case h_11 htoken => simp [htoken, Nests, Token.opens, Token.closes, call_braces h]
  all_goals cases h
  all_goals simp [*, Nests, Token.opens, Token.closes, Nat.add_comm]

/-- An operator between two operands is no brace. -/
theorem binaryOp?_brace {token : Token} {op : BinaryOp} (h : token.binaryOp? = some op) :
    token.opens = 0 ∧ token.closes = 0 := by
  unfold Token.binaryOp? at h
  split at h
  all_goals cases h
  all_goals exact ⟨rfl, rfl⟩

theorem afterWhole_nests {operand : Expr} (h : state.afterWhole operand lexeme = .ok next) :
    Nests (bracesOf state.brackets) lexeme.token next.braces := by
  simp only [afterWhole] at h
  split at h
  case h_1 htoken =>
    cases h
    simp [htoken, Nests, Token.opens, Token.closes]
  case h_2 hop _ =>
    cases h
    simp [binaryOp?_brace hop, Nests]
  case h_3 =>
    split at h
    case h_1 => cases h
    case h_2 hbrackets =>
      rw [hbrackets]
      exact leave_nests h

theorem suffix?_nests {operand : Expr} {token : Token} {place : Place}
    (h : suffix? operand token = some place) : token.opens = place.braces + token.closes := by
  unfold suffix? at h
  split at h
  case h_4 =>
    split at h
    · cases h
      rfl
    · cases h
  all_goals cases h
  all_goals rfl

theorem afterOperand_nests {operand : Expr} (h : state.afterOperand operand lexeme = .ok next) :
    Nests (bracesOf state.brackets) lexeme.token next.braces := by
  simp only [afterOperand, go] at h
  split at h
  case h_1 hplace =>
    cases h
    rw [Nests, suffix?_nests hplace, braces_mk, Nat.add_assoc]
  case h_2 => exact afterWhole_nests h

theorem selectorName?_brace {token : Token} {name : String} (h : token.selectorName? = some name) :
    token.opens = 0 ∧ token.closes = 0 := by
  unfold Token.selectorName? at h
  split at h
  all_goals cases h
  all_goals exact ⟨rfl, rfl⟩

theorem fieldName_nests {typeName : Expr} {done : List Field} {isOptional : Bool}
    (h : state.fieldName typeName done isOptional lexeme = .ok next) :
    Nests (bracesOf state.brackets + 1) lexeme.token next.braces := by
  simp only [fieldName, go] at h
  split at h
  case h_2 => cases h
  case h_1 hname =>
    cases h
    simp [selectorName?_brace hname, Nests]

theorem step_nests (h : state.step lexeme = .ok next) :
    Nests state.braces lexeme.token next.braces := by
  obtain ⟨brackets, operators, place⟩ := state
  simp only [step, go] at h
  split at h
  case h_1 => exact startOperand_nests h
  case h_2 => exact afterOperand_nests h
  case h_3 => exact afterWhole_nests h
  case h_6 => simpa using startInside_nests h
  case h_9 => simpa [Nat.add_comm] using startInside_nests h
  case h_12 => exact fieldName_nests h
  case h_13 => exact fieldName_nests h
  case h_16 htoken => simp [htoken, Nests, Token.opens, Token.closes, call_braces h]
  case h_17 => simpa using startInside_nests h
  case h_19 => simpa using startInside_nests h
  case h_21 =>
    split at h
    case h_1 hname =>
      cases h
      simp [selectorName?_brace hname, Nests]
    case h_2 => cases h
  all_goals cases h
  all_goals simp [*, Nests, Token.opens, Token.closes, Nat.add_comm]

theorem braces_of_finishAfter {operand expr : Expr} (h : state.finishAfter operand = .ok expr) :
    bracesOf state.brackets = 0 := by
  simp only [finishAfter] at h
  split at h
  case h_1 hbrackets => simp [hbrackets, bracesOf]
  case h_2 => cases h

/-- Where the text may end no brace is open. -/
theorem braces_of_finish {expr : Expr} (h : state.finish = .ok expr) : state.braces = 0 := by
  obtain ⟨brackets, operators, place⟩ := state
  simp only [finish] at h
  split at h
  case h_1 => exact braces_of_finishAfter h
  case h_2 => exact braces_of_finishAfter h
  all_goals cases h

end ParseState

end CelWatch.Cel
