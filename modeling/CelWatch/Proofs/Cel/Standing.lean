import CelWatch.Proofs.Cel.Names

/-!
What the parser holds while it reads starts at or before the byte up to which
the text is read, and its names stand in the text. A lexeme that stands in the
text keeps that, and so all names of an expression stand in its text.
-/

namespace CelWatch.Cel

open Text (byteLength byteLength_append)

theorem utf8ByteSize_ofList (text : List Char) :
    (String.ofList text).utf8ByteSize = byteLength text := by
  induction text with
  | nil => rfl
  | cons c rest ih =>
      rw [String.ofList_cons, String.utf8ByteSize_append, String.utf8ByteSize_singleton, ih]
      rfl

/-- The number of bytes by which the place of a member's name is counted back. -/
theorem utf8ByteSize_eq (name : String) : name.utf8ByteSize = byteLength name.toList := by
  rw [← utf8ByteSize_ofList, String.ofList_toList]

theorem byteLength_backquoted (name : List Char) :
    byteLength ('`' :: name ++ ['`']) = byteLength name + 2 := by
  have hsize : Char.utf8Size '`' = 1 := rfl
  rw [List.cons_append, byteLength, byteLength_append, byteLength, byteLength, hsize]
  omega

section Lexeme

variable {text : List Char} {lexeme : Lexeme} (h : lexeme.StandsIn text)

include h

theorem Lexeme.StandsIn.start_le : lexeme.span.start ≤ lexeme.span.stop := by
  obtain ⟨front, part, behind, _, hspan, _⟩ := h
  rw [hspan]
  exact Nat.le_add_right _ _

theorem Lexeme.StandsIn.stop_le : lexeme.span.stop ≤ byteLength text := by
  obtain ⟨front, part, behind, rfl, hspan, _⟩ := h
  rw [hspan, byteLength_append, byteLength_append]
  exact Nat.le_add_right _ _

theorem Lexeme.StandsIn.dot (htoken : lexeme.token = .mark .dot) :
    ∃ front behind, text = front ++ '.' :: behind ∧ lexeme.span.start = byteLength front ∧
      lexeme.span.stop = byteLength front + 1 := by
  obtain ⟨front, part, behind, rfl, hspan, hspelled⟩ := h
  obtain rfl : part = ['.'] := by simpa [htoken] using hspelled
  exact ⟨front, behind, List.append_assoc _ _ _, by rw [hspan], by rw [hspan]; rfl⟩

theorem Lexeme.StandsIn.rightParen (htoken : lexeme.token = .mark .rightParen) :
    ∃ front behind, text = front ++ ')' :: behind ∧ lexeme.span.stop = byteLength front + 1 := by
  obtain ⟨front, part, behind, rfl, hspan, hspelled⟩ := h
  obtain rfl : part = [')'] := by simpa [htoken] using hspelled
  exact ⟨front, behind, List.append_assoc _ _ _, by rw [hspan]; rfl⟩

theorem Lexeme.StandsIn.ident {name : String} (htoken : lexeme.token = .ident name) :
    Stands text name lexeme.span := by
  obtain ⟨front, part, behind, htext, hspan, hspelled⟩ := h
  have hwrites : Writes name part := by simpa [htoken] using hspelled
  cases hwrites with
  | word hne hword => exact .word htext (by rw [hspan]) (by rw [hspan]) hne hword
  | backquoted hname =>
      refine .backquoted htext hname (by rw [hspan]) ?_
      rw [hspan, byteLength_backquoted, Nat.add_assoc]

/-- Where the name of a member is looked for: counted back from the member's end,
as if it were a word. -/
theorem Lexeme.StandsIn.member {name : String} (htoken : lexeme.token.selectorName? = some name)
    (start : Nat) : Stands text name (memberSpan ⟨start, lexeme.span.stop⟩ name) := by
  obtain ⟨front, part, behind, htext, hspan, hspelled⟩ := h
  have hwrites : Writes name part := by
    unfold Token.selectorName? at htoken
    split at htoken
    case h_1 heq => cases htoken; simpa [heq] using hspelled
    case h_2 heq => cases htoken; simpa [heq] using hspelled
    case h_3 => cases htoken
  cases hwrites with
  | word hne hword =>
      refine .word htext ?_ (by simp [memberSpan, hspan]) hne hword
      simp [memberSpan, hspan, utf8ByteSize_eq]
  | backquoted hname =>
      have hlength := byteLength_backquoted name.toList
      refine .backquotedMember htext hname ?_ ?_
      · simp only [memberSpan, hspan, utf8ByteSize_eq, hlength]
        omega
      · simp only [memberSpan, hspan, hlength]
        omega

/-- A name behind a dot that starts an operand. -/
theorem Lexeme.StandsIn.rooted {name : String} {start : Nat} (htoken : lexeme.token = .ident name)
    (hdot : ∃ front behind, text = front ++ '.' :: behind ∧ start = byteLength front ∧
      start < lexeme.span.start) : Stands text name ⟨start, lexeme.span.stop⟩ := by
  obtain ⟨front, behind, htext, hstart, hless⟩ := hdot
  have hname : lexeme.span.start + byteLength name.toList ≤ lexeme.span.stop := by
    obtain ⟨_, part, _, _, hspan, hspelled⟩ := h
    have hwrites : Writes name part := by simpa [htoken] using hspelled
    simp only [hspan]
    cases hwrites with
    | word hne hword => exact Nat.le_refl _
    | backquoted hname =>
        rw [byteLength_backquoted]
        omega
  have hshort : start + byteLength name.toList < lexeme.span.stop := by omega
  exact .rooted htext hstart hshort h.stop_le

end Lexeme

/-- An operator that waits for its last operand, with what it has. -/
@[simp] def Operator.Held (text : List Char) (stop : Nat) : Operator → Prop
  | .unary _ start => start ≤ stop
  | .binary _ left => left.Held text stop
  | .whenFalse condition whenTrue => condition.Held text stop ∧ whenTrue.Held text stop

/-- An open bracket, with what is complete in it. -/
@[simp] def Bracket.Held (text : List Char) (stop : Nat) : Bracket → Prop
  | .parenthesis => True
  | .whenTrue condition => condition.Held text stop
  | .element start done _ => start ≤ stop ∧ Named text (elementOccurrences done)
  | .key start done _ => start ≤ stop ∧ Named text (entryOccurrences done)
  | .value start done _ expr =>
    start ≤ stop ∧ Named text (entryOccurrences done) ∧ expr.Held text stop
  | .field typeName done _ _ => typeName.Held text stop ∧ Named text (fieldOccurrences done)
  | .argument callee done => callee.Held text stop ∧ ∀ argument ∈ done, Expr.Held text stop argument
  | .index receiver _ => receiver.Held text stop

/-- What may come next, with what it goes on from. -/
@[simp] def Place.Held (text : List Char) (stop : Nat) : Place → Prop
  | .operand => True
  | .after expr => expr.Held text stop
  | .afterWhole expr => expr.Held text stop
  | .element start done => start ≤ stop ∧ Named text (elementOccurrences done)
  | .entry start done => start ≤ stop ∧ Named text (entryOccurrences done)
  | .field typeName done => typeName.Held text stop ∧ Named text (fieldOccurrences done)
  | .fieldName typeName done _ => typeName.Held text stop ∧ Named text (fieldOccurrences done)
  | .fieldColon typeName done _ _ => typeName.Held text stop ∧ Named text (fieldOccurrences done)
  | .argument callee done => callee.Held text stop ∧ ∀ argument ∈ done, Expr.Held text stop argument
  | .subscript receiver => receiver.Held text stop
  | .selector receiver _ => receiver.Held text stop
  | .rootName start =>
    ∃ front behind, text = front ++ '.' :: behind ∧ start = byteLength front ∧ start < stop

/-- Everything that the parser holds once the text is read up to byte `stop`. -/
structure ParseState.Held (text : List Char) (stop : Nat) (state : ParseState) : Prop where
  brackets : ∀ outer ∈ state.brackets,
    outer.1.Held text stop ∧ ∀ operator ∈ outer.2, Operator.Held text stop operator
  operators : ∀ operator ∈ state.operators, operator.Held text stop
  place : state.place.Held text stop

section Further

variable {text : List Char} {before stop : Nat} (hle : before ≤ stop)

include hle

theorem Expr.Held.mono {expr : Expr} (h : expr.Held text before) : expr.Held text stop :=
  ⟨Nat.le_trans h.start hle, h.names⟩

theorem Operator.Held.mono {operator : Operator} (h : operator.Held text before) :
    operator.Held text stop := by
  cases operator with
  | unary op start => exact Nat.le_trans h hle
  | binary op left => exact Expr.Held.mono hle h
  | whenFalse condition whenTrue => exact ⟨h.1.mono hle, h.2.mono hle⟩

theorem Bracket.Held.mono {bracket : Bracket} (h : bracket.Held text before) :
    bracket.Held text stop := by
  cases bracket with
  | parenthesis => trivial
  | whenTrue condition => exact Expr.Held.mono hle h
  | element start done isOptional => exact ⟨Nat.le_trans h.1 hle, h.2⟩
  | key start done isOptional => exact ⟨Nat.le_trans h.1 hle, h.2⟩
  | value start done isOptional key => exact ⟨Nat.le_trans h.1 hle, h.2.1, h.2.2.mono hle⟩
  | field typeName done isOptional name => exact ⟨h.1.mono hle, h.2⟩
  | argument callee done =>
      exact ⟨h.1.mono hle, fun argument member => (h.2 argument member).mono hle⟩
  | index receiver isOptional => exact Expr.Held.mono hle h

theorem Place.Held.mono {place : Place} (h : place.Held text before) : place.Held text stop := by
  cases place with
  | operand => trivial
  | element start done => exact ⟨Nat.le_trans h.1 hle, h.2⟩
  | entry start done => exact ⟨Nat.le_trans h.1 hle, h.2⟩
  | field typeName done => exact ⟨h.1.mono hle, h.2⟩
  | fieldName typeName done isOptional => exact ⟨h.1.mono hle, h.2⟩
  | fieldColon typeName done isOptional name => exact ⟨h.1.mono hle, h.2⟩
  | argument callee done =>
      exact ⟨h.1.mono hle, fun argument member => (h.2 argument member).mono hle⟩
  | rootName start =>
      obtain ⟨front, behind, htext, hstart, hless⟩ := h
      exact ⟨front, behind, htext, hstart, Nat.lt_of_lt_of_le hless hle⟩
  | _ => exact Expr.Held.mono hle h

theorem ParseState.Held.mono {state : ParseState} (h : state.Held text before) :
    state.Held text stop where
  brackets outer member :=
    have houter := h.brackets outer member
    ⟨houter.1.mono hle, fun operator hoperator => (houter.2 operator hoperator).mono hle⟩
  operators operator member := (h.operators operator member).mono hle
  place := h.place.mono hle

end Further

section Join

variable {text : List Char} {stop : Nat} {operand : Expr} {operator : Operator}
  {operators : List Operator}

/-- An operator's expression starts where the operator or its first operand
does. -/
theorem Operator.Held.apply (h : operator.Held text stop) (hoperand : operand.Held text stop) :
    (operator.apply operand).Held text stop := by
  cases operator with
  | unary op start => exact ⟨h, hoperand.names⟩
  | binary op left =>
      have hleft : left.Held text stop := h
      exact ⟨hleft.start, named_append.mpr ⟨hleft.names, hoperand.names⟩⟩
  | whenFalse condition whenTrue =>
      exact ⟨h.1.start, named_append.mpr ⟨named_append.mpr ⟨h.1.names, h.2.names⟩, hoperand.names⟩⟩

theorem joinDown_held (level : Nat) (h : ∀ operator ∈ operators, Operator.Held text stop operator)
    (hoperand : operand.Held text stop) :
    (∀ operator ∈ (joinDown level operand operators).1, Operator.Held text stop operator) ∧
      (joinDown level operand operators).2.Held text stop := by
  induction operators generalizing operand with
  | nil => exact ⟨h, hoperand⟩
  | cons operator rest ih =>
      obtain ⟨hoperator, hrest⟩ := List.forall_mem_cons.mp h
      rw [joinDown]
      split
      · exact ih hrest (hoperator.apply hoperand)
      · exact ⟨h, hoperand⟩

theorem joinAll_held (h : ∀ operator ∈ operators, Operator.Held text stop operator)
    (hoperand : operand.Held text stop) : (joinAll operand operators).Held text stop := by
  induction operators generalizing operand with
  | nil => exact hoperand
  | cons operator rest ih =>
      obtain ⟨hoperator, hrest⟩ := List.forall_mem_cons.mp h
      exact ih hrest (hoperator.apply hoperand)

end Join

section Done

@[simp] theorem elementOccurrences_concat (done : List Element) (isOptional : Bool) (value : Expr) :
    elementOccurrences (done ++ [.mk isOptional value]) =
      elementOccurrences done ++ value.occurrences := by
  induction done with
  | nil => simp [elementOccurrences]
  | cons element rest ih =>
      obtain ⟨_, first⟩ := element
      simp [elementOccurrences, ih]

@[simp] theorem entryOccurrences_concat (done : List Entry) (isOptional : Bool) (key value : Expr) :
    entryOccurrences (done ++ [.mk isOptional key value]) =
      entryOccurrences done ++ key.occurrences ++ value.occurrences := by
  induction done with
  | nil => simp [entryOccurrences]
  | cons entry rest ih =>
      obtain ⟨_, first, second⟩ := entry
      simp [entryOccurrences, ih]

@[simp] theorem fieldOccurrences_concat (done : List Field) (isOptional : Bool) (name : String)
    (value : Expr) :
    fieldOccurrences (done ++ [.mk isOptional name value]) =
      fieldOccurrences done ++ value.occurrences := by
  induction done with
  | nil => simp [fieldOccurrences]
  | cons field rest ih =>
      obtain ⟨_, _, first⟩ := field
      simp [fieldOccurrences, ih]

end Done

namespace ParseState

variable {text : List Char} {stop : Nat} {state next : ParseState} {lexeme : Lexeme}
  {operand : Expr}

theorem Held.complete (h : state.Held text stop) (hoperand : operand.Held text stop) :
    (state.complete operand).Held text stop :=
  ⟨h.brackets, h.operators, hoperand⟩

theorem Held.at {place : Place} (h : state.Held text stop) (hplace : place.Held text stop) :
    ParseState.Held text stop { state with place := place } :=
  ⟨h.brackets, h.operators, hplace⟩

theorem Held.await {operator : Operator} (h : state.Held text stop)
    (hoperator : operator.Held text stop) : (state.await operator).Held text stop :=
  ⟨h.brackets, List.forall_mem_cons.mpr ⟨hoperator, h.operators⟩, trivial⟩

theorem Held.enter {bracket : Bracket} (h : state.Held text stop)
    (hbracket : bracket.Held text stop) : (state.enter bracket).Held text stop :=
  ⟨List.forall_mem_cons.mpr ⟨⟨hbracket, h.operators⟩, h.brackets⟩, List.forall_mem_nil _, trivial⟩

theorem smallestInt_held {span : ByteSpan} (h : state.Held text stop)
    (hnext : state.smallestInt span = .ok next) : next.Held text stop := by
  have hoperators := h.operators
  unfold smallestInt at hnext
  split at hnext
  case h_1 start rest heq =>
    cases hnext
    rw [heq] at hoperators
    obtain ⟨hstart, hrest⟩ := List.forall_mem_cons.mp hoperators
    exact ⟨h.brackets, hrest, hstart, named_nil⟩
  case h_2 => cases hnext

/-- An operand that starts. -/
theorem startOperand_held (h : state.Held text lexeme.span.start) (hlexeme : lexeme.StandsIn text)
    (hnext : state.startOperand lexeme = .ok next) : next.Held text lexeme.span.stop := by
  have hle := hlexeme.start_le
  have hlater := h.mono hle
  simp only [startOperand, go] at hnext
  split at hnext
  case h_2 => exact smallestInt_held hlater hnext
  case h_10 name htoken =>
    cases hnext
    exact hlater.complete ⟨hle, named_cons.mpr ⟨hlexeme.ident htoken, named_nil⟩⟩
  case h_12 htoken =>
    cases hnext
    obtain ⟨front, behind, htext, hstart, hstop⟩ := hlexeme.dot htoken
    refine hlater.at ⟨front, behind, htext, hstart, ?_⟩
    rw [hstart, hstop]
    exact Nat.lt_succ_self _
  case h_13 =>
    cases hnext
    exact hlater.enter trivial
  case h_14 =>
    cases hnext
    exact hlater.at ⟨hle, named_nil⟩
  case h_15 =>
    cases hnext
    exact hlater.at ⟨hle, named_nil⟩
  case h_16 =>
    cases hnext
    exact hlater.await hle
  case h_17 =>
    cases hnext
    exact hlater.await hle
  all_goals cases hnext
  all_goals exact hlater.complete ⟨hle, named_nil⟩

theorem startInside_held {bracket : Bracket} (h : state.Held text lexeme.span.start)
    (hbracket : bracket.Held text lexeme.span.start) (hlexeme : lexeme.StandsIn text)
    (hnext : state.startInside bracket lexeme = .ok next) : next.Held text lexeme.span.stop :=
  startOperand_held (h.enter hbracket) hlexeme hnext

/-- A call that ends with the lexeme. -/
theorem call_held {callee : Expr} {arguments : List Expr} (h : state.Held text lexeme.span.stop)
    (hcallee : callee.Held text lexeme.span.stop)
    (harguments : ∀ argument ∈ arguments, Expr.Held text lexeme.span.stop argument)
    (hlexeme : lexeme.StandsIn text) (htoken : lexeme.token = .mark .rightParen)
    (hnext : state.call lexeme.span.stop callee arguments = .ok next) :
    next.Held text lexeme.span.stop := by
  unfold call at hnext
  split at hnext
  case h_1 hexpr =>
    cases hnext
    have hcall : Macro.Call.Held text ⟨⟨callee.span.start, lexeme.span.stop⟩, arguments⟩ :=
      ⟨hlexeme.rightParen htoken, hcallee.start, harguments⟩
    have hheld := Macro.expand_held hcall hcallee hexpr
    exact h.complete hheld
  case h_2 => cases hnext

/-- The end of what stands in a bracket. -/
theorem leave_held {bracket : Bracket} {inner : Expr} (h : state.Held text lexeme.span.stop)
    (hbracket : bracket.Held text lexeme.span.stop) (hinner : inner.Held text lexeme.span.stop)
    (hlexeme : lexeme.StandsIn text) (hnext : state.leave bracket inner lexeme = .ok next) :
    next.Held text lexeme.span.stop := by
  simp only [leave, go] at hnext
  split at hnext
  case h_11 callee done htoken =>
    refine call_held h hbracket.1 ?_ hlexeme htoken hnext
    exact List.forall_mem_append.mpr ⟨hbracket.2, List.forall_mem_singleton.mpr hinner⟩
  all_goals cases hnext
  case h_1 => exact h.complete hinner
  case h_2 => exact h.await ⟨hbracket, hinner⟩
  case h_3 => exact h.at ⟨hbracket.1, by simp [hbracket.2, hinner.names]⟩
  case h_4 => exact h.complete ⟨hbracket.1, by simp [Expr.occurrences, hbracket.2, hinner.names]⟩
  case h_5 => exact h.enter ⟨hbracket.1, hbracket.2, hinner⟩
  case h_6 =>
    obtain ⟨hstart, hdone, hkey⟩ := hbracket
    exact h.at ⟨hstart, by simp [hdone, hkey.names, hinner.names]⟩
  case h_7 =>
    obtain ⟨hstart, hdone, hkey⟩ := hbracket
    exact h.complete ⟨hstart, by simp [Expr.occurrences, hdone, hkey.names, hinner.names]⟩
  case h_8 => exact h.at ⟨hbracket.1, by simp [hbracket.2, hinner.names]⟩
  case h_9 =>
    exact h.complete ⟨hbracket.1.start, by simp [Expr.occurrences, hbracket.2, hinner.names]⟩
  case h_10 =>
    refine h.at ⟨hbracket.1, ?_⟩
    exact List.forall_mem_append.mpr ⟨hbracket.2, List.forall_mem_singleton.mpr hinner⟩
  case h_12 =>
    have hreceiver : Expr.Held text lexeme.span.stop _ := hbracket
    exact h.complete ⟨hreceiver.start, named_append.mpr ⟨hreceiver.names, hinner.names⟩⟩

theorem suffix?_held {token : Token} {place : Place} (hoperand : operand.Held text stop)
    (hplace : suffix? operand token = some place) : place.Held text stop := by
  unfold suffix? at hplace
  split at hplace
  case h_1 => cases hplace; exact hoperand
  case h_2 => cases hplace; exact hoperand
  case h_3 => cases hplace; exact ⟨hoperand, List.forall_mem_nil _⟩
  case h_4 =>
    split at hplace
    · cases hplace
      exact ⟨hoperand, named_nil⟩
    · cases hplace
  case h_5 => cases hplace

theorem afterWhole_held (h : state.Held text lexeme.span.stop)
    (hoperand : operand.Held text lexeme.span.stop) (hlexeme : lexeme.StandsIn text)
    (hnext : state.afterWhole operand lexeme = .ok next) : next.Held text lexeme.span.stop := by
  simp only [afterWhole] at hnext
  split at hnext
  case h_1 =>
    cases hnext
    obtain ⟨hoperators, hcondition⟩ := joinDown_held 1 h.operators hoperand
    have hstate : ParseState.Held text lexeme.span.stop
        { state with operators := (joinDown 1 operand state.operators).1 } :=
      ⟨h.brackets, hoperators, h.place⟩
    exact hstate.enter hcondition
  case h_2 op _ _ =>
    cases hnext
    obtain ⟨hoperators, hleft⟩ := joinDown_held op.precedence h.operators hoperand
    have hstate : ParseState.Held text lexeme.span.stop
        { state with operators := (joinDown op.precedence operand state.operators).1 } :=
      ⟨h.brackets, hoperators, h.place⟩
    exact hstate.await hleft
  case h_3 =>
    split at hnext
    case h_1 => cases hnext
    case h_2 bracket operators brackets heq =>
      have hbrackets := h.brackets
      rw [heq] at hbrackets
      obtain ⟨⟨hbracket, hoperators⟩, hrest⟩ := List.forall_mem_cons.mp hbrackets
      have houter : ParseState.Held text lexeme.span.stop ⟨brackets, operators, .operand⟩ :=
        ⟨hrest, hoperators, trivial⟩
      have hinner := joinAll_held h.operators hoperand
      exact leave_held houter hbracket hinner hlexeme hnext

theorem afterOperand_held (h : state.Held text lexeme.span.stop)
    (hoperand : operand.Held text lexeme.span.stop) (hlexeme : lexeme.StandsIn text)
    (hnext : state.afterOperand operand lexeme = .ok next) : next.Held text lexeme.span.stop := by
  simp only [afterOperand, go] at hnext
  split at hnext
  case h_1 hplace =>
    cases hnext
    exact h.at (suffix?_held hoperand hplace)
  case h_2 => exact afterWhole_held h hoperand hlexeme hnext

theorem fieldName_held {typeName : Expr} {done : List Field} {isOptional : Bool}
    (h : state.Held text stop) (htype : typeName.Held text stop)
    (hdone : Named text (fieldOccurrences done))
    (hnext : state.fieldName typeName done isOptional lexeme = .ok next) : next.Held text stop := by
  simp only [fieldName, go] at hnext
  split at hnext
  case h_1 =>
    cases hnext
    exact h.at ⟨htype, hdone⟩
  case h_2 => cases hnext

/-- One lexeme further, everything is still held. -/
theorem step_held (h : state.Held text lexeme.span.start) (hlexeme : lexeme.StandsIn text)
    (hnext : state.step lexeme = .ok next) : next.Held text lexeme.span.stop := by
  -- What is held up to the lexeme's start is kept as well: a name from the root
  -- is longer than the lexeme, because the dot is over where the lexeme starts.
  have hlater := h.mono hlexeme.start_le
  obtain ⟨brackets, operators, place⟩ := state
  have hbefore : place.Held text lexeme.span.start := h.place
  have hplace : place.Held text lexeme.span.stop := hlater.place
  simp only [step, go] at hnext
  split at hnext
  case h_1 => exact startOperand_held h hlexeme hnext
  case h_2 => exact afterOperand_held hlater hplace hlexeme hnext
  case h_3 => exact afterWhole_held hlater hplace hlexeme hnext
  case h_6 start done _ _ =>
    have hbracket : (Bracket.element start done false).Held text lexeme.span.start := hbefore
    exact startInside_held h hbracket hlexeme hnext
  case h_9 start done _ _ =>
    have hbracket : (Bracket.key start done false).Held text lexeme.span.start := hbefore
    exact startInside_held h hbracket hlexeme hnext
  case h_12 => exact fieldName_held hlater hplace.1 hplace.2 hnext
  case h_13 => exact fieldName_held hlater hplace.1 hplace.2 hnext
  case h_16 htoken => exact call_held hlater hplace.1 hplace.2 hlexeme htoken hnext
  case h_17 callee done _ =>
    have hbracket : (Bracket.argument callee done).Held text lexeme.span.start := hbefore
    exact startInside_held h hbracket hlexeme hnext
  case h_19 receiver _ =>
    have hbracket : (Bracket.index receiver false).Held text lexeme.span.start := hbefore
    exact startInside_held h hbracket hlexeme hnext
  case h_21 receiver _ _ =>
    have hreceiver : receiver.Held text lexeme.span.stop := hplace
    split at hnext
    case h_1 hname =>
      cases hnext
      have hmember := hlexeme.member hname receiver.span.start
      refine hlater.complete ⟨hreceiver.start, named_append.mpr ⟨hreceiver.names, ?_⟩⟩
      exact named_cons.mpr ⟨hmember, named_nil⟩
    case h_2 => cases hnext
  case h_22 start name htoken =>
    cases hnext
    have hroot := hlexeme.rooted htoken hbefore
    obtain ⟨_, _, _, _, hless⟩ := hplace
    exact hlater.complete ⟨Nat.le_of_lt hless, named_cons.mpr ⟨hroot, named_nil⟩⟩
  all_goals cases hnext
  case h_4 => exact hlater.complete ⟨hplace.1, hplace.2⟩
  case h_5 => exact hlater.enter hplace
  case h_7 => exact hlater.complete ⟨hplace.1, hplace.2⟩
  case h_8 => exact hlater.enter hplace
  case h_10 => exact hlater.complete ⟨hplace.1.start, hplace.2⟩
  case h_11 => exact hlater.at hplace
  case h_14 => exact hlater.enter hplace
  case h_18 => exact hlater.enter hplace
  case h_20 => exact hlater.at hplace

theorem finishAfter_held {expr : Expr} (h : state.Held text stop)
    (hoperand : operand.Held text stop) (hexpr : state.finishAfter operand = .ok expr) : expr.Held text stop := by
  simp only [finishAfter] at hexpr
  split at hexpr
  case h_1 =>
    cases hexpr
    exact joinAll_held h.operators hoperand
  case h_2 => cases hexpr

theorem finish_held {expr : Expr} (h : state.Held text stop) (hexpr : state.finish = .ok expr) :
    expr.Held text stop := by
  have hplace := h.place
  simp only [finish] at hexpr
  split at hexpr
  case h_1 heq =>
    rw [heq] at hplace
    exact finishAfter_held h hplace hexpr
  case h_2 heq =>
    rw [heq] at hplace
    exact finishAfter_held h hplace hexpr
  all_goals cases hexpr

end ParseState

section Parse

variable {text : List Char} {start stop : Nat} {state : ParseState} {found : List Lexeme}
  {expr : Expr}

theorem named_of_parseFrom (h : state.Held text start) (hfound : Laid text start found)
    (hexpr : parseFrom stop state found = .ok expr) : Named text expr.occurrences := by
  induction found generalizing start state with
  | nil =>
      rw [parseFrom] at hexpr
      split at hexpr
      case h_1 hfinish =>
        cases hexpr
        exact (ParseState.finish_held h hfinish).names
      case h_2 => cases hexpr
  | cons lexeme rest ih =>
      obtain ⟨hstart, hlexeme, hrest⟩ := hfound
      obtain ⟨next, hstep, hnext⟩ := parseFrom_cons hexpr
      exact ih (ParseState.step_held (h.mono hstart) hlexeme hstep) hrest hnext

/-- The names of an expression stand in its text. -/
theorem named_of_parse {text : String} (h : parse text = .ok expr) :
    Named text.toList expr.occurrences := by
  rw [parse] at h
  split at h
  case h_1 => cases h
  case h_2 found hfound =>
    split at h
    case h_1 => cases h
    case h_2 =>
      have hinitial : ParseState.initial.Held text.toList 0 :=
        ⟨List.forall_mem_nil _, List.forall_mem_nil _, trivial⟩
      exact named_of_parseFrom hinitial (laid_of_lexemes hfound) h

end Parse

end CelWatch.Cel
