import CelWatch.Proofs.Cel.Parts
import CelWatch.Proofs.Cel.Placement
import CelWatch.Symbol.Occurrence

/-!
Where the names of an expression stand in its text. The parser holds what is
complete, and where something opened; all of it starts at or before the byte up
to which the text is read, and its names stand in the text. A lexeme keeps that,
a macro as well: the names that it brings in stand for the whole call.
-/

namespace CelWatch.Cel

open Text (byteLength)

/-- How a name and the span of one of its occurrences lie in the text. -/
inductive Stands (text : List Char) (name : String) (span : ByteSpan) : Prop where
  /-- The name is a word, and the span is its place. -/
  | word {front behind : List Char} (htext : text = front ++ name.toList ++ behind)
      (hstart : span.start = byteLength front)
      (hstop : span.stop = byteLength front + byteLength name.toList)
      (hne : name.toList ≠ []) (hword : ∀ c ∈ name.toList, isWordChar c = true)
  /-- An identifier between backquotes, with these. -/
  | backquoted {front behind : List Char}
      (htext : text = front ++ ('`' :: name.toList ++ ['`']) ++ behind)
      (hname : '`' ∉ name.toList) (hstart : span.start = byteLength front)
      (hstop : span.stop = byteLength front + byteLength name.toList + 2)
  /-- The name of a member between backquotes: as many bytes as it has, counted
  back from behind the second one. -/
  | backquotedMember {front behind : List Char}
      (htext : text = front ++ ('`' :: name.toList ++ ['`']) ++ behind)
      (hname : '`' ∉ name.toList) (hstart : span.start = byteLength front + 2)
      (hstop : span.stop = byteLength front + byteLength name.toList + 2)
  /-- A name behind a dot that leads to the root, with the dot. -/
  | rooted {front behind : List Char} (htext : text = front ++ '.' :: behind)
      (hstart : span.start = byteLength front)
      (hstop : span.start + byteLength name.toList < span.stop)
      (hbound : span.stop ≤ byteLength text)
  /-- A name that a macro brings in: up to the end of the call. -/
  | expanded {front behind : List Char} (htext : text = front ++ ')' :: behind)
      (horder : span.start ≤ span.stop) (hstop : span.stop = byteLength front + 1)

/-- All names stand in the text. -/
def Named (text : List Char) (occurrences : List Occurrence) : Prop :=
  ∀ occurrence ∈ occurrences, Stands text occurrence.name occurrence.span

/-- An expression that starts at or before byte `stop` and whose names stand in
the text. -/
structure Expr.Held (text : List Char) (stop : Nat) (expr : Expr) : Prop where
  start : expr.span.start ≤ stop
  names : Named text expr.occurrences

section Named

variable {text : List Char} {first second : List Occurrence} {occurrence : Occurrence}

@[simp] theorem named_nil : Named text [] := by simp [Named]

@[simp] theorem named_cons : Named text (occurrence :: first) ↔
    Stands text occurrence.name occurrence.span ∧ Named text first :=
  List.forall_mem_cons

@[simp] theorem named_append :
    Named text (first ++ second) ↔ Named text first ∧ Named text second :=
  List.forall_mem_append

theorem named_arguments {stop : Nat} {arguments : List Expr}
    (h : ∀ argument ∈ arguments, argument.Held text stop) :
    Named text (argumentOccurrences arguments) := by
  induction arguments with
  | nil => exact named_nil
  | cons argument rest ih =>
      obtain ⟨hfirst, hrest⟩ := List.forall_mem_cons.mp h
      exact named_append.mpr ⟨hfirst.names, ih hrest⟩

/-- The callee's name is a function's here, and stands where it stands. -/
theorem named_call {span : ByteSpan} {callee : Expr} {arguments : List Expr}
    (hcallee : Named text callee.occurrences)
    (harguments : Named text (argumentOccurrences arguments)) :
    Named text (Expr.call span callee arguments).occurrences := by
  cases callee with
  | ident span name =>
      simpa [Expr.occurrences, harguments] using hcallee
  | member span receiver name isOptional =>
      simpa [Expr.occurrences, harguments] using hcallee
  | _ => exact named_append.mpr ⟨hcallee, harguments⟩

end Named

namespace Macro

variable {text : List Char} {call : Call} {range receiver element test : Expr} {result : Expr}

/-- A call that ends with a parenthesis, and whose arguments are held. -/
structure Call.Held (text : List Char) (call : Call) : Prop where
  ends : ∃ front behind, text = front ++ ')' :: behind ∧ call.span.stop = byteLength front + 1
  order : call.span.start ≤ call.span.stop
  arguments : ∀ argument ∈ call.arguments, argument.Held text call.span.stop

theorem Call.Held.stands (h : call.Held text) (name : String) {span : ByteSpan}
    (horder : span.start ≤ span.stop) (hstop : span.stop = call.span.stop) :
    Stands text name span := by
  obtain ⟨front, behind, htext, hends⟩ := h.ends
  exact .expanded htext horder (hstop.trans hends)

theorem Call.Held.ident (h : call.Held text) (name : String) :
    (Expr.ident call.span name).Held text call.span.stop :=
  ⟨h.order, named_cons.mpr ⟨h.stands name h.order rfl, named_nil⟩⟩

theorem Call.Held.member (h : call.Held text) (hreceiver : Named text receiver.occurrences)
    (name : String) : (Expr.member call.span receiver name false).Held text call.span.stop := by
  have hname : Stands text name (memberSpan call.span name) :=
    h.stands name (Nat.sub_le _ _) rfl
  refine ⟨h.order, named_append.mpr ⟨hreceiver, ?_⟩⟩
  simpa using hname

theorem Call.Held.method (h : call.Held text) (hreceiver : Named text receiver.occurrences)
    (name : String) {arguments : List Expr}
    (harguments : ∀ argument ∈ arguments, argument.Held text call.span.stop) :
    (call.method receiver name arguments).Held text call.span.stop :=
  ⟨h.order, named_call (h.member hreceiver name).names (named_arguments harguments)⟩

/-- A loop whose call ends at `stop`, over a range whose names stand in the text. -/
structure Loop.Held (text : List Char) (stop : Nat) (loop : Loop) : Prop where
  call : loop.call.Held text
  ends : loop.call.span.stop = stop
  range : Named text loop.range.occurrences

section Loops

variable {loop : Loop} {stop : Nat} (h : loop.Held text stop)

include h

theorem Loop.Held.value : Named text loop.call.value.occurrences := (h.call.ident accumulator).names

theorem Loop.Held.build {start condition step result : Expr} (hstart : Named text start.occurrences)
    (hcondition : Named text condition.occurrences) (hstep : Named text step.occurrences)
    (hresult : Named text result.occurrences) :
    (loop.build start condition step result).Held text stop := by
  refine ⟨h.ends ▸ h.call.order, ?_⟩
  simp [Loop.build, Expr.occurrences, h.range, hstart, hcondition, hstep, hresult]

theorem Loop.Held.all (htest : test.Held text stop) : (loop.all test).Held text stop := by
  apply h.build
  · simp [Call.yes, Expr.occurrences]
  · exact h.value
  · simp [Expr.occurrences, htest.names, h.value]
  · exact h.value

theorem Loop.Held.any (htest : test.Held text stop) : (loop.any test).Held text stop := by
  apply h.build
  · simp [Expr.occurrences]
  · simp [Expr.occurrences, h.value]
  · simp [Expr.occurrences, htest.names, h.value]
  · exact h.value

theorem Loop.Held.grown {more : Expr} (hmore : Named text more.occurrences) :
    Named text (loop.call.grown more).occurrences := by
  simp [Call.grown, Expr.occurrences, hmore, h.value]

theorem Loop.Held.unlessFalse {test : Option Expr} {step : Expr}
    (htest : ∀ given ∈ test, Expr.Held text stop given) (hstep : Named text step.occurrences) :
    Named text (loop.call.unlessFalse test step).occurrences := by
  cases test with
  | none => exact hstep
  | some test => simp [Call.unlessFalse, Expr.occurrences, (htest test rfl).names, hstep, h.value]

theorem Loop.Held.one (htest : test.Held text stop) : (loop.one test).Held text stop := by
  apply h.build
  · simp [Expr.occurrences]
  · simp [Call.yes, Expr.occurrences]
  · apply h.unlessFalse
    · simpa using htest
    · exact h.grown (by simp [Expr.occurrences])
  · simp [Expr.occurrences, h.value]

theorem Loop.Held.list {test : Option Expr} (htest : ∀ given ∈ test, Expr.Held text stop given)
    (helement : element.Held text stop) : (loop.list test element).Held text stop := by
  apply h.build
  · simp [Expr.occurrences, elementOccurrences]
  · simp [Call.yes, Expr.occurrences]
  · apply h.unlessFalse htest
    apply h.grown
    simp [Call.singleton, Expr.occurrences, elementOccurrences, helement.names]
  · exact h.value

theorem Loop.Held.map {test : Option Expr} (htest : ∀ given ∈ test, Expr.Held text stop given)
    (helement : element.Held text stop) : (loop.map test element).Held text stop := by
  have hitem := (h.call.ident loop.item).names
  rw [Expr.occurrences] at hitem
  apply h.build
  · simp [Expr.occurrences, entryOccurrences]
  · simp [Call.yes, Expr.occurrences]
  · apply h.unlessFalse htest
    apply h.grown
    simpa [Expr.occurrences, entryOccurrences, helement.names] using hitem
  · exact h.value

end Loops

/-- What a computation gives is what its last step makes of a result. -/
theorem exists_of_bind {α β : Type} {first : Except SyntaxError α}
    {next : α → Except SyntaxError β} {made : β} (h : (first >>= next) = .ok made) :
    ∃ given, first = .ok given ∧ next given = .ok made := by
  cases first with
  | error error => cases h
  | ok given => exact ⟨given, rfl, h⟩

theorem held_of_bind {first : Except SyntaxError Loop} {build : Loop → Expr} {stop : Nat}
    (hfirst : ∀ {made : Loop}, first = .ok made → made.Held text stop)
    (hbuild : ∀ {made : Loop}, made.Held text stop → (build made).Held text stop)
    (hmade : (first >>= fun made => pure (build made)) = .ok result) : result.Held text stop := by
  obtain ⟨made, hloop, hpure⟩ := exists_of_bind hmade
  cases hpure
  exact hbuild (hfirst hloop)

section Receiver

variable {name : String} {item second : Expr} {made : Loop} (h : call.Held text)
  (hrange : Named text range.occurrences)

include h

theorem Call.Held.of_mem {arguments : List Expr} {argument : Expr}
    (heq : call.arguments = arguments) (member : argument ∈ arguments) :
    argument.Held text call.span.stop :=
  h.arguments argument (heq ▸ member)

include hrange

theorem loop_held (hmade : loop call range item = .ok made) : made.Held text call.span.stop := by
  obtain ⟨name, _, hpure⟩ := exists_of_bind hmade
  cases hpure
  exact ⟨h, rfl, hrange⟩

theorem pairLoop_held (hmade : pairLoop call range item second = .ok made) :
    made.Held text call.span.stop := by
  obtain ⟨name, _, hmore⟩ := exists_of_bind hmade
  obtain ⟨other, _, hpure⟩ := exists_of_bind hmore
  cases hpure
  exact ⟨h, rfl, hrange⟩

theorem quantifier_held {build : Loop → Expr → Expr}
    (hbuild : ∀ {test : Expr} {loop : Loop}, loop.Held text call.span.stop →
      test.Held text call.span.stop → (build loop test).Held text call.span.stop)
    (hmade : quantifier name build call range = .ok result) : result.Held text call.span.stop := by
  unfold quantifier at hmade
  split at hmade
  case h_1 test heq =>
    have htest : test.Held text call.span.stop := h.of_mem heq (by simp)
    exact held_of_bind (loop_held h hrange) (fun hloop => hbuild hloop htest) hmade
  case h_2 test heq =>
    have htest : test.Held text call.span.stop := h.of_mem heq (by simp)
    exact held_of_bind (pairLoop_held h hrange) (fun hloop => hbuild hloop htest) hmade
  case h_3 => cases hmade

theorem mapLoop_held (hmade : mapLoop call range = .ok result) :
    result.Held text call.span.stop := by
  unfold mapLoop at hmade
  split at hmade
  case h_1 element heq =>
    have helement : element.Held text call.span.stop := h.of_mem heq (by simp)
    exact held_of_bind (loop_held h hrange) (fun hloop => hloop.list (by simp) helement) hmade
  case h_2 test element heq =>
    have htest : ∀ given ∈ some test, Expr.Held text call.span.stop given := by
      simpa using h.of_mem heq (by simp)
    have helement : element.Held text call.span.stop := h.of_mem heq (by simp)
    exact held_of_bind (loop_held h hrange) (fun hloop => hloop.list htest helement) hmade
  case h_3 => cases hmade

theorem filterLoop_held (hmade : filterLoop call range = .ok result) :
    result.Held text call.span.stop := by
  unfold filterLoop at hmade
  split at hmade
  case h_1 test heq =>
    have htest : ∀ given ∈ some test, Expr.Held text call.span.stop given := by
      simpa using h.of_mem heq (by simp)
    obtain ⟨made, hloop, hpure⟩ := exists_of_bind hmade
    cases hpure
    exact (loop_held h hrange hloop).list htest (h.ident made.item)
  case h_2 => cases hmade

theorem transform_held {build : Loop → Option Expr → Expr → Expr}
    (hbuild : ∀ {value : Expr} {loop : Loop}, loop.Held text call.span.stop →
      ∀ {test : Option Expr}, (∀ given ∈ test, Expr.Held text call.span.stop given) →
      value.Held text call.span.stop → (build loop test value).Held text call.span.stop)
    (hmade : transform name build call range = .ok result) : result.Held text call.span.stop := by
  unfold transform at hmade
  split at hmade
  case h_1 value heq =>
    have hvalue : value.Held text call.span.stop := h.of_mem heq (by simp)
    exact held_of_bind (pairLoop_held h hrange) (fun hloop => hbuild hloop (by simp) hvalue) hmade
  case h_2 test value heq =>
    have htest : ∀ given ∈ some test, Expr.Held text call.span.stop given := by
      simpa using h.of_mem heq (by simp)
    have hvalue : value.Held text call.span.stop := h.of_mem heq (by simp)
    exact held_of_bind (pairLoop_held h hrange) (fun hloop => hbuild hloop htest hvalue) hmade
  case h_3 => cases hmade

theorem optionalMap_held {finish : Call → Expr → Expr}
    (hfinish : ∀ {body : Expr}, body.Held text call.span.stop →
      (finish call body).Held text call.span.stop)
    (hmade : optionalMap name finish call range = .ok result) :
    result.Held text call.span.stop := by
  unfold optionalMap at hmade
  split at hmade
  case h_1 body heq =>
    obtain ⟨item, _, hpure⟩ := exists_of_bind hmade
    cases hpure
    have hbody := hfinish (h.of_mem heq (List.mem_cons_of_mem _ (List.mem_singleton_self body)))
    have htest := h.method hrange "hasValue" (List.forall_mem_nil _)
    have hvalue := h.method hrange "value" (List.forall_mem_nil _)
    have hnone := h.method (h.ident "optional").names "none" (List.forall_mem_nil _)
    refine ⟨h.order, ?_⟩
    rw [Expr.occurrences, Expr.occurrences]
    simp only [named_append, htest.names, hvalue.names, hbody.names, hnone.names, and_true]
  case h_2 => cases hmade

/-- A macro that is called on a receiver. -/
theorem ofReceiver?_held {ofCall : Call → Expr → Except SyntaxError Expr}
    (hof : ofReceiver? name = some ofCall) (hmade : ofCall call range = .ok result) :
    result.Held text call.span.stop := by
  have hwrapped {body : Expr} (hbody : body.Held text call.span.stop) :
      (wrapped call body).Held text call.span.stop :=
    h.method (h.ident "optional").names "of" (List.forall_mem_singleton.mpr hbody)
  unfold ofReceiver? at hof
  split at hof
  all_goals cases hof
  case h_1 => exact quantifier_held h hrange Loop.Held.all hmade
  case h_2 => exact quantifier_held h hrange Loop.Held.any hmade
  case h_3 => exact quantifier_held h hrange Loop.Held.one hmade
  case h_4 => exact quantifier_held h hrange Loop.Held.one hmade
  case h_5 => exact mapLoop_held h hrange hmade
  case h_6 => exact filterLoop_held h hrange hmade
  case h_7 => exact transform_held h hrange Loop.Held.list hmade
  case h_8 => exact transform_held h hrange Loop.Held.map hmade
  case h_9 => exact optionalMap_held h hrange hwrapped hmade
  case h_10 => exact optionalMap_held h hrange id hmade

end Receiver

section Name

variable {name : String} (h : call.Held text)

include h

theorem has_held (hmade : has call = .ok result) : result.Held text call.span.stop := by
  unfold has at hmade
  split at hmade
  case h_1 heq =>
    cases hmade
    have hmember := h.of_mem heq (List.mem_singleton_self _)
    exact ⟨h.order, (named_append.mp hmember.names).1⟩
  case h_2 => cases hmade
  case h_3 => cases hmade

theorem bind_held (hmade : bind call = .ok result) : result.Held text call.span.stop := by
  unfold bind at hmade
  split at hmade
  case h_1 value body heq =>
    cases hmade
    have hvalue : value.Held text call.span.stop := h.of_mem heq (by simp)
    have hbody : body.Held text call.span.stop := h.of_mem heq (by simp)
    exact ⟨h.order, named_append.mpr ⟨hvalue.names, hbody.names⟩⟩
  case h_2 => cases hmade
  case h_3 => cases hmade

theorem blockBody_held {body : Expr} {elements : List Element} {index : Nat}
    (hbody : body.Held text call.span.stop) (helements : Named text (elementOccurrences elements)) :
    (blockBody call.span body index elements).Held text call.span.stop := by
  induction elements generalizing index with
  | nil => exact hbody
  | cons element rest ih =>
      obtain ⟨isOptional, value⟩ := element
      obtain ⟨hvalue, hrest⟩ := named_append.mp helements
      exact ⟨h.order, named_append.mpr ⟨hvalue, (ih hrest).names⟩⟩

theorem block_held (hmade : block call = .ok result) : result.Held text call.span.stop := by
  unfold block at hmade
  split at hmade
  case h_1 => cases hmade
  case h_2 elements body _ heq =>
    cases hmade
    have hbody : body.Held text call.span.stop := h.of_mem heq (by simp)
    have hlist := h.of_mem heq List.mem_cons_self
    exact blockBody_held h hbody hlist.names
  case h_3 => cases hmade
  case h_4 => cases hmade

theorem blockIndex_held (hmade : blockIndex call = .ok result) :
    result.Held text call.span.stop := by
  unfold blockIndex at hmade
  split at hmade
  case h_1 =>
    cases hmade
    exact h.ident _
  case h_2 => cases hmade
  case h_3 => cases hmade

theorem numbered_held {letters : String} (hmade : numbered name letters call = .ok result) :
    result.Held text call.span.stop := by
  unfold numbered at hmade
  split at hmade
  case h_1 =>
    cases hmade
    exact h.ident _
  case h_2 => cases hmade
  case h_3 => cases hmade
  case h_4 => cases hmade

theorem extension_held {build : Expr → String → Expr}
    (hbuild : ∀ {receiver : Expr} {field : String}, receiver.Held text call.span.stop →
      (build receiver field).Held text call.span.stop)
    (hmade : extension name build call = .ok result) : result.Held text call.span.stop := by
  unfold extension at hmade
  split at hmade
  case h_1 receiver field heq =>
    have hreceiver : receiver.Held text call.span.stop := h.of_mem heq (by simp)
    split at hmade
    case h_1 =>
      cases hmade
      exact hbuild hreceiver
    case h_2 => cases hmade
  case h_2 => cases hmade

/-- A macro that is called by its name alone. -/
theorem ofName?_held {ofCall : Call → Except SyntaxError Expr} (hof : ofName? name = some ofCall)
    (hmade : ofCall call = .ok result) : result.Held text call.span.stop := by
  unfold ofName? at hof
  split at hof
  all_goals cases hof
  case h_1 => exact has_held h hmade
  case h_2 => exact block_held h hmade
  case h_3 => exact blockIndex_held h hmade
  case h_4 => exact numbered_held h hmade
  case h_5 => exact numbered_held h hmade
  case h_6 => exact extension_held h (fun hreceiver => h.member hreceiver.names _) hmade
  case h_7 =>
    refine extension_held h ?_ hmade
    intro receiver field hreceiver
    exact ⟨h.order, hreceiver.names⟩

theorem ofSpace?_held {space : String} {ofCall : Call → Except SyntaxError Expr}
    (hof : ofSpace? space name = some ofCall) (hmade : ofCall call = .ok result) :
    result.Held text call.span.stop := by
  unfold ofSpace? at hof
  split at hof
  case isTrue =>
    cases hof
    exact bind_held h hmade
  case isFalse => exact ofName?_held h hof hmade

end Name

/-- What a call stands for ends where the call does, and its names stand in the
text, whether it is a macro's or not. -/
theorem expand_held {span : ByteSpan} {callee : Expr} {arguments : List Expr}
    (h : Call.Held text ⟨span, arguments⟩) (hcallee : callee.Held text span.stop)
    (hmade : expand span callee arguments = .ok result) : result.Held text span.stop := by
  have hcall : (Expr.call span callee arguments).Held text span.stop :=
    ⟨h.order, named_call hcallee.names (named_arguments h.arguments)⟩
  unfold expand at hmade
  extract_lets call named at hmade
  have hnamed : ∀ ofCall ∈ named, ofCall call = .ok result → result.Held text span.stop := by
    intro ofCall hof hresult
    simp only [named] at hof
    split at hof
    case h_1 => exact ofName?_held h hof hresult
    case h_2 => exact ofSpace?_held h hof hresult
    case h_3 => cases hof
  clear_value named
  split at hmade
  case h_1 ofCall => exact hnamed ofCall rfl hmade
  case h_2 receiver name _ =>
    have hreceiver := (named_append.mp hcallee.names).1
    split at hmade
    case h_1 ofCall hof => exact ofReceiver?_held h hreceiver hof hmade
    case h_2 =>
      cases hmade
      exact hcall
  case h_3 =>
    cases hmade
    exact hcall

end Macro

end CelWatch.Cel
