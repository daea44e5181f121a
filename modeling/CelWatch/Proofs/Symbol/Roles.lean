import CelWatch.Proofs.Engine.Reading
import CelWatch.Proofs.Symbol.Summary

/-!
The roles of names. Every node of a syntax tree stands somewhere in it: below a
call, as what is called, or elsewhere. What the walk over an expression records
is what its nodes record one by one, in another order, so the counts of a table
are counts of nodes: calls by the name they call, identifiers and members that
are not called by their own. Only a callee that is looked up from the root is
counted as an identifier and not as a function.
-/

namespace CelWatch

namespace Cel

/-- A node of a syntax tree. -/
structure Node where
  expr : Expr
  /-- Whether it is what a call calls. -/
  isCallee : Bool

mutual

/-- The nodes below an expression. Names of types are none. -/
def Expr.inner : Expr → List Node
  | .null _ | .bool _ _ | .int _ _ | .uint _ _ | .float _ _ _ | .string _ _ | .bytes _ _ => []
  | .ident _ _ | .rootIdent _ _ | .error _ => []
  | .list _ elements => elementNodes elements
  | .map _ entries => entryNodes entries
  | .unary _ _ operand => ⟨operand, false⟩ :: operand.inner
  | .binary _ _ left right => ⟨left, false⟩ :: left.inner ++ ⟨right, false⟩ :: right.inner
  | .conditional _ condition whenTrue whenFalse =>
    ⟨condition, false⟩ :: condition.inner ++ ⟨whenTrue, false⟩ :: whenTrue.inner ++
      ⟨whenFalse, false⟩ :: whenFalse.inner
  | .member _ receiver _ _ => ⟨receiver, false⟩ :: receiver.inner
  | .index _ receiver key _ => ⟨receiver, false⟩ :: receiver.inner ++ ⟨key, false⟩ :: key.inner
  | .call _ callee arguments => ⟨callee, true⟩ :: callee.inner ++ argumentNodes arguments
  | .struct _ _ fields => fieldNodes fields
  | .comprehension _ _ _ range _ start condition step result =>
    ⟨range, false⟩ :: range.inner ++ ⟨start, false⟩ :: start.inner ++
      ⟨condition, false⟩ :: condition.inner ++ ⟨step, false⟩ :: step.inner ++
        ⟨result, false⟩ :: result.inner
  | .hasField _ receiver _ => ⟨receiver, false⟩ :: receiver.inner
  | .bind _ _ value body => ⟨value, false⟩ :: value.inner ++ ⟨body, false⟩ :: body.inner

def argumentNodes : List Expr → List Node
  | [] => []
  | expr :: rest => ⟨expr, false⟩ :: expr.inner ++ argumentNodes rest

def elementNodes : List Element → List Node
  | [] => []
  | .mk _ value :: rest => ⟨value, false⟩ :: value.inner ++ elementNodes rest

def entryNodes : List Entry → List Node
  | [] => []
  | .mk _ key value :: rest =>
    ⟨key, false⟩ :: key.inner ++ ⟨value, false⟩ :: value.inner ++ entryNodes rest

def fieldNodes : List Field → List Node
  | [] => []
  | .mk _ _ value :: rest => ⟨value, false⟩ :: value.inner ++ fieldNodes rest

end

/-- The nodes of an expression, itself the first. -/
def Expr.nodes (expr : Expr) : List Node := ⟨expr, false⟩ :: expr.inner

/-- What the walk records of what a call calls. -/
def Expr.calledRecords : Expr → List Occurrence
  | .ident span name => [⟨.function, name, span⟩]
  | .rootIdent span name => [⟨.variable, name, span⟩]
  | .member span _ name _ => [⟨.function, name, memberSpan span name⟩]
  | _ => []

/-- What the walk records for a node; for a callee the call does. -/
def Node.records (node : Node) : List Occurrence :=
  match node.expr with
  | .call _ callee _ => callee.calledRecords
  | .ident span name | .rootIdent span name =>
    if node.isCallee then [] else [⟨.variable, name, span⟩]
  | .member span _ field _ => if node.isCallee then [] else [⟨.field, field, memberSpan span field⟩]
  | _ => []

/-- Whether an expression is an identifier of the name, looked up from the root
or not. -/
def Expr.isNamed (name : String) : Expr → Bool
  | .ident _ other | .rootIdent _ other => other == name
  | _ => false

/-- Whether an expression is a member of the name. -/
def Expr.endsIn (name : String) : Expr → Bool
  | .member _ _ field _ => field == name
  | _ => false

/-- Whether an expression is an identifier of the name, looked up from the root. -/
def Expr.isRooted (name : String) : Expr → Bool
  | .rootIdent _ other => other == name
  | _ => false

namespace Node

/-- What the node calls, if it is a call. -/
def callee? (node : Node) : Option Expr :=
  match node.expr with
  | .call _ callee _ => some callee
  | _ => none

/-- Whether the node calls a function or a method of the name. -/
def calls (name : String) (node : Node) : Bool :=
  node.callee?.any fun callee => callee.isNamed name || callee.endsIn name

/-- Whether the node calls a function by its name from the root. -/
def callsRooted (name : String) (node : Node) : Bool :=
  node.callee?.any (·.isRooted name)

/-- Whether the node is an identifier of the name, and no callee. -/
def refersTo (name : String) (node : Node) : Bool :=
  !node.isCallee && node.expr.isNamed name

/-- Whether the node is a member of the name, and no callee. -/
def selects (name : String) (node : Node) : Bool :=
  !node.isCallee && node.expr.endsIn name

end Node

section Walk

theorem append_perm {first second : List Occurrence} {left right : List Node}
    (hfirst : first.Perm (left.flatMap Node.records))
    (hsecond : second.Perm (right.flatMap Node.records)) :
    (first ++ second).Perm ((left ++ right).flatMap Node.records) := by
  rw [List.flatMap_append]
  exact hfirst.append hsecond

mutual

/-- The walk over an expression records what its nodes do. -/
theorem Expr.occurrences_perm :
    (expr : Expr) → expr.occurrences.Perm (expr.nodes.flatMap Node.records)
  | .null _ | .bool _ _ | .int _ _ | .uint _ _ | .float _ _ _ | .string _ _ | .bytes _ _ => .refl _
  | .ident _ _ | .rootIdent _ _ | .error _ => .refl _
  | .list _ elements => elementOccurrences_perm elements
  | .map _ entries => entryOccurrences_perm entries
  | .unary _ _ operand => operand.occurrences_perm
  | .binary _ _ left right => append_perm left.occurrences_perm right.occurrences_perm
  | .conditional _ condition whenTrue whenFalse =>
      append_perm (append_perm condition.occurrences_perm whenTrue.occurrences_perm)
        whenFalse.occurrences_perm
  | .member _ receiver _ _ =>
      -- The receiver is visited before the member is recorded.
      (List.perm_append_singleton _ _).trans (receiver.occurrences_perm.cons _)
  | .index _ receiver key _ => append_perm receiver.occurrences_perm key.occurrences_perm
  | .call _ callee arguments => by
      have harguments := argumentOccurrences_perm arguments
      have hcallee := callee.occurrences_perm
      cases callee with
      | ident _ _ | rootIdent _ _ => exact harguments.cons _
      | member _ receiver _ _ =>
          have hboth := append_perm receiver.occurrences_perm harguments
          exact List.perm_middle.trans (hboth.cons _)
      | _ => exact append_perm hcallee harguments
  | .struct _ _ fields => fieldOccurrences_perm fields
  | .comprehension _ _ _ range _ start condition step result =>
      append_perm (append_perm (append_perm (append_perm range.occurrences_perm
        start.occurrences_perm) condition.occurrences_perm) step.occurrences_perm)
        result.occurrences_perm
  | .hasField _ receiver _ => receiver.occurrences_perm
  | .bind _ _ value body => append_perm value.occurrences_perm body.occurrences_perm

theorem argumentOccurrences_perm :
    (arguments : List Expr) →
      (argumentOccurrences arguments).Perm ((argumentNodes arguments).flatMap Node.records)
  | [] => .refl _
  | expr :: rest => append_perm expr.occurrences_perm (argumentOccurrences_perm rest)

theorem elementOccurrences_perm :
    (elements : List Element) →
      (elementOccurrences elements).Perm ((elementNodes elements).flatMap Node.records)
  | [] => .refl _
  | .mk _ value :: rest => append_perm value.occurrences_perm (elementOccurrences_perm rest)

theorem entryOccurrences_perm :
    (entries : List Entry) →
      (entryOccurrences entries).Perm ((entryNodes entries).flatMap Node.records)
  | [] => .refl _
  | .mk _ key value :: rest =>
      append_perm (append_perm key.occurrences_perm value.occurrences_perm)
        (entryOccurrences_perm rest)

theorem fieldOccurrences_perm :
    (fields : List Field) →
      (fieldOccurrences fields).Perm ((fieldNodes fields).flatMap Node.records)
  | [] => .refl _
  | .mk _ _ value :: rest => append_perm value.occurrences_perm (fieldOccurrences_perm rest)

end

end Walk

namespace Node

/-- How often the node records a name of a kind. -/
def recordsOf (kind : SymbolKind) (name : String) (node : Node) : Nat :=
  (node.records.map Occurrence.key).count (kind, name)

theorem count_key (kind : SymbolKind) (name : String) (occurrence : Occurrence) :
    [occurrence.key].count (kind, name) =
      (occurrence.kind == kind && occurrence.name == name).toNat := by
  rw [List.count_singleton, Occurrence.key]
  change (if (occurrence.kind == kind && occurrence.name == name) = true then 1 else 0) = _
  cases occurrence.kind == kind && occurrence.name == name with
  | true => rfl
  | false => rfl

/-- A call records a function for the name that it calls, unless the name is
looked up from the root. -/
theorem recordsOf_function (name : String) (node : Node) :
    node.recordsOf .function name + (node.callsRooted name).toNat = (node.calls name).toNat := by
  obtain ⟨expr, isCallee⟩ := node
  cases expr with
  | call _ callee _ =>
      cases callee with
      | ident _ _ | rootIdent _ _ | member _ _ _ _ =>
          simp [recordsOf, records, Expr.calledRecords, count_key, callsRooted, calls, callee?,
            Expr.isNamed, Expr.endsIn, Expr.isRooted]
      | _ => rfl
  | ident _ _ | rootIdent _ _ | member _ _ _ _ =>
      cases isCallee with
      | true => rfl
      | false => simp [recordsOf, records, count_key, callsRooted, calls, callee?]
  | _ => rfl

/-- A variable is recorded for an identifier that is no callee, and for a call of
a name from the root. -/
theorem recordsOf_variable (name : String) (node : Node) :
    node.recordsOf .variable name = (node.refersTo name).toNat + (node.callsRooted name).toNat := by
  obtain ⟨expr, isCallee⟩ := node
  cases expr with
  | call _ callee _ =>
      cases callee with
      | ident _ _ | rootIdent _ _ | member _ _ _ _ =>
          simp [recordsOf, records, Expr.calledRecords, count_key, callsRooted, refersTo, callee?,
            Expr.isNamed, Expr.isRooted]
      | _ => simp [recordsOf, records, Expr.calledRecords, callsRooted, refersTo, callee?,
            Expr.isNamed, Expr.isRooted]
  | ident _ _ | rootIdent _ _ | member _ _ _ _ =>
      cases isCallee with
      | true => rfl
      | false => simp [recordsOf, records, count_key, callsRooted, refersTo, callee?, Expr.isNamed]
  | _ => simp [recordsOf, records, callsRooted, refersTo, callee?, Expr.isNamed]

/-- A field is recorded for a member that is no callee. -/
theorem recordsOf_field (name : String) (node : Node) :
    node.recordsOf .field name = (node.selects name).toNat := by
  obtain ⟨expr, isCallee⟩ := node
  cases expr with
  | call _ callee _ =>
      cases callee with
      | _ => simp [recordsOf, records, Expr.calledRecords, count_key, selects, Expr.endsIn]
  | ident _ _ | rootIdent _ _ | member _ _ _ _ =>
      cases isCallee with
      | true => rfl
      | false => simp [recordsOf, records, count_key, selects, Expr.endsIn]
  | _ => simp [recordsOf, records, selects, Expr.endsIn]

end Node

section Count

variable (nodes : List Node) (kind : SymbolKind) (name : String)

theorem countP_eq_sum (p : Node → Bool) :
    nodes.countP p = (nodes.map fun node => (p node).toNat).sum := by
  induction nodes with
  | nil => rfl
  | cons node rest ih =>
      rw [List.countP_cons, ih, List.map_cons, List.sum_cons, Nat.add_comm]
      cases p node with
      | true => rfl
      | false => rfl

theorem count_records_eq_sum :
    ((nodes.flatMap Node.records).map Occurrence.key).count (kind, name) =
      (nodes.map (Node.recordsOf kind name)).sum := by
  rw [List.map_flatMap, List.count_flatMap]
  rfl

end Count

end Cel

namespace CelTree

open Cel

/-- The nodes of all the expressions of a document. -/
def nodes (tree : CelTree) : List Node := tree.roots.flatMap fun root => root.expr.nodes

/-- The names in a document are those that its nodes record. -/
theorem occurrences_keys_perm (tree : CelTree) :
    (tree.occurrences.map Occurrence.key).Perm
      ((tree.nodes.flatMap Node.records).map Occurrence.key) := by
  rw [occurrences, nodes, List.map_flatMap, List.flatMap_assoc, List.map_flatMap]
  apply List.Perm.flatMap_left
  intro root _
  rw [List.map_map]
  exact root.expr.occurrences_perm.map Occurrence.key

/-- A name that is not synthetic occurs in the table as often as the nodes
record it. -/
theorem occurrencesOf_eq_sum (tree : CelTree) (kind : SymbolKind) {name : String}
    (h : isSynthetic name = false) :
    tree.symbols.occurrencesOf kind name = (tree.nodes.map (Node.recordsOf kind name)).sum := by
  have hsummary : tree.symbols.Summarizes tree.recorded :=
    SymbolTable.ofOccurrences_summarizes tree.occurrences
  have hkept : (tree.recorded.map Occurrence.key).count (kind, name) =
      (tree.occurrences.map Occurrence.key).count (kind, name) := by
    rw [recorded, List.count_eq_countP, List.count_eq_countP, List.countP_map, List.countP_map,
      List.countP_filter]
    apply List.countP_congr
    intro occurrence _
    simp only [Function.comp_apply, Bool.and_eq_true, Bool.not_eq_true', beq_iff_eq]
    constructor
    · exact And.left
    · intro hkey
      obtain ⟨_, hname⟩ := Prod.mk.inj hkey
      exact ⟨hkey, hname ▸ h⟩
  rw [hsummary.occurrencesOf_eq, hkept, tree.occurrences_keys_perm.count_eq, count_records_eq_sum]

/-- A table counts calls, identifiers and members by their names. A name, if it
is not synthetic, is counted as a function once for each node that calls it, but
for calls of the name from the root; as a variable once for each identifier that
is no callee, and for each call from the root; and as a field once for each
member that is no callee. So calls from the root are what keeps the counts of
functions and variables from being those of the calls and of the identifiers. -/
theorem occurrences_by_role (tree : CelTree) {name : String} (h : isSynthetic name = false) :
    let count := fun kind => tree.symbols.occurrencesOf kind name
    let calls := tree.nodes.countP (Node.calls name)
    let references := tree.nodes.countP (Node.refersTo name)
    let rooted := tree.nodes.countP (Node.callsRooted name)
    count .function + rooted = calls ∧
      count .variable = references + rooted ∧
      count .field = tree.nodes.countP (Node.selects name) ∧
      (count .function = calls ∧ count .variable = references ↔ rooted = 0) := by
  intro count calls references rooted
  have hfunction : count .function + rooted = calls := by
    simp only [count, calls, rooted, tree.occurrencesOf_eq_sum _ h, countP_eq_sum,
      ← List.sum_map_add]
    exact congrArg List.sum (List.map_congr_left fun node _ => node.recordsOf_function name)
  have hvariable : count .variable = references + rooted := by
    simp only [count, references, rooted, tree.occurrencesOf_eq_sum _ h, countP_eq_sum,
      ← List.sum_map_add]
    exact congrArg List.sum (List.map_congr_left fun node _ => node.recordsOf_variable name)
  have hfield : count .field = tree.nodes.countP (Node.selects name) := by
    simp only [count, tree.occurrencesOf_eq_sum _ h, countP_eq_sum]
    exact congrArg List.sum (List.map_congr_left fun node _ => node.recordsOf_field name)
  refine ⟨hfunction, hvariable, hfield, ?_⟩
  omega

/-- The names of `size(a.size) + a.size()`. -/
def sizes : CelTree := ⟨[⟨.binary ⟨0, 23⟩ .add
  (.call ⟨0, 12⟩ (.ident ⟨0, 4⟩ "size") [.member ⟨5, 11⟩ (.ident ⟨5, 6⟩ "a") "size" false])
  (.call ⟨15, 23⟩ (.member ⟨15, 21⟩ (.ident ⟨15, 16⟩ "a") "size" false) []), 0⟩]⟩

theorem occurrences_by_role_sizes :
    isSynthetic "size" = false ∧ sizes.symbols.occurrencesOf .function "size" = 2 ∧
      sizes.symbols.occurrencesOf .variable "size" = 0 ∧
      sizes.symbols.occurrencesOf .field "size" = 1 := by
  have hname : isSynthetic "size" = false := by decide
  obtain ⟨hfunction, hvariable, hfield, _⟩ := occurrences_by_role sizes hname
  have hcalls : sizes.nodes.countP (Node.calls "size") = 2 := by decide
  have hreferences : sizes.nodes.countP (Node.refersTo "size") = 0 := by decide
  have hselects : sizes.nodes.countP (Node.selects "size") = 1 := by decide
  have hrooted : sizes.nodes.countP (Node.callsRooted "size") = 0 := by decide
  rw [hrooted, hcalls] at hfunction
  rw [hrooted, hreferences] at hvariable
  exact ⟨hname, hfunction, hvariable, hfield.trans hselects⟩

/-- A call of a function from the root. -/
def rootedCall : String := ".size('a')"

def rootedCallTree : CelTree :=
  ⟨[⟨.call ⟨0, 10⟩ (.rootIdent ⟨0, 5⟩ "size") [.string ⟨6, 9⟩ "a"], 0⟩]⟩

/-- The function is counted as a variable. -/
theorem rooted_call_counted_as_variable :
    (∃ issues, CelEngine.outcome Environment.full rootedCall false =
        .parsed rootedCallTree issues) ∧
      isSynthetic "size" = false ∧
      rootedCallTree.nodes.countP (Node.calls "size") = 1 ∧
      rootedCallTree.symbols.occurrencesOf .function "size" = 0 ∧
      rootedCallTree.nodes.countP (Node.refersTo "size") = 0 ∧
      rootedCallTree.symbols.occurrencesOf .variable "size" = 1 := by
  have hword : scan 's' "ize('a')".toList = .token (.ident "size") 3 := wordScan_of_not_quote rfl
  have hlexemes : lexemes rootedCall.toList =
      .ok [⟨.mark .dot, ⟨0, 1⟩⟩, ⟨.ident "size", ⟨1, 5⟩⟩, ⟨.mark .leftParen, ⟨5, 6⟩⟩,
        ⟨.string "a", ⟨6, 9⟩⟩, ⟨.mark .rightParen, ⟨9, 10⟩⟩] := by
    change lexemesFrom 0 0 ('.' :: 's' :: "ize('a')".toList) = _
    simp only [lexemesFrom, hword]
    rfl
  have hread : (Language.cel .full).read rootedCall =
      ⟨[], some (.call ⟨0, 10⟩ (.rootIdent ⟨0, 5⟩ "size") [.string ⟨6, 9⟩ "a"])⟩ := by
    simp only [Language.cel, parse, hlexemes]
    rfl
  have hparsed := CelEngine.outcome_source_parsed_iff.mpr ⟨_, hread, rfl, rfl⟩
  exact ⟨⟨_, hparsed⟩, by decide, by decide, by decide, by decide, by decide⟩

end CelTree

end CelWatch
