import CelWatch.Text.Blank
import CelWatch.Typing.Ty

/-!
The text of a declared type: one of ten names, a constructor applied to its
parameters, or else the name of a message. Blanks around the whole text and
around each parameter do not count.
-/

namespace CelWatch.TypeText

/-- Why a text is no type. Each cause names the text it was found in. -/
inductive TypeError where
  | empty
  | missingParen (text : String)
  | unbalanced (parameters : String)
  | oneParameter (text : String)
  | twoParameters (text : String)
  | unknownConstructor (name : String)
deriving DecidableEq, Repr

def TypeError.message : TypeError → String
  | .empty => "empty type string"
  | .missingParen text => "missing closing paren in '" ++ text ++ "'"
  | .unbalanced parameters => "unbalanced parens in '" ++ parameters ++ "'"
  | .oneParameter text => "'" ++ text ++ "' takes exactly one type parameter"
  | .twoParameters text => "map type must have 2 parameters: '" ++ text ++ "'"
  | .unknownConstructor name => "unknown parameterized type: '" ++ name ++ "'"

/-- The count of open parentheses behind a character. It is a signed word, which
wraps around. -/
def countBehind (depth : Int32) (c : Char) : Int32 :=
  if c = '(' then depth + 1 else if c = ')' then depth - 1 else depth

/-- Cuts at the commas under no parenthesis. `depth` parentheses are open and
`piece` holds, in reverse, what was read since the last cut; `none` when the
count falls below zero, where a parenthesis closes that was never opened or where
more of them are open than the word can count. -/
def cut? (depth : Int32) (piece : List Char) : List Char → Option (List (List Char))
  | [] => some [piece.reverse]
  | c :: rest =>
    if c = ',' ∧ depth = 0 then
      (cut? depth [] rest).map (piece.reverse :: ·)
    else if countBehind depth c < 0 then
      none
    else
      cut? (countBehind depth c) (c :: piece) rest

/-- The parameters written between the parentheses of a constructor. -/
def splitParameters (text : List Char) : Except TypeError (List (List Char)) :=
  match cut? 0 [] text with
  | none => .error (.unbalanced (String.ofList text))
  | some pieces => .ok (pieces.map Text.trim)

theorem length_le_of_mem_cut? {depth : Int32} {piece text : List Char}
    {pieces : List (List Char)} (h : cut? depth piece text = some pieces)
    {p : List Char} (hp : p ∈ pieces) : p.length ≤ piece.length + text.length := by
  fun_induction cut? depth piece text generalizing pieces with
  | case1 depth piece =>
      simp only [Option.some.injEq] at h
      subst h
      simp only [List.mem_singleton] at hp
      simp [hp]
  | case2 depth piece c rest hcut ih =>
      obtain ⟨later, hl, rfl⟩ := Option.map_eq_some_iff.1 h
      rcases List.mem_cons.1 hp with rfl | hp
      · simp
      · have := ih hl hp
        simp only [List.length_cons, List.length_nil] at *
        omega
  | case3 => cases h
  | case4 depth piece c rest _ _ ih =>
      have := ih h hp
      simp only [List.length_cons] at *
      omega

theorem length_le_of_mem_splitParameters {text : List Char} {parameters : List (List Char)}
    (h : splitParameters text = .ok parameters) {p : List Char} (hp : p ∈ parameters) :
    p.length ≤ text.length := by
  unfold splitParameters at h
  split at h
  · cases h
  · rename_i pieces hcut
    cases h
    obtain ⟨piece, hm, rfl⟩ := List.mem_map.1 hp
    have inner := length_le_of_mem_cut? hcut hm
    have := Text.length_trim_le piece
    simp only [List.length_nil] at inner
    omega

/-- The type that a name without parentheses stands for. -/
def named (name : String) : Except TypeError Ty :=
  match name with
  | "" => .error .empty
  | "bool" => .ok .bool
  | "int" => .ok .int
  | "uint" => .ok .uint
  | "double" => .ok .double
  | "string" => .ok .string
  | "bytes" => .ok .bytes
  | "null" => .ok .null
  | "dyn" => .ok .dyn
  | "timestamp" => .ok .timestamp
  | "duration" => .ok .duration
  | _ => .ok (.message name)

/-- The constructors of one parameter. -/
def unary? (name : String) : Option (Ty → Ty) :=
  match name with
  | "list" => some .list
  | "optional" => some .optional
  | "type" => some .typeOf
  | "wrapper" => some .wrapper
  | _ => none

/-- The text between a constructor's parentheses, given all that follows the
opening one. -/
def inside? (afterOpen : List Char) : Option (List Char) :=
  if afterOpen.getLast? = some ')' then some afterOpen.dropLast else none

theorem length_inside? {afterOpen inner : List Char} (h : inside? afterOpen = some inner) :
    inner.length ≤ afterOpen.length := by
  unfold inside? at h
  split at h
  · cases h
    simp
  · cases h

set_option linter.unusedVariables false in
/-- Reads the text of a type. -/
def parse (text : List Char) : Except TypeError Ty :=
  let trimmed := Text.trim text
  let name := trimmed.takeWhile (· != '(')
  match htail : trimmed.dropWhile (· != '(') with
  | [] => named (String.ofList trimmed)
  | _ :: afterOpen =>
    match hinside : inside? afterOpen with
    | none => .error (.missingParen (String.ofList trimmed))
    | some inner =>
      match hsplit : splitParameters inner with
      | .error cause => .error cause
      | .ok parameters =>
        match unary? (String.ofList name), parameters with
        | some build, [one] => (parse one).map build
        | some _, _ => .error (.oneParameter (String.ofList trimmed))
        | none, parameters =>
          if String.ofList name = "map" then
            match parameters with
            | [key, value] => do
              let key ← parse key
              let value ← parse value
              pure (.map key value)
            | _ => .error (.twoParameters (String.ofList trimmed))
          else
            .error (.unknownConstructor (String.ofList name))
termination_by text.length
decreasing_by
  all_goals
    have outer := Text.length_trim_le text
    have tail := Text.length_dropWhile_le (· != '(') (Text.trim text)
    have inner := length_inside? hinside
    rw [htail] at tail
    simp only [List.length_cons] at tail
    have pieces := fun p => length_le_of_mem_splitParameters hsplit (p := p)
    simp at pieces
    omega

/-- Reads the text of a type. -/
def ofString (text : String) : Except TypeError Ty :=
  parse text.toList

end CelWatch.TypeText
