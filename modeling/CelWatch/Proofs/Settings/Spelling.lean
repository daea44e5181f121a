import CelWatch.Proofs.Text.Padding
import CelWatch.Proofs.Settings.Parameters

/-!
The written forms of types. A name stands for a type, and a constructor with its
parameters between parentheses for what it makes of theirs. A text is read as a
type exactly if it is a written form of it between blanks. Only a text that
stands alone may hold commas and closing parentheses and be the name of a
message all the same.
-/

namespace CelWatch.TypeText

open Text

/-- What the constructor of this name makes of its parameters. A complaint quotes
the text of the type. -/
def application (text name : String) (parameters : List (List Char)) : Except TypeError Ty :=
  match unary? name, parameters with
  | some build, [one] => (parse one).map build
  | some _, _ => .error (.oneParameter text)
  | none, parameters =>
    if name = "map" then
      match parameters with
      | [key, value] => do
        let key ← parse key
        let value ← parse value
        pure (.map key value)
      | _ => .error (.twoParameters text)
    else
      .error (.unknownConstructor name)

section Shape

variable {text name afterOpen : List Char}

theorem takeWhile_name (hname : '(' ∉ name) (rest : List Char) :
    (name ++ '(' :: rest).takeWhile (· != '(') = name := by
  have hkeep : ∀ c ∈ name, (c != '(') = true := by
    intro c member
    have hne : c ≠ '(' := fun hc => hname (hc ▸ member)
    simpa using hne
  rw [List.takeWhile_append_of_pos hkeep]
  simp

theorem dropWhile_name (hname : '(' ∉ name) (rest : List Char) :
    (name ++ '(' :: rest).dropWhile (· != '(') = '(' :: rest := by
  have hboth := List.takeWhile_append_dropWhile (p := (· != '(')) (l := name ++ '(' :: rest)
  rw [takeWhile_name hname] at hboth
  exact List.append_cancel_left hboth

theorem parse_of_name (h : '(' ∉ trim text) : parse text = named (String.ofList (trim text)) := by
  have htail : (trim text).dropWhile (· != '(') = [] := by
    rw [List.dropWhile_eq_nil_iff]
    intro c member
    have hne : c ≠ '(' := fun hc => h (hc ▸ member)
    simpa using hne
  rw [parse]
  split
  · rfl
  · next hcons =>
      rw [htail] at hcons
      cases hcons

/-- With parentheses the parameters are cut first, and then a constructor makes
something of them. -/
theorem parse_of_open (hname : '(' ∉ name) (htrim : trim text = name ++ '(' :: afterOpen) :
    parse text =
      match inside? afterOpen with
      | none => .error (.missingParen (String.ofList (trim text)))
      | some inner => (splitParameters inner).bind
          (application (String.ofList (trim text)) (String.ofList name)) := by
  have htake := takeWhile_name hname afterOpen
  have hdrop := dropWhile_name hname afterOpen
  rw [← htrim] at htake hdrop
  rw [parse]
  split
  · next hnil =>
      rw [hdrop] at hnil
      cases hnil
  · next hcons =>
      rw [hdrop] at hcons
      obtain ⟨rfl, rfl⟩ := List.cons.inj hcons
      split
      · next hnone => rw [hnone]
      · next inner hinside =>
          simp only [hinside]
          split
          · next hcause =>
              rw [hcause]
              rfl
          · next parameters hsplit =>
              have hbind : (splitParameters inner).bind
                  (application (String.ofList (trim text)) (String.ofList name)) =
                    application (String.ofList (trim text)) (String.ofList name) parameters := by
                rw [hsplit]
                rfl
              rw [hbind, ← htake]
              unfold application
              cases unary? (String.ofList ((trim text).takeWhile (· != '('))) with
              | some build =>
                  rcases parameters with _ | ⟨one, _ | ⟨two, more⟩⟩
                  · rfl
                  · rfl
                  · rfl
              | none =>
                  by_cases hmap : String.ofList ((trim text).takeWhile (· != '(')) = "map"
                  · simp only [if_pos hmap]
                    rcases parameters with _ | ⟨key, _ | ⟨value, _ | ⟨third, more⟩⟩⟩
                    · rfl
                    · rfl
                    · rfl
                    · rfl
                  · simp only [if_neg hmap]

end Shape

/-- The names that stand for a type each. -/
def basics : List (String × Ty) :=
  [("bool", .bool), ("int", .int), ("uint", .uint), ("double", .double), ("string", .string),
    ("bytes", .bytes), ("null", .null), ("dyn", .dyn), ("timestamp", .timestamp),
    ("duration", .duration)]

/-- The constructors of one parameter with their names. -/
def constructors : List (String × (Ty → Ty)) :=
  [("list", .list), ("optional", .optional), ("type", .typeOf), ("wrapper", .wrapper)]

/-- A name that is left for messages: a basic type has it not. -/
structure IsMessageName (name : List Char) : Prop where
  ne_nil : name ≠ []
  trimmed : Trimmed name
  other : String.ofList name ∉ basics.map Prod.fst

/-- The written forms of types, with any blanks around each parameter. -/
inductive Spells : List Char → Ty → Prop where
  | basic {name : String} {ty : Ty} (h : (name, ty) ∈ basics) : Spells name.toList ty
  | message {name : List Char} (h : IsMessageName name) (hplain : ∀ c ∈ name, c ∉ ['(', ')', ',']) :
      Spells name (.message (String.ofList name))
  | applied {name : String} {build : Ty → Ty} {parameter core : List Char} {ty : Ty}
      (hname : (name, build) ∈ constructors) (hpadded : Padded parameter core)
      (h : Spells core ty) : Spells (name.toList ++ '(' :: (parameter ++ [')'])) (build ty)
  | map {first second firstCore secondCore : List Char} {key value : Ty}
      (hfirst : Padded first firstCore) (hkey : Spells firstCore key)
      (hsecond : Padded second secondCore) (hvalue : Spells secondCore value) :
      Spells ("map".toList ++ '(' :: ((first ++ ',' :: second) ++ [')'])) (.map key value)

/-- The types that the names and the constructors make. -/
inductive Declarable : Ty → Prop where
  | basic {name : String} {ty : Ty} (h : (name, ty) ∈ basics) : Declarable ty
  | message {name : List Char} (h : IsMessageName name) (hplain : ∀ c ∈ name, c ∉ ['(', ')', ',']) :
      Declarable (.message (String.ofList name))
  | list {element : Ty} (h : Declarable element) : Declarable (.list element)
  | map {key value : Ty} (hkey : Declarable key) (hvalue : Declarable value) :
      Declarable (.map key value)
  | optional {of : Ty} (h : Declarable of) : Declarable (.optional of)
  | typeOf {of : Ty} (h : Declarable of) : Declarable (.typeOf of)
  | wrapper {of : Ty} (h : Declarable of) : Declarable (.wrapper of)

section Names

variable {name : String} {ty : Ty}

theorem named_basic (h : (name, ty) ∈ basics) : named name = .ok ty := by
  have hall : ∀ entry ∈ basics, named entry.1 = .ok entry.2 := by simp [basics, named]
  exact hall _ h

theorem named_message (hempty : name ≠ "") (hother : name ∉ basics.map Prod.fst) :
    named name = .ok (.message name) := by
  rw [named]
  · exact hempty
  all_goals
    rintro rfl
    exact hother (by simp [basics])

theorem named_eq_ok_iff :
    named name = .ok ty ↔
      (name, ty) ∈ basics ∨ (name ≠ "" ∧ name ∉ basics.map Prod.fst ∧ ty = .message name) := by
  constructor
  · intro h
    by_cases hbasic : name ∈ basics.map Prod.fst
    · obtain ⟨entry, member, rfl⟩ := List.mem_map.mp hbasic
      rw [named_basic member] at h
      obtain rfl := Except.ok.inj h
      exact .inl member
    · have hempty : name ≠ "" := by
        rintro rfl
        cases h
      rw [named_message hempty hbasic] at h
      exact .inr ⟨hempty, hbasic, (Except.ok.inj h).symm⟩
  · rintro (hbasic | ⟨hempty, hother, rfl⟩)
    · exact named_basic hbasic
    · exact named_message hempty hother

theorem unary?_eq_some_iff {build : Ty → Ty} :
    unary? name = some build ↔ (name, build) ∈ constructors := by
  constructor
  · intro h
    unfold unary? at h
    split at h
    all_goals simp_all [constructors]
  · intro h
    have hall : ∀ entry ∈ constructors, unary? entry.1 = some entry.2 := by
      simp [constructors, unary?]
    exact hall _ h

/-- The names with a meaning of their own. -/
def words : List String :=
  basics.map Prod.fst ++ "map" :: constructors.map Prod.fst

theorem words_lower : ∀ word ∈ words, word.toList ≠ [] ∧ ∀ c ∈ word.toList, c.isLower = true := by
  simp [words, basics, constructors]

theorem word_of_basic (h : (name, ty) ∈ basics) : name ∈ words :=
  List.mem_append_left _ (List.mem_map.mpr ⟨_, h, rfl⟩)

theorem word_map : "map" ∈ words :=
  List.mem_append_right _ List.mem_cons_self

theorem word_of_constructor {build : Ty → Ty} (h : (name, build) ∈ constructors) : name ∈ words :=
  List.mem_append_right _ (List.mem_cons_of_mem _ (List.mem_map.mpr ⟨_, h, rfl⟩))

theorem isBlank_of_isLower {c : Char} (h : c.isLower = true) : isBlank c = false := by
  have hboth : (decide (c ≥ 'a') && decide (c ≤ 'z')) = true := h
  rw [Bool.and_eq_true, decide_eq_true_eq, decide_eq_true_eq] at hboth
  have hfirst : 97 ≤ c.toNat := hboth.1
  have hlast : c.toNat ≤ 122 := hboth.2
  simp only [isBlank, Bool.or_eq_false_iff, Bool.and_eq_false_iff, decide_eq_false_iff_not,
    beq_eq_false_iff_ne]
  omega

theorem word_trimmed (h : name ∈ words) : Trimmed name.toList :=
  trimmed_of_not_blank fun c member => isBlank_of_isLower ((words_lower name h).2 c member)

theorem mark_of_mem {c : Char} (h : c ∈ ['(', ')', ',']) :
    isBlank c = false ∧ c.isLower = false := by
  simp only [List.mem_cons, List.not_mem_nil, or_false] at h
  rcases h with rfl | rfl | rfl
  · decide
  · decide
  · decide

theorem word_plain (h : name ∈ words) : ∀ c ∈ name.toList, c ∉ ['(', ')', ','] := by
  intro c member hmark
  have hlower := (words_lower name h).2 c member
  exact Bool.false_ne_true ((mark_of_mem hmark).2.symm.trans hlower)

theorem open_not_mem {text : List Char} (h : ∀ c ∈ text, c ∉ ['(', ')', ',']) : '(' ∉ text :=
  fun member => h '(' member (by decide)

theorem close_not_mem {text : List Char} (h : ∀ c ∈ text, c ∉ ['(', ')', ',']) : ')' ∉ text :=
  fun member => h ')' member (by decide)

end Names

section Application

variable {text inner : List Char} {ty : Ty}

theorem bind_eq_ok_iff {α β : Type} {result : Except TypeError α} {next : α → Except TypeError β}
    {b : β} : result.bind next = .ok b ↔ ∃ a, result = .ok a ∧ next a = .ok b := by
  cases result with
  | error cause => simp [Except.bind]
  | ok a => simp [Except.bind]

theorem parse_of_cuts {name : List Char} {pieces : List (List Char)} (hname : '(' ∉ name)
    (htrim : trim text = name ++ '(' :: (inner ++ [')']))
    (hopens : OpensAtMost (2 ^ 31 - 1) inner) (h : Cuts inner pieces) :
    parse text =
      application (String.ofList (trim text)) (String.ofList name) (pieces.map trim) := by
  have hinside : inside? (inner ++ [')']) = some inner := by simp [inside?]
  have hsplit := splitParameters_eq_ok_iff.mpr ⟨hopens, pieces, h, rfl⟩
  simp only [parse_of_open hname htrim, hinside, hsplit, Except.bind]

/-- A text with parentheses that is read as a type ends with a closing one, and
its constructor makes the type of the pieces in between. -/
theorem exists_cuts_of_parse {name afterOpen : List Char} (hname : '(' ∉ name)
    (htrim : trim text = name ++ '(' :: afterOpen) (h : parse text = .ok ty) :
    ∃ inner pieces written, afterOpen = inner ++ [')'] ∧ OpensAtMost (2 ^ 31 - 1) inner ∧
      Cuts inner pieces ∧ application written (String.ofList name) (pieces.map trim) = .ok ty := by
  rw [parse_of_open hname htrim] at h
  by_cases hend : afterOpen.getLast? = some ')'
  · obtain ⟨inner, rfl⟩ := List.getLast?_eq_some_iff.mp hend
    have hinside : inside? (inner ++ [')']) = some inner := by simp [inside?]
    rw [hinside] at h
    obtain ⟨parameters, hsplit, happly⟩ := bind_eq_ok_iff.mp h
    obtain ⟨hopens, pieces, hcuts, rfl⟩ := splitParameters_eq_ok_iff.mp hsplit
    exact ⟨inner, pieces, _, rfl, hopens, hcuts, happly⟩
  · rw [inside?, if_neg hend] at h
    cases h

theorem application_of_constructor {name written : String} {build : Ty → Ty} {one : List Char}
    (hname : (name, build) ∈ constructors) (h : parse one = .ok ty) :
    application written name [one] = .ok (build ty) := by
  unfold application
  rw [unary?_eq_some_iff.mpr hname]
  simp only [h]
  rfl

theorem application_map {written : String} {first second : List Char} {key value : Ty}
    (hkey : parse first = .ok key) (hvalue : parse second = .ok value) :
    application written "map" [first, second] = .ok (.map key value) := by
  have hunary : unary? "map" = none := rfl
  unfold application
  rw [hunary]
  simp only [hkey, hvalue, if_true]
  rfl

/-- A constructor makes types of types, of as many as it needs. -/
theorem application_ok {name written : String} {parameters : List (List Char)}
    (h : application written name parameters = .ok ty) :
    (∃ build one of, (name, build) ∈ constructors ∧ parameters = [one] ∧ parse one = .ok of ∧
        ty = build of) ∨
      ∃ first second key value, name = "map" ∧ parameters = [first, second] ∧
        parse first = .ok key ∧ parse second = .ok value ∧ ty = .map key value := by
  unfold application at h
  split at h
  · next build one hunary =>
      cases hone : parse one with
      | error cause =>
          rw [hone] at h
          cases h
      | ok of =>
          rw [hone] at h
          obtain rfl := Except.ok.inj h
          exact .inl ⟨build, one, of, unary?_eq_some_iff.mp hunary, rfl, hone, rfl⟩
  · cases h
  · split at h
    · next hmap =>
        split at h
        · next first second =>
            obtain ⟨key, hkey, hrest⟩ := bind_eq_ok_iff.mp h
            obtain ⟨value, hvalue, hpure⟩ := bind_eq_ok_iff.mp hrest
            obtain rfl := Except.ok.inj hpure
            exact .inr ⟨first, second, key, value, hmap, rfl, hkey, hvalue, rfl⟩
        · cases h
    · cases h

end Application

section Written

variable {text core name inner : List Char} {ty : Ty} {depth limit more : Nat}

theorem not_mark_of_isBlank {c : Char} (h : isBlank c = true) : c ∉ ['(', ')', ','] := fun member =>
  Bool.false_ne_true ((mark_of_mem member).1.symm.trans h)

theorem Leaves.padded (h : Leaves 0 core) (hpadded : Padded text core) : Leaves 0 text := by
  obtain ⟨front, back, rfl, hfront, hback⟩ := hpadded
  have hbefore : Leaves 0 front := leaves_of_plain fun c member =>
    not_mark_of_isBlank (hfront c member)
  have hafter : Leaves 0 back := leaves_of_plain fun c member =>
    not_mark_of_isBlank (hback c member)
  exact (hbefore.append h).append hafter

/-- Blanks open and close nothing. -/
theorem opensAtMost_padded (h : Padded text core) :
    OpensAtMost limit text ↔ OpensAtMost limit core := by
  obtain ⟨front, back, rfl, hfront, hback⟩ := h
  have hbehind : '(' ∉ back := fun member => not_mark_of_isBlank (hback _ member) (by decide)
  have hopen : front.count '(' = 0 :=
    List.count_eq_zero.mpr fun member => not_mark_of_isBlank (hfront _ member) (by decide)
  have hclose : front.count ')' = 0 :=
    List.count_eq_zero.mpr fun member => not_mark_of_isBlank (hfront _ member) (by decide)
  rw [opensAtMost_append_iff hbehind]
  constructor
  · exact fun hwhole => hwhole.behind (by omega)
  · exact fun hcore => (opensAtMost_of_count_le (by omega)).append hcore (by omega)

/-- Between the parentheses of a constructor one fewer may be open. -/
theorem OpensAtMost.inside (h : OpensAtMost more (name ++ '(' :: (inner ++ [')'])))
    (hclose : ')' ∉ name) (hlimit : more ≤ limit + 1) : OpensAtMost limit inner := by
  have hname := List.count_eq_zero.mpr hclose
  rw [List.append_cons] at h
  have hclosed : OpensAtMost limit (inner ++ [')']) := by
    refine h.behind ?_
    rw [count_concat, count_concat, if_pos rfl, if_neg (by decide)]
    omega
  exact (opensAtMost_append_iff (by decide)).mp hclosed

theorem OpensAtMost.enclosed (h : OpensAtMost limit inner) (hopen : '(' ∉ name)
    (hlimit : limit + 1 ≤ more) : OpensAtMost more (name ++ '(' :: (inner ++ [')'])) := by
  have hcount : (name ++ ['(']).count '(' = 1 := by
    rw [count_concat, List.count_eq_zero.mpr hopen, if_pos rfl]
  have hinner : OpensAtMost limit (inner ++ [')']) := (opensAtMost_append_iff (by decide)).mpr h
  rw [List.append_cons]
  exact (opensAtMost_of_count_le (by omega)).append hinner (by omega)

/-- Each of two parameters opens no more than both of them. -/
theorem Leaves.opensAtMost_pair {rest : List Char} (h : Leaves 0 text)
    (hpair : OpensAtMost limit (text ++ ',' :: rest)) :
    OpensAtMost limit text ∧ OpensAtMost limit rest := by
  have htotal := h.total
  refine ⟨fun front hfront => hpair front (hfront.trans (List.prefix_append text _)), ?_⟩
  rw [List.append_cons] at hpair
  refine hpair.behind ?_
  rw [count_concat, count_concat, if_neg (by decide), if_neg (by decide)]
  omega

theorem trimmed_application {name : String} (hname : name ∈ words) (inner : List Char) :
    Trimmed (name.toList ++ '(' :: (inner ++ [')'])) := by
  obtain ⟨first, rest, hcons⟩ := List.exists_cons_of_ne_nil (words_lower name hname).1
  have hhead := (word_trimmed hname).1
  constructor
  · rw [hcons] at hhead ⊢
    exact hhead
  · intro c member
    simp only [← List.cons_append, ← List.append_assoc, List.getLast?_concat] at member
    obtain rfl := Option.some.inj member
    rfl

theorem leaves_application {name : String} (hname : name ∈ words)
    (h : Leaves 0 ('(' :: (inner ++ [')']))) : Leaves 0 (name.toList ++ '(' :: (inner ++ [')'])) :=
  (leaves_of_plain (word_plain hname)).append h

theorem Spells.trimmed (h : Spells core ty) : Trimmed core := by
  cases h with
  | basic h => exact word_trimmed (word_of_basic h)
  | message h _ => exact h.trimmed
  | applied hname _ _ => exact trimmed_application (word_of_constructor hname) _
  | map _ _ _ _ => exact trimmed_application word_map _

theorem Spells.leaves (h : Spells core ty) : Leaves 0 core := by
  induction h with
  | basic h => exact leaves_of_plain (word_plain (word_of_basic h))
  | message _ hplain => exact leaves_of_plain hplain
  | applied hname hpadded _ ih =>
      exact leaves_application (word_of_constructor hname) (ih.padded hpadded).enclosed
  | map hfirst _ hsecond _ ihkey ihvalue =>
      exact leaves_application word_map
        ((ihkey.padded hfirst).enclosed_pair (ihvalue.padded hsecond))

theorem Spells.trim_eq (h : Spells core ty) (hpadded : Padded text core) : trim text = core :=
  trim_of_padded hpadded h.trimmed

/-- A written form with blanks around it is read as its type, unless too many
parentheses are open in it. -/
theorem Spells.parse (h : Spells core ty) (hopens : OpensAtMost (2 ^ 31) core)
    (hpadded : Padded text core) : TypeText.parse text = .ok ty := by
  induction h generalizing text with
  | basic h =>
      have htrim := (Spells.basic h).trim_eq hpadded
      have hparen := open_not_mem (word_plain (word_of_basic h))
      rw [parse_of_name (htrim ▸ hparen), htrim, String.ofList_toList]
      exact named_basic h
  | @message name h hplain =>
      have htrim := (Spells.message h hplain).trim_eq hpadded
      have hempty : String.ofList name ≠ "" := by simpa using h.ne_nil
      rw [parse_of_name (htrim ▸ open_not_mem hplain), htrim]
      exact named_message hempty h.other
  | @applied name build parameter core ty hname hparameter h ih =>
      have htrim := (Spells.applied hname hparameter h).trim_eq hpadded
      have hplain := word_plain (word_of_constructor hname)
      have hinner : OpensAtMost (2 ^ 31 - 1) parameter := hopens.inside (close_not_mem hplain) (by decide)
      have hcore := ((opensAtMost_padded hparameter).mp hinner).mono (Nat.sub_le _ _)
      have hcuts : Cuts parameter [parameter] := Cuts.one (h.leaves.padded hparameter)
      rw [parse_of_cuts (open_not_mem hplain) htrim hinner hcuts, String.ofList_toList,
        List.map_singleton, h.trim_eq hparameter]
      exact application_of_constructor hname (ih hcore (.refl core))
  | @map first second firstCore secondCore key value hfirst hkey hsecond hvalue ihkey ihvalue =>
      have htrim := (Spells.map hfirst hkey hsecond hvalue).trim_eq hpadded
      have hplain := word_plain word_map
      have hinner : OpensAtMost (2 ^ 31 - 1) (first ++ ',' :: second) :=
        hopens.inside (close_not_mem hplain) (by decide)
      have hleaves := hkey.leaves.padded hfirst
      obtain ⟨hbefore, hbehind⟩ := hleaves.opensAtMost_pair hinner
      have hkeyCore := ((opensAtMost_padded hfirst).mp hbefore).mono (Nat.sub_le _ _)
      have hvalueCore := ((opensAtMost_padded hsecond).mp hbehind).mono (Nat.sub_le _ _)
      have hcuts : Cuts (first ++ ',' :: second) [first, second] :=
        Cuts.cons hleaves (Cuts.one (hvalue.leaves.padded hsecond))
      rw [parse_of_cuts (open_not_mem hplain) htrim hinner hcuts, String.ofList_toList,
        List.map_cons, List.map_singleton, hkey.trim_eq hfirst, hvalue.trim_eq hsecond]
      exact application_map (ihkey hkeyCore (.refl firstCore))
        (ihvalue hvalueCore (.refl secondCore))

end Written

section Alone

variable {text core inner : List Char} {ty : Ty} {depth : Nat}

/-- What a text that stands alone is read as: besides the written forms a text
without parentheses to open names a message, whatever else it holds. -/
def SpellsAlone (core : List Char) (ty : Ty) : Prop :=
  Spells core ty ∨ (IsMessageName core ∧ '(' ∉ core ∧ ty = .message (String.ofList core))

theorem SpellsAlone.parse (h : SpellsAlone core ty) (hopens : OpensAtMost (2 ^ 31) core)
    (hpadded : Padded text core) : TypeText.parse text = .ok ty := by
  rcases h with hspells | ⟨hname, hparen, rfl⟩
  · exact hspells.parse hopens hpadded
  · have htrim := trim_of_padded hpadded hname.trimmed
    have hempty : String.ofList core ≠ "" := by simpa using hname.ne_nil
    rw [parse_of_name (htrim ▸ hparen), htrim]
    exact named_message hempty hname.other

/-- Between parentheses a name holds no commas and no parentheses. -/
theorem SpellsAlone.spells (h : SpellsAlone core ty) (hpadded : Padded text core)
    (hleaves : Leaves depth text) : Spells core ty := by
  rcases h with hspells | ⟨hname, hparen, rfl⟩
  · exact hspells
  · obtain ⟨front, back, rfl, hfront, hback⟩ := hpadded
    have hopen : '(' ∉ front ++ core ++ back := by
      intro member
      rcases List.mem_append.mp member with hmember | hafter
      · rcases List.mem_append.mp hmember with hbefore | hcore
        · exact not_mark_of_isBlank (hfront _ hbefore) (by decide)
        · exact hparen hcore
      · exact not_mark_of_isBlank (hback _ hafter) (by decide)
    obtain ⟨_, hplain⟩ := hleaves.plain hopen
    refine .message hname fun c member => hplain c ?_
    exact List.mem_append_left _ (List.mem_append_right _ member)

theorem spellsAlone_of_named {name : List Char} (htrimmed : Trimmed name) (hparen : '(' ∉ name)
    (h : named (String.ofList name) = .ok ty) : SpellsAlone name ty := by
  rcases named_eq_ok_iff.mp h with hbasic | ⟨hempty, hother, rfl⟩
  · have hspells := Spells.basic hbasic
    rw [String.toList_ofList] at hspells
    exact .inl hspells
  · have hne : name ≠ [] := by simpa using hempty
    exact .inr ⟨⟨hne, htrimmed, hother⟩, hparen, rfl⟩

/-- What a constructor makes is written with the written forms it is made of. -/
theorem spells_of_application {name : List Char} {written : String} {pieces : List (List Char)}
    (hcuts : Cuts inner pieces)
    (h : application written (String.ofList name) (pieces.map trim) = .ok ty)
    (hread : ∀ piece ∈ pieces, ∀ of, parse (trim piece) = .ok of → Spells (trim piece) of) :
    Spells (name ++ '(' :: (inner ++ [')'])) ty := by
  have hjoined := hcuts.joined
  rcases application_ok h with
    ⟨build, one, of, hname, hone, hof, rfl⟩ | ⟨_, _, key, value, hname, hboth, hkey, hvalue, rfl⟩
  · obtain ⟨piece, rfl, rfl⟩ := List.map_eq_singleton_iff.mp hone
    have hinner : piece = inner := by simpa [List.intercalate] using hjoined
    subst hinner
    have hspells := Spells.applied hname (padded_trim piece) (hread piece (by simp) of hof)
    rwa [String.toList_ofList] at hspells
  · obtain ⟨first, _, rfl, rfl, hrest⟩ := List.map_eq_cons_iff.mp hboth
    obtain ⟨second, rfl, rfl⟩ := List.map_eq_singleton_iff.mp hrest
    have hinner : first ++ ',' :: second = inner := by simpa [List.intercalate] using hjoined
    have hspells := Spells.map (padded_trim first) (hread first (by simp) key hkey)
      (padded_trim second) (hread second (by simp) value hvalue)
    rwa [hinner, ← hname, String.toList_ofList] at hspells

/-- A text that is read as a type is a written form of it. -/
theorem spellsAlone_of_parse (h : parse text = .ok ty) : SpellsAlone (trim text) ty := by
  -- The pieces are shorter than the text, and their parentheses match.
  induction hlength : text.length using Nat.strong_induction_on generalizing text ty with
  | _ length ih =>
      by_cases hparen : '(' ∈ trim text
      · obtain ⟨name, afterOpen, htrim, hname⟩ := List.eq_append_cons_of_mem hparen
        obtain ⟨inner, pieces, written, rfl, hopens, hcuts, happly⟩ :=
          exists_cuts_of_parse hname htrim h
        rw [htrim]
        refine .inl (spells_of_application hcuts happly ?_)
        intro piece member of hof
        have hshort : (trim piece).length < length := by
          have houter := length_trim_le text
          have hinner := length_trim_le piece
          have hpiece := length_le_of_mem_cut? (cut?_eq_some_iff.mpr ⟨hopens, hcuts⟩) member
          rw [htrim] at houter
          simp only [List.length_append, List.length_cons, List.length_nil] at houter hpiece
          omega
        have halone := ih _ hshort hof rfl
        rw [trim_trim] at halone
        obtain ⟨depth, hleaves⟩ := hcuts.leaves piece member
        exact halone.spells (padded_trim piece) hleaves
      · rw [parse_of_name hparen] at h
        exact spellsAlone_of_named (trimmed_trim text) hparen h

/-- What is read opens no more parentheses than the word for them counts, and the
one of the outermost constructor. -/
theorem opensAtMost_of_parse (h : parse text = .ok ty) : OpensAtMost (2 ^ 31) (trim text) := by
  by_cases hparen : '(' ∈ trim text
  · obtain ⟨name, afterOpen, htrim, hname⟩ := List.eq_append_cons_of_mem hparen
    obtain ⟨inner, _, _, rfl, hopens, _, _⟩ := exists_cuts_of_parse hname htrim h
    rw [htrim]
    exact hopens.enclosed hname (by decide)
  · refine opensAtMost_of_count_le ?_
    rw [List.count_eq_zero.mpr hparen]
    exact Nat.zero_le _

theorem parse_eq_ok_iff :
    parse text = .ok ty ↔
      OpensAtMost (2 ^ 31) text ∧ ∃ core, Padded text core ∧ SpellsAlone core ty := by
  constructor
  · intro h
    have hopens := (opensAtMost_padded (padded_trim text)).mpr (opensAtMost_of_parse h)
    exact ⟨hopens, trim text, padded_trim text, spellsAlone_of_parse h⟩
  · rintro ⟨hopens, core, hpadded, halone⟩
    exact halone.parse ((opensAtMost_padded hpadded).mp hopens) hpadded

end Alone

theorem exists_spells_applied (name : String) {build : Ty → Ty} {of : Ty}
    (hname : (name, build) ∈ constructors) (h : ∃ core, Spells core of) :
    ∃ core, Spells core (build of) := by
  obtain ⟨core, hspells⟩ := h
  exact ⟨_, .applied hname (.refl core) hspells⟩

theorem declarable_iff {ty : Ty} : Declarable ty ↔ ∃ core, Spells core ty := by
  constructor
  · intro h
    induction h with
    | basic h => exact ⟨_, .basic h⟩
    | message h hplain => exact ⟨_, .message h hplain⟩
    | list _ ih => exact exists_spells_applied "list" (by simp [constructors]) ih
    | map _ _ ihkey ihvalue =>
        obtain ⟨first, hkey⟩ := ihkey
        obtain ⟨second, hvalue⟩ := ihvalue
        exact ⟨_, .map (.refl first) hkey (.refl second) hvalue⟩
    | optional _ ih => exact exists_spells_applied "optional" (by simp [constructors]) ih
    | typeOf _ ih => exact exists_spells_applied "type" (by simp [constructors]) ih
    | wrapper _ ih => exact exists_spells_applied "wrapper" (by simp [constructors]) ih
  · rintro ⟨core, h⟩
    induction h with
    | basic h => exact .basic h
    | message h hplain => exact .message h hplain
    | applied hname _ _ ih =>
        simp only [constructors, List.mem_cons, Prod.mk.injEq, List.not_mem_nil, or_false] at hname
        rcases hname with ⟨_, rfl⟩ | ⟨_, rfl⟩ | ⟨_, rfl⟩ | ⟨_, rfl⟩
        · exact .list ih
        · exact .optional ih
        · exact .typeOf ih
        · exact .wrapper ih
    | map _ _ _ _ ihkey ihvalue => exact .map ihkey ihvalue

/-- The types that can be declared are those with a written form, and a text is
read as a type exactly if the type is written there, between blanks and with
nothing else, and at no place more than 2 ^ 31 parentheses are open. -/
theorem ofString_ok_iff_written :
    (∀ ty, Declarable ty ↔ ∃ core, Spells core ty) ∧
      ∀ (text : String) (ty : Ty), ofString text = .ok ty ↔
        OpensAtMost (2 ^ 31) text.toList ∧ ∃ core, Padded text.toList core ∧ SpellsAlone core ty :=
  ⟨fun _ => declarable_iff, fun _ _ => parse_eq_ok_iff⟩

section Deep

/-- A list of lists and so on, down to integers. -/
def nestedList : Nat → Ty
  | 0 => .int
  | depth + 1 => .list (nestedList depth)

def nestedText : Nat → List Char
  | 0 => "int".toList
  | depth + 1 => "list".toList ++ '(' :: (nestedText depth ++ [')'])

theorem nested_spells (depth : Nat) : Spells (nestedText depth) (nestedList depth) := by
  induction depth with
  | zero => exact .basic (by simp [basics, nestedList])
  | succ depth ih => exact .applied (by simp [constructors]) (.refl _) ih

theorem not_opensAtMost_nested (depth : Nat) : ¬ OpensAtMost depth (nestedText (depth + 1)) := by
  induction depth with
  | zero => decide
  | succ depth ih => exact fun h => ih (h.inside (by decide) (Nat.le_refl _))

/-- A type that is nested too deep is refused, however it is written. -/
theorem ofString_nested {depth : Nat} (h : 2 ^ 31 ≤ depth) :
    ∃ cause, ofString (String.ofList (nestedText (depth + 1))) = .error cause := by
  cases hread : ofString (String.ofList (nestedText (depth + 1))) with
  | error cause => exact ⟨cause, rfl⟩
  | ok ty =>
      rw [ofString, String.toList_ofList] at hread
      have hopens := (parse_eq_ok_iff.mp hread).1
      exact absurd (hopens.mono h) (not_opensAtMost_nested depth)

end Deep

/-- A type with one constructor more than what can be counted is written without
a fault, and still it is refused. -/
theorem deep_type_refused :
    Declarable (nestedList (2 ^ 31 + 1)) ∧
      Spells (nestedText (2 ^ 31 + 1)) (nestedList (2 ^ 31 + 1)) ∧
      ∃ cause, ofString (String.ofList (nestedText (2 ^ 31 + 1))) = .error cause := by
  have hspells := nested_spells (2 ^ 31 + 1)
  exact ⟨declarable_iff.mpr ⟨_, hspells⟩, hspells, ofString_nested (Nat.le_refl _)⟩

end CelWatch.TypeText
