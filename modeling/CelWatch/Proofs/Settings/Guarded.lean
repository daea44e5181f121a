import CelWatch.Proofs.Settings.Spelling
import CelWatch.Proofs.Text.Line

/-!
Reading the text of a type with a guard on every cut. The parameters are cut at
the bytes of commas and the name at that of the opening parenthesis; no result
at all stands for a cut inside a character or out of order. No text gives one:
all these cuts fall right before or right behind a character of the text.
-/

namespace CelWatch.TypeText

open Text

section Split

/-- Cuts a text at the commas among some of its characters, which come with the
bytes at which they start. The piece being read starts at byte `start`. -/
def guardedCut (text : List Char) (depth : Int32) (start : Nat) :
    List (Nat × Char) → Option (Except TypeError (List (List Char)))
  | [] => (dropBytes? text start).map fun piece => .ok [trim piece]
  | (i, c) :: rest =>
    if c = ',' ∧ depth = 0 then
      match slice? text ⟨start, i⟩ with
      | none => none
      | some piece => (guardedCut text depth (i + 1) rest).map (·.map (trim piece :: ·))
    else if countBehind depth c < 0 then
      some (.error (.unbalanced (String.ofList text)))
    else
      guardedCut text (countBehind depth c) start rest

/-- The parameters written between the parentheses of a constructor. -/
def guardedSplit (text : List Char) : Option (Except TypeError (List (List Char))) :=
  guardedCut text 0 0 (charIndices 0 text)

variable {text front rest : List Char} {depth : Int32}

/-- The pieces of a text, or the complaint about it. -/
def piecesOf (text : List Char) : Option (List (List Char)) → Except TypeError (List (List Char))
  | none => .error (.unbalanced (String.ofList text))
  | some pieces => .ok (pieces.map trim)

/-- Behind the characters read so far all cuts are as they are in what is left. -/
theorem guardedCut_eq {piece : List Char} (htext : text = front ++ piece ++ rest) :
    guardedCut text depth (byteLength front) (charIndices (byteLength (front ++ piece)) rest) =
      some (piecesOf text (cut? depth piece.reverse rest)) := by
  induction rest generalizing front piece depth with
  | nil =>
      rw [List.append_nil] at htext
      rw [charIndices, guardedCut, htext, dropBytes?_append, cut?]
      simp [piecesOf]
  | cons c rest ih =>
      have hnext :
          byteLength (front ++ piece) + c.utf8Size = byteLength (front ++ (piece ++ [c])) := by
        simp [byteLength, Nat.add_assoc]
      have hmore : text = front ++ (piece ++ [c]) ++ rest := by
        rw [htext]
        simp
      rw [charIndices, hnext, guardedCut, cut?]
      by_cases hcut : c = ',' ∧ depth = 0
      · obtain ⟨rfl, rfl⟩ := hcut
        have hslice := slice?_append front piece (',' :: rest)
        rw [← htext, ← byteLength_append] at hslice
        have hone : ','.utf8Size = 1 := by decide
        have hbehind : text = front ++ (piece ++ [',']) ++ [] ++ rest := by
          rw [hmore, List.append_nil]
        have hlater : guardedCut text 0 (byteLength (front ++ (piece ++ [','])))
            (charIndices (byteLength (front ++ (piece ++ [',']))) rest) =
              some (piecesOf text (cut? 0 [] rest)) := by
          have hcut := @ih _ 0 _ hbehind
          rwa [List.append_nil] at hcut
        rw [if_pos ⟨rfl, rfl⟩, if_pos ⟨rfl, rfl⟩, hslice]
        simp only
        rw [← hone, hnext, hlater, List.reverse_reverse]
        cases cut? 0 [] rest with
        | none => rfl
        | some pieces => rfl
      · rw [if_neg hcut, if_neg hcut]
        by_cases hbelow : countBehind depth c < 0
        · rw [if_pos hbelow, if_pos hbelow]
          rfl
        · rw [if_neg hbelow, if_neg hbelow, ih hmore, List.reverse_concat]

theorem guardedSplit_eq (text : List Char) : guardedSplit text = some (splitParameters text) := by
  have hcut : guardedSplit text = some (piecesOf text (cut? 0 [] text)) :=
    @guardedCut_eq text [] text 0 [] rfl
  rw [hcut, splitParameters]
  cases cut? 0 [] text with
  | none => rfl
  | some pieces => rfl

/-- Below 2 ^ 31 parentheses the count has no need to wrap around, so the cuts
are the same where an overflow would be a fault. -/
theorem guardedSplit_eq_exactCut? (h : text.count '(' < 2 ^ 31) :
    guardedSplit text = some (piecesOf text (exactCut? 0 [] text)) := by
  have hopens : OpensAtMost (2 ^ 31 - 1) text := opensAtMost_of_count_le (by omega)
  rw [← cut?_eq_exactCut? hopens]
  exact @guardedCut_eq text [] text 0 [] rfl

end Split

section Parse

/-- A character starts at the byte behind those in front of it. -/
theorem charIndices_split {offset i : Nat} {c : Char} {text : List Char}
    {earlier later : List (Nat × Char)} (h : charIndices offset text = earlier ++ (i, c) :: later) :
    text = earlier.map Prod.snd ++ c :: later.map Prod.snd ∧
      i = offset + byteLength (earlier.map Prod.snd) := by
  have htext : text = earlier.map Prod.snd ++ c :: later.map Prod.snd := by
    have hmap := congrArg (List.map Prod.snd) h
    rw [map_snd_charIndices] at hmap
    simpa using hmap
  refine ⟨htext, ?_⟩
  have hlength : (charIndices offset (earlier.map Prod.snd)).length = earlier.length := by
    have hmap := congrArg List.length (map_snd_charIndices offset (earlier.map Prod.snd))
    rwa [List.length_map, List.length_map] at hmap
  rw [htext, charIndices_append] at h
  have hbehind := (List.append_inj h hlength).2
  exact (congrArg Prod.fst (List.cons.inj hbehind).1).symm

/-- The byte at which the first opening parenthesis starts. -/
def opening? (text : List Char) : Option Nat :=
  ((charIndices 0 text).find? fun entry => entry.2 = '(').map Prod.fst

theorem opening?_eq_none {text : List Char} (h : opening? text = none) : '(' ∉ text := by
  rw [opening?, Option.map_eq_none_iff, List.find?_eq_none] at h
  intro member
  rw [← map_snd_charIndices 0 text] at member
  obtain ⟨entry, hentry, hparen⟩ := List.mem_map.mp member
  exact h entry hentry (by simpa using hparen)

/-- The parenthesis stands behind a name, and both cuts next to it are between
characters. -/
theorem opening?_eq_some {text : List Char} {opening : Nat} (h : opening? text = some opening) :
    ∃ name afterOpen, text = name ++ '(' :: afterOpen ∧ '(' ∉ name ∧
      takeBytes? text opening = some name ∧ dropBytes? text (opening + 1) = some afterOpen := by
  obtain ⟨entry, hfind, rfl⟩ := Option.map_eq_some_iff.mp h
  obtain ⟨hparen, earlier, later, hsplit, hearlier⟩ := List.find?_eq_some_iff_append.mp hfind
  obtain ⟨i, c⟩ := entry
  obtain rfl : c = '(' := by simpa using hparen
  obtain ⟨htext, hi⟩ := charIndices_split hsplit
  rw [Nat.zero_add] at hi
  have hone : i + 1 = byteLength (earlier.map Prod.snd ++ ['(']) := by
    simp [hi, byteLength, Char.utf8Size]
  refine ⟨_, _, htext, ?_, ?_, ?_⟩
  · intro member
    obtain ⟨entry, hentry, hopen⟩ := List.mem_map.mp member
    have hother := hearlier entry hentry
    simp [hopen] at hother
  · rw [htext]
    exact hi ▸ takeBytes?_append _ _
  · have hdrop := dropBytes?_append (earlier.map Prod.snd ++ ['(']) (later.map Prod.snd)
    rwa [← hone, List.append_assoc, List.singleton_append, ← htext] at hdrop

section Cuts

variable {text afterOpen inner p : List Char} {parameters : List (List Char)} {opening : Nat}
  (hopening : opening? (trim text) = some opening)
  (hafter : dropBytes? (trim text) (opening + 1) = some afterOpen)

include hopening hafter

theorem exists_name :
    ∃ name, trim text = name ++ '(' :: afterOpen ∧ '(' ∉ name ∧
      takeBytes? (trim text) opening = some name := by
  obtain ⟨name, behind, htrim, hname, htake, hdrop⟩ := opening?_eq_some hopening
  obtain rfl : afterOpen = behind := Option.some.inj (hafter.symm.trans hdrop)
  exact ⟨name, htrim, hname, htake⟩

theorem parse_of_inside_eq_none (hinside : inside? afterOpen = none) :
    parse text = .error (.missingParen (String.ofList (trim text))) := by
  obtain ⟨name, htrim, hname, _⟩ := exists_name hopening hafter
  rw [parse_of_open hname htrim, hinside]

theorem parse_of_split {result : Except TypeError (List (List Char))} {name : List Char}
    (hinside : inside? afterOpen = some inner) (hsplit : guardedSplit inner = some result)
    (htake : takeBytes? (trim text) opening = some name) :
    parse text =
      result.bind (application (String.ofList (trim text)) (String.ofList name)) := by
  obtain ⟨name, htrim, hname, hbefore⟩ := exists_name hopening hafter
  cases htake.symm.trans hbefore
  rw [guardedSplit_eq, Option.some_inj] at hsplit
  rw [parse_of_open hname htrim, hinside, ← hsplit]

theorem length_parameter_lt (hinside : inside? afterOpen = some inner)
    (hsplit : guardedSplit inner = some (.ok parameters)) (hp : p ∈ parameters) :
    p.length < text.length := by
  obtain ⟨name, htrim, _, _⟩ := exists_name hopening hafter
  have houter := length_trim_le text
  have hinner := length_inside? hinside
  rw [guardedSplit_eq] at hsplit
  have hparameter := length_le_of_mem_splitParameters (Option.some.inj hsplit) hp
  rw [htrim, List.length_append, List.length_cons] at houter
  omega

end Cuts

set_option linter.unusedVariables false in
/-- Reads the text of a type. -/
def guardedParse (text : List Char) : Option (Except TypeError Ty) :=
  let trimmed := trim text
  match hopening : opening? trimmed with
  | none => some (named (String.ofList trimmed))
  | some opening =>
    match hafter : dropBytes? trimmed (opening + 1) with
    | none => none
    | some afterOpen =>
      match hinside : inside? afterOpen with
      | none => some (.error (.missingParen (String.ofList trimmed)))
      | some inner =>
        match hsplit : guardedSplit inner with
        | none => none
        | some (.error cause) => some (.error cause)
        | some (.ok parameters) =>
          match takeBytes? trimmed opening with
          | none => none
          | some name =>
            match unary? (String.ofList name), parameters with
            | some build, [one] => (guardedParse one).map (·.map build)
            | some _, _ => some (.error (.oneParameter (String.ofList trimmed)))
            | none, parameters =>
              if String.ofList name = "map" then
                match parameters with
                | [key, value] =>
                  (guardedParse key).bind fun
                    | .error cause => some (.error cause)
                    | .ok key => (guardedParse value).map (·.map (.map key))
                | _ => some (.error (.twoParameters (String.ofList trimmed)))
              else
                some (.error (.unknownConstructor (String.ofList name)))
termination_by text.length
decreasing_by
  all_goals exact length_parameter_lt hopening hafter hinside hsplit (by simp)

/-- However deep the parameters nest, each is read without a fault. -/
theorem guardedParse_eq (text : List Char) : guardedParse text = some (parse text) := by
  fun_induction guardedParse text with
  | case1 text trimmed hopening => rw [parse_of_name (opening?_eq_none hopening)]
  | case2 text trimmed opening hopening hfault =>
      obtain ⟨_, _, _, _, _, hafter⟩ := opening?_eq_some hopening
      cases hafter.symm.trans hfault
  | case3 text trimmed opening hopening afterOpen hafter hinside =>
      rw [parse_of_inside_eq_none hopening hafter hinside]
  | case4 text trimmed opening hopening afterOpen hafter inner hinside hfault =>
      rw [guardedSplit_eq] at hfault
      cases hfault
  | case5 text trimmed opening hopening afterOpen hafter inner hinside cause hsplit =>
      obtain ⟨name, _, _, htake⟩ := exists_name hopening hafter
      rw [parse_of_split hopening hafter hinside hsplit htake]
      rfl
  | case6 text trimmed opening hopening afterOpen hafter inner hinside parameters hsplit hfault =>
      obtain ⟨name, _, _, htake⟩ := exists_name hopening hafter
      cases htake.symm.trans hfault
  | case7 text trimmed opening hopening afterOpen hafter inner hinside name htake build one hsplit
      hunary _ ih =>
      rw [parse_of_split hopening hafter hinside hsplit htake, ih]
      simp only [Except.bind, application, hunary, Option.map_some]
  | case8 text trimmed opening hopening afterOpen hafter inner hinside parameters hsplit name htake
      build hunary _ hother =>
      rw [parse_of_split hopening hafter hinside hsplit htake]
      simp only [Except.bind, application, hunary]
      rcases parameters with _ | ⟨one, _ | ⟨two, more⟩⟩
      · rfl
      · exact (hother one hsplit rfl HEq.rfl).elim
      · rfl
  | case9 text trimmed opening hopening afterOpen hafter inner hinside name htake hunary hmap key
      value hsplit _ _ ihkey ihvalue =>
      rw [parse_of_split hopening hafter hinside hsplit htake, ihkey, ihvalue]
      simp only [Except.bind, application, hunary, if_pos hmap]
      cases parse key with
      | error cause => rfl
      | ok key =>
          cases parse value with
          | error cause => rfl
          | ok value => rfl
  | case10 text trimmed opening hopening afterOpen hafter inner hinside name htake parameters _
      hunary hmap _ hother hsplit =>
      rw [parse_of_split hopening hafter hinside hsplit htake]
      simp only [Except.bind, application, hunary, if_pos hmap]
      rcases parameters with _ | ⟨key, _ | ⟨value, _ | ⟨third, more⟩⟩⟩
      · rfl
      · rfl
      · exact (hother key value hsplit rfl HEq.rfl).elim
      · rfl
  | case11 text trimmed opening hopening afterOpen hafter inner hinside name htake parameters _
      hunary hmap hsplit =>
      rw [parse_of_split hopening hafter hinside hsplit htake]
      simp only [Except.bind, application, hunary, if_neg hmap]

end Parse

end CelWatch.TypeText
