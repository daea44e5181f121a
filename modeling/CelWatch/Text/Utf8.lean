import CelWatch.Text.Slice

/-!
Bytes read as UTF-8. Bytes that are no part of a character are kept apart in
chunks: a chunk is the longest beginning of a character that breaks off.
-/

namespace CelWatch.Text

/-- One piece of a byte string: a character, or bytes that form none. -/
inductive Chunk where
  | char (c : Char)
  | broken (bytes : List UInt8)
deriving DecidableEq, Repr

def isContinuation (b : UInt8) : Bool :=
  0x80 ≤ b && b ≤ 0xBF

/-- The bytes that may follow a first byte of a longer character. -/
def isSecond (first second : UInt8) : Bool :=
  if first = 0xE0 then 0xA0 ≤ second && second ≤ 0xBF
  else if first = 0xED then 0x80 ≤ second && second ≤ 0x9F
  else if first = 0xF0 then 0x90 ≤ second && second ≤ 0xBF
  else if first = 0xF4 then 0x80 ≤ second && second ≤ 0x8F
  else isContinuation second

/-- Number of bytes of the character that starts with a byte; zero for a byte
that starts none. -/
def lengthFrom (first : UInt8) : Nat :=
  if first < 0x80 then 1
  else if 0xC2 ≤ first && first ≤ 0xDF then 2
  else if 0xE0 ≤ first && first ≤ 0xEF then 3
  else if 0xF0 ≤ first && first ≤ 0xF4 then 4
  else 0

/-- The six low bits of a continuation byte added to what was read before. -/
def extend (value : Nat) (b : UInt8) : Nat :=
  value * 64 + b.toNat % 64

/-- The chunk that starts with a byte, and how many more bytes it takes. -/
def firstChunk (b : UInt8) (rest : List UInt8) : Chunk × Nat :=
  match lengthFrom b, rest with
  | 1, _ => (.char (Char.ofNat b.toNat), 0)
  | 2, c :: _ =>
    if isSecond b c then (.char (Char.ofNat (extend (b.toNat % 32) c)), 1) else (.broken [b], 0)
  | 3, c :: rest =>
    if !isSecond b c then (.broken [b], 0)
    else match rest with
      | d :: _ =>
        if !isContinuation d then (.broken [b, c], 1)
        else (.char (Char.ofNat (extend (extend (b.toNat % 16) c) d)), 2)
      | [] => (.broken [b, c], 1)
  | 4, c :: rest =>
    if !isSecond b c then (.broken [b], 0)
    else match rest with
      | d :: rest =>
        if !isContinuation d then (.broken [b, c], 1)
        else match rest with
          | e :: _ =>
            if !isContinuation e then (.broken [b, c, d], 2)
            else (.char (Char.ofNat (extend (extend (extend (b.toNat % 8) c) d) e)), 3)
          | [] => (.broken [b, c, d], 2)
      | [] => (.broken [b, c], 1)
  | _, _ => (.broken [b], 0)

/-- The chunks of a byte string. -/
def chunks : List UInt8 → List Chunk
  | [] => []
  | b :: rest => (firstChunk b rest).1 :: chunks (rest.drop (firstChunk b rest).2)
termination_by bytes => bytes.length
decreasing_by
  simp only [List.length_drop, List.length_cons]
  omega

/-- The text of a byte string, with U+FFFD for each broken chunk. -/
def decodeLossy (bytes : List UInt8) : List Char :=
  (chunks bytes).map fun
    | .char c => c
    | .broken _ => '\uFFFD'

/-- The character of a chunk that is one. -/
def Chunk.char? : Chunk → Option Char
  | .char c => some c
  | .broken _ => none

/-- The text of a byte string; `none` when some bytes form no character. -/
def decode? (bytes : List UInt8) : Option String :=
  ((chunks bytes).mapM Chunk.char?).map String.ofList

/-- The bytes of a text. -/
def encode (text : List Char) : List UInt8 :=
  (String.ofList text).toByteArray.toList

/-- The loop that lists bytes puts those that are left behind those it has. -/
theorem loop_eq_append {bytes : ByteArray} {i left : Nat} (hleft : i + left = bytes.size)
    (done : List UInt8) :
    ByteArray.toList.loop bytes i done = done.reverse ++ bytes.data.toList.drop i := by
  induction left generalizing i done with
  | zero =>
      have hend : ¬ i < bytes.size := by omega
      rw [ByteArray.toList.loop, if_neg hend, List.drop_eq_nil_of_le (Nat.le_of_not_lt hend),
        List.append_nil]
  | succ left ih =>
      have hmore : i < bytes.size := by omega
      have hnext : bytes.data.toList.drop i = bytes.get! i :: bytes.data.toList.drop (i + 1) := by
        rw [List.drop_eq_getElem_cons hmore]
        simp [ByteArray.get!, hmore]
      rw [ByteArray.toList.loop, if_pos hmore, ih (by omega), hnext]
      simp

theorem encode_eq_flatMap (text : List Char) :
    encode text = text.flatMap String.utf8EncodeChar := by
  have hdata : ∀ bytes : ByteArray, bytes.toList = bytes.data.toList :=
    fun bytes => loop_eq_append (Nat.zero_add bytes.size) []
  rw [encode, String.toByteArray_ofList, hdata, List.utf8Encode, List.toList_data_toByteArray]

@[simp] theorem encode_nil : encode [] = [] := by
  simp [encode_eq_flatMap]

theorem encode_cons (c : Char) (rest : List Char) :
    encode (c :: rest) = String.utf8EncodeChar c ++ encode rest := by
  simp [encode_eq_flatMap]

theorem encode_append (first second : List Char) :
    encode (first ++ second) = encode first ++ encode second := by
  simp [encode_eq_flatMap]

@[simp] theorem length_encode (text : List Char) : (encode text).length = byteLength text := by
  induction text with
  | nil => simp [byteLength]
  | cons c rest ih => simp [encode_cons, byteLength, ih]

/-- The bytes of a character are its number, or are all past the ASCII bytes. -/
theorem utf8EncodeChar_cases (c : Char) :
    (c.toNat < 0x80 ∧ String.utf8EncodeChar c = [c.val.toUInt8]) ∨
      ∀ b ∈ String.utf8EncodeChar c, 0x80 ≤ b := by
  have hor : ∀ x y : UInt8, 0x80 ≤ y → 0x80 ≤ x ||| y := by
    intro x y hy
    rw [UInt8.le_iff_toNat_le] at hy ⊢
    rw [UInt8.toNat_or]
    exact Nat.le_trans hy Nat.right_le_or
  rcases c.utf8Size_eq with hsize | hsize | hsize | hsize
  · refine .inl ⟨?_, String.utf8EncodeChar_eq_singleton hsize⟩
    have hval := UInt32.le_iff_toNat_le.mp (Char.utf8Size_eq_one_iff.mp hsize)
    exact Nat.lt_succ_of_le hval
  · rw [String.utf8EncodeChar_eq_cons_cons hsize]
    refine .inr ?_
    simp [hor]
  · rw [String.utf8EncodeChar_eq_cons_cons_cons hsize]
    refine .inr ?_
    simp [hor]
  · rw [String.utf8EncodeChar_eq_cons_cons_cons_cons hsize]
    refine .inr ?_
    simp [hor]

/-- A byte that is a number of its own stands for its character. -/
theorem eq_of_mem_utf8EncodeChar {c : Char} {b : UInt8} (hb : b ∈ String.utf8EncodeChar c)
    (hascii : b < 0x80) : c = Char.ofNat b.toNat ∧ String.utf8EncodeChar c = [b] := by
  rcases utf8EncodeChar_cases c with ⟨hc, hbytes⟩ | hhigh
  · rw [hbytes] at hb ⊢
    obtain rfl := List.mem_singleton.mp hb
    refine ⟨?_, rfl⟩
    have hnumber : c.val.toUInt8.toNat = c.toNat := by
      rw [UInt32.toNat_toUInt8, Char.toNat_val]
      omega
    rw [hnumber, Char.ofNat_toNat]
  · exact absurd (hhigh b hb) (UInt8.not_le.mpr hascii)

/-- Where an ASCII byte stands in a text, its character does. -/
theorem exists_split_of_ascii {text : List Char} {i : Nat} {b : UInt8}
    (hb : (encode text)[i]? = some b) (hascii : b < 0x80) :
    ∃ before rest, text = before ++ Char.ofNat b.toNat :: rest ∧ byteLength before = i := by
  induction text generalizing i with
  | nil => simp at hb
  | cons c rest ih =>
      rw [encode_cons] at hb
      by_cases hi : i < (String.utf8EncodeChar c).length
      · rw [List.getElem?_append_left hi] at hb
        obtain ⟨hc, hbytes⟩ := eq_of_mem_utf8EncodeChar (List.mem_of_getElem? hb) hascii
        have hzero : i = 0 := by
          simp [hbytes] at hi
          exact hi
        exact ⟨[], rest, by simp [← hc], by simp [hzero, byteLength]⟩
      · rw [List.getElem?_append_right (Nat.le_of_not_lt hi)] at hb
        obtain ⟨before, after, hrest, hlength⟩ := ih hb
        refine ⟨c :: before, after, by simp [hrest], ?_⟩
        rw [String.length_utf8EncodeChar] at hi hlength
        simp only [byteLength]
        omega

end CelWatch.Text
