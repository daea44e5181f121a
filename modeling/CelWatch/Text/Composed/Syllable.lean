/-!
Syllables of Hangul. They are numbered by their consonants and vowels: the
first consonant counts most and the last one, which may be missing, least.
-/

namespace CelWatch.Text.Syllable

def base : Nat := 0xAC00

def leadBase : Nat := 0x1100

def vowelBase : Nat := 0x1161

/-- One below the first consonant that may end a syllable. -/
def tailBase : Nat := 0x11A7

def vowelCount : Nat := 21

def tailCount : Nat := 28

def leadCount : Nat := 19

/-- The consonants and vowels of a syllable. -/
def parts? (c : Char) : Option (List Char) :=
  let index := c.toNat - base
  if c.toNat < base || index ≥ leadCount * vowelCount * tailCount then none
  else
    let lead := Char.ofNat (leadBase + index / (vowelCount * tailCount))
    let vowel := Char.ofNat (vowelBase + index % (vowelCount * tailCount) / tailCount)
    let tail := index % tailCount
    some ([lead, vowel] ++ if tail = 0 then [] else [Char.ofNat (tailBase + tail)])

/-- The syllable that a character completes. -/
def join? (c d : Char) : Option Char :=
  let lead := c.toNat - leadBase
  let vowel := d.toNat - vowelBase
  let uncovered := c.toNat - base
  let tail := d.toNat - tailBase
  if leadBase ≤ c.toNat && lead < leadCount && vowelBase ≤ d.toNat && vowel < vowelCount then
    some (Char.ofNat (base + (lead * vowelCount + vowel) * tailCount))
  else if base ≤ c.toNat && uncovered < leadCount * vowelCount * tailCount && uncovered % tailCount = 0 &&
      tailBase < d.toNat && tail < tailCount then
    some (Char.ofNat (c.toNat + tail))
  else none

end CelWatch.Text.Syllable
