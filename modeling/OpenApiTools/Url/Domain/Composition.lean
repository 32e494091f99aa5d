import OpenApiTools.Url.Domain.CompositeTable
import OpenApiTools.Url.Domain.Mark

/-!
# Composed form

One text may be written with composed characters or with bases and marks, and with marks in
different orders. In the composed form, marks are in the order of their classes and characters are
composed wherever they can be, so that texts that mean the same are the same.
-/

namespace OpenApiTools.Url.Domain

/-- A character that stands for two. -/
structure Composite where
  char : Char
  base : Char
  mark : Char

/-- The characters that stand for two, Hangul excepted. -/
def composites : List Composite :=
  let ofRow (row : Nat × String × String) : List Composite :=
    (row.2.1.toList.zip row.2.2.toList).map fun (base, char) => ⟨char, base, Char.ofNat row.1⟩
  compositeRows.flatMap ofRow ++
    compositeSigns.map fun (char, base, mark) =>
      ⟨Char.ofNat char, Char.ofNat base, Char.ofNat mark⟩

namespace Hangul

/-- The first syllable: the first leading consonant with the first vowel. -/
def firstSyllable : Nat := 0xAC00

/-- The first consonant at the start of a syllable, of nineteen. -/
def firstLead : Nat := 0x1100

/-- The first vowel, of twenty-one. -/
def firstVowel : Nat := 0x1161

/-- What stands before the first consonant at the end of a syllable, of twenty-seven. -/
def noTail : Nat := 0x11A7

/-- Whether a character is a syllable. -/
def isSyllable (c : Char) : Bool :=
  firstSyllable ≤ c.toNat && c.toNat < firstSyllable + 19 * 21 * 28

/-- The two parts of a syllable: its last consonant and what comes before it, or its vowel and the
consonant before it. -/
def parts? (c : Char) : Option (Char × Char) :=
  if isSyllable c then
    let index := c.toNat - firstSyllable
    let tail := index % 28
    if tail = 0 then
      some (Char.ofNat (firstLead + index / 588), Char.ofNat (firstVowel + index / 28 % 21))
    else
      some (Char.ofNat (c.toNat - tail), Char.ofNat (noTail + tail))
  else
    none

/-- The syllable that two parts form. -/
def joined? (base mark : Char) : Option Char :=
  let lead := base.toNat - firstLead
  let vowel := mark.toNat - firstVowel
  let tail := mark.toNat - noTail
  if firstLead ≤ base.toNat && lead < 19 && firstVowel ≤ mark.toNat && vowel < 21 then
    some (Char.ofNat (firstSyllable + (lead * 21 + vowel) * 28))
  else if isSyllable base && (base.toNat - firstSyllable) % 28 = 0 && 0 < tail && tail < 28 then
    some (Char.ofNat (base.toNat + tail))
  else
    none

end Hangul

/-- The two parts of a composed character. -/
def parts? (c : Char) : Option (Char × Char) :=
  ((composites.find? (·.char == c)).map fun found => (found.base, found.mark)).or (Hangul.parts? c)

/-- The character that two parts form. -/
def joined? (base mark : Char) : Option Char :=
  ((composites.find? fun found => found.base == base && found.mark == mark).map
    Composite.char).or (Hangul.joined? base mark)

/-- The base and the marks of a character that has at most so many marks. -/
def decompose : Nat → Char → List Char
  | 0, c => [c]
  | marks + 1, c =>
    match parts? c with
    | some (base, mark) => decompose marks base ++ [mark]
    | none => [c]

/-- How many marks a composed character has at most. -/
def mostMarks : Nat := 2

/-- Adds a character to a text in reverse. A mark goes before those of a higher class. -/
def addOrdered (done : List Char) (c : Char) : List Char :=
  match done with
  | [] => [c]
  | last :: earlier =>
    if combiningClass c ≠ 0 && combiningClass c < combiningClass last then
      last :: addOrdered earlier c
    else
      c :: last :: earlier

/-- Composes a character with the marks behind it, as far as it reaches them: a mark is out of reach
behind one of its own or a higher class. The marks that it has not been composed with are in
reverse. -/
def composeFrom (base : Char) (skipped : List Char) : List Char → List Char
  | [] => base :: skipped.reverse
  | c :: rest =>
    let isInReach := skipped.head?.all fun last => combiningClass last < combiningClass c
    match if isInReach then joined? base c else none with
    | some char => composeFrom char skipped rest
    | none =>
      if combiningClass c = 0 then base :: skipped.reverse ++ composeFrom c [] rest
      else composeFrom base (c :: skipped) rest

/-- The composed form of a text. -/
def compose (chars : List Char) : List Char :=
  match ((chars.flatMap (decompose mostMarks)).foldl addOrdered []).reverse with
  | [] => []
  | base :: rest => composeFrom base [] rest

end OpenApiTools.Url.Domain
