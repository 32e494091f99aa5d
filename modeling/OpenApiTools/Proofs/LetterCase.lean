import Mathlib.Data.List.Forall2
import OpenApiTools.Text.Blank
import OpenApiTools.Text.Case

/-!
# The case of ASCII letters

Two texts are spelled alike when they have the same characters at the same places but for the case
of ASCII letters. This is what a comparison that ignores the case of ASCII letters decides, and it
leaves the length of a text and its blanks alone.
-/

namespace OpenApiTools.Text

/-- Two characters are the same, or the capital and the small form of one ASCII letter. -/
inductive SameLetter : Char → Char → Prop
  | same (c : Char) : SameLetter c c
  | small {capital small : Char} (isCapital : capital.isUpper = true)
    (apart : small.toNat = capital.toNat + 32) : SameLetter capital small
  | capital {small capital : Char} (isCapital : capital.isUpper = true)
    (apart : small.toNat = capital.toNat + 32) : SameLetter small capital

/-- Two texts differ at most in the case of ASCII letters. -/
def SpelledAlike (left right : String) : Prop :=
  List.Forall₂ SameLetter left.toList right.toList

/-- The bounds of the capital letters as codes. -/
theorem between_iff {c : Char} :
    c.val ≥ 'A'.val ∧ c.val ≤ 'Z'.val ↔ 65 ≤ c.toNat ∧ c.toNat ≤ 90 := by
  rw [ge_iff_le, UInt32.le_iff_toNat_le, UInt32.le_iff_toNat_le]
  rfl

/-- The capital letters by their codes. -/
theorem isUpper_iff {c : Char} : c.isUpper = true ↔ 65 ≤ c.toNat ∧ c.toNat ≤ 90 := by
  unfold Char.isUpper
  rw [decide_eq_true_iff]
  exact between_iff

/-- The code of a character's small form. -/
theorem toNat_toLower (c : Char) :
    c.toLower.toNat = if 65 ≤ c.toNat ∧ c.toNat ≤ 90 then c.toNat + 32 else c.toNat := by
  unfold Char.toLower
  split
  · rename_i isCapital
    have codes := between_iff.mp isCapital
    rw [if_pos codes]
    change (c.val + 32).toNat = c.toNat + 32
    rw [UInt32.toNat_add]
    exact Nat.mod_eq_of_lt (show c.toNat + 32 < 2 ^ 32 by omega)
  · rename_i notCapital
    rw [if_neg (mt between_iff.mpr notCapital)]

/-- Characters are the same letter if their small forms are the same. -/
theorem sameLetter_iff {left right : Char} :
    SameLetter left right ↔ left.toLower = right.toLower := by
  rw [← Char.toNat_inj, toNat_toLower, toNat_toLower]
  constructor
  · rintro (_ | ⟨isCapital, apart⟩ | ⟨isCapital, apart⟩)
    · rfl
    · have codes := isUpper_iff.mp isCapital
      rw [if_pos codes, if_neg (by omega), apart]
    · have codes := isUpper_iff.mp isCapital
      rw [if_pos codes, if_neg (by omega), apart]
  · intro same
    split at same <;> split at same
    · obtain rfl : left = right := Char.toNat_inj.mp (by omega)
      exact .same left
    · rename_i codes _
      exact .small (isUpper_iff.mpr codes) same.symm
    · rename_i _ codes
      exact .capital (isUpper_iff.mpr codes) same
    · obtain rfl : left = right := Char.toNat_inj.mp same
      exact .same left

/-- Texts are spelled alike if their small forms are the same. -/
theorem spelledAlike_iff {left right : String} :
    SpelledAlike left right ↔ left.toList.map Char.toLower = right.toList.map Char.toLower := by
  have letters : SameLetter = fun left right => left.toLower = right.toLower := by
    ext left right
    exact sameLetter_iff
  rw [← List.forall₂_eq_eq_eq, List.forall₂_map_left_iff, List.forall₂_map_right_iff, SpelledAlike,
    letters]

/-- The comparison that ignores the case of ASCII letters decides whether texts are spelled alike. -/
theorem sameIgnoringAsciiCase_iff {left right : String} :
    sameIgnoringAsciiCase left right = true ↔ SpelledAlike left right := by
  rw [sameIgnoringAsciiCase, beq_iff_eq, spelledAlike_iff]

namespace SpelledAlike

variable {left middle right : String}

theorem symm (alike : SpelledAlike left right) : SpelledAlike right left :=
  spelledAlike_iff.mpr (spelledAlike_iff.mp alike).symm

theorem trans (first : SpelledAlike left middle) (second : SpelledAlike middle right) :
    SpelledAlike left right :=
  spelledAlike_iff.mpr ((spelledAlike_iff.mp first).trans (spelledAlike_iff.mp second))

/-- Texts that are spelled alike have the same length. -/
theorem length_eq (alike : SpelledAlike left right) : left.length = right.length := by
  rw [← String.length_toList, ← String.length_toList]
  exact List.Forall₂.length_eq alike

/-- A character of one text stands for the same letter in the other. -/
theorem exists_sameLetter (alike : SpelledAlike left right) {c : Char} (isThere : c ∈ right.toList) :
    ∃ other ∈ left.toList, SameLetter other c := by
  obtain ⟨place, inside, rfl⟩ := List.mem_iff_getElem.mp isThere
  have insideLeft : place < left.toList.length := by
    rwa [List.Forall₂.length_eq alike]
  exact ⟨_, List.getElem_mem insideLeft, (List.forall₂_iff_get.mp alike).2 place insideLeft inside⟩

end SpelledAlike

/-- No character of ASCII above the space is white space. -/
theorem isBlankChar_eq_false {c : Char} (aboveSpace : 0x20 < c.toNat) (ascii : c.toNat < 0x80) :
    isBlankChar c = false := by
  have outside : ∀ range ∈ blankRanges.bounds, range.2 ≤ 0x20 ∨ 0x80 ≤ range.1 := by decide
  rw [isBlankChar, Ranges.has, List.any_eq_false]
  intro range isRange
  have isOutside := outside range isRange
  simp only [Bool.and_eq_true, decide_eq_true_eq]
  omega

/-- White space has no letter case. -/
theorem isBlankChar_eq_of_sameLetter {left right : Char} (alike : SameLetter left right) :
    isBlankChar left = isBlankChar right := by
  cases alike with
  | same => rfl
  | small isCapital apart =>
    have codes := isUpper_iff.mp isCapital
    rw [isBlankChar_eq_false (by omega) (by omega), isBlankChar_eq_false (by omega) (by omega)]
  | capital isCapital apart =>
    have codes := isUpper_iff.mp isCapital
    rw [isBlankChar_eq_false (by omega) (by omega), isBlankChar_eq_false (by omega) (by omega)]

end OpenApiTools.Text
