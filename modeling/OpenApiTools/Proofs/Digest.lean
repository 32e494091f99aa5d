import Mathlib.Data.List.Forall2
import OpenApiTools.Digest.Basic
import OpenApiTools.Proofs.LetterCase

/-!
# Digests and their check

A digest is the name of the algorithm and two small hexadecimal digits for each of the thirty-two
bytes of a hash. Nothing is used of the hash function but that it gives so many bytes. An expected
digest is accepted under the strict policy exactly if it is spelled like the actual one, so that it
can neither be cut, nor padded, nor stand for two hashes.
-/

namespace OpenApiTools.Digest

/-- A hexadecimal digit in its small form. -/
def IsSmallDigit (c : Char) : Prop :=
  '0' ≤ c ∧ c ≤ '9' ∨ 'a' ≤ c ∧ c ≤ 'f'

/-- A digest as it is written: sixty-four small hexadecimal digits behind the name of the
algorithm. -/
def IsDigest (text : String) : Prop :=
  ∃ digits : List Char, text = "sha256:" ++ String.ofList digits ∧ digits.length = 64 ∧
    ∀ digit ∈ digits, IsSmallDigit digit

/-- Texts that are no digest in whatever case they are spelled. -/
inductive Malformed (text : String) : Prop
  | length (otherLength : text.length ≠ 71)
  | blank {c : Char} (isThere : c ∈ text.toList) (isBlank : Text.isBlankChar c = true)
  | unnamed (noName : ∀ name digits, text = name ++ digits → ¬ Text.SpelledAlike "sha256:" name)

/-- The digest of a text with this hash. -/
def ofHash (hash : Vector UInt8 32) : String :=
  algorithm ++ String.ofList (hash.toList.flatMap hexByte)

section Digits

/-- Each half of a byte has a small digit. -/
theorem isSmallDigit_digitChar {half : Nat} (small : half < 16) :
    IsSmallDigit (Nat.digitChar half) := by
  have all : ∀ half < 16, IsSmallDigit (Nat.digitChar half) := by
    unfold IsSmallDigit
    decide
  exact all half small

/-- Different halves have different digits. -/
theorem digitChar_injective {first second : Nat} (isFirst : first < 16) (isSecond : second < 16)
    (same : Nat.digitChar first = Nat.digitChar second) : first = second := by
  have all : ∀ first < 16, ∀ second < 16,
      Nat.digitChar first = Nat.digitChar second → first = second := by
    decide
  exact all first isFirst second isSecond same

/-- Bytes with the same digits are the same. -/
theorem hexByte_injective : Function.Injective hexByte := by
  intro first second same
  have firstSize := first.toNat_lt_size
  have secondSize := second.toNat_lt_size
  simp only [UInt8.size] at firstSize secondSize
  obtain ⟨high, low⟩ : Nat.digitChar (first.toNat / 16) = Nat.digitChar (second.toNat / 16) ∧
      Nat.digitChar (first.toNat % 16) = Nat.digitChar (second.toNat % 16) := by
    simpa [hexByte] using same
  have sameHigh := digitChar_injective (by omega) (by omega) high
  have sameLow := digitChar_injective (by omega) (by omega) low
  apply UInt8.toNat_inj.mp
  omega

variable (bytes : List UInt8)

/-- Bytes have two digits each. -/
theorem length_flatMap_hexByte : (bytes.flatMap hexByte).length = 2 * bytes.length := by
  induction bytes with
  | nil => rfl
  | cons byte rest inductionHypothesis =>
    rw [List.flatMap_cons, List.length_append, inductionHypothesis, List.length_cons, hexByte]
    simp
    omega

/-- All digits of bytes are small. -/
theorem isSmallDigit_of_mem_flatMap_hexByte {digit : Char}
    (isThere : digit ∈ bytes.flatMap hexByte) : IsSmallDigit digit := by
  obtain ⟨byte, -, isDigit⟩ := List.mem_flatMap.mp isThere
  have size := byte.toNat_lt_size
  simp only [UInt8.size] at size
  simp only [hexByte, List.mem_cons, List.not_mem_nil, or_false] at isDigit
  rcases isDigit with rfl | rfl
  · exact isSmallDigit_digitChar (by omega)
  · exact isSmallDigit_digitChar (by omega)

/-- Bytes can be told from their digits. -/
theorem flatMap_hexByte_injective : Function.Injective (List.flatMap hexByte) := by
  intro first second same
  induction first generalizing second with
  | nil =>
    cases second with
    | nil => rfl
    | cons byte rest => simp [hexByte] at same
  | cons byte rest inductionHypothesis =>
    cases second with
    | nil => simp [hexByte] at same
    | cons other others =>
      rw [List.flatMap_cons, List.flatMap_cons] at same
      obtain ⟨sameByte, sameRest⟩ := List.append_inj same rfl
      rw [hexByte_injective sameByte, inductionHypothesis sameRest]

end Digits

/-- Every hash has a digest. -/
theorem isDigest_ofHash (hash : Vector UInt8 32) : IsDigest (ofHash hash) := by
  refine ⟨hash.toList.flatMap hexByte, rfl, ?_, ?_⟩
  · rw [length_flatMap_hexByte, Vector.length_toList]
  · exact fun digit => isSmallDigit_of_mem_flatMap_hexByte hash.toList

/-- The digest of a text is that of its hash. -/
theorem isDigest_ofText (content : String) : IsDigest (ofText content) :=
  isDigest_ofHash (Sha256.hash (bytes content))

/-- Different hashes have different digests. -/
theorem ofHash_injective : Function.Injective ofHash := by
  intro first second same
  have digits := congrArg String.toList same
  rw [ofHash, ofHash, String.toList_append, String.toList_append, List.append_cancel_left_eq,
    String.toList_ofList, String.toList_ofList] at digits
  exact Vector.toList_inj.mp (flatMap_hexByte_injective digits)

namespace IsDigest

variable {digest text : String}

/-- The characters of a digest are small letters, decimal digits and the colon. -/
theorem codes_of_mem (isDigest : IsDigest digest) {c : Char} (isThere : c ∈ digest.toList) :
    48 ≤ c.toNat ∧ c.toNat ≤ 58 ∨ 97 ≤ c.toNat ∧ c.toNat ≤ 122 := by
  obtain ⟨digits, rfl, -, areDigits⟩ := isDigest
  rw [String.toList_append, List.mem_append] at isThere
  rcases isThere with isName | isDigit
  · have all : ∀ c ∈ "sha256:".toList,
        48 ≤ c.toNat ∧ c.toNat ≤ 58 ∨ 97 ≤ c.toNat ∧ c.toNat ≤ 122 := by
      simp
    exact all c isName
  · rw [String.toList_ofList] at isDigit
    rcases areDigits c isDigit with ⟨low, high⟩ | ⟨low, high⟩
    · rw [Char.le_def, UInt32.le_iff_toNat_le] at low high
      exact .inl ⟨low, Nat.le_succ_of_le high⟩
    · rw [Char.le_def, UInt32.le_iff_toNat_le] at low high
      exact .inr ⟨low, Nat.le_trans high (by decide)⟩

/-- A digest is its own small form. -/
theorem map_toLower (isDigest : IsDigest digest) :
    digest.toList.map Char.toLower = digest.toList := by
  have small : ∀ c ∈ digest.toList, c.toLower = c := by
    intro c isThere
    have codes := isDigest.codes_of_mem isThere
    rw [← Char.toNat_inj, Text.toNat_toLower, if_neg (by omega)]
  rw [List.map_congr_left small, List.map_id']

/-- Digests that are spelled alike are the same. -/
theorem eq_of_spelledAlike {other : String} (isDigest : IsDigest digest) (isOther : IsDigest other)
    (alike : Text.SpelledAlike digest other) : digest = other := by
  rw [Text.spelledAlike_iff, isDigest.map_toLower, isOther.map_toLower] at alike
  exact String.toList_inj.mp alike

/-- What is spelled like a digest is well-formed. -/
theorem not_malformed (isDigest : IsDigest digest) (alike : Text.SpelledAlike digest text) :
    ¬ Malformed text := by
  intro malformed
  cases malformed with
  | length otherLength =>
    obtain ⟨digits, rfl, isLength, -⟩ := isDigest
    have digitsLength : (String.ofList digits).length = 64 := by
      rw [String.length_ofList, isLength]
    rw [← alike.length_eq, String.length_append, digitsLength] at otherLength
    exact otherLength rfl
  | blank isThere isBlank =>
    obtain ⟨c, isOriginal, sameLetter⟩ := alike.exists_sameLetter isThere
    have codes := isDigest.codes_of_mem isOriginal
    have notBlank : Text.isBlankChar c = false :=
      Text.isBlankChar_eq_false (by omega) (by omega)
    rw [← Text.isBlankChar_eq_of_sameLetter sameLetter, notBlank] at isBlank
    contradiction
  | unnamed noName =>
    obtain ⟨digits, rfl, -, -⟩ := isDigest
    have name : ("sha256:" ++ String.ofList digits).toList.take 7 = "sha256:".toList := by
      rw [String.toList_append]
      exact List.take_left' rfl
    refine noName (String.ofList (text.toList.take 7)) (String.ofList (text.toList.drop 7)) ?_ ?_
    · rw [← String.ofList_append, List.take_append_drop, String.ofList_toList]
    · have start := List.forall₂_take 7 alike
      rw [name, ← String.toList_ofList (l := text.toList.take 7)] at start
      exact start

end IsDigest

variable {content expected : String}

/-- The check fails exactly under the strict policy and if the expected digest is spelled
otherwise. -/
theorem verify_eq_error_iff {policy : DigestPolicy} {mismatch : DigestMismatch} :
    verify content expected policy = .error mismatch ↔
      policy = .fail ∧ ¬ Text.SpelledAlike (ofText content) expected ∧
        mismatch = ⟨expected, ofText content⟩ := by
  rw [← Text.sameIgnoringAsciiCase_iff, Bool.not_eq_true, verify]
  split
  · rename_i fails
    rw [Except.error.injEq, eq_comm, and_iff_right fails.1, and_iff_right fails.2]
  · rename_i passes
    constructor
    · intro impossible
      contradiction
    · rintro ⟨strict, different, -⟩
      exact absurd ⟨strict, different⟩ passes

/-- Under the strict policy the digests are accepted that are spelled like the actual one. -/
theorem verify_fail_eq_ok_iff :
    verify content expected .fail = .ok () ↔ Text.SpelledAlike (ofText content) expected := by
  rw [← Text.sameIgnoringAsciiCase_iff, verify]
  cases Text.sameIgnoringAsciiCase (ofText content) expected <;> simp

/-- The digest of a text has sixty-four small hexadecimal digits, and the check of an expected one
fails exactly under the strict policy and if that one differs in more than the case of letters. So
nothing malformed is accepted, what is accepted for one text is the same up to case, and what is
accepted for two texts shows that they have the same hash. -/
theorem verify_up_to_case (content : String) :
    IsDigest (ofText content) ∧
      (∀ expected policy mismatch, verify content expected policy = .error mismatch ↔
        policy = .fail ∧ ¬ Text.SpelledAlike (ofText content) expected ∧
          mismatch = ⟨expected, ofText content⟩) ∧
      (∀ expected, verify content expected .fail = .ok () ↔
        Text.SpelledAlike (ofText content) expected) ∧
      (∀ expected, Malformed expected →
        verify content expected .fail = .error ⟨expected, ofText content⟩) ∧
      (∀ expected other, verify content expected .fail = .ok () →
        verify content other .fail = .ok () → Text.SpelledAlike expected other) ∧
      ∀ expected another, verify content expected .fail = .ok () →
        verify another expected .fail = .ok () →
          ofText content = ofText another ∧
            Sha256.hash (bytes content) = Sha256.hash (bytes another) := by
  have isDigest := isDigest_ofText content
  refine ⟨isDigest, fun _ _ _ => verify_eq_error_iff, fun _ => verify_fail_eq_ok_iff, ?_, ?_, ?_⟩
  · intro expected malformed
    rw [verify_eq_error_iff]
    exact ⟨rfl, fun alike => isDigest.not_malformed alike malformed, rfl⟩
  · intro expected other accepted alsoAccepted
    rw [verify_fail_eq_ok_iff] at accepted alsoAccepted
    exact accepted.symm.trans alsoAccepted
  · intro expected another accepted alsoAccepted
    rw [verify_fail_eq_ok_iff] at accepted alsoAccepted
    have same : ofText content = ofText another :=
      isDigest.eq_of_spelledAlike (isDigest_ofText another) (accepted.trans alsoAccepted.symm)
    exact ⟨same, ofHash_injective same⟩

/-- The digest of the empty text is accepted in capitals, its name included; it is refused with a
blank behind it and without its name. -/
theorem verify_up_to_case_empty :
    let digits := "e3b0c44298fc1c149afbf4c8996fb92427ae41e4649b934ca495991b7852b855"
    let capitals := "SHA256:E3B0C44298FC1C149AFBF4C8996FB92427AE41E4649B934CA495991B7852B855"
    ofText "" = "sha256:" ++ digits ∧ verify "" capitals .fail = .ok () ∧
      verify "" ("sha256:" ++ digits ++ " ") .fail =
        .error ⟨"sha256:" ++ digits ++ " ", ofText ""⟩ ∧
      verify "" digits .fail = .error ⟨digits, ofText ""⟩ ∧ verify "" digits .warn = .ok () ∧
      ∀ another, verify another capitals .fail = .ok () → ofText another = ofText "" := by
  intro digits capitals
  obtain ⟨-, -, accepts, refuses, -, decides⟩ := verify_up_to_case ""
  have accepted : verify "" capitals .fail = .ok () := by
    rw [accepts, ← Text.sameIgnoringAsciiCase_iff]
    decide +kernel
  refine ⟨by decide +kernel, accepted, refuses _ (.length ?_), refuses _ (.length ?_), rfl, ?_⟩
  · decide
  · decide
  · intro another alsoAccepted
    exact (decides capitals another accepted alsoAccepted).1.symm

end OpenApiTools.Digest
