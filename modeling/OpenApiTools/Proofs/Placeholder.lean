import Mathlib.Data.List.TakeWhile
import OpenApiTools.BaseUrl
import OpenApiTools.Placeholder
import OpenApiTools.Proofs.Trimming

/-!
# Placeholders of joined texts

A placeholder lies between braces and holds word characters only. A character that is neither splits
a text into two parts that are scanned independently; a slash is such a character. So the address of
an operation has the placeholders of the base address and then those of the path, whatever slashes
the join removes.
-/

namespace OpenApiTools

namespace Placeholder

/-- Whether a character can be part of no placeholder, its braces included. -/
def separates (c : Char) : Bool :=
  !Text.isWord c && c != '\x7b' && c != '\x7d'

/-- Slashes separate. -/
theorem separates_slash : separates '/' = true := by decide

/-- What follows a separating character does not complete a placeholder that began before it. -/
theorem nameAfterBrace?_append {c : Char} (apart : separates c = true) (left right : List Char) :
    nameAfterBrace? (left ++ c :: right) = nameAfterBrace? left := by
  simp only [separates, Bool.and_eq_true, Bool.not_eq_true', bne_iff_ne] at apart
  obtain ⟨⟨notWord, -⟩, notBrace⟩ := apart
  unfold nameAfterBrace?
  rw [List.takeWhile_append, List.dropWhile_append]
  cases tail : left.dropWhile Text.isWord with
  | nil => simp [notWord, notBrace]
  | cons first rest =>
    -- The run of word characters ends before the separating one.
    have shorter : (left.takeWhile Text.isWord).length ≠ left.length := by
      intro whole
      have parts : left.takeWhile Text.isWord ++ first :: rest = left := by
        rw [← tail, List.takeWhile_append_dropWhile]
      have lengths := congrArg List.length parts
      rw [List.length_append, whole, List.length_cons] at lengths
      omega
    rw [if_neg shorter, if_neg (by simp)]
    by_cases closing : first = '\x7d'
    · subst closing
      rfl
    · simp [closing]

/-- The two sides of a separating character are scanned independently. -/
theorem ofChars_append_cons {c : Char} (apart : separates c = true) (left right : List Char) :
    ofChars (left ++ c :: right) = ofChars left ++ ofChars right := by
  induction left with
  | nil =>
    have notBrace : c ≠ '\x7b' := by
      rintro rfl
      revert apart
      decide
    rw [List.nil_append]
    exact if_neg notBrace
  | cons first rest inductionHypothesis =>
    rw [List.cons_append, ofChars, ofChars, nameAfterBrace?_append apart, inductionHypothesis]
    split
    · rw [List.append_assoc]
    · rfl

/-- A run of slashes at the end holds no placeholder and completes none. -/
theorem ofChars_append_slashes {run : List Char} (slashes : ∀ c ∈ run, c = '/')
    (chars : List Char) : ofChars (chars ++ run) = ofChars chars := by
  induction run generalizing chars with
  | nil => rw [List.append_nil]
  | cons c rest inductionHypothesis =>
    obtain rfl := slashes c List.mem_cons_self
    have others : ∀ c ∈ rest, c = '/' := fun c inRest => slashes c (List.mem_cons_of_mem _ inRest)
    rw [ofChars_append_cons separates_slash]
    have nothing : ofChars rest = [] := inductionHypothesis others []
    rw [nothing, List.append_nil]

/-- Slashes at the start do not matter to the placeholders. -/
theorem ofChars_dropWhile_slash (chars : List Char) :
    ofChars (chars.dropWhile (· == '/')) = ofChars chars := by
  induction chars with
  | nil => rfl
  | cons c rest inductionHypothesis =>
    by_cases slash : c = '/'
    · subst slash
      rw [List.dropWhile_cons_of_pos (by rfl), inductionHypothesis]
      exact (ofChars_append_cons separates_slash [] rest).symm
    · rw [List.dropWhile_cons_of_neg (by simpa using slash)]

/-- Removing the slashes at the end leaves the placeholders alone. -/
@[simp] theorem names_trimTrailingSlashes (address : String) :
    names (trimTrailingSlashes address) = names address := by
  obtain ⟨run, parts, dropped⟩ := Text.exists_run_of_dropTrailing (· == '/') address.toList
  have slashes : ∀ c ∈ run, c = '/' := fun c inRun => by simpa using dropped c inRun
  have unchanged := ofChars_append_slashes slashes (Text.dropTrailing (· == '/') address.toList)
  rw [← parts] at unchanged
  rw [names, names, trimTrailingSlashes, String.toList_ofList, unchanged]

/-- Removing the slashes at the start leaves the placeholders alone. -/
@[simp] theorem names_trimLeadingSlashes (path : String) :
    names (trimLeadingSlashes path) = names path := by
  rw [names, names, trimLeadingSlashes, String.toList_ofList, ofChars_dropWhile_slash]

/-- A text that a slash splits has the placeholders of both parts in order. -/
theorem names_append_slash_append (left right : String) :
    names (left ++ "/" ++ right) = names left ++ names right := by
  have chars : (left ++ "/" ++ right).toList = left.toList ++ '/' :: right.toList := by
    rw [String.toList_append, String.toList_append, List.append_assoc]
    rfl
  rw [names, chars, ofChars_append_cons separates_slash, List.map_append]
  rfl

/-- The address of a path has the placeholders of the base address, and then those of the path. -/
theorem names_joinUrl (baseUrl path : String) :
    names (joinUrl baseUrl path) = names baseUrl ++ names path := by
  rw [joinUrl, names_append_slash_append, names_trimTrailingSlashes, names_trimLeadingSlashes]

end Placeholder

end OpenApiTools
