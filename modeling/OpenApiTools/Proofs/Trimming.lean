import Mathlib.Data.List.TakeWhile
import OpenApiTools.Text.Blank

/-!
# Trimmed lists of characters

What is dropped at the end of a list is a run of characters that satisfy the test, and what is left
does not end with one. Trimming at the start and at the end may be done in either order.
-/

namespace OpenApiTools.Text

variable (drops : Char → Bool)

@[simp] theorem dropTrailing_nil : dropTrailing drops [] = [] := rfl

/-- The first character is dropped if all others are and it satisfies the test itself. -/
theorem dropTrailing_cons (c : Char) (rest : List Char) :
    dropTrailing drops (c :: rest) =
      if dropTrailing drops rest = [] ∧ drops c = true then []
      else c :: dropTrailing drops rest := by
  have nothing : (rest.reverse.dropWhile drops).isEmpty = true ↔ dropTrailing drops rest = [] := by
    rw [List.isEmpty_iff, dropTrailing, List.reverse_eq_nil_iff]
  rw [dropTrailing, List.reverse_cons, List.dropWhile_append]
  by_cases emptied : dropTrailing drops rest = []
  · rw [if_pos (nothing.mpr emptied), emptied]
    by_cases dropped : drops c = true <;> simp [dropped]
  · rw [if_neg (mt nothing.mp emptied), if_neg (fun both => emptied both.1), List.reverse_append]
    rfl

/-- What is dropped at the end is a run of characters that satisfy the test. -/
theorem exists_run_of_dropTrailing (chars : List Char) :
    ∃ run, chars = dropTrailing drops chars ++ run ∧ ∀ c ∈ run, drops c = true := by
  refine ⟨(chars.reverse.takeWhile drops).reverse, ?_, ?_⟩
  · rw [dropTrailing, ← List.reverse_append, List.takeWhile_append_dropWhile, List.reverse_reverse]
  · intro c inRun
    exact List.mem_takeWhile_imp (List.mem_reverse.mp inRun)

/-- What is left does not end with a character that satisfies the test. -/
theorem not_of_mem_getLast?_dropTrailing {c : Char} {chars : List Char}
    (last : c ∈ (dropTrailing drops chars).getLast?) : ¬ drops c = true := by
  rw [dropTrailing, List.getLast?_reverse] at last
  have first := List.head?_dropWhile_not drops chars.reverse
  rw [Option.mem_def.mp last] at first
  simpa using first

variable {drops} in
/-- A further run at the end is dropped as well. -/
theorem dropTrailing_append {run : List Char} (dropped : ∀ c ∈ run, drops c = true)
    (chars : List Char) : dropTrailing drops (chars ++ run) = dropTrailing drops chars := by
  have whole : run.reverse.dropWhile drops = [] :=
    List.dropWhile_eq_nil_iff.mpr fun c inRun => dropped c (List.mem_reverse.mp inRun)
  rw [dropTrailing, List.reverse_append, List.dropWhile_append, whole]
  rfl

/-- What has been trimmed at the end stays as it is. -/
theorem dropTrailing_dropTrailing (chars : List Char) :
    dropTrailing drops (dropTrailing drops chars) = dropTrailing drops chars := by
  obtain ⟨run, parts, dropped⟩ := exists_run_of_dropTrailing drops chars
  have trimmed := dropTrailing_append dropped (dropTrailing drops chars)
  rw [← parts] at trimmed
  exact trimmed.symm

/-- The two ends may be trimmed in either order. -/
theorem dropTrailing_dropWhile (chars : List Char) :
    dropTrailing drops (chars.dropWhile drops) = (dropTrailing drops chars).dropWhile drops := by
  induction chars with
  | nil => rfl
  | cons c rest inductionHypothesis =>
    rw [dropTrailing_cons]
    by_cases dropped : drops c = true
    · rw [List.dropWhile_cons_of_pos dropped, inductionHypothesis]
      by_cases emptied : dropTrailing drops rest = []
      · simp [emptied, dropped]
      · rw [if_neg (fun both => emptied both.1), List.dropWhile_cons_of_pos dropped]
    · rw [List.dropWhile_cons_of_neg dropped, dropTrailing_cons,
        if_neg (fun both => dropped both.2), List.dropWhile_cons_of_neg dropped]

end OpenApiTools.Text
