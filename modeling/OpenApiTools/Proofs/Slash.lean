import OpenApiTools.BaseUrl
import OpenApiTools.Proofs.Trimming

/-!
# Slashes at the ends

What is trimmed off an address or a path is a run of slashes, and what is left has none at that end.
So an address and a path are joined by exactly one, whatever slashes they were written with.
-/

namespace OpenApiTools

/-- A text of slashes only. -/
def slashes (count : Nat) : String :=
  String.ofList (List.replicate count '/')

/-- A run of slashes is determined by its length. -/
theorem exists_slashes {run : List Char} (dropped : ∀ c ∈ run, (c == '/') = true) :
    ∃ count, String.ofList run = slashes count :=
  ⟨run.length, congrArg String.ofList
    (List.eq_replicate_of_mem fun c inRun => beq_iff_eq.mp (dropped c inRun))⟩

/-- What is trimmed off an address are slashes. -/
theorem exists_eq_trimTrailingSlashes_append (address : String) :
    ∃ count, address = trimTrailingSlashes address ++ slashes count := by
  obtain ⟨run, parts, dropped⟩ := Text.exists_run_of_dropTrailing (· == '/') address.toList
  obtain ⟨count, isRun⟩ := exists_slashes dropped
  refine ⟨count, ?_⟩
  rw [← isRun, trimTrailingSlashes, ← String.ofList_append, ← parts, String.ofList_toList]

/-- No slash is left at the end of an address. -/
theorem getLast?_trimTrailingSlashes_ne (address : String) :
    (trimTrailingSlashes address).toList.getLast? ≠ some '/' := by
  intro last
  rw [trimTrailingSlashes, String.toList_ofList] at last
  exact Text.not_of_mem_getLast?_dropTrailing _ last rfl

/-- Further slashes at the end do not matter. -/
theorem trimTrailingSlashes_append_slashes (address : String) (count : Nat) :
    trimTrailingSlashes (address ++ slashes count) = trimTrailingSlashes address := by
  have dropped : ∀ c ∈ List.replicate count '/', (c == '/') = true := fun c inRun => by
    simp [List.eq_of_mem_replicate inRun]
  rw [trimTrailingSlashes, slashes, String.toList_append, String.toList_ofList,
    Text.dropTrailing_append dropped, trimTrailingSlashes]

/-- An address that has been trimmed stays as it is. -/
theorem trimTrailingSlashes_trimTrailingSlashes (address : String) :
    trimTrailingSlashes (trimTrailingSlashes address) = trimTrailingSlashes address := by
  rw [trimTrailingSlashes, trimTrailingSlashes, String.toList_ofList,
    Text.dropTrailing_dropTrailing]

/-- A path is a run of slashes and what is left when they are removed, which starts with none. -/
theorem exists_eq_slashes_append (path : String) :
    ∃ count, path = slashes count ++ trimLeadingSlashes path ∧
      (trimLeadingSlashes path).toList.head? ≠ some '/' := by
  obtain ⟨count, isRun⟩ := exists_slashes
    fun c (inRun : c ∈ path.toList.takeWhile (· == '/')) =>
      List.mem_takeWhile_imp (p := (· == '/')) inRun
  refine ⟨count, ?_, ?_⟩
  · rw [← isRun, trimLeadingSlashes, ← String.ofList_append, List.takeWhile_append_dropWhile,
      String.ofList_toList]
  · intro first
    rw [trimLeadingSlashes, String.toList_ofList] at first
    have notSlash := List.head?_dropWhile_not (· == '/') path.toList
    rw [first] at notSlash
    simp at notSlash

/-- A base address and a path are joined by a slash: what is left of the one without the slashes at
its end, and what is left of the other without those at its start. -/
inductive JoinsUrl (baseUrl path : String) : String → Prop
  | joined {base rest : String} (after before : Nat) (isBase : baseUrl = base ++ slashes after)
    (isOpen : base.toList.getLast? ≠ some '/') (isPath : path = slashes before ++ rest)
    (isRelative : rest.toList.head? ≠ some '/') : JoinsUrl baseUrl path (base ++ "/" ++ rest)

/-- The address of a path under a base address joins the two. -/
theorem joinsUrl_joinUrl (baseUrl path : String) :
    JoinsUrl baseUrl path (joinUrl baseUrl path) := by
  obtain ⟨after, isBase⟩ := exists_eq_trimTrailingSlashes_append baseUrl
  obtain ⟨before, isPath, isRelative⟩ := exists_eq_slashes_append path
  exact .joined after before isBase (getLast?_trimTrailingSlashes_ne baseUrl) isPath isRelative

end OpenApiTools
