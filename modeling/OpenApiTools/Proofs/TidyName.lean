import OpenApiTools.Proofs.GeneratedName

/-!
# The shape of generated names

A generated name is stated here without the rewriting that produces it: cut the path into pieces,
put the method before them in lowercase, and join everything by single underscores. What the name of
one of the methods looks like follows from the pieces alone, for none of them is empty and none
holds a brace or a separator. An identifier that a document declares is not meant: it is taken as
it is.
-/

namespace OpenApiTools.ToolName

/-- The name that spells a method in lowercase and then pieces, behind a namespace that is not
empty. -/
def joinPieces (method : String) (pieces : List (List Char)) (nameSpace : Option String) : String :=
  let name := "_".intercalate (Text.lowercase method :: pieces.map String.ofList)
  match nameSpace with
  | none => name
  | some outer => if outer = "" then name else outer ++ "_" ++ name

/-- A name without braces and separators, in which underscores only stand between two other
characters. -/
structure Tidy (name : String) : Prop where
  plain : ∀ c ∈ ['\x7b', '\x7d', '/', '-', '.'], c ∉ name.toList
  single : ¬ ['_', '_'] <:+: name.toList
  first : name.toList.head? ≠ some '_'
  last : name.toList.getLast? ≠ some '_'

/-- A name that is made from a method and a path joins the pieces of the path. -/
theorem generate_eq_joinPieces (method path : String) (nameSpace : Option String) :
    generate method path nameSpace = joinPieces method (pieces path) nameSpace := by
  have joined : generate method path none =
      "_".intercalate (Text.lowercase method :: (pieces path).map String.ofList) := by
    rw [generate_eq_intercalate, ← String.toList_inj, String.toList_ofList,
      String.toList_intercalate, List.map_cons, List.map_map]
    simp [Function.comp_def]
  have prefixed : generate method path nameSpace =
      withNamespace (generate method path none) nameSpace := rfl
  rw [prefixed, joined]
  unfold joinPieces
  cases nameSpace with
  | none => rfl
  | some outer =>
    by_cases isEmpty : outer = ""
    · subst isEmpty
      rfl
    · rw [withNamespace_of_ne_empty isEmpty]
      exact (if_neg isEmpty).symm

/-- Every character of joined parts is an underscore or belongs to a part. -/
theorem mem_of_mem_intercalate {c : Char} {parts : List (List Char)}
    (isThere : c ∈ ['_'].intercalate parts) : c = '_' ∨ ∃ part ∈ parts, c ∈ part := by
  induction parts with
  | nil => simp at isThere
  | cons part rest inductionHypothesis =>
    cases rest with
    | nil =>
      rw [List.intercalate_singleton] at isThere
      exact .inr ⟨part, List.mem_cons_self, isThere⟩
    | cons next others =>
      rw [List.intercalate_cons_cons, List.mem_append, List.mem_append,
        List.mem_singleton] at isThere
      rcases isThere with (inPart | isUnderscore) | inRest
      · exact .inr ⟨part, List.mem_cons_self, inPart⟩
      · exact .inl isUnderscore
      · refine (inductionHypothesis inRest).imp_right ?_
        rintro ⟨other, isPart, inOther⟩
        exact ⟨other, List.mem_cons_of_mem _ isPart, inOther⟩

/-- Where a text that has no empty part between underscores is cut at one of them, neither side has
an empty part. -/
theorem not_mem_splitOn_of_eq_append {chars before after : List Char}
    (noEmpty : [] ∉ chars.splitOn '_') (cut : chars = before ++ '_' :: after) :
    [] ∉ before.splitOn '_' ∧ [] ∉ after.splitOn '_' := by
  rwa [cut, List.splitOn_append_cons_self, List.mem_append, not_or] at noEmpty

/-- Parts that are not empty and hold neither braces nor separators make a tidy name. -/
theorem tidy_ofList_intercalate {parts : List (List Char)} (hasParts : parts ≠ [])
    (nonempty : ∀ part ∈ parts, part ≠ [])
    (plain : ∀ part ∈ parts, ∀ c ∈ part, endsPiece c = false ∧ isBrace c = false) :
    Tidy (String.ofList (['_'].intercalate parts)) := by
  have noUnderscore : ∀ part ∈ parts, '_' ∉ part := fun part isPart underscore =>
    absurd (plain part isPart '_' underscore).1 (by decide)
  -- Cutting at the underscores gives the parts back, so wherever there were one too many, cutting
  -- would leave an empty part.
  have noEmpty : [] ∉ (['_'].intercalate parts).splitOn '_' := by
    rw [List.splitOn_intercalate '_' noUnderscore hasParts]
    exact fun isPart => nonempty [] isPart rfl
  have emptyPart : [] ∈ ([] : List Char).splitOn '_' := by decide
  constructor <;> rw [String.toList_ofList]
  · intro c isForbidden isThere
    have forbidden : c ≠ '_' ∧ (endsPiece c = true ∨ isBrace c = true) := by
      simp only [List.mem_cons, List.not_mem_nil, or_false] at isForbidden
      rcases isForbidden with rfl | rfl | rfl | rfl | rfl <;> decide
    rcases mem_of_mem_intercalate isThere with isUnderscore | ⟨part, isPart, inPart⟩
    · exact forbidden.1 isUnderscore
    · have allowed := plain part isPart c inPart
      simp [allowed] at forbidden
  · rintro ⟨before, after, cut⟩
    have doubled : ['_'].intercalate parts = before ++ '_' :: ([] ++ '_' :: after) := by
      rw [← cut, List.append_assoc]
      rfl
    have between := (not_mem_splitOn_of_eq_append noEmpty doubled).2
    exact (not_mem_splitOn_of_eq_append between rfl).1 emptyPart
  · intro starts
    obtain ⟨rest, cut⟩ := List.head?_eq_some_iff.mp starts
    exact (not_mem_splitOn_of_eq_append noEmpty (cut.trans rfl)).1 emptyPart
  · intro ends
    obtain ⟨rest, cut⟩ := List.getLast?_eq_some_iff.mp ends
    exact (not_mem_splitOn_of_eq_append noEmpty cut).2 emptyPart

/-- The pieces of a path hold neither braces nor separators. -/
theorem plain_of_mem_pieces {path : String} {part : List Char} (isPiece : part ∈ pieces path) :
    ∀ c ∈ part, endsPiece c = false ∧ isBrace c = false := by
  intro c inPart
  obtain ⟨isThere, plain⟩ := of_mem_splitOnP (List.mem_filter.mp isPiece).1 c inPart
  exact ⟨plain, by simpa using (List.mem_filter.mp isThere).2⟩

/-- The key of a method holds neither braces nor separators. -/
theorem plain_key (method : Method) :
    ∀ c ∈ method.key.toList, endsPiece c = false ∧ isBrace c = false := by
  have letters : (method.key.toList.all fun c => !endsPiece c && !isBrace c) = true := by
    cases method <;> decide
  simpa using letters

/-- A name that is made from one of the methods and a path is tidy. -/
theorem tidy_generate {method : String} {known : Method}
    (spells : Text.lowercase method = known.key) (path : String) :
    Tidy (generate method path none) := by
  rw [generate_eq_intercalate, spells]
  apply tidy_ofList_intercalate (List.cons_ne_nil _ _)
  · intro part isPart
    rcases List.mem_cons.mp isPart with rfl | isPiece
    · cases known <;> decide
    · exact (ne_nil_and_not_mem_of_mem_partsOf isPiece).1
  · intro part isPart
    rcases List.mem_cons.mp isPart with rfl | isPiece
    · exact plain_key known
    · exact plain_of_mem_pieces isPiece

/-- A generated name spells the method in lowercase and the pieces of the path, joined by single
underscores, behind the namespace. For each of the methods it is tidy whatever the path is, and so
it is however the letters of the method are written. -/
theorem generate_spells_pieces (method path : String) (nameSpace : Option String) :
    generate method path nameSpace = joinPieces method (pieces path) nameSpace ∧
      (∀ known : Method, Tidy (generate known.name path none)) ∧
      ∀ known : Method, Text.lowercase method = known.key → Tidy (generate method path none) :=
  ⟨generate_eq_joinPieces method path nameSpace,
    fun known => tidy_generate (lowercase_name known) path,
    fun _ spells => tidy_generate spells path⟩

/-- A path with braces between separators, and separators at its ends: only its pieces are left. -/
theorem generate_spells_pieces_nested :
    Text.lowercase "Put" = Method.put.key ∧
      generate "Put" "//a-\x7b-b\x7d./\x7b\x7dc__/" (some "shop") = "shop_put_a_b_c" ∧
      Tidy (generate "Put" "//a-\x7b-b\x7d./\x7b\x7dc__/" none) := by
  have spells : Text.lowercase "Put" = Method.put.key := by decide
  refine ⟨spells, ?_, ?_⟩
  · rw [(generate_spells_pieces _ _ _).1]
    decide
  · exact (generate_spells_pieces "Put" _ none).2.2 .put spells

end OpenApiTools.ToolName
