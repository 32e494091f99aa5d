import Mathlib.Data.List.DropRight
import OpenApiTools.Proofs.Operation
import OpenApiTools.Proofs.ToolName
import OpenApiTools.Proofs.Trimming

/-!
# Names made from paths

A name that is made from a method and a path spells the method and the pieces of the path, the parts
between separators that are left when braces are deleted. No piece is empty and none holds an
underscore, so that the method and the pieces can be read off the name again: two such names are the
same only if method and pieces are.
-/

namespace OpenApiTools

namespace ToolName

/-- Whether a character ends a piece of a path. -/
def endsPiece (c : Char) : Bool := isSeparator c || c == '_'

/-- The parts of a text between separators, empty ones left out. -/
def partsOf (chars : List Char) : List (List Char) :=
  (chars.splitOnP endsPiece).filter (!·.isEmpty)

/-- The pieces of a path: the parts of what is left of it without braces. -/
def pieces (path : String) : List (List Char) :=
  partsOf (path.toList.filter (!isBrace ·))

/-- A separator at the start ends no part. -/
theorem partsOf_cons {c : Char} (separator : endsPiece c = true) (rest : List Char) :
    partsOf (c :: rest) = partsOf rest := by
  rw [partsOf, List.splitOnP_cons_eq_if_modifyHead, if_pos separator]
  rfl

/-- The parts of a text hold its characters, but for the separators. -/
theorem of_mem_splitOnP {chars part : List Char} (isPart : part ∈ chars.splitOnP endsPiece) :
    ∀ c ∈ part, c ∈ chars ∧ endsPiece c = false := by
  induction chars generalizing part with
  | nil =>
    rw [List.splitOnP_nil, List.mem_singleton] at isPart
    simp [isPart]
  | cons first rest inductionHypothesis =>
    have later {part : List Char} (isPart : part ∈ rest.splitOnP endsPiece) :
        ∀ c ∈ part, c ∈ first :: rest ∧ endsPiece c = false :=
      fun c inPart => (inductionHypothesis isPart c inPart).imp_left (List.mem_cons_of_mem _)
    rw [List.splitOnP_cons_eq_if_modifyHead] at isPart
    split at isPart
    · rcases List.mem_cons.mp isPart with rfl | isLater
      · simp
      · exact later isLater
    · rename_i plain
      obtain ⟨head, tail, split⟩ :=
        List.exists_cons_of_ne_nil (List.splitOnP_ne_nil endsPiece rest)
      rw [split, List.modifyHead_cons] at isPart
      rcases List.mem_cons.mp isPart with rfl | isLater
      · intro c inPart
        rcases List.mem_cons.mp inPart with rfl | inHead
        · exact ⟨List.mem_cons_self, by simpa using plain⟩
        · exact later (split ▸ List.mem_cons_self) c inHead
      · exact later (split ▸ List.mem_cons_of_mem _ isLater)

/-- Parts are not empty and hold no underscore. -/
theorem ne_nil_and_not_mem_of_mem_partsOf {chars part : List Char} (isPart : part ∈ partsOf chars) :
    part ≠ [] ∧ '_' ∉ part := by
  obtain ⟨split, nonempty⟩ := List.mem_filter.mp isPart
  refine ⟨by simpa using nonempty, fun underscore => ?_⟩
  exact absurd (of_mem_splitOnP split '_' underscore).2 (by decide)

/-- A first character belongs to the first of the joined parts. -/
theorem intercalate_cons_head (c : Char) (head : List Char) (tail : List (List Char)) :
    ['_'].intercalate ((c :: head) :: tail) = c :: ['_'].intercalate (head :: tail) := by
  cases tail with
  | nil => simp
  | cons part rest => rw [List.intercalate_cons_cons, List.intercalate_cons_cons]; rfl

/-- An empty part before others leaves one underscore before them. -/
theorem intercalate_nil_cons {parts : List (List Char)} (nonempty : ∀ part ∈ parts, part ≠ []) :
    ['_'].intercalate ([] :: parts) =
      if ['_'].intercalate parts = [] then [] else '_' :: ['_'].intercalate parts := by
  cases parts with
  | nil => rfl
  | cons part rest =>
    cases part with
    | nil => exact absurd rfl (nonempty [] List.mem_cons_self)
    | cons c part =>
      rw [List.intercalate_cons_cons, intercalate_cons_head, if_neg (List.cons_ne_nil _ _)]
      rfl

/-- A part that is empty leaves one underscore at the start, which can be dropped with it. -/
theorem dropWhile_intercalate_cons {head : List Char} {tail : List (List Char)}
    (plain : ∀ part ∈ head :: tail, '_' ∉ part) :
    (['_'].intercalate (head :: tail.filter (!·.isEmpty))).dropWhile (· == '_') =
      ['_'].intercalate ((head :: tail).filter (!·.isEmpty)) := by
  -- A part that is not empty starts with another character.
  have unchanged (c : Char) (part : List Char) (rest : List (List Char)) (notIn : '_' ∉ c :: part) :
      (['_'].intercalate ((c :: part) :: rest)).dropWhile (· == '_') =
        ['_'].intercalate ((c :: part) :: rest) := by
    have different : c ≠ '_' := by
      rintro rfl
      exact notIn List.mem_cons_self
    rw [intercalate_cons_head, List.dropWhile_cons_of_neg (by simpa using different)]
  cases head with
  | cons c head =>
    rw [List.filter_cons_of_pos (by rfl)]
    exact unchanged c head _ (plain _ List.mem_cons_self)
  | nil =>
    rw [List.filter_cons_of_neg (by simp)]
    cases kept : tail.filter (!·.isEmpty) with
    | nil => rfl
    | cons part rest =>
      have isPart : part ∈ tail.filter (!·.isEmpty) := kept ▸ List.mem_cons_self
      cases part with
      | nil => simp at isPart
      | cons c part =>
        rw [List.intercalate_cons_cons, List.nil_append, List.singleton_append,
          List.dropWhile_cons_of_pos (by rfl)]
        exact unchanged c part rest (plain _ (List.mem_cons_of_mem _ (List.mem_filter.mp isPart).1))

/-- Any other character than an underscore stays. -/
theorem squeezeUnderscores_cons_of_ne {c : Char} (different : c ≠ '_') (rest : List Char) :
    squeezeUnderscores (c :: rest) = c :: squeezeUnderscores rest := by
  rw [squeezeUnderscores]
  intro others underscore
  exact absurd underscore different

/-- An underscore takes in all that follow it at once. -/
theorem squeezeUnderscores_cons (rest : List Char) :
    squeezeUnderscores ('_' :: rest) =
      '_' :: (squeezeUnderscores rest).dropWhile (· == '_') := by
  induction rest with
  | nil => rfl
  | cons c rest inductionHypothesis =>
    by_cases underscore : c = '_'
    · subst underscore
      rw [squeezeUnderscores, inductionHypothesis, List.dropWhile_cons_of_pos (by rfl),
        List.dropWhile_idempotent]
    · have apart : squeezeUnderscores ('_' :: c :: rest) =
          '_' :: squeezeUnderscores (c :: rest) := by
        rw [squeezeUnderscores]
        simpa using underscore
      rw [apart, squeezeUnderscores_cons_of_ne underscore,
        List.dropWhile_cons_of_neg (by simpa using underscore)]

/-- What a separator becomes in a name; other characters stay. -/
def joined (c : Char) : Char := if isSeparator c then '_' else c

/-- Between the parts of a text, and before the first, one underscore is left of each run of
separators; none is left at the end. -/
theorem dropTrailing_squeezeUnderscores {chars head : List Char} {tail : List (List Char)}
    (split : chars.splitOnP endsPiece = head :: tail) :
    Text.dropTrailing (· == '_') (squeezeUnderscores (chars.map joined)) =
      ['_'].intercalate (head :: tail.filter (!·.isEmpty)) := by
  induction chars generalizing head tail with
  | nil =>
    rw [List.splitOnP_nil] at split
    obtain ⟨rfl, rfl⟩ := List.cons.inj split
    rfl
  | cons c rest inductionHypothesis =>
    obtain ⟨first, others, splitRest⟩ :=
      List.exists_cons_of_ne_nil (List.splitOnP_ne_nil endsPiece rest)
    have trimmed := inductionHypothesis splitRest
    rw [List.splitOnP_cons_eq_if_modifyHead, splitRest] at split
    by_cases separator : endsPiece c = true
    · rw [if_pos separator] at split
      obtain ⟨rfl, rfl⟩ := List.cons.inj split
      have underscore : joined c = '_' := by
        simp only [endsPiece, Bool.or_eq_true, beq_iff_eq] at separator
        rcases separator with isSeparator | rfl
        · exact if_pos isSeparator
        · rfl
      have plain : ∀ part ∈ first :: others, '_' ∉ part := by
        intro part isPart inPart
        rw [← splitRest] at isPart
        exact absurd (of_mem_splitOnP isPart '_' inPart).2 (by decide)
      rw [List.map_cons, underscore, squeezeUnderscores_cons, Text.dropTrailing_cons,
        Text.dropTrailing_dropWhile, trimmed, dropWhile_intercalate_cons plain]
      have nonempty : ∀ part ∈ (first :: others).filter (!·.isEmpty), part ≠ [] := by
        intro part kept
        simpa using (List.mem_filter.mp kept).2
      rw [intercalate_nil_cons nonempty]
      simp only [beq_self_eq_true, and_true]
    · rw [if_neg separator, List.modifyHead_cons] at split
      obtain ⟨rfl, rfl⟩ := List.cons.inj split
      rw [endsPiece, Bool.or_eq_true, not_or] at separator
      obtain ⟨notSeparator, notUnderscore⟩ := separator
      have plain : joined c = c := if_neg notSeparator
      have different : c ≠ '_' := by simpa using notUnderscore
      rw [List.map_cons, plain, squeezeUnderscores_cons_of_ne different, Text.dropTrailing_cons,
        if_neg (fun both => notUnderscore both.2), trimmed, intercalate_cons_head]

/-- The part of a name that comes from a path joins the pieces of the path. -/
theorem ofPath_eq_intercalate (path : String) :
    ofPath path.toList = ['_'].intercalate (pieces path) := by
  have braces : (fun c => !isBrace c) ∘ joined = fun c => !isBrace c := by
    funext c
    by_cases separator : isSeparator c = true
    · have notBrace : isBrace c = false := by
        simp only [isSeparator, Bool.or_eq_true, beq_iff_eq] at separator
        rcases separator with (rfl | rfl) | rfl <;> rfl
      simp only [Function.comp_apply, joined, if_pos separator, notBrace]
      rfl
    · simp only [Function.comp_apply, joined, if_neg separator]
  -- The slashes that are dropped at the start are separators before the first piece.
  have unslashed (chars : List Char) :
      partsOf ((chars.dropWhile (· == '/')).filter (!isBrace ·)) =
        partsOf (chars.filter (!isBrace ·)) := by
    induction chars with
    | nil => rfl
    | cons c rest inductionHypothesis =>
      by_cases slash : c = '/'
      · subst slash
        rw [List.dropWhile_cons_of_pos (by rfl), inductionHypothesis,
          List.filter_cons_of_pos (by rfl), partsOf_cons (by rfl)]
      · rw [List.dropWhile_cons_of_neg (by simpa using slash)]
  obtain ⟨head, tail, split⟩ := List.exists_cons_of_ne_nil (List.splitOnP_ne_nil endsPiece
    ((path.toList.dropWhile (· == '/')).filter (!isBrace ·)))
  have plain : ∀ part ∈ head :: tail, '_' ∉ part := by
    intro part isPart inPart
    rw [← split] at isPart
    exact absurd (of_mem_splitOnP isPart '_' inPart).2 (by decide)
  have separated : ofPath path.toList = Text.dropAround (· == '_') (squeezeUnderscores
      (((path.toList.dropWhile (· == '/')).map joined).filter (!isBrace ·))) := rfl
  rw [separated, List.filter_map, braces, Text.dropAround, Text.dropTrailing_dropWhile,
    dropTrailing_squeezeUnderscores split, dropWhile_intercalate_cons plain, ← split, pieces,
    ← unslashed, partsOf]

/-- A name that is made from a method and a path joins the method in lowercase and the pieces of the
path. -/
theorem generate_eq_intercalate (method path : String) :
    generate method path none =
      String.ofList (['_'].intercalate ((Text.lowercase method).toList :: pieces path)) := by
  have cleaned := ofPath_eq_intercalate path
  have plain : ∀ part ∈ pieces path, part ≠ [] := fun part isPart =>
    (ne_nil_and_not_mem_of_mem_partsOf isPart).1
  rw [generate, withNamespace_none, cleaned]
  cases parts : pieces path with
  | nil => simp
  | cons part rest =>
    cases part with
    | nil => exact absurd rfl (plain [] (parts ▸ List.mem_cons_self))
    | cons c part =>
      rw [List.intercalate_cons_cons, String.ofList_append, String.ofList_append,
        String.ofList_toList, intercalate_cons_head, if_neg (by simp)]

/-- In lowercase, the name of a method is its key. -/
theorem lowercase_name (method : Method) : Text.lowercase method.name = method.key := by
  cases method <;> decide

/-- Method and pieces can be read off a name that is made from them. -/
theorem generate_inj {left right : Method} {leftPath rightPath : String} :
    generate left.name leftPath none = generate right.name rightPath none ↔
      left = right ∧ pieces leftPath = pieces rightPath := by
  have plain (method : Method) (path : String) :
      ∀ part ∈ method.key.toList :: pieces path, '_' ∉ part := by
    intro part isPart
    rcases List.mem_cons.mp isPart with rfl | isPiece
    · cases method <;> decide
    · exact (ne_nil_and_not_mem_of_mem_partsOf isPiece).2
  have keys : Function.Injective fun method : Method => method.key.toList := by
    intro first second
    cases first <;> cases second <;> decide
  rw [generate_eq_intercalate, generate_eq_intercalate, lowercase_name, lowercase_name]
  constructor
  · intro same
    have chars := congrArg (List.splitOn '_') (String.ofList_injective same)
    rw [List.splitOn_intercalate '_' (plain left leftPath) (List.cons_ne_nil _ _),
      List.splitOn_intercalate '_' (plain right rightPath) (List.cons_ne_nil _ _)] at chars
    obtain ⟨method, parts⟩ := List.cons.inj chars
    exact ⟨keys method, parts⟩
  · rintro ⟨rfl, parts⟩
    rw [parts]

end ToolName

namespace Operation

/-- An operation has no identifier: what it has under the key of one, if it is a string, is
empty. -/
def Unidentified (operation : Operation) : Prop :=
  ∀ identifier, operation.declaration.getString? "operationId" = some identifier → identifier = ""

/-- Two operations have the same method, and their paths agree up to braces and separators. -/
def Alike (left right : Operation) : Prop :=
  left.method = right.method ∧ ToolName.pieces left.path = ToolName.pieces right.path

/-- The tool of an operation without an identifier is named after method and path, in the
namespace. -/
theorem tool_name_of_unidentified {operation : Operation} (unidentified : operation.Unidentified)
    (context : ToolContext) :
    (operation.tool context).name =
      ToolName.withNamespace (ToolName.generate operation.method.name operation.path none)
        context.nameSpace := by
  have noIdentifier : Tool.nonEmptyString? operation.declaration "operationId" = none := by
    unfold Tool.nonEmptyString?
    cases found : operation.declaration.getString? "operationId" with
    | none => rfl
    | some identifier =>
      rw [unidentified identifier found]
      rfl
  rw [tool, Tool.ofOperation, noIdentifier]
  exact ToolName.resolve_eq_withNamespace none _ _ _

/-- Operations without identifiers have tools of the same name exactly if they are alike. -/
theorem tool_name_eq_iff {left right : Operation} (leftUnidentified : left.Unidentified)
    (rightUnidentified : right.Unidentified) (context : ToolContext) :
    (left.tool context).name = (right.tool context).name ↔ left.Alike right := by
  rw [tool_name_of_unidentified leftUnidentified, tool_name_of_unidentified rightUnidentified,
    (ToolName.withNamespace_injective context.nameSpace).eq_iff, ToolName.generate_inj, Alike]

end Operation

/-- In a document that identifies none of its operations, tools share a name exactly if their
operations are alike. So names are repeated exactly if two operations are alike. -/
theorem Document.generated_names_distinct {document : Document}
    (unidentified : ∀ operation ∈ document.operations, operation.Unidentified)
    {context : ToolContext} {tools : List Tool} (made : document.tools context = .ok tools) :
    (∀ (index other : Nat) (tool otherTool : Tool),
      tools[index]? = some tool → tools[other]? = some otherTool →
      ∃ left right, document.operations[index]? = some left ∧
        document.operations[other]? = some right ∧
        (tool.name = otherTool.name ↔ left.Alike right)) ∧
    (Tool.repeatedNames tools = [] ↔
      document.operations.Pairwise fun left right => ¬ left.Alike right) := by
  obtain rfl := eq_of_tools_eq_ok made
  constructor
  · intro index other tool otherTool atIndex atOther
    rw [List.getElem?_map] at atIndex atOther
    obtain ⟨left, isLeft, rfl⟩ := Option.map_eq_some_iff.mp atIndex
    obtain ⟨right, isRight, rfl⟩ := Option.map_eq_some_iff.mp atOther
    exact ⟨left, right, isLeft, isRight, Operation.tool_name_eq_iff
      (unidentified left (List.mem_of_getElem? isLeft))
      (unidentified right (List.mem_of_getElem? isRight)) context⟩
  · rw [Tool.repeatedNames_eq_nil_iff, List.map_map, List.Nodup, List.pairwise_map]
    refine List.Pairwise.iff_of_mem fun {left right} isLeft isRight => not_congr ?_
    exact Operation.tool_name_eq_iff (unidentified left isLeft) (unidentified right isRight) context

/-- Two paths to read from that agree up to braces and separators, and one of them to write to as
well: the names of the readers are repeated, and the writer has another one. -/
theorem Document.generated_names_distinct_users :
    let document : Document :=
      ⟨[("openapi", .string "3.0.0"),
        ("paths", .object
          [("/users/{id}",
            .object [("get", .null), ("post", .object [("operationId", .string "")])]),
           ("/-users.id_", .object [("get", .object [("operationId", .bool true)])])])]⟩
    let context : ToolContext := ⟨"https://api.example.com", .none, some "shop"⟩
    (∀ operation ∈ document.operations, operation.Unidentified) ∧
      ∃ reader writer other, document.tools context = .ok [reader, writer, other] ∧
        reader.name = other.name ∧ reader.name ≠ writer.name ∧
        Tool.repeatedNames [reader, writer, other] ≠ [] := by
  intro document context
  have operations : document.operations =
      [⟨"/users/{id}", .get, .null⟩,
       ⟨"/users/{id}", .post, .object [("operationId", .string "")]⟩,
       ⟨"/-users.id_", .get, .object [("operationId", .bool true)]⟩] := rfl
  have unidentified : ∀ operation ∈ document.operations, operation.Unidentified := by
    rw [operations]
    simp [Operation.Unidentified, Json.getString?, Json.get?, Json.asObject?, Json.asString?,
      Entries.get?]
  refine ⟨unidentified, _, _, _, rfl, ?_⟩
  have made : document.tools context = .ok (document.operations.map (·.tool context)) := rfl
  obtain ⟨names, repeated⟩ := generated_names_distinct unidentified made
  obtain ⟨_, _, ⟨rfl⟩, ⟨rfl⟩, readers⟩ := names 0 2 _ _ rfl rfl
  obtain ⟨_, _, ⟨rfl⟩, ⟨rfl⟩, readerAndWriter⟩ := names 0 1 _ _ rfl rfl
  have alike : Operation.Alike ⟨"/users/{id}", .get, .null⟩
      ⟨"/-users.id_", .get, .object [("operationId", .bool true)]⟩ := ⟨rfl, by decide⟩
  have apart : ¬ Operation.Alike ⟨"/users/{id}", .get, .null⟩
      ⟨"/users/{id}", .post, .object [("operationId", .string "")]⟩ :=
    fun same => absurd same.1 (by decide)
  refine ⟨readers.mpr alike, mt readerAndWriter.mp apart, fun nothing => ?_⟩
  have pairwise := repeated.mp nothing
  rw [operations] at pairwise
  exact (List.pairwise_cons.mp pairwise).1 _ (by simp) alike

end OpenApiTools
