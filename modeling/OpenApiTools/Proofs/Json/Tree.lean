import OpenApiTools.Json.Tree

/-!
# Tokens of trees

A tree has one sequence of tokens that spells it without anything superfluous. The reader that puts
tokens together on a stack of unfinished arrays and objects gives the tree back, whatever is on the
stack below it.
-/

namespace OpenApiTools.Json.Tree

/-- An induction over trees that goes through the items of arrays and the entries of objects. -/
@[elab_as_elim]
theorem inductionOn {motive : Tree → Prop} (tree : Tree) (null : motive .null)
    (bool : ∀ value, motive (.bool value)) (numeral : ∀ value, motive (.numeral value))
    (string : ∀ pieces, motive (.string pieces))
    (array : ∀ items, (∀ item ∈ items, motive item) → motive (.array items))
    (object : ∀ entries : List (List Piece × Tree), (∀ entry ∈ entries, motive entry.2) →
      motive (.object entries)) : motive tree :=
  @Tree.rec motive (fun items => ∀ item ∈ items, motive item)
    (fun entries => ∀ entry ∈ entries, motive entry.2) (fun entry => motive entry.2)
    null bool numeral string array object
    (fun _ isItem => absurd isItem List.not_mem_nil)
    (fun _ _ first others item isItem =>
      (List.mem_cons.mp isItem).elim (fun same => same ▸ first) (others item))
    (fun _ isEntry => absurd isEntry List.not_mem_nil)
    (fun _ _ first others entry isEntry =>
      (List.mem_cons.mp isEntry).elim (fun same => same ▸ first) (others entry))
    (fun _ _ found => found) tree

mutual

/-- The tokens of a tree. -/
def tokens : Tree → List Token
  | .null => [.null]
  | .bool value => [.bool value]
  | .numeral value => [.numeral value]
  | .string pieces => [.string pieces]
  | .array items => .openBracket :: ([.comma].intercalate (tokensOfItems items) ++ [.closeBracket])
  | .object entries =>
    .openBrace :: ([.comma].intercalate (tokensOfEntries entries) ++ [.closeBrace])

/-- The tokens of each item of an array. -/
def tokensOfItems : List Tree → List (List Token)
  | [] => []
  | item :: rest => tokens item :: tokensOfItems rest

/-- The tokens of each entry of an object. -/
def tokensOfEntries : List (List Piece × Tree) → List (List Token)
  | [] => []
  | (key, value) :: rest => (.string key :: .colon :: tokens value) :: tokensOfEntries rest

end

/-- A tree is read from its tokens wherever a value is expected. -/
def IsRead (tree : Tree) : Prop :=
  ∀ frames rest, (tree.tokens ++ rest).foldlM step? ⟨.value, frames⟩ =
    rest.foldlM step? ⟨.after tree, frames⟩

/-- The first token of a tree closes no array. -/
theorem exists_tokens_eq_cons (tree : Tree) :
    ∃ first rest, tree.tokens = first :: rest ∧ first ≠ .closeBracket := by
  cases tree with
  | array items => exact ⟨_, _, rfl, nofun⟩
  | object entries => exact ⟨_, _, rfl, nofun⟩
  | _ => exact ⟨_, _, rfl, nofun⟩

/-- The first item of an array is read like any other value. -/
theorem foldlM_firstItem (tree : Tree) (frames : List Frame) (rest : List Token) :
    (tree.tokens ++ rest).foldlM step? ⟨.firstItem, frames⟩ =
      (tree.tokens ++ rest).foldlM step? ⟨.value, .array [] :: frames⟩ := by
  obtain ⟨first, others, tokens, notClosing⟩ := tree.exists_tokens_eq_cons
  have same : step? ⟨.firstItem, frames⟩ first = step? ⟨.value, .array [] :: frames⟩ first := by
    cases first <;> first | rfl | contradiction
  rw [tokens, List.cons_append, List.foldlM_cons, List.foldlM_cons, same]

/-- The items after one that has been read, up to the end of the array. -/
theorem foldlM_items {items : List Tree} (areRead : ∀ item ∈ items, item.IsRead) (tree : Tree)
    (done : List Tree) (frames : List Frame) (rest : List Token) :
    ((tokensOfItems items).flatMap (.comma :: ·) ++ .closeBracket :: rest).foldlM step?
        ⟨.after tree, .array done :: frames⟩ =
      rest.foldlM step? ⟨.after (.array (done.reverse ++ tree :: items)), frames⟩ := by
  induction items generalizing tree done with
  | nil =>
    have closed : step? ⟨.after tree, .array done :: frames⟩ .closeBracket =
        some ⟨.after (.array (tree :: done).reverse), frames⟩ := rfl
    rw [tokensOfItems, List.flatMap_nil, List.nil_append, List.foldlM_cons, closed,
      List.reverse_cons]
    rfl
  | cons item items inductionHypothesis =>
    have separated : step? ⟨.after tree, .array done :: frames⟩ .comma =
        some ⟨.value, .array (tree :: done) :: frames⟩ := rfl
    rw [tokensOfItems, List.flatMap_cons, List.cons_append, List.cons_append, List.foldlM_cons,
      separated, Option.bind_eq_bind, Option.bind_some, List.append_assoc,
      areRead item List.mem_cons_self,
      inductionHypothesis (fun item later => areRead item (List.mem_cons_of_mem _ later)),
      List.reverse_cons, List.append_assoc]
    rfl

/-- The entries after one that has been read, up to the end of the object. -/
theorem foldlM_entries {entries : List (List Piece × Tree)}
    (areRead : ∀ entry ∈ entries, entry.2.IsRead) (key : List Piece) (tree : Tree)
    (done : List (List Piece × Tree)) (frames : List Frame) (rest : List Token) :
    ((tokensOfEntries entries).flatMap (.comma :: ·) ++ .closeBrace :: rest).foldlM step?
        ⟨.after tree, .object done key :: frames⟩ =
      rest.foldlM step? ⟨.after (.object (done.reverse ++ (key, tree) :: entries)), frames⟩ := by
  induction entries generalizing key tree done with
  | nil =>
    have closed : step? ⟨.after tree, .object done key :: frames⟩ .closeBrace =
        some ⟨.after (.object ((key, tree) :: done).reverse), frames⟩ := rfl
    rw [tokensOfEntries, List.flatMap_nil, List.nil_append, List.foldlM_cons, closed,
      List.reverse_cons]
    rfl
  | cons entry entries inductionHypothesis =>
    obtain ⟨next, value⟩ := entry
    have opened : [.comma, .string next, .colon].foldlM step?
        ⟨.after tree, .object done key :: frames⟩ =
          some ⟨.value, .object ((key, tree) :: done) next :: frames⟩ := rfl
    have split (more : List Token) : (.comma :: .string next :: .colon :: more : List Token) =
        [.comma, .string next, .colon] ++ more := rfl
    rw [tokensOfEntries, List.flatMap_cons, split, List.append_assoc, List.append_assoc,
      List.foldlM_append, opened, Option.bind_eq_bind, Option.bind_some,
      areRead _ List.mem_cons_self,
      inductionHypothesis (fun entry later => areRead entry (List.mem_cons_of_mem _ later)),
      List.reverse_cons, List.append_assoc]
    rfl

/-- Joined parts are the first of them and the others with what joins them in front. -/
theorem intercalate_cons_eq {α : Type} (separator first : List α) (others : List (List α)) :
    separator.intercalate (first :: others) = first ++ others.flatMap (separator ++ ·) := by
  induction others generalizing first with
  | nil => simp
  | cons second others inductionHypothesis =>
    rw [List.intercalate_cons_cons, inductionHypothesis, List.flatMap_cons, List.append_assoc,
      List.append_assoc]

/-- Every tree is read from its tokens. -/
theorem isRead (tree : Tree) : tree.IsRead := by
  induction tree using inductionOn with
  | null => exact fun _ _ => rfl
  | bool value => exact fun _ _ => rfl
  | numeral value => exact fun _ _ => rfl
  | string pieces => exact fun _ _ => rfl
  | array items inductionHypothesis =>
    intro frames rest
    cases items with
    | nil => rfl
    | cons item items =>
      have begun : step? ⟨.value, frames⟩ .openBracket = some ⟨.firstItem, frames⟩ := rfl
      rw [tokens, tokensOfItems, intercalate_cons_eq, List.cons_append, List.foldlM_cons, begun,
        Option.bind_eq_bind, Option.bind_some, List.append_assoc, List.append_assoc,
        foldlM_firstItem, inductionHypothesis item List.mem_cons_self]
      exact foldlM_items (fun item later => inductionHypothesis item (List.mem_cons_of_mem _ later))
        item [] frames rest
  | object entries inductionHypothesis =>
    intro frames rest
    cases entries with
    | nil => rfl
    | cons entry entries =>
      obtain ⟨key, value⟩ := entry
      have begun : [.openBrace, .string key, .colon].foldlM step? ⟨.value, frames⟩ =
          some ⟨.value, .object [] key :: frames⟩ := rfl
      have split (more : List Token) : (.openBrace :: .string key :: .colon :: more : List Token) =
          [.openBrace, .string key, .colon] ++ more := rfl
      rw [tokens, tokensOfEntries, intercalate_cons_eq]
      simp only [List.cons_append, List.append_assoc]
      rw [split, List.foldlM_append, begun, Option.bind_eq_bind, Option.bind_some,
        inductionHypothesis (key, value) List.mem_cons_self]
      exact foldlM_entries
        (fun entry later => inductionHypothesis entry (List.mem_cons_of_mem _ later))
        key value [] frames rest

/-- The tokens of a tree spell the tree. -/
theorem ofTokens?_tokens (tree : Tree) : ofTokens? tree.tokens = some tree := by
  have read := tree.isRead [] []
  rw [List.append_nil] at read
  rw [ofTokens?, read]
  rfl

end OpenApiTools.Json.Tree
