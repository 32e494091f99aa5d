import OpenApiTools.Json.Record
import OpenApiTools.Proofs.Entries
import OpenApiTools.Proofs.Json.RoundTrip

/-!
# Records that are written and read

A record is written as an object of its fields or as an array of their values. What is read of it
depends neither on the order of the fields nor on fields of other names, and a field that holds null
may as well be missing. So fields that say the same as those of a record are read as the record.
-/

namespace OpenApiTools.Json.Record

/-- Fields that say the same as those of a record: these in another order, without some that hold
null, or with fields of other names among them. What such a field holds may nest to any depth, but
its numbers are integers that fit a word. -/
inductive Restates (known : Fields) : Fields → Prop
  | written : Restates known known
  | rearranged {fields others : Fields} (restates : Restates known fields)
    (rearranged : fields.Perm others) : Restates known others
  | dropped {before after : Fields} {name : String}
    (restates : Restates known (before ++ (name, .null) :: after)) :
    Restates known (before ++ after)
  | added {before after : Fields} {name : String} {value : Json}
    (restates : Restates known (before ++ after)) (unknown : name ∉ Entries.keys known)
    (integral : value.Integral) : Restates known (before ++ (name, value) :: after)

/-- What is found of a field stands for its value: it is the tree of the value, or nothing at all
where the value is null. -/
inductive StandsFor : Json → Option Tree → Prop
  | tree (value : Json) : StandsFor value (some value.toTree)
  | missing : StandsFor .null none

/-- Only null has the tree of null. -/
theorem toTree_eq_null_iff {value : Json} : value.toTree = .null ↔ value = .null := by
  cases value <;> simp [toTree]

/-- A tree that stands for a value is its tree. -/
theorem StandsFor.eq_toTree {value : Json} {tree : Tree} (stands : StandsFor value (some tree)) :
    tree = value.toTree := by
  cases stands
  rfl

/-- Only null is stood for by nothing. -/
theorem StandsFor.eq_null {value : Json} (stands : StandsFor value none) : value = .null := by
  cases stands
  rfl

section Unique

variable {left right before after entries : List (String × Tree)} {name other : String}
  {tree : Tree}

/-- The order of the entries does not matter to a field that occurs at most once. -/
theorem unique?_of_perm (rearranged : left.Perm right) (name : String) :
    unique? left name = unique? right name := by
  have named := rearranged.filter (·.1 == name)
  have lengths := named.length_eq
  unfold unique?
  cases isRight : right.filter (·.1 == name) with
  | nil =>
    rw [isRight] at named
    rw [named.eq_nil]
  | cons first others =>
    rw [isRight] at named lengths
    cases others with
    | nil => rw [named.eq_singleton]
    | cons second others =>
      -- A field that occurs several times does so in any order.
      cases isLeft : left.filter (·.1 == name) with
      | nil => simp [isLeft] at lengths
      | cons former formers =>
        cases formers with
        | nil => simp [isLeft] at lengths
        | cons latter formers => rfl

/-- A field of another name does not matter. -/
theorem unique?_append_cons_of_ne (different : other ≠ name) :
    unique? (before ++ (other, tree) :: after) name = unique? (before ++ after) name := by
  unfold unique?
  rw [List.filter_append, List.filter_cons_of_neg (by simpa using different),
    ← List.filter_append]

/-- A field that is found once is the only one of its name. -/
theorem unique?_append_cons_eq_some_iff {found : Option Tree} :
    unique? (before ++ (name, tree) :: after) name = some found ↔
      found = some tree ∧ unique? (before ++ after) name = some none := by
  unfold unique?
  rw [List.filter_append, List.filter_append, List.filter_cons_of_pos (by simp)]
  cases before.filter (·.1 == name) with
  | nil =>
    cases after.filter (·.1 == name) with
    | nil => simp [eq_comm]
    | cons entry others => cases others <;> simp
  | cons entry others =>
    cases others with
    | nil => cases after.filter (·.1 == name) <;> simp
    | cons second others => simp

/-- A field whose name does not occur is not found. -/
theorem unique?_of_not_mem_keys (absent : name ∉ Entries.keys entries) :
    unique? entries name = some none := by
  have nothing : entries.filter (·.1 == name) = [] := by
    rw [List.filter_eq_nil_iff]
    intro entry isThere same
    exact absent (eq_of_beq same ▸ List.mem_map_of_mem isThere)
  rw [unique?, nothing]

/-- Where no name comes twice, every field is found. -/
theorem unique?_of_mem (distinct : (Entries.keys entries).Nodup)
    (isThere : (name, tree) ∈ entries) : unique? entries name = some (some tree) := by
  obtain ⟨before, after, rfl⟩ := List.append_of_mem isThere
  have absent : name ∉ Entries.keys (before ++ after) := by
    have moved : (Entries.keys (before ++ (name, tree) :: after)).Perm
        (name :: Entries.keys (before ++ after)) := List.perm_middle.map Prod.fst
    exact (List.nodup_cons.mp (moved.nodup_iff.mp distinct)).1
  rw [unique?_append_cons_eq_some_iff]
  exact ⟨rfl, unique?_of_not_mem_keys absent⟩

end Unique

section Restates

variable {known fields : Fields} {name : String} {value : Json}

/-- Fields that say the same hold integers only if those of the record do. -/
theorem Restates.integral (restates : Restates known fields)
    (integral : ∀ field ∈ known, field.2.Integral) : ∀ field ∈ fields, field.2.Integral := by
  induction restates with
  | written => exact integral
  | rearranged _ rearranged inductionHypothesis =>
    exact fun field isThere => inductionHypothesis field (rearranged.mem_iff.mpr isThere)
  | dropped _ inductionHypothesis =>
    intro field isThere
    apply inductionHypothesis
    rw [List.mem_append] at isThere ⊢
    exact isThere.imp_right (List.mem_cons_of_mem _)
  | added _ _ isIntegral inductionHypothesis =>
    intro field isThere
    rcases List.mem_cons.mp (List.perm_middle.mem_iff.mp isThere) with rfl | other
    · exact isIntegral
    · exact inductionHypothesis field other

/-- What is found of a field of the record in fields that say the same stands for its value. -/
theorem Restates.exists_unique? (restates : Restates known fields)
    (distinct : (Entries.keys known).Nodup) (isKnown : (name, value) ∈ known) :
    ∃ found, unique? (Entries.mapValues toTree fields) name = some found ∧
      StandsFor value found := by
  induction restates with
  | written =>
    refine ⟨_, unique?_of_mem ?_ (List.mem_map_of_mem isKnown), .tree value⟩
    rwa [Entries.keys_mapValues]
  | @rearranged fields others _ rearranged inductionHypothesis =>
    have same : unique? (Entries.mapValues toTree others) name =
        unique? (Entries.mapValues toTree fields) name :=
      unique?_of_perm (rearranged.symm.map _) name
    rwa [same]
  | @dropped before after other _ inductionHypothesis =>
    obtain ⟨found, isFound, stands⟩ := inductionHypothesis
    rw [Entries.mapValues, List.map_append, List.map_cons] at isFound
    rw [Entries.mapValues, List.map_append]
    by_cases same : other = name
    · subst same
      obtain ⟨rfl, others⟩ := unique?_append_cons_eq_some_iff.mp isFound
      obtain rfl := toTree_eq_null_iff.mp stands.eq_toTree.symm
      exact ⟨none, others, .missing⟩
    · rw [unique?_append_cons_of_ne same] at isFound
      exact ⟨found, isFound, stands⟩
  | @added before after other _ _ unknown _ inductionHypothesis =>
    have different : other ≠ name := by
      rintro rfl
      exact unknown (List.mem_map_of_mem isKnown)
    rw [Entries.mapValues, List.map_append] at inductionHypothesis
    rw [Entries.mapValues, List.map_append, List.map_cons, unique?_append_cons_of_ne different]
    exact inductionHypothesis

end Restates

section Fields

variable {names : List String} {values : List Json} {fields : Fields}

/-- The keys in the tree of an object are read as they are. -/
theorem keyed?_treesOfFields (fields : Fields) :
    keyed? (treesOfFields fields) = some (Entries.mapValues toTree fields) := by
  induction fields with
  | nil => rfl
  | cons field rest inductionHypothesis =>
    obtain ⟨key, value⟩ := field
    simp only [treesOfFields, keyed?, Piece.text?_ofText, inductionHypothesis]
    rfl

/-- The keys of entries are read one after the other. -/
theorem keyed?_append (before after : List (List Piece × Tree)) :
    keyed? (before ++ after) =
      (keyed? before).bind fun former => (keyed? after).map (former ++ ·) := by
  induction before with
  | nil => simp [keyed?]
  | cons entry rest inductionHypothesis =>
    obtain ⟨key, tree⟩ := entry
    rw [List.cons_append, keyed?, keyed?]
    cases Piece.text? key with
    | none => rfl
    | some name =>
      rw [inductionHypothesis]
      cases keyed? rest <;> cases keyed? after <;> rfl

/-- Readings that agree on every name agree on all of them together. -/
theorem mapM_congr {read other : String → Option (Option Tree)}
    (agree : ∀ name ∈ names, read name = other name) : names.mapM read = names.mapM other := by
  induction names with
  | nil => rfl
  | cons name rest inductionHypothesis =>
    rw [List.mapM_cons, List.mapM_cons, agree name List.mem_cons_self,
      inductionHypothesis fun name later => agree name (List.mem_cons_of_mem _ later)]

/-- A field of another name does not matter to a record. -/
theorem fields?_append_cons {before after : List (List Piece × Tree)} {key : List Piece}
    {name : String} {tree : Tree} (isKey : Piece.text? key = some name) (unknown : name ∉ names) :
    fields? names (.object (before ++ (key, tree) :: after)) =
      fields? names (.object (before ++ after)) := by
  have isEntry : keyed? ((key, tree) :: after) = (keyed? after).map ((name, tree) :: ·) := by
    rw [keyed?, isKey]
  rw [fields?, fields?, keyed?_append, keyed?_append, isEntry]
  cases keyed? before with
  | none => rfl
  | some former =>
    cases keyed? after with
    | none => rfl
    | some latter =>
      apply mapM_congr
      rintro known isKnown
      apply unique?_append_cons_of_ne
      rintro rfl
      exact unknown isKnown

/-- Readings of which each stands for a value can be made together. -/
theorem exists_mapM_eq_some {read : String → Option (Option Tree)}
    (reads : List.Forall₂ (fun name value => ∃ found, read name = some found ∧
      StandsFor value found) names values) :
    ∃ found, names.mapM read = some found ∧ List.Forall₂ StandsFor values found := by
  induction reads with
  | nil => exact ⟨[], rfl, .nil⟩
  | cons first _ inductionHypothesis =>
    obtain ⟨found, isFound, stands⟩ := first
    obtain ⟨others, areFound, stand⟩ := inductionHypothesis
    refine ⟨found :: others, ?_, .cons stands stand⟩
    rw [List.mapM_cons, isFound, areFound]
    rfl

/-- An object that says the same as a record is read as a record with its values. -/
theorem Restates.exists_fields? (restates : Restates (names.zip values) fields)
    (distinct : names.Nodup) (complete : names.length = values.length) :
    ∃ found, fields? names (toTree (.object fields)) = some found ∧
      List.Forall₂ StandsFor values found := by
  have keys : Entries.keys (names.zip values) = names := List.map_fst_zip (Nat.le_of_eq complete)
  rw [toTree, fields?, keyed?_treesOfFields, Option.bind_some]
  apply exists_mapM_eq_some
  rw [List.forall₂_iff_zip]
  refine ⟨complete, fun isKnown => restates.exists_unique? ?_ isKnown⟩
  rwa [keys]

/-- The trees of the items of an array, one by one. -/
theorem treesOfItems_eq_map (items : List Json) : treesOfItems items = items.map toTree := by
  induction items with
  | nil => rfl
  | cons item rest inductionHypothesis =>
    rw [treesOfItems, inductionHypothesis, List.map_cons]

/-- An array is read as a record with its items as the values. -/
theorem exists_fields?_array (complete : names.length = values.length) :
    ∃ found, fields? names (toTree (.array values)) = some found ∧
      List.Forall₂ StandsFor values found := by
  refine ⟨values.map fun value => some value.toTree, ?_, ?_⟩
  · rw [toTree, fields?, treesOfItems_eq_map]
    simp [complete]
  · rw [List.forall₂_map_right_iff, List.forall₂_same]
    exact fun value _ => .tree value

end Fields

section Readers

/-- A string is read from its tree. -/
theorem string?_toTree (text : String) : string? (toTree (.string text)) = some text :=
  Piece.text?_ofText text

/-- A natural number of 64 bits is read from its tree. -/
theorem natural?_toTree {n : Nat} (fits : n < Nat.pow 2 64) :
    natural? (toTree (.number (.integer n))) = some n := by
  have fitsWord : (Number.integer n).FitsWord := by
    constructor
    · simp only [Nat.pow_eq]
      omega
    · exact Int.ofNat_lt.mpr fits
  have isNumber := (Number.ofChars?_write fitsWord).2
  have isInteger : (Number.integer n).numeral.integer? = some (n : Int) := by
    unfold Numeral.number? at isNumber
    split at isNumber
    · rename_i value isInteger
      rw [isInteger]
      simpa using isNumber
    · simp at isNumber
  rw [toTree, natural?, isInteger]

/-- A field that may be absent is read as the value that it was written for. -/
theorem optional?_of_standsFor {α β : Type} {encode : α → Json} {read : Tree → Option β}
    {image : α → β} (reads : ∀ value, read (encode value).toTree = some (image value))
    (notNull : ∀ value, encode value ≠ .null) {value : Option α} {found : Option Tree}
    (stands : StandsFor ((value.map encode).getD .null) found) :
    optional? read found = some (value.map image) := by
  cases value with
  | none => cases stands <;> rfl
  | some value =>
    cases found with
    | none => exact absurd stands.eq_null (notNull value)
    | some tree =>
      obtain rfl := stands.eq_toTree
      have notNullTree : (encode value).toTree ≠ .null := mt toTree_eq_null_iff.mp (notNull value)
      have isRead : optional? read (some (encode value).toTree) =
          (read (encode value).toTree).map some := by
        cases tree : (encode value).toTree <;> first | rfl | contradiction
      rw [Option.map_some, Option.getD_some, isRead, reads]
      rfl

end Readers

end OpenApiTools.Json.Record
