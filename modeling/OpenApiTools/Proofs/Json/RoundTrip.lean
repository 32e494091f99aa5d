import OpenApiTools.Json.Reader
import OpenApiTools.Proofs.Entries
import OpenApiTools.Proofs.Json.Numeral
import OpenApiTools.Proofs.Json.Spelling
import OpenApiTools.Proofs.Json.Tree
import OpenApiTools.Proofs.Symbol

/-!
# Reading what has been printed

A value without repeated keys whose numbers are integers that fit a word is read back from its text
as it is, in every layout that puts blanks only between tokens. The text spells the tokens of a
parse tree that has the shape of the value, and that tree has the value again.
-/

namespace OpenApiTools.Json

namespace Piece

/-- The pieces that the characters of a text are written as. -/
def ofText (text : String) : List Piece :=
  text.toList.map ofChar

/-- Whatever follows the piece of a character, it stands for the character. -/
theorem decode?_ofChar_cons (c : Char) (rest : List Piece) :
    decode? (ofChar c :: rest) = (decode? rest).map (c :: ·) := by
  unfold ofChar
  split
  · rename_i control
    have notHigh : isHighSurrogate c.toNat = false := by
      simp only [isHighSurrogate, Bool.and_eq_false_iff, decide_eq_false_iff_not]
      omega
    have notLow : isLowSurrogate c.toNat = false := by
      simp only [isLowSurrogate, Bool.and_eq_false_iff, decide_eq_false_iff_not]
      omega
    have same : Char.ofNat c.toNat = c := Char.ofNat_toNat c
    -- A code unit is read together with the one after it, if there is one.
    cases rest with
    | nil => simp [decode?, notHigh, notLow, same]
    | cons piece rest =>
      cases piece with
      | char other => simp [decode?, notHigh, notLow, same]
      | unit code => simp [decode?, notHigh, notLow, same]
      | stray byte => simp [decode?, notHigh, notLow, same]
  · rfl

/-- The pieces of a text stand for the text. -/
theorem text?_ofText (text : String) : text? (ofText text) = some text := by
  have decoded (chars : List Char) : decode? (chars.map ofChar) = some chars := by
    induction chars with
    | nil => rfl
    | cons c rest inductionHypothesis =>
      rw [List.map_cons, decode?_ofChar_cons, inductionHypothesis, Option.map_some]
  rw [text?, ofText, decoded, Option.map_some, String.ofList_toList]

end Piece

namespace Number

variable {value : Number}

/-- The numeral that a number is written as, if it is written as one. -/
def numeral (value : Number) : Numeral :=
  (Numeral.ofChars? value.write).getD ⟨false, [0], [], none⟩

/-- An integer that fits a word is written as its numeral, which stands for it. -/
theorem ofChars?_write (fits : value.FitsWord) :
    Numeral.ofChars? value.write = some value.numeral ∧ value.numeral.number? = some value := by
  cases value with
  | integer value =>
    obtain ⟨numeral, isNumeral, isValue⟩ := Numeral.exists_ofChars?_writeInt fits
    have same : (integer value).numeral = numeral := by
      rw [Number.numeral, write, isNumeral, Option.getD_some]
    rw [same]
    exact ⟨isNumeral, isValue⟩
  | double value => exact fits.elim

/-- An integer is written as a minus sign or a digit and further digits. -/
theorem exists_writeInt_eq_cons (value : Int) :
    ∃ c rest, writeInt value = c :: rest ∧ (c = '-' ∨ c.isDigit = true) ∧
      ∀ c ∈ rest, c.isDigit = true := by
  cases value with
  | ofNat n =>
    have digits : ∀ c ∈ Nat.toDigits 10 n, c.isDigit = true := fun c isThere =>
      Nat.isDigit_of_mem_toDigits (by decide) (by decide) isThere
    cases written : Nat.toDigits 10 n with
    | nil => exact absurd written Nat.toDigits_ne_nil
    | cons c rest =>
      rw [written] at digits
      exact ⟨c, rest, written, .inr (digits c List.mem_cons_self),
        fun c later => digits c (List.mem_cons_of_mem _ later)⟩
  | negSucc n =>
    exact ⟨'-', _, rfl, .inl rfl, fun c isThere =>
      Nat.isDigit_of_mem_toDigits (by decide) (by decide) isThere⟩

/-- An integer that fits a word spells its numeral. -/
theorem spells_write (fits : value.FitsWord) :
    Token.Spells value.write [.numeral value.numeral] := by
  have isNumeral := (ofChars?_write fits).1
  cases value with
  | integer value =>
    obtain ⟨c, rest, written, first, digits⟩ := exists_writeInt_eq_cons value
    rw [write, written] at isNumeral ⊢
    apply Token.Spells.numeral first _ isNumeral
    intro c isThere
    simp [Token.isNumeralChar, digits c isThere]
  | double value => exact fits.elim

end Number

mutual

/-- The parse tree with the shape of a value. -/
def toTree : Json → Tree
  | .null => .null
  | .bool value => .bool value
  | .number value => .numeral value.numeral
  | .string value => .string (Piece.ofText value)
  | .array items => .array (treesOfItems items)
  | .object fields => .object (treesOfFields fields)

/-- The parse trees of the items of an array. -/
def treesOfItems : List Json → List Tree
  | [] => []
  | item :: rest => toTree item :: treesOfItems rest

/-- The entries of the parse tree of an object. -/
def treesOfFields : List (String × Json) → List (List Piece × Tree)
  | [] => []
  | (key, value) :: rest => (Piece.ofText key, toTree value) :: treesOfFields rest

end

section Spelling

variable {layout : Layout}

/-- The items of an array spell the tokens of their trees if each of them does. -/
theorem forall₂_spells_writeItems {items : List Json} {depth : Nat}
    (spell : ∀ item ∈ items, Token.Spells (item.write layout depth) item.toTree.tokens) :
    List.Forall₂ Token.Spells (writeItems layout depth items)
      (Tree.tokensOfItems (treesOfItems items)) := by
  induction items with
  | nil => exact .nil
  | cons item rest inductionHypothesis =>
    rw [writeItems, treesOfItems, Tree.tokensOfItems]
    exact .cons (spell item List.mem_cons_self)
      (inductionHypothesis fun item later => spell item (List.mem_cons_of_mem _ later))

/-- The fields of an object spell the tokens of their keys and trees if each value does. -/
theorem forall₂_spells_writeFields (isBlank : layout.IsBlank) {fields : Fields} {depth : Nat}
    (spell : ∀ field ∈ fields, Token.Spells (field.2.write layout depth) field.2.toTree.tokens) :
    List.Forall₂ Token.Spells (writeFields layout depth fields)
      (Tree.tokensOfEntries (treesOfFields fields)) := by
  induction fields with
  | nil => exact .nil
  | cons field rest inductionHypothesis =>
    obtain ⟨key, value⟩ := field
    rw [writeFields, treesOfFields, Tree.tokensOfEntries]
    exact .cons
      (Layout.spells_field isBlank (Token.spells_writeString key) (spell _ List.mem_cons_self))
      (inductionHypothesis fun field later => spell field (List.mem_cons_of_mem _ later))

/-- A value whose numbers are integers that fit a word spells the tokens of its tree. -/
theorem spells_write (isBlank : layout.IsBlank) (value : Json) (integral : value.Integral)
    (depth : Nat) : Token.Spells (value.write layout depth) value.toTree.tokens := by
  induction value using inductionOn generalizing depth with
  | null => exact fun _ => rfl
  | bool value => cases value <;> exact fun _ => rfl
  | number value => exact Number.spells_write (integral_number_iff.mp integral)
  | string value => exact Token.spells_writeString value
  | array items inductionHypothesis =>
    have items := integral_array_iff.mp integral
    rw [write, toTree, Tree.tokens]
    apply Layout.spells_enclose isBlank rfl rfl
    apply forall₂_spells_writeItems
    exact fun item isItem => inductionHypothesis item isItem (items item isItem) _
  | object fields inductionHypothesis =>
    have fields := integral_object_iff.mp integral
    rw [write, toTree, Tree.tokens]
    apply Layout.spells_enclose isBlank rfl rfl
    apply forall₂_spells_writeFields isBlank
    exact fun field isField => inductionHypothesis field isField (fields field isField) _

end Spelling

section Evaluation

/-- The trees of items have the items again if each of them has. -/
theorem itemsOfTrees?_treesOfItems {items : List Json} {depth : Nat}
    (read : ∀ item ∈ items, ofTree? depth item.toTree = some item) :
    itemsOfTrees? depth (treesOfItems items) = some items := by
  induction items with
  | nil => rfl
  | cons item rest inductionHypothesis =>
    rw [treesOfItems, itemsOfTrees?, read item List.mem_cons_self,
      inductionHypothesis fun item later => read item (List.mem_cons_of_mem _ later)]
    rfl

/-- The entries of fields have the fields again if the tree of each value has the value. -/
theorem entriesOfTrees?_treesOfFields {fields : Fields} {depth : Nat}
    (read : ∀ field ∈ fields, ofTree? depth field.2.toTree = some field.2) :
    entriesOfTrees? depth (treesOfFields fields) = some fields := by
  induction fields with
  | nil => rfl
  | cons field rest inductionHypothesis =>
    obtain ⟨key, value⟩ := field
    rw [treesOfFields, entriesOfTrees?, Piece.text?_ofText, read _ List.mem_cons_self,
      inductionHypothesis fun field later => read field (List.mem_cons_of_mem _ later)]
    rfl

/-- The tree of a value has the value again, if it nests no deeper than allowed. -/
theorem ofTree?_toTree (value : Json) (integral : value.Integral) (distinct : value.Distinct)
    {depth : Nat} (shallow : value.nesting ≤ depth) : ofTree? depth value.toTree = some value := by
  induction value using inductionOn generalizing depth with
  | null => rfl
  | bool value => rfl
  | number value =>
    rw [toTree, ofTree?, (Number.ofChars?_write (integral_number_iff.mp integral)).2]
    rfl
  | string value =>
    rw [toTree, ofTree?, Piece.text?_ofText]
    rfl
  | array items inductionHypothesis =>
    -- An array is one level of nesting and leaves one less to its items.
    rw [integral_array_iff] at integral
    rw [distinct_array_iff] at distinct
    rw [nesting] at shallow
    have items : itemsOfTrees? (depth - 1) (treesOfItems items) = some items := by
      apply itemsOfTrees?_treesOfItems
      intro item isItem
      exact inductionHypothesis item isItem (integral item isItem) (distinct item isItem)
        (nestingOfItems_le_iff.mp (Nat.le_sub_one_of_lt shallow) item isItem)
    rw [toTree, ofTree?, if_neg (by omega), items]
    rfl
  | object fields inductionHypothesis =>
    rw [integral_object_iff] at integral
    rw [distinct_object_iff] at distinct
    rw [nesting] at shallow
    have entries : entriesOfTrees? (depth - 1) (treesOfFields fields) = some fields := by
      apply entriesOfTrees?_treesOfFields
      intro field isField
      exact inductionHypothesis field isField (integral field isField) (distinct.2 field isField)
        (nestingOfFields_le_iff.mp (Nat.le_sub_one_of_lt shallow) field isField)
    rw [toTree, ofTree?, if_neg (by omega), entries, Option.map_some,
      Entries.ofList_eq_self distinct.1]

end Evaluation

section Bytes

/-- Symbols that are all characters are read as the characters are. -/
theorem Token.scanSymbols?_map_char (chars : List Char) :
    scanSymbols? (chars.map Text.Symbol.char) = scan? chars := by
  rw [scanSymbols?, List.foldlM_map]
  rfl

/-- The bytes of a text are read as the text is. -/
theorem Tree.parseBytes?_toUTF8 (text : String) :
    parseBytes? text.toUTF8 = parse? text.toList := by
  rw [parseBytes?, Text.symbols_eq_map_char_iff.mpr rfl, Token.scanSymbols?_map_char, parse?]

end Bytes

section Text

variable {layout : Layout} {value : Json} {blanks : List Char}

/-- The tree of a value is read from its text, also if blanks follow. -/
theorem Tree.parse?_write_append (isBlank : layout.IsBlank) (integral : value.Integral)
    (areBlank : ∀ c ∈ blanks, Token.isSpace c = true) :
    Tree.parse? (value.write layout 0 ++ blanks) = some value.toTree := by
  have whole : Token.Spells (value.write layout 0 ++ blanks) value.toTree.tokens := by
    have nothing : Token.Spells blanks [] := by
      simpa using Token.Spells.blanks areBlank .nil
    rw [← List.append_nil value.toTree.tokens]
    apply (spells_write isBlank value integral 0).append nothing
    intro c first
    rw [Token.isDelimiter, areBlank c (List.mem_of_head? first)]
    rfl
  rw [Tree.parse?, Token.scan?_of_spells whole, Option.bind_some, Tree.ofTokens?_tokens]

/-- The tree of a value is read from its text in either layout, however deep the value nests. -/
theorem Tree.parse?_of_printed (integral : value.Integral) {text : String}
    (printed : text ∈ [value.compact, value.pretty]) :
    Tree.parse? text.toList = some value.toTree := by
  have readBack {layout : Layout} (isBlank : layout.IsBlank) :
      Tree.parse? (value.render layout).toList = some value.toTree := by
    have nothing : ∀ c ∈ ([] : List Char), Token.isSpace c = true := fun _ isThere =>
      absurd isThere List.not_mem_nil
    simpa [render] using Tree.parse?_write_append isBlank integral nothing
  rcases List.mem_pair.mp printed with rfl | rfl
  · exact readBack Layout.isBlank_compact
  · exact readBack Layout.isBlank_indented

/-- A value is read back from its text, also if blanks follow. -/
theorem parse?_render_append (isBlank : layout.IsBlank) (integral : value.Integral)
    (distinct : value.Distinct) (shallow : value.nesting ≤ depthLimit)
    (areBlank : ∀ c ∈ blanks, Token.isSpace c = true) :
    parse? (value.render layout ++ String.ofList blanks) = some value := by
  rw [parse?, render, ← String.ofList_append, String.toList_ofList, ofChars?,
    Tree.parse?_write_append isBlank integral areBlank, Option.bind_some,
    ofTree?_toTree value integral distinct shallow]

/-- A value is read back from its text in either layout. -/
theorem parse?_of_printed (integral : value.Integral) (distinct : value.Distinct)
    (shallow : value.nesting ≤ depthLimit) {text : String}
    (printed : text ∈ [value.compact, value.pretty]) : parse? text = some value := by
  rw [parse?, ofChars?, Tree.parse?_of_printed integral printed, Option.bind_some,
    ofTree?_toTree value integral distinct shallow]

end Text

end OpenApiTools.Json
