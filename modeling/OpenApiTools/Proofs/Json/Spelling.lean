import Mathlib.Data.List.Forall2
import OpenApiTools.Json.Printer
import OpenApiTools.Json.Token

/-!
# Characters that spell tokens

The reader of tokens takes one character at a time, and the last token may be unfinished until a
character comes that is no part of it. Characters spell tokens if, read where no token is
unfinished, they add exactly these. Spellings may be put one after the other wherever a blank or a
bracket, a comma or a colon comes next. What the printer writes for strings is a spelling, and so
are its brackets around the spellings of entries, whatever blanks the layout puts between them.
-/

namespace OpenApiTools.Json

namespace Token

/-- The tokens read so far, in reverse, with the unfinished one among them. None inside a string. -/
def Lexer.closed? (lexer : Lexer) : Option (List Token) :=
  match lexer.mode with
  | .between => some lexer.tokens
  | .word letters => (ofWord? letters.reverse).map (· :: lexer.tokens)
  | .numeral chars => (Numeral.ofChars? chars.reverse).map (.numeral · :: lexer.tokens)
  | _ => none

/-- The end of a text closes the unfinished token. -/
theorem finish?_eq (lexer : Lexer) : finish? lexer = lexer.closed?.map List.reverse := by
  obtain ⟨mode, tokens⟩ := lexer
  cases mode with
  | word letters => simp [finish?, Lexer.closed?, Function.comp_def]
  | numeral chars => simp [finish?, Lexer.closed?, Function.comp_def]
  | _ => rfl

/-- A character that is a token by itself is one of six. -/
theorem eq_of_ofPunctuation? {c : Char} {token : Token} (isToken : ofPunctuation? c = some token) :
    c = '\x7b' ∨ c = '\x7d' ∨ c = '[' ∨ c = ']' ∨ c = ',' ∨ c = ':' := by
  unfold ofPunctuation? at isToken
  repeat' split at isToken
  all_goals simp_all

/-- Characters that are part of no word, numeral or string. -/
def isDelimiter (c : Char) : Bool := isSpace c || (ofPunctuation? c).isSome

/-- A delimiter continues neither a word nor a numeral. -/
theorem not_continues_of_isDelimiter {c : Char} (delimits : isDelimiter c = true) :
    c.isLower = false ∧ isNumeralChar c = false := by
  rw [isDelimiter, Bool.or_eq_true] at delimits
  rcases delimits with space | punctuation
  · simp only [isSpace, Bool.or_eq_true, beq_iff_eq] at space
    rcases space with ((rfl | rfl) | rfl) | rfl <;> decide
  · obtain ⟨token, isToken⟩ := Option.isSome_iff_exists.mp punctuation
    rcases eq_of_ofPunctuation? isToken with rfl | rfl | rfl | rfl | rfl | rfl <;> decide

/-- A delimiter closes the unfinished token, and is read as if there had been none. -/
theorem step?_of_isDelimiter {lexer : Lexer} {tokens : List Token} {c : Char}
    (closed : lexer.closed? = some tokens) (delimits : isDelimiter c = true) :
    step? lexer c = begin? tokens c := by
  obtain ⟨notLower, notNumeral⟩ := not_continues_of_isDelimiter delimits
  obtain ⟨mode, before⟩ := lexer
  cases mode with
  | between =>
    obtain rfl := Option.some.inj closed
    rfl
  | word letters =>
    obtain ⟨token, isWord, rfl⟩ := Option.map_eq_some_iff.mp closed
    simp only [step?, notLower, isWord, Option.bind_some, Bool.false_eq_true, if_false]
  | numeral chars =>
    obtain ⟨value, isNumeral, rfl⟩ := Option.map_eq_some_iff.mp closed
    simp only [step?, notNumeral, isNumeral, Option.bind_some, Bool.false_eq_true, if_false]
  | _ => contradiction

/-- Characters spell tokens: read where no token is unfinished, they add these. -/
def Spells (chars : List Char) (tokens : List Token) : Prop :=
  ∀ before, (chars.foldlM step? ⟨.between, before⟩).bind Lexer.closed? =
    some (tokens.reverse ++ before)

/-- What a text spells is what it is cut into. -/
theorem scan?_of_spells {chars : List Char} {tokens : List Token} (spells : Spells chars tokens) :
    scan? chars = some tokens := by
  have whole := spells []
  rw [List.append_nil] at whole
  obtain ⟨lexer, read, closed⟩ := Option.bind_eq_some_iff.mp whole
  rw [scan?, read, Option.bind_some, finish?_eq, closed, Option.map_some, List.reverse_reverse]

namespace Spells

variable {chars more : List Char} {tokens others : List Token} {c : Char}

theorem nil : Spells [] [] := fun _ => rfl

/-- Spellings follow each other where the second starts with a delimiter. -/
theorem append (left : Spells chars tokens) (right : Spells more others)
    (apart : ∀ c ∈ more.head?, isDelimiter c = true) :
    Spells (chars ++ more) (tokens ++ others) := by
  intro before
  have first := left before
  obtain ⟨lexer, read, closed⟩ := Option.bind_eq_some_iff.mp first
  have second := right (tokens.reverse ++ before)
  rw [List.foldlM_append, read, List.reverse_append, List.append_assoc, ← second]
  cases more with
  | nil => exact closed
  | cons c rest =>
    rw [Option.bind_eq_bind, Option.bind_some, List.foldlM_cons, List.foldlM_cons,
      step?_of_isDelimiter closed (apart c rfl)]
    rfl

/-- Blanks between tokens are skipped. -/
theorem blank (isBlank : isSpace c = true) (rest : Spells chars tokens) :
    Spells (c :: chars) tokens := by
  intro before
  have skipped : step? ⟨.between, before⟩ c = some ⟨.between, before⟩ := if_pos isBlank
  rw [List.foldlM_cons, skipped]
  exact rest before

/-- Runs of blanks between tokens are skipped. -/
theorem blanks {run : List Char} (areBlank : ∀ c ∈ run, isSpace c = true)
    (rest : Spells chars tokens) : Spells (run ++ chars) tokens := by
  induction run with
  | nil => exact rest
  | cons c run inductionHypothesis =>
    exact blank (areBlank c List.mem_cons_self)
      (inductionHypothesis fun c inRun => areBlank c (List.mem_cons_of_mem _ inRun))

/-- A bracket, a comma or a colon spells its token. -/
theorem punctuation {token : Token} (isToken : ofPunctuation? c = some token)
    (rest : Spells chars tokens) : Spells (c :: chars) (token :: tokens) := by
  intro before
  have read : step? ⟨.between, before⟩ c = some ⟨.between, token :: before⟩ := by
    have apart : ¬ isSpace c = true ∧ ¬ c = '\"' ∧ ¬ (c = '-' ∨ c.isDigit = true) ∧
        ¬ c.isLower = true := by
      rcases eq_of_ofPunctuation? isToken with rfl | rfl | rfl | rfl | rfl | rfl <;> decide
    obtain ⟨notSpace, notQuote, notNumeral, notLower⟩ := apart
    rw [step?, begin?, if_neg notSpace, if_neg notQuote, if_neg notNumeral, if_neg notLower,
      isToken]
    rfl
  rw [List.foldlM_cons, read, List.reverse_cons, List.append_assoc]
  exact rest (token :: before)

/-- A numeral spells its token. -/
theorem numeral {numeral : Numeral} (first : c = '-' ∨ c.isDigit = true)
    (continues : ∀ c ∈ chars, isNumeralChar c = true)
    (isNumeral : Numeral.ofChars? (c :: chars) = some numeral) :
    Spells (c :: chars) [.numeral numeral] := by
  intro before
  have begun : step? ⟨.between, before⟩ c = some ⟨.numeral [c], before⟩ := by
    have notSpace : ¬ isSpace c = true := by
      intro space
      simp only [isSpace, Bool.or_eq_true, beq_iff_eq] at space
      rcases space with ((rfl | rfl) | rfl) | rfl <;> exact absurd first (by decide)
    have notQuote : c ≠ '\"' := by
      rintro rfl
      exact absurd first (by decide)
    exact (if_neg notSpace).trans ((if_neg notQuote).trans (if_pos first))
  have read (done : List Char) : chars.foldlM step? ⟨.numeral done, before⟩ =
      some ⟨.numeral (chars.reverse ++ done), before⟩ := by
    clear isNumeral
    induction chars generalizing done with
    | nil => rfl
    | cons next rest inductionHypothesis =>
      have step : step? ⟨.numeral done, before⟩ next = some ⟨.numeral (next :: done), before⟩ :=
        if_pos (continues next List.mem_cons_self)
      rw [List.foldlM_cons, step, List.reverse_cons, List.append_assoc]
      exact inductionHypothesis (fun c later => continues c (List.mem_cons_of_mem _ later)) _
  rw [List.foldlM_cons, begun, Option.bind_eq_bind, Option.bind_some, read, Option.bind_some,
    Lexer.closed?]
  simp [isNumeral]

end Spells

end Token

namespace Piece

/-- The piece that a character is written as: a code unit for a control character without a short
escape, and otherwise the character itself. -/
def ofChar (c : Char) : Piece :=
  if c.toNat < 0x20 ∧ c ∉ ['\x08', '\x0c', '\n', '\r', '\t'] then .unit c.toNat else .char c

end Piece

namespace Token

/-- A hexadecimal digit is read as it is written. -/
theorem digit?_digitChar {digit : Nat} (small : digit < 16) :
    Text.digit? 16 (Nat.digitChar digit) = some digit := by
  revert digit
  decide

/-- Inside a string, what is written for a character adds its piece. -/
theorem foldlM_writeChar (pieces : List Piece) (before : List Token) (c : Char) :
    (writeChar c).foldlM step? ⟨.string pieces, before⟩ =
      some ⟨.string (Piece.ofChar c :: pieces), before⟩ := by
  by_cases short : c ∈ ['\"', '\\', '\x08', '\x0c', '\n', '\r', '\t']
  · simp only [List.mem_cons, List.not_mem_nil, or_false] at short
    rcases short with rfl | rfl | rfl | rfl | rfl | rfl | rfl <;> rfl
  · simp only [List.mem_cons, List.not_mem_nil, or_false, not_or] at short
    obtain ⟨notQuote, notBackslash, notBackspace, notFormFeed, notLine, notReturn, notTab⟩ := short
    by_cases control : c.toNat < 0x20
    · have written : writeChar c = ['\\', 'u', '0', '0', Nat.digitChar (c.toNat / 16),
          Nat.digitChar (c.toNat % 16)] := by
        simp [writeChar, notQuote, notBackslash, notBackspace, notFormFeed, notLine, notReturn,
          notTab, control]
      have piece : Piece.ofChar c = .unit c.toNat := by
        simp [Piece.ofChar, notBackspace, notFormFeed, notLine, notReturn, notTab, control]
      have high : Text.digit? 16 (Nat.digitChar (c.toNat / 16)) = some (c.toNat / 16) :=
        digit?_digitChar (by omega)
      have low : Text.digit? 16 (Nat.digitChar (c.toNat % 16)) = some (c.toNat % 16) :=
        digit?_digitChar (by omega)
      have code : ((0 * 16 + 0) * 16 + c.toNat / 16) * 16 + c.toNat % 16 = c.toNat := by omega
      have zeros : ['\\', 'u', '0', '0'].foldlM step? ⟨.string pieces, before⟩ =
          some ⟨.unicode pieces [0, 0], before⟩ := rfl
      have highRead : step? ⟨.unicode pieces [0, 0], before⟩ (Nat.digitChar (c.toNat / 16)) =
          some ⟨.unicode pieces [c.toNat / 16, 0, 0], before⟩ := by
        simp only [step?, high, Option.map_some]
      have lowRead : step? ⟨.unicode pieces [c.toNat / 16, 0, 0], before⟩
          (Nat.digitChar (c.toNat % 16)) = some ⟨.string (.unit c.toNat :: pieces), before⟩ := by
        simp only [step?, low, Option.map_some, code]
      have split : ['\\', 'u', '0', '0', Nat.digitChar (c.toNat / 16),
          Nat.digitChar (c.toNat % 16)] = ['\\', 'u', '0', '0'] ++
            [Nat.digitChar (c.toNat / 16), Nat.digitChar (c.toNat % 16)] := rfl
      rw [written, piece, split, List.foldlM_append, zeros, Option.bind_eq_bind, Option.bind_some,
        List.foldlM_cons, highRead, Option.bind_eq_bind, Option.bind_some, List.foldlM_cons,
        lowRead]
      rfl
    · have written : writeChar c = [c] := by
        simp [writeChar, notQuote, notBackslash, notBackspace, notFormFeed, notLine, notReturn,
          notTab, control]
      have piece : Piece.ofChar c = .char c := by
        simp [Piece.ofChar, control]
      have read : step? ⟨.string pieces, before⟩ c = some ⟨.string (.char c :: pieces), before⟩ :=
        (if_neg notQuote).trans ((if_neg notBackslash).trans (if_neg control))
      rw [written, piece, List.foldlM_cons, read]
      rfl

/-- A string in quotes spells the pieces of its characters. -/
theorem spells_writeString (text : String) :
    Spells (writeString text) [.string (text.toList.map Piece.ofChar)] := by
  intro before
  have read (chars : List Char) (pieces : List Piece) :
      (chars.flatMap writeChar).foldlM step? ⟨.string pieces, before⟩ =
        some ⟨.string ((chars.map Piece.ofChar).reverse ++ pieces), before⟩ := by
    induction chars generalizing pieces with
    | nil => rfl
    | cons c rest inductionHypothesis =>
      rw [List.flatMap_cons, List.foldlM_append, foldlM_writeChar, Option.bind_eq_bind,
        Option.bind_some, inductionHypothesis, List.map_cons, List.reverse_cons, List.append_assoc]
      rfl
  have opened : step? ⟨.between, before⟩ '\"' = some ⟨.string [], before⟩ := rfl
  have closed (pieces : List Piece) : step? ⟨.string pieces, before⟩ '\"' =
      some ⟨.between, .string pieces.reverse :: before⟩ := rfl
  rw [writeString, List.foldlM_cons, opened, Option.bind_eq_bind, Option.bind_some,
    List.foldlM_append, read, Option.bind_eq_bind, Option.bind_some, List.foldlM_cons, closed,
    List.append_nil, List.reverse_reverse]
  rfl

end Token

namespace Layout

/-- A layout puts blanks only between tokens. -/
structure IsBlank (layout : Layout) : Prop where
  gap : ∀ depth, ∀ c ∈ layout.gap depth, Token.isSpace c = true
  afterColon : ∀ c ∈ layout.afterColon, Token.isSpace c = true

/-- The compact layout puts nothing between tokens. -/
theorem isBlank_compact : compact.IsBlank where
  gap := fun _ _ inGap => absurd inGap List.not_mem_nil
  afterColon := fun _ inGap => absurd inGap List.not_mem_nil

/-- The indented layout puts line feeds and spaces between tokens. -/
theorem isBlank_indented : indented.IsBlank where
  gap := by
    intro depth c inGap
    rcases List.mem_cons.mp inGap with rfl | inIndentation
    · rfl
    · rw [List.eq_of_mem_replicate inIndentation]
      rfl
  afterColon := by
    intro c inGap
    rw [List.mem_singleton.mp inGap]
    rfl

variable {layout : Layout} {depth : Nat} {opening closing : Char} {opened closed : Token}
  {entries : List (List Char)} {spelled : List (List Token)}

open Token

/-- Entries with commas between them and a bracket at the end spell the tokens of the entries with
those of commas between them and that of the bracket at the end. -/
theorem spells_separate (isBlank : layout.IsBlank)
    (isClosing : ofPunctuation? closing = some closed)
    (spell : List.Forall₂ Spells entries spelled) (outer : Nat) :
    Spells (layout.separate depth entries ++ (layout.gap outer ++ [closing]))
      ([.comma].intercalate spelled ++ [closed]) := by
  have ending : Spells (layout.gap outer ++ [closing]) [closed] :=
    .blanks (isBlank.gap outer) (.punctuation isClosing .nil)
  have endsEntry : ∀ c ∈ (layout.gap outer ++ [closing]).head?, isDelimiter c = true := by
    intro c first
    rcases List.mem_append.mp (List.mem_of_head? first) with inGap | isLast
    · rw [isDelimiter, isBlank.gap outer c inGap]
      rfl
    · rw [List.mem_singleton.mp isLast, isDelimiter, isClosing]
      exact Bool.or_true _
  induction spell with
  | nil => exact ending
  | @cons entry tokens entries spelled isEntry others inductionHypothesis =>
    cases others with
    | nil =>
      rw [separate, List.append_assoc, List.intercalate_singleton]
      exact .blanks (isBlank.gap depth) (isEntry.append ending endsEntry)
    | cons _ _ =>
      have comma : Spells (',' :: (layout.separate depth _ ++ (layout.gap outer ++ [closing])))
          (.comma :: ([.comma].intercalate _ ++ [closed])) :=
        .punctuation rfl inductionHypothesis
      have both := isEntry.append comma fun c first => by
        obtain rfl := Option.some.inj first
        rfl
      rw [List.intercalate_cons_cons]
      simpa [separate] using Spells.blanks (isBlank.gap depth) both

/-- Entries in brackets spell the tokens of the entries in those of the brackets. -/
theorem spells_enclose (isBlank : layout.IsBlank) (isOpening : ofPunctuation? opening = some opened)
    (isClosing : ofPunctuation? closing = some closed)
    (spell : List.Forall₂ Spells entries spelled) :
    Spells (layout.enclose depth opening closing entries)
      (opened :: ([.comma].intercalate spelled ++ [closed])) := by
  unfold enclose
  split
  · rename_i empty
    obtain rfl := List.isEmpty_iff.mp empty
    cases spell
    exact .punctuation isOpening (.punctuation isClosing .nil)
  · rw [List.append_assoc]
    exact .punctuation isOpening (spells_separate isBlank isClosing spell depth)

/-- A key and a value spell their tokens with that of a colon between them. -/
theorem spells_field {key value : List Char} {keyTokens valueTokens : List Token}
    (isBlank : layout.IsBlank) (isKey : Spells key keyTokens) (isValue : Spells value valueTokens) :
    Spells (layout.field key value) (keyTokens ++ .colon :: valueTokens) := by
  have colon : Spells (':' :: (layout.afterColon ++ value)) (.colon :: valueTokens) :=
    .punctuation rfl (.blanks isBlank.afterColon isValue)
  rw [field, List.append_assoc]
  refine isKey.append colon fun c first => ?_
  obtain rfl := Option.some.inj first
  rfl

end Layout

end OpenApiTools.Json
