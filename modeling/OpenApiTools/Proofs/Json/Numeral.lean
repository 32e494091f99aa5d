import OpenApiTools.Json.Printer
import OpenApiTools.Json.Numeral
import OpenApiTools.Proofs.Json.Value

/-!
# Integers in digits

An integer that fits a word is written as a numeral, and the numeral stands for that integer. The
digits have no leading zero, since those of a number are the digits of its tenth and one more.
-/

namespace OpenApiTools.Json.Numeral

/-- The digits of a text that is nothing else, followed by those of what comes after it. -/
theorem takeDigits_append {chars more rest : List Char} {digits others : List Nat}
    (first : takeDigits chars = (digits, [])) (second : takeDigits more = (others, rest)) :
    takeDigits (chars ++ more) = (digits ++ others, rest) := by
  induction chars generalizing digits with
  | nil =>
    obtain ⟨rfl, -⟩ := Prod.mk.inj first
    exact second
  | cons c chars inductionHypothesis =>
    rw [takeDigits] at first
    cases isDigit : Text.digit? 10 c with
    | none =>
      rw [isDigit] at first
      exact absurd (Prod.mk.inj first).2 (List.cons_ne_nil _ _)
    | some digit =>
      rw [isDigit] at first
      obtain ⟨rfl, nothing⟩ := Prod.mk.inj first
      have others : takeDigits chars = ((takeDigits chars).1, []) := Prod.ext rfl nothing
      have later := inductionHypothesis others
      rw [List.cons_append, takeDigits, isDigit]
      simp only [later, List.cons_append]

/-- Appending a digit to others multiplies their value by ten and adds its own. -/
theorem natOfDigits_append (digits : List Nat) (digit : Nat) :
    natOfDigits (digits ++ [digit]) = 10 * natOfDigits digits + digit := by
  rw [natOfDigits, List.foldl_append]
  rfl

/-- A character for a digit is read as that digit. -/
theorem takeDigits_digitChar {digit : Nat} (small : digit < 10) :
    takeDigits [Nat.digitChar digit] = ([digit], []) := by
  revert digit
  decide

/-- The digits that a natural number is written with spell it, and the first is no zero unless it
stands alone. -/
theorem exists_takeDigits_toDigits (n : Nat) :
    ∃ digits, takeDigits (Nat.toDigits 10 n) = (digits, []) ∧ natOfDigits digits = n ∧
      digits ≠ [] ∧ ∀ rest, digits = 0 :: rest → rest = [] := by
  induction n using Nat.strongRecOn with
  | ind n inductionHypothesis =>
    by_cases small : n < 10
    · refine ⟨[n], ?_, ?_, List.cons_ne_nil _ _, ?_⟩
      · rw [Nat.toDigits_of_lt_base small]
        exact takeDigits_digitChar small
      · simp [natOfDigits]
      · exact fun rest same => (List.cons.inj same).2.symm
    · have large : 10 ≤ n := Nat.le_of_not_lt small
      obtain ⟨digits, taken, value, nonempty, noZero⟩ := inductionHypothesis (n / 10) (by omega)
      refine ⟨digits ++ [n % 10], ?_, ?_, by simp, fun rest leading => ?_⟩
      · rw [Nat.toDigits_of_base_le (by decide) large]
        exact takeDigits_append taken (takeDigits_digitChar (Nat.mod_lt _ (by decide)))
      · rw [natOfDigits_append, value]
        omega
      · -- A leading zero would be the tenth, which is at least one.
        cases digits with
        | nil => exact absurd rfl nonempty
        | cons digit others =>
          obtain ⟨rfl, -⟩ := List.cons.inj leading
          rw [noZero others rfl] at value
          simp only [natOfDigits, List.foldl_cons, List.foldl_nil] at value
          omega

/-- Digits without a leading zero are an integer part. -/
theorem takeWhole?_of_takeDigits {chars : List Char} {digits : List Nat}
    (taken : takeDigits chars = (digits, [])) (nonempty : digits ≠ [])
    (noZero : ∀ rest, digits = 0 :: rest → rest = []) :
    takeWhole? chars = some (digits, []) := by
  rw [takeWhole?, taken]
  match digits with
  | [] => exact absurd rfl nonempty
  | [0] => rfl
  | 0 :: _ :: _ => exact absurd (noZero _ rfl) (List.cons_ne_nil _ _)
  | (_ + 1) :: _ => rfl

/-- Digits that are a whole text, after a minus sign or not, are a numeral. -/
theorem ofChars?_of_takeWhole? {chars unsigned : List Char} {negative : Bool} {digits : List Nat}
    (sign : takeMinus chars = (negative, unsigned))
    (whole : takeWhole? unsigned = some (digits, [])) :
    ofChars? chars = some ⟨negative, digits, [], none⟩ := by
  simp [ofChars?, sign, whole, takeFraction?, takeExponent?]

/-- What a natural number is written with does not start with a sign. -/
theorem takeMinus_toDigits (n : Nat) :
    takeMinus (Nat.toDigits 10 n) = (false, Nat.toDigits 10 n) := by
  unfold takeMinus
  split
  · rename_i rest signed
    have isDigit := Nat.isDigit_of_mem_toDigits (b := 10) (n := n) (c := '-') (by decide)
      (by decide) (by rw [signed]; exact List.mem_cons_self)
    exact absurd isDigit (by decide)
  · rfl

/-- An integer that fits a word is written as a numeral that stands for it. -/
theorem exists_ofChars?_writeInt {value : Int}
    (fits : -Nat.pow 2 63 ≤ value ∧ value < Nat.pow 2 64) :
    ∃ numeral, ofChars? (writeInt value) = some numeral ∧
      numeral.number? = some (.integer value) := by
  cases value with
  | ofNat n =>
    obtain ⟨digits, taken, spelled, nonempty, noZero⟩ := exists_takeDigits_toDigits n
    refine ⟨⟨false, digits, [], none⟩, ?_, ?_⟩
    · exact ofChars?_of_takeWhole? (takeMinus_toDigits n)
        (takeWhole?_of_takeDigits taken nonempty noZero)
    · have below : n < Nat.pow 2 64 := by
        have bound := fits.2
        simp only [Int.ofNat_eq_natCast] at bound
        exact_mod_cast bound
      simp [number?, integer?, spelled, below]
  | negSucc n =>
    obtain ⟨digits, taken, spelled, nonempty, noZero⟩ := exists_takeDigits_toDigits (n + 1)
    refine ⟨⟨true, digits, [], none⟩, ?_, ?_⟩
    · have sign : takeMinus ('-' :: Nat.toDigits 10 (n + 1)) = (true, Nat.toDigits 10 (n + 1)) :=
        rfl
      exact ofChars?_of_takeWhole? sign (takeWhole?_of_takeDigits taken nonempty noZero)
    · have below : n + 1 ≤ Nat.pow 2 63 := by
        have bound := fits.1
        have power : Nat.pow 2 63 = 9223372036854775808 := by decide
        rw [power]
        omega
      simp [number?, integer?, spelled, below, Int.negSucc_eq]

end OpenApiTools.Json.Numeral
