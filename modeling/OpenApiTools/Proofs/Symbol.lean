import Mathlib.Data.List.Basic
import OpenApiTools.Text.Symbol

/-!
# Texts among bytes

The symbols of bytes are the characters of a text if and only if the bytes are the text in UTF-8. In
bytes that are no text, the symbols are cut where the characters in them begin and end.
-/

namespace OpenApiTools.Text

/-- Bytes begin with a character if and only if they begin with its encoding. -/
theorem firstChar?_eq_some_iff {bytes : List UInt8} {c : Char} :
    firstChar? bytes = some c ↔ ∃ rest, bytes = String.utf8EncodeChar c ++ rest := by
  constructor
  · intro first
    obtain ⟨rest, parts⟩ := ByteArray.exists_of_utf8DecodeChar?_eq_some first
    have taken : bytes.take 4 = String.utf8EncodeChar c ++ rest.data.toList := by
      have lists := congrArg (fun array => array.data.toList) parts
      simpa only [List.toList_data_toByteArray, ByteArray.data_append, Array.toList_append]
        using lists
    refine ⟨rest.data.toList ++ bytes.drop 4, ?_⟩
    rw [← List.append_assoc, ← taken, List.take_append_drop]
  · rintro ⟨rest, rfl⟩
    have short : (String.utf8EncodeChar c).length ≤ 4 := by
      rw [String.length_utf8EncodeChar]
      exact c.utf8Size_le_four
    rw [firstChar?, List.take_append, List.take_of_length_le short, List.toByteArray_append]
    exact ByteArray.utf8DecodeChar?_utf8EncodeChar_append

/-- The bytes of a character that has been read are passed over. -/
theorem symbolsAfter_append (passed rest : List UInt8) :
    symbolsAfter passed.length (passed ++ rest) = symbolsAfter 0 rest := by
  induction passed with
  | nil => rfl
  | cons byte passed inductionHypothesis => exact inductionHypothesis

/-- The encoding of a character is one symbol, whatever follows. -/
theorem symbolsAfter_encoded (c : Char) (rest : List UInt8) :
    symbolsAfter 0 (String.utf8EncodeChar c ++ rest) = .char c :: symbolsAfter 0 rest := by
  have first : firstChar? (String.utf8EncodeChar c ++ rest) = some c :=
    firstChar?_eq_some_iff.mpr ⟨rest, rfl⟩
  have size := String.length_utf8EncodeChar c
  cases encoded : String.utf8EncodeChar c with
  | nil => exact absurd encoded String.utf8EncodeChar_ne_nil
  | cons byte others =>
    rw [encoded] at first size
    have passed : c.utf8Size - 1 = others.length := by
      rw [← size, List.length_cons, Nat.add_sub_cancel]
    rw [List.cons_append] at first ⊢
    simp only [symbolsAfter, first]
    rw [passed, symbolsAfter_append]

/-- The symbols of bytes are characters only if the bytes encode them one after the other. -/
theorem symbolsAfter_eq_map_char_iff {bytes : List UInt8} {chars : List Char} :
    symbolsAfter 0 bytes = chars.map Symbol.char ↔ bytes = chars.flatMap String.utf8EncodeChar := by
  constructor
  · intro isText
    induction chars generalizing bytes with
    | nil =>
      cases bytes with
      | nil => rfl
      | cons byte rest =>
        rw [symbolsAfter] at isText
        split at isText <;> contradiction
    | cons c chars inductionHypothesis =>
      have first : firstChar? bytes = some c := by
        cases bytes with
        | nil => contradiction
        | cons byte rest =>
          rw [symbolsAfter, List.map_cons] at isText
          split at isText
          · rename_i found
            rw [found, Symbol.char.inj (List.head_eq_of_cons_eq isText)]
          · exact absurd (List.head_eq_of_cons_eq isText) (by simp)
      obtain ⟨rest, rfl⟩ := firstChar?_eq_some_iff.mp first
      rw [symbolsAfter_encoded, List.map_cons] at isText
      rw [List.flatMap_cons, inductionHypothesis (List.tail_eq_of_cons_eq isText)]
  · rintro rfl
    induction chars with
    | nil => rfl
    | cons c chars inductionHypothesis =>
      rw [List.flatMap_cons, symbolsAfter_encoded, inductionHypothesis, List.map_cons]

/-- The symbols of bytes are the characters of a text if and only if the bytes are the text. -/
theorem symbols_eq_map_char_iff {bytes : ByteArray} {text : String} :
    symbols bytes = text.toList.map Symbol.char ↔ bytes = text.toUTF8 := by
  have encoded : text.toUTF8 = (text.toList.flatMap String.utf8EncodeChar).toByteArray := by
    rw [String.toUTF8_eq_toByteArray, ← String.utf8Encode_toList, List.utf8Encode]
  rw [symbols, symbolsAfter_eq_map_char_iff, encoded]
  constructor
  · intro lists
    apply ByteArray.ext
    rw [List.data_toByteArray, ← lists, Array.toArray_toList]
  · rintro rfl
    exact List.toList_data_toByteArray

/-- Bytes are read as a text if and only if they encode it. -/
theorem fromUTF8?_eq_some_iff {bytes : ByteArray} {text : String} :
    String.fromUTF8? bytes = some text ↔ bytes = text.toUTF8 := by
  unfold String.fromUTF8?
  constructor
  · intro isText
    split at isText
    · obtain rfl := Option.some.inj isText
      rfl
    · contradiction
  · rintro rfl
    exact dif_pos text.isValidUTF8

end OpenApiTools.Text
