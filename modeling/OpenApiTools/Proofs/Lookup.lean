import OpenApiTools.Document

/-!
# Looking values up

A reader of a part of a document gives a result exactly when the part has the shape that the reader
expects. The shapes are stated with constructors, so that a statement about a document need not
mention its readers.
-/

namespace OpenApiTools

namespace Json

variable {key : String} {value : Json}

/-- The fields are those of an object. -/
theorem asObject?_eq_some_iff {fields : Fields} :
    value.asObject? = some fields ↔ value = .object fields := by
  cases value <;> simp [asObject?]

/-- The items are those of an array. -/
theorem asArray?_eq_some_iff {items : List Json} :
    value.asArray? = some items ↔ value = .array items := by
  cases value <;> simp [asArray?]

/-- The text is that of a string. -/
theorem asString?_eq_some_iff {text : String} :
    value.asString? = some text ↔ value = .string text := by
  cases value <;> simp [asString?]

/-- The value under a key is that of a field of an object. -/
theorem get?_eq_some_iff {found : Json} :
    value.get? key = some found ↔
      ∃ fields, value = .object fields ∧ Entries.get? key fields = some found := by
  simp only [get?, Option.bind_eq_bind, Option.bind_eq_some_iff, asObject?_eq_some_iff]

/-- The string under a key is that of a field of an object. -/
theorem getString?_eq_some_iff {text : String} :
    value.getString? key = some text ↔
      ∃ fields, value = .object fields ∧ Entries.get? key fields = some (.string text) := by
  simp only [getString?, Option.bind_eq_bind, Option.bind_eq_some_iff, asString?_eq_some_iff,
    exists_eq_right, get?_eq_some_iff]

end Json

namespace Document

variable {document : Document}

/-- The paths are an object under their key. -/
theorem paths?_eq_some_iff {paths : Fields} :
    document.paths? = some paths ↔
      Entries.get? "paths" document.fields = some (.object paths) := by
  simp only [paths?, Option.bind_eq_some_iff, Json.asObject?_eq_some_iff, exists_eq_right]

/-- The servers are an array under their key. -/
theorem servers?_eq_some_iff {servers : List Json} :
    document.servers? = some servers ↔
      Entries.get? "servers" document.fields = some (.array servers) := by
  simp only [servers?, Option.bind_eq_some_iff, Json.asArray?_eq_some_iff, exists_eq_right]

end Document

end OpenApiTools
