import OpenApiTools.Proofs.Import
import OpenApiTools.Proofs.Json.RoundTrip

/-!
# Documents from printed values

A document comes from a value or from a text. Where the text is that of the value, in either layout,
both ways lead to the same document or to the same error. Such a text is read as JSON, so that its
YAML reading is never asked for, whatever the strings in it look like.
-/

namespace OpenApiTools

namespace Document

/-- A value that is no document has an error of its own; it is never taken for malformed. -/
theorem eq_of_ofJson_eq_error {value : Json} {error : ImportError}
    (failed : ofJson value = .error error) : error = .rootNotObject ∨ error = .missingVersion := by
  unfold ofJson at failed
  split at failed
  · split at failed
    · contradiction
    · exact .inr (Except.error.inj failed).symm
  · exact .inl (Except.error.inj failed).symm

/-- A text that stands for a value: it makes no difference which of the two a document is taken
from. -/
structure StandsFor (text : String) (value : Json) : Prop where
  /-- The text is read as JSON, and what it reads as is the value alone. -/
  parsed : Json.parse? text = some value
  reads : ∀ other, Reads text other ↔ other = value
  /-- The text holds the document that the value is, or fails as the value does. -/
  loaded : load text = ofJson value
  failure : ∀ error, load text = .error error →
    error = .rootNotObject ∨ error = .missingVersion
  /-- The tools of the text are those of the document, whatever the options. -/
  imported : ∀ document, ofJson value = .ok document →
    ∀ options, Toolset.ofText options text = Toolset.ofDocument options document
  rejected : ∀ error, ofJson value = .error error →
    ∀ options, Toolset.ofText options text = .error error

/-- A text with a JSON reading stands for it, whatever YAML reading it has. -/
theorem standsFor_of_parse? {text : String} {value : Json}
    (parsed : Json.parse? text = some value) : StandsFor text value := by
  have isRead : Reads text value := .inl parsed
  have loaded : load text = ofJson value := by
    rw [load, reading?_eq_some_iff.mpr isRead]
  refine ⟨parsed, fun other => ?_, loaded, fun error failed => ?_, ?_, ?_⟩
  · rw [← reading?_eq_some_iff, reading?_eq_some_iff.mpr isRead, Option.some_inj, eq_comm]
  · exact eq_of_ofJson_eq_error (loaded.symm.trans failed)
  · intro document isDocument options
    rw [Toolset.ofText_of_reads isRead, isDocument]
    rfl
  · intro error failed options
    rw [Toolset.ofText_of_reads isRead, failed]
    rfl

/-- A value whose numbers are integers that fit a word, whose objects have no key twice and which
nests no deeper than the reader allows: its text in either layout stands for it. -/
theorem printed_standsFor {value : Json} (integral : value.Integral) (distinct : value.Distinct)
    (shallow : value.nesting ≤ 127) :
    ∀ text ∈ [value.compact, value.pretty], StandsFor text value := by
  intro text printed
  exact standsFor_of_parse? (Json.parse?_of_printed integral distinct shallow printed)

/-- Strings that look like YAML, quotes, backslashes and control characters, the least and the
greatest integer, and empty containers: the texts of such a value stand for it, and the tools of
each are those of the document. -/
theorem printed_standsFor_hostile :
    let value : Json := .object
      [("openapi", .string "3.0.0"),
       ("- \"key\": \\", .string "%YAML 1.2\n--- &a *b\t# !!int\x01\r\u0085 '\"\x7b"),
       ("servers", .array [.object [("url", .string "https://a")]]),
       ("paths", .object [("", .object [("get", .array [.object [], .array [], .null])])]),
       ("numbers", .array
         [.number (.integer 18446744073709551615), .number (.integer (-9223372036854775808))])]
    value.Integral ∧ value.Distinct ∧ value.nesting ≤ 127 ∧
      ∃ toolset, ∀ text ∈ [value.compact, value.pretty],
        StandsFor text value ∧ Toolset.ofText .default text = .ok toolset := by
  intro value
  have integral : value.Integral := by decide
  have distinct : value.Distinct := by simp [value, Entries.keys]
  have shallow : value.nesting ≤ 127 := by decide
  obtain ⟨toolset, imported⟩ :
      ∃ toolset, Toolset.ofDocument .default ⟨value.asObject?.getD []⟩ = .ok toolset := ⟨_, rfl⟩
  refine ⟨integral, distinct, shallow, toolset, fun text printed => ?_⟩
  have stands := printed_standsFor integral distinct shallow text printed
  exact ⟨stands, (stands.imported _ rfl .default).trans imported⟩

end Document

end OpenApiTools
