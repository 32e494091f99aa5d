import OpenApiTools.Cli.Run
import OpenApiTools.Proofs.DistinctKeys
import OpenApiTools.Proofs.Json.RoundTrip

/-!
# The text that a run writes

What is written for a set of tools is a JSON text in one of two layouts and a line feed. It reads as
the JSON of the tools again: nothing is lost between the two, not even the order of the keys.
-/

namespace OpenApiTools.Toolset

/-- What is written for a text has no key twice at any depth. If all numbers in it are integers that
fit a word and it nests no deeper than the reader allows, then the output in either layout reads as
the same JSON again, with its keys in the same order. -/
theorem output_reads_back {options : Options} {text : String} {toolset : Toolset}
    (imported : ofText options text = .ok toolset) :
    toolset.toJson.Distinct ∧
      (toolset.toJson.Integral → toolset.toJson.nesting ≤ 127 →
        ∀ isPretty, Json.parse? (Cli.renderOutput isPretty toolset) = some toolset.toJson) := by
  have distinct := distinct_of_ofText imported
  refine ⟨distinct, fun integral shallow isPretty => ?_⟩
  have lineFeed : ∀ c ∈ ['\n'], Json.Token.isSpace c = true := by
    intro c isThere
    rw [List.mem_singleton.mp isThere]
    rfl
  cases isPretty with
  | false =>
    exact Json.parse?_render_append Json.Layout.isBlank_compact integral distinct shallow lineFeed
  | true =>
    exact Json.parse?_render_append Json.Layout.isBlank_indented integral distinct shallow lineFeed

/-- A text that repeats a key in the schema of a parameter. -/
def repeatedKeyText : String :=
  "swagger: 2
servers:
- url: a
paths:
  /b:
    put:
      parameters:
      - name: c
        schema:
          default: 1
          default: -2
"

/-- The text that repeats a key has tools, and their JSON can be read back. -/
theorem exists_toolset_of_repeatedKeyText :
    ∃ toolset, ofText .default repeatedKeyText = .ok toolset ∧ toolset.toJson.Integral ∧
      toolset.toJson.nesting ≤ 127 := by
  have admitted : (match ofText .default repeatedKeyText with
      | .ok toolset => decide (toolset.toJson.Integral ∧ toolset.toJson.nesting ≤ 127)
      | .error _ => false) = true := by
    decide +kernel
  cases imported : ofText .default repeatedKeyText with
  | error error =>
    rw [imported] at admitted
    exact nomatch admitted
  | ok toolset =>
    rw [imported, decide_eq_true_iff] at admitted
    exact ⟨toolset, rfl, admitted⟩

/-- The text that repeats a key becomes tools whose output reads as it was written. -/
theorem output_reads_back_repeated_key :
    ∃ toolset, ofText .default repeatedKeyText = .ok toolset ∧ toolset.toJson.Distinct ∧
      ∀ isPretty, Json.parse? (Cli.renderOutput isPretty toolset) = some toolset.toJson := by
  obtain ⟨toolset, imported, integral, shallow⟩ := exists_toolset_of_repeatedKeyText
  obtain ⟨distinct, readsBack⟩ := output_reads_back imported
  exact ⟨toolset, imported, distinct, readsBack integral shallow⟩

end OpenApiTools.Toolset
