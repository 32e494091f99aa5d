import Mathlib.Logic.ExistsUnique
import OpenApiTools.Cli.Run
import OpenApiTools.Proofs.Cli.File
import OpenApiTools.Proofs.Cli.Supply

/-!
# Outcomes of a run

A run passes through stages: its configuration, the file that it is given, the choice of a source,
the text of the source, the check of the digest and the import. What each stage asks for is stated
on the arguments and the surroundings alone. A run has one outcome, that of the first stage whose
demand is not met, and it has an output only if all demands are met.
-/

namespace OpenApiTools.Cli

/-- A part of a source that counts: it is there and has a character that is no white space. -/
def Counts (part : Option String) (text : String) : Prop :=
  part = some text ∧ ∃ c ∈ text.toList, Text.isBlankChar c = false

/-- A part of a source that does not count. -/
def IsAbsent (part : Option String) : Prop :=
  ∀ text, ¬ Counts part text

/-- A wrong digest ends the run: the arguments say so, or else the configuration does. If neither
says anything, it does not. -/
def GivesUp (arguments : Arguments) (config : Config) : Prop :=
  arguments.specHashPolicy = some .fail ∨
    arguments.specHashPolicy = none ∧ config.digestPolicy = some .fail

/-- The text is expected to have another digest, the case of letters aside, and that ends the
run. -/
def Refuses (arguments : Arguments) (config : Config) (text expected : String) : Prop :=
  arguments.specHash = some expected ∧ GivesUp arguments config ∧
    Text.sameIgnoringAsciiCase (Digest.ofText text) expected = false

/-- The first of two values that is there, if one is. -/
inductive FirstOf {α : Type} : Option α → Option α → Option α → Prop
  | former (value : α) (latter : Option α) : FirstOf (some value) latter (some value)
  | latter (latter : Option α) : FirstOf none latter latter

/-- The options of the import are merged: the arguments come first and the configuration second.
Without a name of a scheme, the first scheme is chosen. -/
structure Merges (arguments : Arguments) (config : Config) (options : Options) : Prop where
  nameSpace : FirstOf arguments.nameSpace config.nameSpace options.nameSpace
  named : ∀ name, options.security = .named name ↔
    FirstOf arguments.securityScheme config.securityScheme (some name)
  first : options.security = .first ↔
    FirstOf arguments.securityScheme config.securityScheme none

/-- How many seconds a fetch may take: as the arguments say, or else the configuration, or else half
a minute. -/
def fetchSeconds (arguments : Arguments) (config : Config) : UInt64 :=
  (arguments.timeoutSecs.or config.fetchTimeout).getD 30

section Verdict

variable (surroundings : Surroundings) (arguments : Arguments)

/-- The text of the run: that of its file as it is, or else what is fetched from its address. -/
inductive HasText (config : Config) : String → Prop
  | file {content : Option String} {text : String}
    (hasContent : HasContent surroundings arguments content) (noUrl : IsAbsent arguments.url)
    (isText : Counts content text) : HasText config text
  | fetched {content : Option String} {address text : String}
    (hasContent : HasContent surroundings arguments content)
    (isUrl : Counts arguments.url address) (noContent : IsAbsent content)
    (valid : Url.isValid address = true)
    (fetched : surroundings.addressText? address (fetchSeconds arguments config) = some text) :
    HasText config text

/-- The outcome that a run calls for: the error of the first demand that is not met, or its
output. -/
inductive Verdict : Except RunError Output → Prop
  | config {error : RunError} (spoils : SpoilsConfig surroundings arguments error) :
    Verdict (.error error)
  | file {config : Config} {path : String}
    (hasConfig : HasConfig surroundings arguments config) (isGiven : arguments.file = some path)
    (unread : ∀ text : String, surroundings.fileBytes path ≠ .ok text.toUTF8) :
    Verdict (.error (.fileUnreadable path))
  | missingSource {config : Config} {content : Option String}
    (hasConfig : HasConfig surroundings arguments config)
    (hasContent : HasContent surroundings arguments content) (noUrl : IsAbsent arguments.url)
    (noContent : IsAbsent content) : Verdict (.error (.source .missingSource))
  | ambiguousSource {config : Config} {content : Option String} {address text : String}
    (hasConfig : HasConfig surroundings arguments config)
    (hasContent : HasContent surroundings arguments content)
    (isUrl : Counts arguments.url address) (isText : Counts content text) :
    Verdict (.error (.source .ambiguousSource))
  | invalidUrl {config : Config} {content : Option String} {address : String}
    (hasConfig : HasConfig surroundings arguments config)
    (hasContent : HasContent surroundings arguments content)
    (isUrl : Counts arguments.url address) (noContent : IsAbsent content)
    (invalid : Url.isValid address = false) : Verdict (.error (.invalidUrl address))
  | fetchFailed {config : Config} {content : Option String} {address : String}
    (hasConfig : HasConfig surroundings arguments config)
    (hasContent : HasContent surroundings arguments content)
    (isUrl : Counts arguments.url address) (noContent : IsAbsent content)
    (valid : Url.isValid address = true)
    (failed : surroundings.addressText? address (fetchSeconds arguments config) = none) :
    Verdict (.error (.fetchFailed address))
  | digest {config : Config} {text expected : String}
    (hasConfig : HasConfig surroundings arguments config)
    (hasText : HasText surroundings arguments config text)
    (refuses : Refuses arguments config text expected) :
    Verdict (.error (.digest ⟨expected, Digest.ofText text⟩))
  | importFailed {config : Config} {text : String} {options : Options} {cause : ImportError}
    (hasConfig : HasConfig surroundings arguments config)
    (hasText : HasText surroundings arguments config text)
    (accepted : ∀ expected, ¬ Refuses arguments config text expected)
    (merges : Merges arguments config options)
    (failed : Toolset.ofText options text = .error cause) : Verdict (.error (.importFailed cause))
  | output {config : Config} {text : String} {options : Options} {toolset : Toolset}
    (hasConfig : HasConfig surroundings arguments config)
    (hasText : HasText surroundings arguments config text)
    (accepted : ∀ expected, ¬ Refuses arguments config text expected)
    (merges : Merges arguments config options)
    (imported : Toolset.ofText options text = .ok toolset) :
    Verdict (.ok
      { path := arguments.output
        text := (if arguments.pretty = some true then toolset.toJson.pretty
          else toolset.toJson.compact) ++ "\n" })

end Verdict

section Stages

variable {surroundings : Surroundings} {arguments : Arguments} {config : Config}

/-- A part that is filtered out for being blank is one that does not count. -/
theorem filter_eq_some_iff_counts {part : Option String} {text : String} :
    part.filter (!Text.isBlank ·) = some text ↔ Counts part text := by
  rw [Option.filter_eq_some_iff, Counts, Text.isBlank, Bool.not_eq_true', List.all_eq_false]
  simp only [Bool.not_eq_true]

theorem filter_eq_none_iff_isAbsent {part : Option String} :
    part.filter (!Text.isBlank ·) = none ↔ IsAbsent part := by
  rw [Option.eq_none_iff_forall_ne_some]
  exact forall_congr' fun text => not_congr filter_eq_some_iff_counts

/-- A part counts with some text, or does not count. -/
theorem exists_counts_or_isAbsent (part : Option String) :
    (∃ text, Counts part text) ∨ IsAbsent part := by
  by_cases counts : ∃ text, Counts part text
  · exact .inl counts
  · exact .inr (not_exists.mp counts)

theorem isAbsent_none : IsAbsent none :=
  fun text counts => absurd counts.1 (Option.some_ne_none text).symm

/-- The third stage chooses the part that counts, if only one does. -/
theorem chooseSource_of_url {content : Option String} {address : String}
    (isUrl : Counts arguments.url address) (noContent : IsAbsent content) :
    chooseSource arguments content = .ok (.url address) := by
  simp only [chooseSource, Source.ofParts, filter_eq_some_iff_counts.mpr isUrl,
    filter_eq_none_iff_isAbsent.mpr noContent]
  rfl

theorem chooseSource_of_content {content : Option String} {text : String}
    (noUrl : IsAbsent arguments.url) (isText : Counts content text) :
    chooseSource arguments content = .ok (.inline text) := by
  simp only [chooseSource, Source.ofParts, filter_eq_none_iff_isAbsent.mpr noUrl,
    filter_eq_some_iff_counts.mpr isText]
  rfl

/-- The fourth stage takes the content of a file as it is. -/
theorem sourceText_inline (seconds : UInt64) (content : String) :
    sourceText surroundings seconds (.inline content) = .ok content := rfl

/-- What is fetched from a valid address is its text. -/
theorem sourceText_of_valid {address : String} (valid : Url.isValid address = true)
    (seconds : UInt64) :
    sourceText surroundings seconds (.url address) =
      match surroundings.addressText? address seconds with
      | some text => .ok text
      | none => .error (.fetchFailed address) :=
  if_pos valid

/-- What comes first is what an alternative gives. -/
theorem firstOf_iff {α : Type} {former latter value : Option α} :
    FirstOf former latter value ↔ value = former.or latter := by
  constructor
  · rintro (_ | _) <;> rfl
  · rintro rfl
    cases former with
    | none => exact .latter latter
    | some former => exact .former former latter

/-- The options that are merged are those of the import. -/
theorem merges_iff {options : Options} :
    Merges arguments config options ↔ options = importOptions arguments config := by
  constructor
  · rintro ⟨nameSpace, named, first⟩
    have security : options.security =
        ((arguments.securityScheme.or config.securityScheme).map SchemeChoice.named).getD
          .first := by
      cases chosen : arguments.securityScheme.or config.securityScheme with
      | none => exact first.mpr (firstOf_iff.mpr chosen.symm)
      | some name => exact (named name).mpr (firstOf_iff.mpr chosen.symm)
    rw [importOptions, ← security, ← firstOf_iff.mp nameSpace]
  · rintro rfl
    refine ⟨firstOf_iff.mpr rfl, fun name => ?_, ?_⟩ <;> rw [firstOf_iff, importOptions] <;>
      cases arguments.securityScheme.or config.securityScheme <;> simp [eq_comm]

/-- What a run does once it has a configuration and a text. -/
def finish (arguments : Arguments) (config : Config) (text : String) : Except RunError Output := do
  checkDigest arguments config text
  let toolset ← (Toolset.ofText (importOptions arguments config) text).mapError .importFailed
  return { path := arguments.output, text := renderOutput (arguments.pretty.getD false) toolset }

/-- A fetch may take as long as the arguments allow, or else the configuration. -/
theorem fetchSeconds_eq (arguments : Arguments) (config : Config) :
    fetchSeconds arguments config = arguments.timeoutSecs.getD config.effectiveTimeout := by
  unfold fetchSeconds
  cases arguments.timeoutSecs <;> rfl

/-- With a configuration the sources decide. -/
theorem run_of_hasConfig (hasConfig : HasConfig surroundings arguments config) :
    run surroundings arguments =
      (do
        let content ← readContent surroundings arguments
        let source ← chooseSource arguments content
        let text ← sourceText surroundings (fetchSeconds arguments config) source
        finish arguments config text) := by
  rw [run, effectiveConfig_of_hasConfig hasConfig, fetchSeconds_eq]
  rfl

/-- With a configuration and a text, the digest and the import decide. -/
theorem run_of_hasText {text : String} (hasConfig : HasConfig surroundings arguments config)
    (hasText : HasText surroundings arguments config text) :
    run surroundings arguments = finish arguments config text := by
  rw [run_of_hasConfig hasConfig]
  cases hasText with
  | file hasContent noUrl isText =>
    rw [readContent_of_hasContent hasContent, ok_bind, chooseSource_of_content noUrl isText,
      ok_bind, sourceText_inline, ok_bind]
  | fetched hasContent isUrl noContent valid fetched =>
    rw [readContent_of_hasContent hasContent, ok_bind, chooseSource_of_url isUrl noContent,
      ok_bind, sourceText_of_valid valid, fetched, ok_bind]

/-- With a configuration and a text, an outcome is called for. -/
theorem exists_verdict_of_hasText {text : String}
    (hasConfig : HasConfig surroundings arguments config)
    (hasText : HasText surroundings arguments config text) :
    ∃ outcome, Verdict surroundings arguments outcome := by
  by_cases refused : ∃ expected, Refuses arguments config text expected
  · obtain ⟨expected, refuses⟩ := refused
    exact ⟨_, .digest hasConfig hasText refuses⟩
  · have accepted := not_exists.mp refused
    have merges : Merges arguments config (importOptions arguments config) := merges_iff.mpr rfl
    cases imported : Toolset.ofText (importOptions arguments config) text with
    | error cause => exact ⟨_, .importFailed hasConfig hasText accepted merges imported⟩
    | ok toolset => exact ⟨_, .output hasConfig hasText accepted merges imported⟩

/-- With a configuration and what the file holds, an outcome is called for. -/
theorem exists_verdict_of_hasContent {content : Option String}
    (hasConfig : HasConfig surroundings arguments config)
    (hasContent : HasContent surroundings arguments content) :
    ∃ outcome, Verdict surroundings arguments outcome := by
  rcases exists_counts_or_isAbsent arguments.url with ⟨address, isUrl⟩ | noUrl <;>
    rcases exists_counts_or_isAbsent content with ⟨text, isText⟩ | noContent
  · exact ⟨_, .ambiguousSource hasConfig hasContent isUrl isText⟩
  · cases valid : Url.isValid address with
    | false => exact ⟨_, .invalidUrl hasConfig hasContent isUrl noContent valid⟩
    | true =>
      cases fetched : surroundings.addressText? address (fetchSeconds arguments config) with
      | none => exact ⟨_, .fetchFailed hasConfig hasContent isUrl noContent valid fetched⟩
      | some text =>
        exact exists_verdict_of_hasText hasConfig
          (.fetched hasContent isUrl noContent valid fetched)
  · exact exists_verdict_of_hasText hasConfig (.file hasContent noUrl isText)
  · exact ⟨_, .missingSource hasConfig hasContent noUrl noContent⟩

/-- Every run calls for an outcome. -/
theorem exists_verdict (surroundings : Surroundings) (arguments : Arguments) :
    ∃ outcome, Verdict surroundings arguments outcome := by
  rcases exists_hasConfig_or_spoilsConfig surroundings arguments with
    ⟨config, hasConfig⟩ | ⟨error, spoils⟩
  · cases isGiven : arguments.file with
    | none => exact exists_verdict_of_hasContent hasConfig (.noFile isGiven)
    | some path =>
      by_cases read : ∃ text : String, surroundings.fileBytes path = .ok text.toUTF8
      · obtain ⟨text, isText⟩ := read
        exact exists_verdict_of_hasContent hasConfig (.file isGiven isText)
      · exact ⟨_, .file hasConfig isGiven (not_exists.mp read)⟩
  · exact ⟨_, .config spoils⟩

end Stages

end OpenApiTools.Cli
