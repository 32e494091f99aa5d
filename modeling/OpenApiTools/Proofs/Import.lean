import Mathlib.Logic.ExistsUnique
import OpenApiTools.Import
import OpenApiTools.Proofs.Operation

/-!
# Outcomes of an import

An import passes through stages, and the first that fails decides the error. What each stage asks
for is stated here on the fields of the document alone. The outcome is then a property of the text:
the options do not occur in it, and neither does anything else that the document may hold.
-/

namespace OpenApiTools

/-- The error of an attempt, if it fails. -/
def failure? {α : Type} : Except ImportError α → Option ImportError
  | .ok _ => none
  | .error error => some error

/-- Changing the result of an attempt leaves its error alone. -/
@[simp] theorem failure?_map {α β : Type} (change : α → β) (attempt : Except ImportError α) :
    failure? (attempt.map change) = failure? attempt := by
  cases attempt <;> rfl

/-- A changed result comes from the result before. -/
theorem exists_of_map_eq_ok {α β : Type} {change : α → β} {attempt : Except ImportError α}
    {result : β} (changed : attempt.map change = .ok result) :
    ∃ before, attempt = .ok before ∧ change before = result := by
  cases attempt with
  | error error => contradiction
  | ok before => exact ⟨before, rfl, Except.ok.inj changed⟩

/-- The value that a text reads as: its JSON reading whenever there is one, and otherwise its YAML
reading. -/
def Reads (text : String) (value : Json) : Prop :=
  Json.parse? text = some value ∨ Json.parse? text = none ∧ Yaml.parse? text = some value

namespace Document

variable (document : Document)

/-- There is a version field, whatever its value. -/
def DeclaresVersion : Prop :=
  ∃ version, Entries.get? "openapi" document.fields = some version ∨
    Entries.get? "swagger" document.fields = some version

/-- The servers are an array of at least one item. -/
def DeclaresServers : Prop :=
  ∃ server others, Entries.get? "servers" document.fields = some (.array (server :: others))

/-- The first of the servers is an object with this string as its address. -/
def DeclaresUrl (address : String) : Prop :=
  ∃ server others,
    Entries.get? "servers" document.fields = some (.array (.object server :: others)) ∧
      Entries.get? "url" server = some (.string address)

/-- The address of the first server has a character that is no white space. -/
def HasServerUrl : Prop :=
  ∃ address, document.DeclaresUrl address ∧ ∃ c ∈ address.toList, Text.isBlankChar c = false

/-- The paths are an object of at least one field. -/
def DeclaresPaths : Prop :=
  ∃ entry others, Entries.get? "paths" document.fields = some (.object (entry :: others))

end Document

/-- The outcome that a text calls for: the error of the first demand that it does not meet, or none
if it meets them all. -/
def Verdict (text : String) : Option ImportError → Prop
  | some .malformed => ∀ value, ¬ Reads text value
  | some .rootNotObject => ∃ value, Reads text value ∧ ∀ fields, value ≠ .object fields
  | some .missingVersion => ∃ document : Document, Reads text (.object document.fields) ∧
      ¬ document.DeclaresVersion
  | some .missingServers => ∃ document : Document, Reads text (.object document.fields) ∧
      document.DeclaresVersion ∧ ¬ document.DeclaresServers
  | some .emptyServerUrl => ∃ document : Document, Reads text (.object document.fields) ∧
      document.DeclaresVersion ∧ document.DeclaresServers ∧ ¬ document.HasServerUrl
  | some .noPaths => ∃ document : Document, Reads text (.object document.fields) ∧
      document.DeclaresVersion ∧ document.DeclaresServers ∧ document.HasServerUrl ∧
      ¬ document.DeclaresPaths
  | none => ∃ document : Document, Reads text (.object document.fields) ∧
      document.DeclaresVersion ∧ document.DeclaresServers ∧ document.HasServerUrl ∧
      document.DeclaresPaths
  | some .missingSource | some .ambiguousSource => False

/-- The reading of a text is what the text reads as. -/
theorem Document.reading?_eq_some_iff {text : String} {value : Json} :
    reading? text = some value ↔ Reads text value := by
  rw [reading?, Option.or_eq_some_iff, Reads]

namespace Document

variable {document : Document}

/-- An object that declares a version is a document. -/
theorem ofJson_of_declaresVersion (version : document.DeclaresVersion) :
    ofJson (.object document.fields) = .ok document := by
  obtain ⟨value, inEither⟩ := version
  refine if_pos ?_
  rw [Bool.or_eq_true, Entries.has, Entries.has, Option.isSome_iff_exists,
    Option.isSome_iff_exists]
  exact inEither.imp (⟨value, ·⟩) (⟨value, ·⟩)

/-- An object without a version field is none. -/
theorem ofJson_of_not_declaresVersion (noVersion : ¬ document.DeclaresVersion) :
    ofJson (.object document.fields) = .error .missingVersion := by
  refine if_neg fun present => noVersion ?_
  rw [Bool.or_eq_true, Entries.has, Entries.has, Option.isSome_iff_exists,
    Option.isSome_iff_exists, ← exists_or] at present
  exact present

/-- Only an object is a document. -/
theorem ofJson_of_ne_object {value : Json} (noObject : ∀ fields, value ≠ .object fields) :
    ofJson value = .error .rootNotObject := by
  cases value with
  | object fields => exact absurd rfl (noObject fields)
  | _ => rfl

/-- Without a first server there is no base address. -/
theorem baseUrl_of_not_declaresServers (noServers : ¬ document.DeclaresServers) :
    document.baseUrl = .error .missingServers := by
  unfold baseUrl
  split
  · rename_i server others found
    exact absurd ⟨server, others, servers?_eq_some_iff.mp found⟩ noServers
  · rfl

/-- The base address is that of the first server without the slashes at its end, unless it is
blank. -/
theorem baseUrl_of_declaresUrl {address : String} (declared : document.DeclaresUrl address) :
    document.baseUrl =
      if Text.isBlank address then .error .emptyServerUrl
      else .ok (trimTrailingSlashes address) := by
  obtain ⟨server, others, servers, url⟩ := declared
  have found : (Json.object server).getString? "url" = some address :=
    Json.getString?_eq_some_iff.mpr ⟨server, rfl, url⟩
  rw [baseUrl, servers?_eq_some_iff.mpr servers]
  simp only [found, Option.getD_some]

/-- A first server without an address that can be read makes the base address empty. -/
theorem baseUrl_of_not_hasServerUrl (servers : document.DeclaresServers)
    (noUrl : ¬ document.HasServerUrl) : document.baseUrl = .error .emptyServerUrl := by
  obtain ⟨server, others, found⟩ := servers
  rw [baseUrl, servers?_eq_some_iff.mpr found]
  refine if_pos (List.all_eq_true.mpr fun c inAddress => ?_)
  cases url : server.getString? "url" with
  | none => simp [url] at inAddress
  | some address =>
    rw [url, Option.getD_some] at inAddress
    obtain ⟨fields, rfl, declared⟩ := Json.getString?_eq_some_iff.mp url
    cases blank : Text.isBlankChar c with
    | true => rfl
    | false =>
      exact absurd ⟨address, ⟨fields, others, found, declared⟩, c, inAddress, blank⟩ noUrl

/-- A first server with an address that is not blank gives the base address. -/
theorem exists_baseUrl_of_hasServerUrl (hasUrl : document.HasServerUrl) :
    ∃ baseUrl, document.baseUrl = .ok baseUrl := by
  obtain ⟨address, declared, c, inAddress, notBlank⟩ := hasUrl
  refine ⟨trimTrailingSlashes address, (baseUrl_of_declaresUrl declared).trans (if_neg ?_)⟩
  intro blank
  exact Bool.false_ne_true (notBlank.symm.trans (List.all_eq_true.mp blank c inAddress))

/-- A base address is that of the first server without the slashes at its end. -/
theorem exists_declaresUrl_of_baseUrl {baseUrl : String} (found : document.baseUrl = .ok baseUrl) :
    ∃ address, document.DeclaresUrl address ∧ baseUrl = trimTrailingSlashes address := by
  by_cases servers : document.DeclaresServers
  · by_cases hasUrl : document.HasServerUrl
    · obtain ⟨address, declared, -⟩ := hasUrl
      rw [baseUrl_of_declaresUrl declared] at found
      split at found
      · contradiction
      · exact ⟨address, declared, (Except.ok.inj found).symm⟩
    · rw [baseUrl_of_not_hasServerUrl servers hasUrl] at found
      contradiction
  · rw [baseUrl_of_not_declaresServers servers] at found
    contradiction

/-- Without paths there are no tools, whatever they would have in common. -/
theorem tools_of_not_declaresPaths (noPaths : ¬ document.DeclaresPaths) (context : ToolContext) :
    document.tools context = .error .noPaths := by
  rw [tools_eq]
  refine if_pos ?_
  cases paths : document.paths?.getD [] with
  | nil => rfl
  | cons entry others =>
    have declared : document.paths? = some (entry :: others) := by
      cases found : document.paths? with
      | none => simp [found] at paths
      | some fields => rw [← paths, found, Option.getD_some]
    exact absurd ⟨entry, others, paths?_eq_some_iff.mp declared⟩ noPaths

/-- With paths there are tools, whatever they have in common and whatever the paths hold. -/
theorem exists_tools_of_declaresPaths (paths : document.DeclaresPaths) (context : ToolContext) :
    ∃ tools, document.tools context = .ok tools := by
  obtain ⟨entry, others, found⟩ := paths
  rw [tools_eq, paths?_eq_some_iff.mpr found]
  exact ⟨_, rfl⟩

end Document

namespace Toolset

variable {options : Options} {text : String} {document : Document}

/-- A text without a reading is malformed. -/
theorem ofText_of_not_reads (unread : ∀ value, ¬ Reads text value) :
    ofText options text = .error .malformed := by
  have noReading : Document.reading? text = none :=
    Option.eq_none_iff_forall_ne_some.mpr fun value reading =>
      unread value (Document.reading?_eq_some_iff.mp reading)
  rw [ofText, Document.load, noReading]
  rfl

/-- Otherwise the import goes on with what the text reads as. -/
theorem ofText_of_reads {value : Json} (reads : Reads text value) :
    ofText options text = Document.ofJson value >>= ofDocument options := by
  rw [ofText, Document.load, Document.reading?_eq_some_iff.mpr reads]

/-- Once the text has turned out to be a document, the text itself does not matter any more. -/
theorem ofText_of_declaresVersion (reads : Reads text (.object document.fields))
    (version : document.DeclaresVersion) : ofText options text = ofDocument options document := by
  rw [ofText_of_reads reads, Document.ofJson_of_declaresVersion version]
  rfl

/-- Without a base address there is nothing else. -/
theorem ofDocument_of_baseUrl_eq_error {error : ImportError}
    (failed : document.baseUrl = .error error) : ofDocument options document = .error error := by
  rw [ofDocument, failed]
  rfl

/-- With a base address the tools alone decide. -/
theorem ofDocument_of_baseUrl_eq_ok {baseUrl : String} (found : document.baseUrl = .ok baseUrl) :
    ofDocument options document =
      (document.tools
        { baseUrl, security := document.security options.security,
          nameSpace := options.effectiveNameSpace }).map fun tools =>
        { title := document.title, baseUrl, security := document.security options.security,
          tools } := by
  rw [ofDocument, found]
  rfl

/-- What the tools of a set have in common. -/
def context (options : Options) (toolset : Toolset) : ToolContext where
  baseUrl := toolset.baseUrl
  security := toolset.security
  nameSpace := options.effectiveNameSpace

/-- The parts of a set of tools are those that the stages have made. -/
theorem parts_of_ofDocument {toolset : Toolset}
    (imported : ofDocument options document = .ok toolset) :
    document.baseUrl = .ok toolset.baseUrl ∧
      document.tools (toolset.context options) = .ok toolset.tools := by
  cases base : document.baseUrl with
  | error error =>
    rw [ofDocument_of_baseUrl_eq_error base] at imported
    contradiction
  | ok baseUrl =>
    rw [ofDocument_of_baseUrl_eq_ok base] at imported
    obtain ⟨tools, made, rfl⟩ := exists_of_map_eq_ok imported
    exact ⟨rfl, made⟩

/-- The security of a set of tools is that of its document. -/
theorem security_of_ofDocument {toolset : Toolset}
    (imported : ofDocument options document = .ok toolset) :
    toolset.security = document.security options.security := by
  cases base : document.baseUrl with
  | error error =>
    rw [ofDocument_of_baseUrl_eq_error base] at imported
    contradiction
  | ok baseUrl =>
    rw [ofDocument_of_baseUrl_eq_ok base] at imported
    obtain ⟨tools, -, rfl⟩ := exists_of_map_eq_ok imported
    rfl

/-- Every text calls for an outcome. -/
theorem exists_verdict (text : String) : ∃ outcome, Verdict text outcome := by
  by_cases readable : ∃ value, Reads text value
  · obtain ⟨value, reads⟩ := readable
    by_cases object : ∃ fields, value = .object fields
    · obtain ⟨fields, rfl⟩ := object
      let document : Document := ⟨fields⟩
      by_cases version : document.DeclaresVersion
      · by_cases servers : document.DeclaresServers
        · by_cases url : document.HasServerUrl
          · by_cases paths : document.DeclaresPaths
            · exact ⟨none, document, reads, version, servers, url, paths⟩
            · exact ⟨some .noPaths, document, reads, version, servers, url, paths⟩
          · exact ⟨some .emptyServerUrl, document, reads, version, servers, url⟩
        · exact ⟨some .missingServers, document, reads, version, servers⟩
      · exact ⟨some .missingVersion, document, reads, version⟩
    · exact ⟨some .rootNotObject, value, reads, not_exists.mp object⟩
  · exact ⟨some .malformed, not_exists.mp readable⟩

/-- The outcome that a text calls for comes about, whatever the options. -/
theorem failure?_of_verdict {outcome : Option ImportError} (verdict : Verdict text outcome)
    (options : Options) : failure? (ofText options text) = outcome := by
  cases outcome with
  | none =>
    obtain ⟨document, reads, version, -, url, paths⟩ := verdict
    obtain ⟨baseUrl, found⟩ := document.exists_baseUrl_of_hasServerUrl url
    rw [ofText_of_declaresVersion reads version, ofDocument_of_baseUrl_eq_ok found, failure?_map]
    obtain ⟨tools, made⟩ := document.exists_tools_of_declaresPaths paths _
    rw [made]
    rfl
  | some error =>
    cases error with
    | malformed =>
      rw [ofText_of_not_reads verdict]
      rfl
    | rootNotObject =>
      obtain ⟨value, reads, noObject⟩ := verdict
      rw [ofText_of_reads reads, Document.ofJson_of_ne_object noObject]
      rfl
    | missingVersion =>
      obtain ⟨document, reads, noVersion⟩ := verdict
      rw [ofText_of_reads reads, Document.ofJson_of_not_declaresVersion noVersion]
      rfl
    | missingServers =>
      obtain ⟨document, reads, version, noServers⟩ := verdict
      have failed := Document.baseUrl_of_not_declaresServers noServers
      rw [ofText_of_declaresVersion reads version, ofDocument_of_baseUrl_eq_error failed]
      rfl
    | emptyServerUrl =>
      obtain ⟨document, reads, version, servers, noUrl⟩ := verdict
      have failed := Document.baseUrl_of_not_hasServerUrl servers noUrl
      rw [ofText_of_declaresVersion reads version, ofDocument_of_baseUrl_eq_error failed]
      rfl
    | noPaths =>
      obtain ⟨document, reads, version, -, url, noPaths⟩ := verdict
      obtain ⟨baseUrl, found⟩ := document.exists_baseUrl_of_hasServerUrl url
      rw [ofText_of_declaresVersion reads version, ofDocument_of_baseUrl_eq_ok found, failure?_map,
        Document.tools_of_not_declaresPaths noPaths]
      rfl
    | missingSource => exact verdict.elim
    | ambiguousSource => exact verdict.elim

/-- A set of tools that has been made from a text is that of the document that the text holds. -/
theorem exists_reads_of_ofText {toolset : Toolset} (imported : ofText options text = .ok toolset) :
    ∃ document : Document, Reads text (.object document.fields) ∧
      ofDocument options document = .ok toolset := by
  obtain ⟨outcome, verdict⟩ := exists_verdict text
  have noFailure := failure?_of_verdict verdict options
  rw [imported] at noFailure
  subst noFailure
  obtain ⟨document, reads, version, -⟩ := verdict
  exact ⟨document, reads, (ofText_of_declaresVersion reads version).symm.trans imported⟩

/-- An import has exactly one outcome, and the text alone decides which: the first demand that the
text does not meet, in the order of the stages. -/
theorem outcome_iff_verdict (text : String) :
    (∃! outcome, Verdict text outcome) ∧
      ∀ options outcome, failure? (ofText options text) = outcome ↔ Verdict text outcome := by
  have decides (options : Options) (outcome : Option ImportError) :
      failure? (ofText options text) = outcome ↔ Verdict text outcome := by
    constructor
    · rintro rfl
      obtain ⟨called, verdict⟩ := exists_verdict text
      rwa [failure?_of_verdict verdict options]
    · exact fun verdict => failure?_of_verdict verdict options
  refine ⟨?_, decides⟩
  exact ⟨_, (decides .default _).mp rfl, fun other verdict =>
    ((decides .default other).mpr verdict).symm⟩

end Toolset

end OpenApiTools
