import OpenApiTools.Proofs.Cli.Run
import OpenApiTools.Proofs.Security

/-!
# Which setting counts

A setting may be made by the command line, by its variable and by the configuration file. The first
of them that supplies a value decides, even with an empty value, and no other setting matters to it.
A run that comes to an output writes what follows from the text of its document, the namespace, the
scheme and the way of printing that count, and from nothing else.
-/

namespace OpenApiTools.Cli

namespace Arguments

variable {environment : String → Option String} {line : List String} {setting : Setting}
  {arguments : Arguments}

/-- Whatever is supplied to a setting in one place is supplied to it in another. -/
structure SameSources (environment : String → Option String) (line : List String)
    (otherEnvironment : String → Option String) (otherLine : List String) (setting : Setting) :
    Prop where
  gives_iff : ∀ text, Gives line setting text ↔ Gives otherLine setting text
  sameVariable : environment setting.variableName = otherEnvironment setting.variableName

section SameSources

variable {otherEnvironment : String → Option String} {otherLine : List String}

theorem SameSources.symm
    (same : SameSources environment line otherEnvironment otherLine setting) :
    SameSources otherEnvironment otherLine environment line setting where
  gives_iff text := (same.gives_iff text).symm
  sameVariable := same.sameVariable.symm

theorem Supplies.of_sameSources {text : String}
    (same : SameSources environment line otherEnvironment otherLine setting)
    (supplies : Supplies environment line setting text) :
    Supplies otherEnvironment otherLine setting text := by
  cases supplies with
  | byLine gives => exact .byLine ((same.gives_iff text).mp gives)
  | byVariable notGiven isSet =>
    rw [same.sameVariable] at isSet
    exact .byVariable (fun other gives => notGiven other ((same.gives_iff other).mpr gives)) isSet

/-- No other setting matters to the value of a setting. -/
theorem Takes.of_sameSources {α : Type} {read : String → Option α} {configured value : Option α}
    (same : SameSources environment line otherEnvironment otherLine setting)
    (takes : Takes environment line setting read configured value) :
    Takes otherEnvironment otherLine setting read configured value := by
  cases takes with
  | supplied supplies isRead => exact .supplied (supplies.of_sameSources same) isRead
  | configured missing =>
    exact .configured fun text supplies => missing text (supplies.of_sameSources same.symm)

/-- A value that is taken from the same sources in two places is the same in both. -/
theorem Reads.value_eq {α : Type} {read : String → Option α} {get : Arguments → Option α}
    (reads : Reads setting read get) (parsed : parse otherEnvironment otherLine = .ok arguments)
    {configured otherConfigured value other : Option α}
    (same : SameSources environment line otherEnvironment otherLine setting)
    (sameConfigured : configured = otherConfigured)
    (takes : Takes environment line setting read configured value)
    (takesOther : Takes otherEnvironment otherLine setting read otherConfigured other) :
    value = other := by
  subst sameConfigured
  have isValue := (reads.takes_iff parsed).mp (takes.of_sameSources same)
  have isOther := (reads.takes_iff parsed).mp takesOther
  exact isValue.trans isOther.symm

end SameSources

/-- Lines that spell the same options in another order are accepted with the same arguments. -/
theorem parse_of_perm {otherLine : List String} {settings others : List (Setting × String)}
    (spells : Spells line settings) (spellsOthers : Spells otherLine others)
    (perm : settings.Perm others) (parsed : parse environment line = .ok arguments) :
    parse environment otherLine = .ok arguments := by
  obtain ⟨given, read, filled⟩ := exists_of_bind_eq_ok parsed
  rw [parse, ofCommandLine_of_perm spells spellsOthers perm read, ok_bind]
  exact filled

end Arguments

/-- The values of the settings that decide what is made of a document. -/
structure SettingValues where
  nameSpace : Option String
  securityScheme : Option String
  digestPolicy : Option DigestPolicy
  pretty : Option Bool
  deriving DecidableEq, Repr

namespace SettingValues

/-- The namespace that counts: one that is empty is none. -/
def effectiveNameSpace (values : SettingValues) : Option String :=
  values.nameSpace.filter (!·.isEmpty)

/-- The scheme that counts: the one with the name, even with an empty name, or else the first. -/
def security (values : SettingValues) : SchemeChoice :=
  (values.securityScheme.map .named).getD .first

/-- What a wrong digest leads to. -/
def policy (values : SettingValues) : DigestPolicy :=
  values.digestPolicy.getD .warn

def isPretty (values : SettingValues) : Bool :=
  values.pretty.getD false

/-- Checks a text against the digest that it should have, if one is expected. -/
def check (values : SettingValues) (expected? : Option String) (text : String) :
    Except RunError Unit :=
  match expected? with
  | none => .ok ()
  | some expected => (Digest.verify text expected values.policy).mapError .digest

/-- What a run comes to that has a text, may expect a digest of it and is to write to a path. -/
def outcome (values : SettingValues) (expected? path : Option String) (text : String) :
    Except RunError Output := do
  values.check expected? text
  let toolset ←
    (Toolset.ofText ⟨values.effectiveNameSpace, values.security⟩ text).mapError .importFailed
  return { path, text := renderOutput values.isPretty toolset }

/-- Each value is that of the command line, or else of its variable, or else of the
configuration. -/
structure Hold (environment : String → Option String) (line : List String) (config : Config)
    (values : SettingValues) : Prop where
  nameSpace :
    Arguments.Takes environment line (.value .nameSpace) some config.nameSpace values.nameSpace
  securityScheme :
    Arguments.Takes environment line (.value .securityScheme) some config.securityScheme
      values.securityScheme
  digestPolicy :
    Arguments.Takes environment line (.value .specHashPolicy) DigestPolicy.ofName?
      config.digestPolicy values.digestPolicy
  pretty :
    Arguments.Takes environment line (.flag .pretty)
      (fun text => (Arguments.readBool text).toOption) none values.pretty

/-- The values of arguments that come before a configuration. -/
def ofArguments (arguments : Arguments) (config : Config) : SettingValues where
  nameSpace := arguments.nameSpace.or config.nameSpace
  securityScheme := arguments.securityScheme.or config.securityScheme
  digestPolicy := arguments.specHashPolicy.or config.digestPolicy
  pretty := arguments.pretty.or none

variable {environment : String → Option String} {line : List String} {arguments : Arguments}
  {config : Config} {values : SettingValues} {text : String}

/-- The values that hold are those of the arguments that come before the configuration. -/
theorem hold_iff (parsed : Arguments.parse environment line = .ok arguments) :
    Hold environment line config values ↔ values = ofArguments arguments config := by
  constructor
  · rintro ⟨nameSpace, securityScheme, digestPolicy, pretty⟩
    rw [Arguments.reads_nameSpace.takes_iff parsed] at nameSpace
    rw [Arguments.reads_securityScheme.takes_iff parsed] at securityScheme
    rw [Arguments.reads_specHashPolicy.takes_iff parsed] at digestPolicy
    rw [Arguments.reads_pretty.takes_iff parsed] at pretty
    rw [ofArguments, ← nameSpace, ← securityScheme, ← digestPolicy, ← pretty]
  · rintro rfl
    exact
      { nameSpace := (Arguments.reads_nameSpace.takes_iff parsed).mpr rfl
        securityScheme := (Arguments.reads_securityScheme.takes_iff parsed).mpr rfl
        digestPolicy := (Arguments.reads_specHashPolicy.takes_iff parsed).mpr rfl
        pretty := (Arguments.reads_pretty.takes_iff parsed).mpr rfl }

end SettingValues

/-- Of the options, an import only uses the namespace unless it is empty, and the scheme. -/
theorem Toolset.ofText_effective (options : Options) (text : String) :
    Toolset.ofText ⟨options.effectiveNameSpace, options.security⟩ text =
      Toolset.ofText options text := by
  have filtered : (⟨options.effectiveNameSpace, options.security⟩ : Options).effectiveNameSpace =
      options.effectiveNameSpace := by
    unfold Options.effectiveNameSpace
    rw [Option.filter_filter]
    simp only [Bool.and_self]
  unfold Toolset.ofText Toolset.ofDocument
  rw [filtered]

namespace SettingValues

variable {arguments : Arguments} {config : Config} {values other : SettingValues} {text : String}

/-- What is done with a text follows from the values of the arguments. -/
theorem outcome_ofArguments (arguments : Arguments) (config : Config) (text : String) :
    (ofArguments arguments config).outcome arguments.specHash arguments.output text =
      finish arguments config text := by
  have options : (⟨(ofArguments arguments config).effectiveNameSpace,
      (ofArguments arguments config).security⟩ : Options) =
        ⟨(importOptions arguments config).effectiveNameSpace,
          (importOptions arguments config).security⟩ := rfl
  have isPretty : (ofArguments arguments config).isPretty = arguments.pretty.getD false := by
    rw [SettingValues.isPretty, ofArguments, Option.or_none]
  have checked : (ofArguments arguments config).check arguments.specHash text =
      checkDigest arguments config text := by
    unfold check checkDigest
    cases arguments.specHash <;> rfl
  unfold outcome finish
  rw [checked, options, Toolset.ofText_effective, isPretty]

/-- An output shows the document, the namespace, the scheme and the way of printing, and nothing
else. -/
theorem text_eq_of_outcome {expected? otherExpected? path otherPath : Option String}
    {output otherOutput : Output}
    (nameSpace : values.effectiveNameSpace = other.effectiveNameSpace)
    (security : values.security = other.security) (isPretty : values.isPretty = other.isPretty)
    (succeeded : values.outcome expected? path text = .ok output)
    (otherSucceeded : other.outcome otherExpected? otherPath text = .ok otherOutput) :
    output.text = otherOutput.text := by
  obtain ⟨_, -, imports⟩ := exists_of_bind_eq_ok succeeded
  obtain ⟨_, -, otherImports⟩ := exists_of_bind_eq_ok otherSucceeded
  obtain ⟨toolset, imported, written⟩ := exists_of_bind_eq_ok imports
  obtain ⟨otherToolset, otherImported, otherWritten⟩ := exists_of_bind_eq_ok otherImports
  rw [nameSpace, security, otherImported] at imported
  obtain rfl := Except.ok.inj imported
  obtain rfl := Except.ok.inj written
  obtain rfl := Except.ok.inj otherWritten
  rw [isPretty]

end SettingValues

/-- A run that starts: what it is given comes to arguments, and there is a configuration for it. -/
structure Starts (surroundings : Surroundings) (line : List String) (arguments : Arguments)
    (config : Config) : Prop where
  parsed : Arguments.parse surroundings.environment line = .ok arguments
  hasConfig : HasConfig surroundings arguments config

section FollowsPrecedence

open Arguments (Spells Supplies SameSources)
open SettingValues (Hold)

/-- A run goes by the values that come first, and by nothing else. -/
structure FollowsPrecedence (surroundings : Surroundings) (line : List String)
    (arguments : Arguments) (config : Config) : Prop where
  exists_values : ∃! values, Hold surroundings.environment line config values
  outcome : ∀ values, Hold surroundings.environment line config values →
    ∀ text, HasText surroundings arguments config text →
      run surroundings arguments = values.outcome arguments.specHash arguments.output text
  /-- Where nothing is supplied or configured, there is no namespace, the first scheme is chosen,
  and a wrong digest leads to a warning. -/
  defaults : ∀ values, Hold surroundings.environment line config values →
    ((∀ text, ¬ Supplies surroundings.environment line (.value .nameSpace) text) →
      config.nameSpace = none → values.effectiveNameSpace = none) ∧
    ((∀ text, ¬ Supplies surroundings.environment line (.value .securityScheme) text) →
      config.securityScheme = none → values.security = .first) ∧
    ((∀ text, ¬ Supplies surroundings.environment line (.value .specHashPolicy) text) →
      config.digestPolicy = none → values.policy = .warn)
  /-- An empty namespace cancels the one of the configuration. -/
  emptyNameSpace : ∀ values, Hold surroundings.environment line config values →
    Supplies surroundings.environment line (.value .nameSpace) "" →
      values.nameSpace = some "" ∧ values.effectiveNameSpace = none
  /-- An empty name that is supplied comes before the one of the configuration as well, and it
  chooses the scheme with that name. -/
  emptyScheme : ∀ values, Hold surroundings.environment line config values →
    (Supplies surroundings.environment line (.value .securityScheme) "" →
      values.securityScheme = some "") ∧
    (values.securityScheme = some "" → values.security = .named "" ∧
      ∀ document : Document,
        document.security values.security = (document.schemes.get? "").getD .none)
  /-- The options may be given in any order. -/
  reordered : ∀ settings otherLine others, Spells line settings → Spells otherLine others →
    settings.Perm others → Starts surroundings otherLine arguments config
  /-- Each value only has its own sources. -/
  independent : ∀ otherSurroundings otherLine otherArguments otherConfig,
    Starts otherSurroundings otherLine otherArguments otherConfig →
    ∀ values others, Hold surroundings.environment line config values →
      Hold otherSurroundings.environment otherLine otherConfig others →
      (SameSources surroundings.environment line otherSurroundings.environment otherLine
          (.value .nameSpace) → config.nameSpace = otherConfig.nameSpace →
        values.nameSpace = others.nameSpace) ∧
      (SameSources surroundings.environment line otherSurroundings.environment otherLine
          (.value .securityScheme) → config.securityScheme = otherConfig.securityScheme →
        values.securityScheme = others.securityScheme) ∧
      (SameSources surroundings.environment line otherSurroundings.environment otherLine
          (.value .specHashPolicy) → config.digestPolicy = otherConfig.digestPolicy →
        values.digestPolicy = others.digestPolicy)
  /-- What two runs write about one text only differs by the namespace, the scheme and the way of
  printing. -/
  sameOutput : ∀ otherSurroundings otherLine otherArguments otherConfig,
    Starts otherSurroundings otherLine otherArguments otherConfig →
    ∀ values others, Hold surroundings.environment line config values →
      Hold otherSurroundings.environment otherLine otherConfig others →
      values.effectiveNameSpace = others.effectiveNameSpace → values.security = others.security →
      values.isPretty = others.isPretty →
    ∀ text output otherOutput, HasText surroundings arguments config text →
      HasText otherSurroundings otherArguments otherConfig text →
      run surroundings arguments = .ok output →
      run otherSurroundings otherArguments = .ok otherOutput → output.text = otherOutput.text

variable {surroundings : Surroundings} {line : List String} {arguments : Arguments}
  {config : Config} {values : SettingValues}

/-- The outcome of a run that has a text is the one that the values call for. -/
theorem Starts.run_eq (starts : Starts surroundings line arguments config)
    (hold : values.Hold surroundings.environment line config) {text : String}
    (hasText : HasText surroundings arguments config text) :
    run surroundings arguments = values.outcome arguments.specHash arguments.output text := by
  obtain rfl := (SettingValues.hold_iff starts.parsed).mp hold
  rw [run_of_hasText starts.hasConfig hasText, SettingValues.outcome_ofArguments]

/-- A run that starts goes by the values that come first: those of the command line, of the
variables and of the configuration file, in this order. -/
theorem run_follows_precedence (starts : Starts surroundings line arguments config) :
    FollowsPrecedence surroundings line arguments config where
  exists_values := by
    refine ⟨.ofArguments arguments config, ?_, fun values hold => ?_⟩
    · exact (SettingValues.hold_iff starts.parsed).mpr rfl
    · exact (SettingValues.hold_iff starts.parsed).mp hold
  outcome values hold text := starts.run_eq hold
  defaults values hold := by
    refine ⟨fun missing notConfigured => ?_, fun missing notConfigured => ?_,
      fun missing notConfigured => ?_⟩
    · rw [SettingValues.effectiveNameSpace, hold.nameSpace.of_missing missing, notConfigured,
        Option.filter_none]
    · rw [SettingValues.security, hold.securityScheme.of_missing missing, notConfigured]
      rfl
    · rw [SettingValues.policy, hold.digestPolicy.of_missing missing, notConfigured]
      rfl
  emptyNameSpace values hold supplies := by
    have isEmpty := hold.nameSpace.of_supplies Arguments.reads_nameSpace starts.parsed supplies
    refine ⟨isEmpty, ?_⟩
    rw [SettingValues.effectiveNameSpace, isEmpty]
    rfl
  emptyScheme values hold := by
    refine ⟨fun supplies => ?_, fun isEmpty => ?_⟩
    · exact hold.securityScheme.of_supplies Arguments.reads_securityScheme starts.parsed supplies
    · have isNamed : values.security = .named "" := by
        rw [SettingValues.security, isEmpty]
        rfl
      refine ⟨isNamed, fun document => ?_⟩
      rw [isNamed, document.security_named]
  reordered settings otherLine others spells spellsOthers perm :=
    { parsed := Arguments.parse_of_perm spells spellsOthers perm starts.parsed
      hasConfig := starts.hasConfig }
  independent otherSurroundings otherLine otherArguments otherConfig otherStarts values others hold
      holdOthers := by
    have parsed := otherStarts.parsed
    refine ⟨fun same sameConfig => ?_, fun same sameConfig => ?_, fun same sameConfig => ?_⟩
    · exact Arguments.reads_nameSpace.value_eq parsed same sameConfig hold.nameSpace
        holdOthers.nameSpace
    · exact Arguments.reads_securityScheme.value_eq parsed same sameConfig hold.securityScheme
        holdOthers.securityScheme
    · exact Arguments.reads_specHashPolicy.value_eq parsed same sameConfig hold.digestPolicy
        holdOthers.digestPolicy
  sameOutput otherSurroundings otherLine otherArguments otherConfig otherStarts values others hold
      holdOthers nameSpace security isPretty text output otherOutput hasText otherHasText succeeded
      otherSucceeded := by
    rw [starts.run_eq hold hasText] at succeeded
    rw [otherStarts.run_eq holdOthers otherHasText] at otherSucceeded
    exact SettingValues.text_eq_of_outcome nameSpace security isPretty succeeded otherSucceeded

end FollowsPrecedence

/-- An empty namespace on the command line and an empty scheme name in a variable, before a
configuration file with others; and a run with the same values from other places. -/
theorem run_follows_precedence_empty :
    let document := "\x7b\"openapi\":\"3\",\"servers\":[\x7b\"url\":\"p:\"\x7d]," ++
      "\"paths\":\x7b\"/\":\x7b\x7d\x7d," ++
      "\"components\":\x7b\"securitySchemes\":\x7b\"key\":\x7b\"type\":\"apiKey\"\x7d," ++
      "\"\":\x7b\"type\":\"http\",\"scheme\":\"basic\"\x7d\x7d\x7d\x7d"
    let fileBytes := fun path =>
      if path = "pets.json" then .ok document.toUTF8
      else if path = "tools.json" then
        .ok "\x7b\"namespace\":\"pets\",\"securityScheme\":\"key\",\"other\":0\x7d".toUTF8
      else .error .notFound
    let surroundings : Surroundings :=
      { environment := fun name =>
          if name = "OPENAPI_IMPORT_SECURITY_SCHEME" then some "" else none
        fileBytes
        addressText? := fun _ _ => none }
    let line := ["--config", "tools.json", "--namespace=", "--file", "pets.json"]
    let arguments : Arguments :=
      { Arguments.empty with
        file := "pets.json", config := "tools.json", nameSpace := "", securityScheme := "" }
    let config : Config := { Config.empty with nameSpace := "pets", securityScheme := "key" }
    let others : Surroundings :=
      { environment := fun _ => none, fileBytes, addressText? := fun _ _ => none }
    let otherLine := ["--file=pets.json", "--log-json", "--security-scheme", ""]
    let otherArguments : Arguments :=
      { Arguments.empty with file := "pets.json", securityScheme := "", logJson := true }
    let written := "\x7b\"title\":\"Unknown\",\"baseUrl\":\"p:\"," ++
      "\"security\":\x7b\"auth_type\":\"basic\"\x7d,\"tools\":[]\x7d\n"
    Starts surroundings line arguments config ∧
      (∀ values, SettingValues.Hold surroundings.environment line config values →
        values.effectiveNameSpace = none ∧ values.security = .named "") ∧
      run surroundings arguments = .ok ⟨none, written⟩ ∧
      Starts others otherLine otherArguments .empty ∧
      ∀ output, run others otherArguments = .ok output → output.text = written := by
  intro document fileBytes surroundings line arguments config others otherLine otherArguments
    written
  have counts : Counts (some document) document := ⟨rfl, 'o', by decide +kernel, by decide⟩
  have hasText : HasText surroundings arguments config document :=
    .file (.file rfl rfl) isAbsent_none counts
  have otherHasText : HasText others otherArguments .empty document :=
    .file (.file rfl rfl) isAbsent_none counts
  have starts : Starts surroundings line arguments config := by
    refine ⟨?_, .file (.named rfl) rfl ?_⟩
    · simp only [surroundings, line, arguments]
      decide +kernel
    · simp only [config]
      decide +kernel
  have otherStarts : Starts others otherLine otherArguments .empty := by
    refine ⟨?_, .noPath fun path isPath => ?_⟩
    · simp only [others, otherLine, otherArguments]
      decide +kernel
    · exact absurd (hasConfigPath_iff.mp isPath) (Option.some_ne_none path).symm
  have ran : run surroundings arguments = .ok ⟨none, written⟩ := by
    rw [run_of_hasText starts.hasConfig hasText]
    simp only [arguments, config, document, written]
    decide +kernel
  have follows := run_follows_precedence starts
  refine ⟨starts, fun values hold => ⟨?_, ?_⟩, ran, otherStarts, fun output otherRan => ?_⟩
  · have supplies := Arguments.reads_nameSpace.supplies_of_get starts.parsed rfl
    exact (follows.emptyNameSpace values hold supplies).2
  · have supplies := Arguments.reads_securityScheme.supplies_of_get starts.parsed rfl
    obtain ⟨isSupplied, isNamed⟩ := follows.emptyScheme values hold
    exact (isNamed (isSupplied supplies)).1
  · have hold : SettingValues.Hold surroundings.environment line config
        (.ofArguments arguments config) := (SettingValues.hold_iff starts.parsed).mpr rfl
    have otherHold : SettingValues.Hold others.environment otherLine .empty
        (.ofArguments otherArguments .empty) := (SettingValues.hold_iff otherStarts.parsed).mpr rfl
    have sameText := follows.sameOutput others otherLine otherArguments .empty otherStarts _ _ hold
      otherHold rfl rfl rfl document _ output hasText otherHasText ran otherRan
    exact sameText.symm

end OpenApiTools.Cli
