import OpenApiTools.Cli.Run
import OpenApiTools.Proofs.Symbol

/-!
# Files of a run

A run begins with two files. The configuration is read as bytes, from the file that the arguments
name or from the usual place, and it may be missing there. The document is read as a text, which
must be there if the arguments name a file at all.
-/

namespace OpenApiTools.Cli

/-- What lies below a directory has a path in which a slash stands between the two, unless the
directory is empty or ends with a slash itself. -/
inductive LiesBelow (directory below : String) : String → Prop
  | closed (isClosed : directory = "" ∨ directory.toList.getLast? = some '/') :
    LiesBelow directory below (directory ++ below)
  | separated (notEmpty : directory ≠ "") (isOpen : directory.toList.getLast? ≠ some '/') :
    LiesBelow directory below (directory ++ "/" ++ below)

/-- The directory of configurations: the one that its variable says, or else the one below the home
directory. -/
inductive HasConfigHome (environment : String → Option String) : String → Prop
  | byVariable {directory : String} (isSet : environment "XDG_CONFIG_HOME" = some directory) :
    HasConfigHome environment directory
  | belowHome {home directory : String} (notSet : environment "XDG_CONFIG_HOME" = none)
    (isSet : environment "HOME" = some home) (isPath : LiesBelow home ".config" directory) :
    HasConfigHome environment directory

section Stages

variable (surroundings : Surroundings) (arguments : Arguments)

/-- The configuration file of the run, whether it exists or not: the one that the arguments name, or
else the usual one in the directory of configurations, if there is such a directory. -/
inductive HasConfigPath : String → Prop
  | named {path : String} (isNamed : arguments.config = some path) : HasConfigPath path
  | usual {directory path : String} (notNamed : arguments.config = none)
    (hasHome : HasConfigHome surroundings.environment directory)
    (isPath : LiesBelow directory "unrelated/openapi-import.json" path) : HasConfigPath path

/-- The configuration of the run. Without a file there are no settings in it. -/
inductive HasConfig : Config → Prop
  | noPath (noPath : ∀ path, ¬ HasConfigPath surroundings arguments path) : HasConfig .empty
  | noFile {path : String} (isPath : HasConfigPath surroundings arguments path)
    (missing : surroundings.fileBytes path = .error .notFound) : HasConfig .empty
  | file {path : String} {bytes : ByteArray} {config : Config}
    (isPath : HasConfigPath surroundings arguments path)
    (isRead : surroundings.fileBytes path = .ok bytes)
    (parses : Config.ofBytes? bytes = some config) : HasConfig config

/-- A configuration file exists, but no configuration can be had from it. -/
inductive SpoilsConfig : RunError → Prop
  | unreadable {path : String} (isPath : HasConfigPath surroundings arguments path)
    (unreadable : surroundings.fileBytes path = .error .unreadable) :
    SpoilsConfig (.configUnreadable path)
  | malformed {path : String} {bytes : ByteArray}
    (isPath : HasConfigPath surroundings arguments path)
    (isRead : surroundings.fileBytes path = .ok bytes)
    (malformed : Config.ofBytes? bytes = none) : SpoilsConfig (.configMalformed path)

/-- The text of the file that the run is given, if it is given one. -/
inductive HasContent : Option String → Prop
  | noFile (notGiven : arguments.file = none) : HasContent none
  | file {path text : String} (isGiven : arguments.file = some path)
    (isText : surroundings.fileBytes path = .ok text.toUTF8) : HasContent (some text)

end Stages

section Reading

variable {surroundings : Surroundings} {arguments : Arguments} {config : Config}

/-- The path of what lies below a directory is the one that joins the two. -/
theorem liesBelow_iff {directory below path : String} :
    LiesBelow directory below path ↔ path = Config.joinPath directory below := by
  have condition : (directory.isEmpty || directory.toList.getLast? == some '/') = true ↔
      directory = "" ∨ directory.toList.getLast? = some '/' := by
    rw [Bool.or_eq_true, String.isEmpty_iff, beq_iff_eq]
  unfold Config.joinPath
  constructor
  · rintro (⟨isClosed⟩ | ⟨notEmpty, isOpen⟩)
    · rw [if_pos (condition.mpr isClosed)]
    · rw [if_neg (mt condition.mp (not_or_intro notEmpty isOpen))]
  · rintro rfl
    split
    · rename_i isClosed
      exact .closed (condition.mp isClosed)
    · rename_i isOpen
      obtain ⟨notEmpty, isOpen⟩ := not_or.mp (mt condition.mpr isOpen)
      exact .separated notEmpty isOpen

/-- The configuration file is the one that is looked for. -/
theorem hasConfigPath_iff {path : String} :
    HasConfigPath surroundings arguments path ↔
      configPath? surroundings.environment arguments = some path := by
  unfold configPath? Config.defaultPath? configHomeVariable homeVariable Config.fileName
  constructor
  · rintro (⟨isNamed⟩ | ⟨notNamed, hasHome, isPath⟩)
    · rw [isNamed, Option.some_or]
    · rw [notNamed, Option.none_or, liesBelow_iff.mp isPath]
      cases hasHome with
      | byVariable isSet => rw [isSet]
      | belowHome notSet isSet isHome => rw [notSet, isSet, liesBelow_iff.mp isHome]
  · intro isPath
    cases isNamed : arguments.config with
    | some named =>
      rw [isNamed, Option.some_or] at isPath
      obtain rfl := Option.some.inj isPath
      exact .named isNamed
    | none =>
      rw [isNamed, Option.none_or] at isPath
      split at isPath
      · rename_i directory _ isSet
        exact .usual isNamed (.byVariable isSet) (liesBelow_iff.mpr (Option.some.inj isPath).symm)
      · rename_i home notSet isSet
        have hasHome := HasConfigHome.belowHome notSet isSet (liesBelow_iff.mpr rfl)
        exact .usual isNamed hasHome (liesBelow_iff.mpr (Option.some.inj isPath).symm)
      · contradiction

/-- The text of a file is the one that its bytes encode. -/
theorem Surroundings.fileText_eq_ok_iff {path text : String} :
    surroundings.fileText path = .ok text ↔ surroundings.fileBytes path = .ok text.toUTF8 := by
  unfold fileText
  cases surroundings.fileBytes path with
  | error error => simp
  | ok bytes =>
    rw [Except.ok.injEq, ← Text.fromUTF8?_eq_some_iff]
    cases isText : String.fromUTF8? bytes <;> simp [isText]

/-- The first stage gives the configuration of the run. -/
theorem effectiveConfig_of_hasConfig (hasConfig : HasConfig surroundings arguments config) :
    effectiveConfig surroundings arguments = .ok config := by
  unfold effectiveConfig
  cases hasConfig with
  | noPath noPath =>
    have nothing := fun path => mt hasConfigPath_iff.mpr (noPath path)
    rw [Option.eq_none_iff_forall_ne_some.mpr nothing]
  | noFile isPath missing =>
    rw [hasConfigPath_iff.mp isPath]
    simp only [loadConfig, missing]
  | file isPath isRead parses =>
    rw [hasConfigPath_iff.mp isPath]
    simp only [loadConfig, isRead, parses]

/-- There is a configuration, or else its file is at fault. -/
theorem exists_hasConfig_or_spoilsConfig (surroundings : Surroundings) (arguments : Arguments) :
    (∃ config, HasConfig surroundings arguments config) ∨
      ∃ error, SpoilsConfig surroundings arguments error := by
  by_cases hasPath : ∃ path, HasConfigPath surroundings arguments path
  · obtain ⟨path, isPath⟩ := hasPath
    cases read : surroundings.fileBytes path with
    | error error =>
      cases error with
      | notFound => exact .inl ⟨_, .noFile isPath read⟩
      | unreadable => exact .inr ⟨_, .unreadable isPath read⟩
    | ok bytes =>
      cases parsed : Config.ofBytes? bytes with
      | some config => exact .inl ⟨_, .file isPath read parsed⟩
      | none => exact .inr ⟨_, .malformed isPath read parsed⟩
  · exact .inl ⟨_, .noPath (not_exists.mp hasPath)⟩

/-- The second stage gives the text of the file. -/
theorem readContent_of_hasContent {content : Option String}
    (hasContent : HasContent surroundings arguments content) :
    readContent surroundings arguments = .ok content := by
  unfold readContent
  cases hasContent with
  | noFile notGiven => rw [notGiven]
  | file isGiven isText => simp only [isGiven, Surroundings.fileText_eq_ok_iff.mpr isText]

end Reading

end OpenApiTools.Cli
