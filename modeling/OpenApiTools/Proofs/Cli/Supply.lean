import OpenApiTools.Proofs.Cli.CommandLine

/-!
# What is supplied to settings

A setting takes the text that the command line gives it, or else that of its variable, or else what
a configuration has for it. Accepted arguments have the values of the texts that are supplied, and
none where nothing is.
-/

namespace OpenApiTools.Cli.Arguments

section Precedence

variable (environment : String → Option String) (line : List String) (setting : Setting)

/-- The text that is supplied to a setting: by the command line, or else by its variable. -/
inductive Supplies : String → Prop
  | byLine {text : String} (gives : Gives line setting text) : Supplies text
  | byVariable {text : String} (notGiven : ∀ other, ¬ Gives line setting other)
    (isSet : environment setting.variableName = some text) : Supplies text

/-- The value of a setting: the one that is supplied to it, or else the one that the configuration
has, if it has one. -/
inductive Takes {α : Type} (read : String → Option α) (configured : Option α) : Option α → Prop
  | supplied {text : String} {value : α} (supplies : Supplies environment line setting text)
    (isRead : read text = some value) : Takes read configured (some value)
  | configured (missing : ∀ text, ¬ Supplies environment line setting text) :
    Takes read configured configured

end Precedence

variable {environment : String → Option String} {line : List String} {setting : Setting}
  {arguments : Arguments}

/-- A setting is made with the text that is supplied to it. -/
theorem Supplies.exists_set {text : String} (supplies : Supplies environment line setting text)
    (parsed : parse environment line = .ok arguments) :
    ∃ alone, empty.set setting text = .ok alone ∧ Alike setting arguments alone := by
  obtain ⟨given, read, supplied⟩ := supplied_of_parse parsed
  cases supplies with
  | byLine gives =>
    obtain ⟨alone, isRead, isAlone⟩ := gives.exists_set read
    have isGiven := (has_iff_gives read).mpr ⟨text, gives⟩
    cases supplied setting with
    | byLine _ alike => exact ⟨alone, isRead, alike.trans isAlone⟩
    | byVariable notGiven => exact absurd isGiven (Bool.eq_false_iff.mp notGiven)
    | byNothing notGiven => exact absurd isGiven (Bool.eq_false_iff.mp notGiven)
  | byVariable notGiven isSet =>
    have noGiver : ¬ ∃ other, Gives line setting other := not_exists.mpr notGiven
    cases supplied setting with
    | byLine isGiven => exact absurd ((has_iff_gives read).mp isGiven) noGiver
    | @byVariable value alone _ isSetTo isRead alike =>
      obtain rfl : value = text := Option.some.inj (isSetTo.symm.trans isSet)
      exact ⟨alone, isRead, alike⟩
    | byNothing _ notSet =>
      rw [notSet] at isSet
      contradiction

/-- The settings that are made are those to which a text is supplied. -/
theorem has_iff_supplies (parsed : parse environment line = .ok arguments) :
    arguments.has setting = true ↔ ∃ text, Supplies environment line setting text := by
  constructor
  · intro isMade
    obtain ⟨given, read, supplied⟩ := supplied_of_parse parsed
    cases supplied setting with
    | byLine isGiven =>
      obtain ⟨text, gives⟩ := (has_iff_gives read).mp isGiven
      exact ⟨text, .byLine gives⟩
    | byVariable notGiven isSet =>
      refine ⟨_, .byVariable (fun other gives => ?_) isSet⟩
      have isGiven := (has_iff_gives read).mpr ⟨other, gives⟩
      exact absurd isGiven (Bool.eq_false_iff.mp notGiven)
    | byNothing notGiven _ alike =>
      rw [alike.has_eq, notGiven] at isMade
      contradiction
  · rintro ⟨text, supplies⟩
    obtain ⟨alone, isRead, alike⟩ := supplies.exists_set parsed
    rw [alike.has_eq]
    exact has_of_set isRead

/-- How a setting is read from its text, and where it is found in arguments. -/
structure Reads {α : Type} (setting : Setting) (read : String → Option α)
    (get : Arguments → Option α) : Prop where
  alike : ∀ {left right : Arguments}, Alike setting left right → get left = get right
  has : ∀ arguments : Arguments, arguments.has setting = (get arguments).isSome
  set : ∀ {text : String} {alone : Arguments},
    empty.set setting text = .ok alone → get alone = read text

theorem reads_nameSpace : Reads (.value .nameSpace) some Arguments.nameSpace where
  alike same := same
  has _ := rfl
  set isRead := by
    obtain rfl := Except.ok.inj isRead
    rfl

theorem reads_securityScheme : Reads (.value .securityScheme) some Arguments.securityScheme where
  alike same := same
  has _ := rfl
  set isRead := by
    obtain rfl := Except.ok.inj isRead
    rfl

/-- A setting that is made with a value that is parsed first has that value. -/
theorem eq_toOption_of_made {α : Type} {attempt : Except UsageError α} {make : α → Arguments}
    {get : Arguments → Option α} {alone : Arguments} (gets : ∀ value, get (make value) = some value)
    (made : (do return make (← attempt)) = .ok alone) : get alone = attempt.toOption := by
  obtain ⟨value, isValue, isAlone⟩ := exists_of_bind_eq_ok made
  obtain rfl := Except.ok.inj isAlone
  rw [isValue, gets]
  rfl

/-- A policy is set by its name. -/
theorem specHashPolicy_of_set {value : String} {alone : Arguments}
    (isRead : empty.set (.value .specHashPolicy) value = .ok alone) :
    alone.specHashPolicy = DigestPolicy.ofName? value := by
  unfold set readPolicy at isRead
  cases isPolicy : DigestPolicy.ofName? value with
  | none =>
    rw [isPolicy] at isRead
    contradiction
  | some policy =>
    rw [isPolicy] at isRead
    obtain rfl := Except.ok.inj isRead
    rfl

theorem reads_specHashPolicy :
    Reads (.value .specHashPolicy) DigestPolicy.ofName? Arguments.specHashPolicy where
  alike same := same
  has _ := rfl
  set := specHashPolicy_of_set

theorem reads_pretty :
    Reads (.flag .pretty) (fun text => (readBool text).toOption) Arguments.pretty where
  alike same := same
  has _ := rfl
  set isRead := eq_toOption_of_made (fun _ => rfl) isRead

section Reads

variable {α : Type} {read : String → Option α} {get : Arguments → Option α}

/-- The arguments have the value of the text that is supplied. -/
theorem Reads.get_of_supplies (reads : Reads setting read get)
    (parsed : parse environment line = .ok arguments) {text : String}
    (supplies : Supplies environment line setting text) : get arguments = read text := by
  obtain ⟨alone, isRead, alike⟩ := supplies.exists_set parsed
  rw [reads.alike alike, reads.set isRead]

/-- They have a value if and only if a text is supplied. -/
theorem Reads.isSome_iff (reads : Reads setting read get)
    (parsed : parse environment line = .ok arguments) :
    (get arguments).isSome = true ↔ ∃ text, Supplies environment line setting text := by
  rw [← reads.has]
  exact has_iff_supplies parsed

/-- A text in the arguments is the one that is supplied. -/
theorem Reads.supplies_of_get {get : Arguments → Option String} {text : String}
    (reads : Reads setting some get) (parsed : parse environment line = .ok arguments)
    (isText : get arguments = some text) : Supplies environment line setting text := by
  have isSome : (get arguments).isSome = true := Option.isSome_iff_exists.mpr ⟨text, isText⟩
  obtain ⟨other, supplies⟩ := (reads.isSome_iff parsed).mp isSome
  rw [reads.get_of_supplies parsed supplies] at isText
  obtain rfl := Option.some.inj isText
  exact supplies

/-- The value of a setting is the one in the arguments, or else that of the configuration. -/
theorem Reads.takes_iff (reads : Reads setting read get)
    (parsed : parse environment line = .ok arguments) {configured value : Option α} :
    Takes environment line setting read configured value ↔
      value = (get arguments).or configured := by
  have isSome := reads.isSome_iff parsed
  constructor
  · rintro (⟨supplies, isRead⟩ | ⟨missing⟩)
    · rw [reads.get_of_supplies parsed supplies, isRead, Option.some_or]
    · have notMade := mt isSome.mp (not_exists.mpr missing)
      rw [Option.not_isSome_iff_eq_none.mp notMade, Option.none_or]
  · rintro rfl
    cases isValue : get arguments with
    | some value =>
      obtain ⟨text, supplies⟩ := isSome.mp (Option.isSome_iff_exists.mpr ⟨value, isValue⟩)
      rw [reads.get_of_supplies parsed supplies] at isValue
      exact .supplied supplies isValue
    | none =>
      have notSupplied := mt isSome.mpr (Option.not_isSome_iff_eq_none.mpr isValue)
      exact .configured (not_exists.mp notSupplied)

end Reads

/-- A text that is supplied is the one that is taken. -/
theorem Takes.of_supplies {get : Arguments → Option String} (reads : Reads setting some get)
    (parsed : parse environment line = .ok arguments) {configured value : Option String}
    {text : String} (supplies : Supplies environment line setting text)
    (takes : Takes environment line setting some configured value) : value = some text := by
  have isTaken : Takes environment line setting some configured (some text) :=
    .supplied supplies rfl
  have isValue := (reads.takes_iff parsed).mp takes
  have isText := (reads.takes_iff parsed).mp isTaken
  exact isValue.trans isText.symm

/-- What is configured is taken if nothing is supplied. -/
theorem Takes.of_missing {α : Type} {read : String → Option α} {configured value : Option α}
    (missing : ∀ text, ¬ Supplies environment line setting text)
    (takes : Takes environment line setting read configured value) : value = configured := by
  cases takes with
  | supplied supplies => exact absurd supplies (missing _)
  | configured => rfl

end OpenApiTools.Cli.Arguments
