import OpenApiTools.Cli.Arguments
import Mathlib.Data.List.Basic

/-!
# Where settings come from

A setting is made by the command line, or else by its variable. Making one leaves the others alone,
so that each can be followed by itself through the loop over all variables.
-/

namespace OpenApiTools.Cli

/-- What follows a step that has succeeded goes on with its result. -/
theorem ok_bind {ε α β : Type} (value : α) (next : α → Except ε β) :
    (Except.ok value >>= next) = next value := rfl

/-- A step that succeeds after another goes on with the result of that one. -/
theorem exists_of_bind_eq_ok {ε α β : Type} {attempt : Except ε α} {next : α → Except ε β}
    {result : β} (succeeded : attempt >>= next = .ok result) :
    ∃ value, attempt = .ok value ∧ next value = .ok result := by
  cases attempt with
  | error error => contradiction
  | ok value => exact ⟨value, rfl, succeeded⟩

/-- Every setting is listed. -/
theorem Setting.mem_all (setting : Setting) : setting ∈ Setting.all := by
  rcases setting with option | flag
  · cases option <;> decide
  · cases flag <;> decide

namespace Arguments

/-- Whether a setting has been made in the same way in two sets of arguments. -/
def Alike (setting : Setting) (left right : Arguments) : Prop :=
  match setting with
  | .value .url => left.url = right.url
  | .value .file => left.file = right.file
  | .value .nameSpace => left.nameSpace = right.nameSpace
  | .value .securityScheme => left.securityScheme = right.securityScheme
  | .value .config => left.config = right.config
  | .value .output => left.output = right.output
  | .flag .pretty => left.pretty = right.pretty
  | .flag .logJson => left.logJson = right.logJson
  | .value .timeoutSecs => left.timeoutSecs = right.timeoutSecs
  | .value .specHash => left.specHash = right.specHash
  | .value .specHashPolicy => left.specHashPolicy = right.specHashPolicy

/-- The arguments with one setting as in others. -/
def adopt (setting : Setting) (source arguments : Arguments) : Arguments :=
  match setting with
  | .value .url => { arguments with url := source.url }
  | .value .file => { arguments with file := source.file }
  | .value .nameSpace => { arguments with nameSpace := source.nameSpace }
  | .value .securityScheme => { arguments with securityScheme := source.securityScheme }
  | .value .config => { arguments with config := source.config }
  | .value .output => { arguments with output := source.output }
  | .flag .pretty => { arguments with pretty := source.pretty }
  | .flag .logJson => { arguments with logJson := source.logJson }
  | .value .timeoutSecs => { arguments with timeoutSecs := source.timeoutSecs }
  | .value .specHash => { arguments with specHash := source.specHash }
  | .value .specHashPolicy => { arguments with specHashPolicy := source.specHashPolicy }

variable {setting other : Setting} {left middle right : Arguments}

theorem Alike.refl (setting : Setting) (arguments : Arguments) :
    Alike setting arguments arguments := by
  rcases setting with option | flag
  · cases option <;> rfl
  · cases flag <;> rfl

theorem Alike.trans (first : Alike setting left middle) (second : Alike setting middle right) :
    Alike setting left right := by
  rcases setting with option | flag
  · cases option <;> exact Eq.trans first second
  · cases flag <;> exact Eq.trans first second

/-- A setting that is alike in two sets of arguments has been made in both or in neither. -/
theorem Alike.has_eq (alike : Alike setting left right) : left.has setting = right.has setting := by
  rcases setting with option | flag
  · cases option <;> exact congrArg Option.isSome alike
  · cases flag <;> exact congrArg Option.isSome alike

/-- The setting that is adopted is that of the source. -/
theorem alike_adopt (setting : Setting) (source arguments : Arguments) :
    Alike setting (adopt setting source arguments) source := by
  rcases setting with option | flag
  · cases option <;> rfl
  · cases flag <;> rfl

/-- The other settings stay as they are. -/
theorem alike_adopt_of_ne (different : other ≠ setting) (source arguments : Arguments) :
    Alike other (adopt setting source arguments) arguments := by
  rcases other with otherOption | otherFlag <;> rcases setting with option | flag
  · cases option <;> cases otherOption <;> first | rfl | contradiction
  · cases flag <;> cases otherOption <;> rfl
  · cases option <;> cases otherFlag <;> rfl
  · cases flag <;> cases otherFlag <;> first | rfl | contradiction

/-- A setting is made as it would be made alone, and nothing else happens. -/
theorem set_eq_map_adopt (arguments : Arguments) (setting : Setting) (value : String) :
    arguments.set setting value =
      (empty.set setting value).map fun alone => adopt setting alone arguments := by
  -- The text of the value is read first where not every text is a value.
  rcases setting with option | flag
  · cases option with
    | file => unfold set; cases readPath value <;> rfl
    | config => unfold set; cases readPath value <;> rfl
    | output => unfold set; cases readPath value <;> rfl
    | timeoutSecs => unfold set; cases readSeconds value <;> rfl
    | specHashPolicy => unfold set; cases readPolicy value <;> rfl
    | _ => rfl
  · cases flag <;> unfold set <;> cases readBool value <;> rfl

/-- Where a setting comes from, given the arguments that the command line makes by itself. -/
inductive Supplied (environment : String → Option String) (setting : Setting)
    (given arguments : Arguments) : Prop
  | byLine (isGiven : given.has setting = true) (alike : Alike setting arguments given)
  | byVariable {value : String} {alone : Arguments} (notGiven : given.has setting = false)
    (isSet : environment setting.variableName = some value)
    (isRead : empty.set setting value = .ok alone) (alike : Alike setting arguments alone)
  | byNothing (notGiven : given.has setting = false)
    (notSet : environment setting.variableName = none) (alike : Alike setting arguments given)

variable {environment : String → Option String} {before after given arguments : Arguments}

/-- What is like the given arguments is supplied like them. -/
theorem Supplied.of_alike (alike : Alike setting before given)
    (supplied : Supplied environment setting before after) :
    Supplied environment setting given after := by
  have has := alike.has_eq
  cases supplied with
  | byLine isGiven same => exact .byLine (has ▸ isGiven) (same.trans alike)
  | byVariable notGiven isSet isRead same => exact .byVariable (has ▸ notGiven) isSet isRead same
  | byNothing notGiven notSet same => exact .byNothing (has ▸ notGiven) notSet (same.trans alike)

/-- A later change to other settings does not matter. -/
theorem Supplied.trans_alike (supplied : Supplied environment setting given before)
    (alike : Alike setting after before) : Supplied environment setting given after := by
  cases supplied with
  | byLine isGiven same => exact .byLine isGiven (alike.trans same)
  | byVariable notGiven isSet isRead same =>
    exact .byVariable notGiven isSet isRead (alike.trans same)
  | byNothing notGiven notSet same => exact .byNothing notGiven notSet (alike.trans same)

/-- A variable changes nothing, or it makes its setting because that has not been made. -/
theorem cases_of_fillFrom (filled : fillFrom environment before setting = .ok after) :
    (before.has setting = true ∨ environment setting.variableName = none) ∧ after = before ∨
      ∃ value alone, before.has setting = false ∧
        environment setting.variableName = some value ∧
        empty.set setting value = .ok alone ∧ after = adopt setting alone before := by
  unfold fillFrom at filled
  split at filled
  · rename_i value isSet
    split at filled
    · rename_i isGiven
      exact .inl ⟨.inl isGiven, (Except.ok.inj filled).symm⟩
    · rename_i notGiven
      rw [set_eq_map_adopt] at filled
      cases isRead : empty.set setting value with
      | error error =>
        rw [isRead] at filled
        contradiction
      | ok alone =>
        rw [isRead] at filled
        exact .inr ⟨value, alone, Bool.eq_false_iff.mpr notGiven, isSet, isRead,
          (Except.ok.inj filled).symm⟩
  · rename_i notSet
    exact .inl ⟨.inr notSet, (Except.ok.inj filled).symm⟩

/-- A variable supplies its own setting. -/
theorem supplied_of_fillFrom (filled : fillFrom environment before setting = .ok after) :
    Supplied environment setting before after := by
  rcases cases_of_fillFrom filled with
    ⟨unneeded, rfl⟩ | ⟨value, alone, notGiven, isSet, isRead, rfl⟩
  · cases isGiven : after.has setting with
    | true => exact .byLine isGiven (.refl setting after)
    | false =>
      have notSet := unneeded.resolve_left (Bool.eq_false_iff.mp isGiven)
      exact .byNothing isGiven notSet (.refl setting after)
  · exact .byVariable notGiven isSet isRead (alike_adopt setting alone before)

/-- A variable leaves the other settings alone. -/
theorem alike_of_fillFrom (filled : fillFrom environment before setting = .ok after)
    (different : other ≠ setting) : Alike other after before := by
  rcases cases_of_fillFrom filled with ⟨-, rfl⟩ | ⟨value, alone, -, -, -, rfl⟩
  · exact .refl other after
  · exact alike_adopt_of_ne different alone before

/-- Variables leave the settings of all others alone. -/
theorem alike_of_foldlM_fillFrom {settings : List Setting}
    (filled : settings.foldlM (fillFrom environment) before = .ok after)
    (isOther : other ∉ settings) : Alike other after before := by
  induction settings generalizing before with
  | nil =>
    obtain rfl := Except.ok.inj filled
    exact .refl other before
  | cons setting rest inductionHypothesis =>
    rw [List.foldlM_cons] at filled
    obtain ⟨middle, first, later⟩ := exists_of_bind_eq_ok filled
    have different := List.ne_of_not_mem_cons isOther
    have notLater := List.not_mem_of_not_mem_cons isOther
    exact (inductionHypothesis later notLater).trans (alike_of_fillFrom first different)

/-- Variables that are read one after the other, each once, supply each its own setting. -/
theorem supplied_of_foldlM_fillFrom {settings : List Setting} (distinct : settings.Nodup)
    (filled : settings.foldlM (fillFrom environment) before = .ok after)
    (isThere : setting ∈ settings) : Supplied environment setting before after := by
  induction settings generalizing before with
  | nil => exact absurd isThere List.not_mem_nil
  | cons first rest inductionHypothesis =>
    rw [List.foldlM_cons] at filled
    obtain ⟨middle, isFirst, later⟩ := exists_of_bind_eq_ok filled
    obtain ⟨notLater, distinctLater⟩ := List.nodup_cons.mp distinct
    by_cases same : setting = first
    · subst same
      exact (supplied_of_fillFrom isFirst).trans_alike (alike_of_foldlM_fillFrom later notLater)
    · have isLater := (List.mem_cons.mp isThere).resolve_left same
      exact (inductionHypothesis distinctLater later isLater).of_alike
        (alike_of_fillFrom isFirst same)

/-- Each setting of arguments comes from the command line, or else from its variable. -/
theorem supplied_of_parse {line : List String} (parsed : parse environment line = .ok arguments) :
    ∃ given, ofCommandLine line = .ok given ∧
      ∀ setting, Supplied environment setting given arguments := by
  obtain ⟨given, read, filled⟩ := exists_of_bind_eq_ok parsed
  refine ⟨given, read, fun setting => ?_⟩
  exact supplied_of_foldlM_fillFrom (by decide) filled setting.mem_all

end Arguments

end OpenApiTools.Cli
