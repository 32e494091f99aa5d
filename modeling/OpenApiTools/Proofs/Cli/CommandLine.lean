import Mathlib.Data.List.TakeWhile
import OpenApiTools.Proofs.Cli.Making

/-!
# What a command line says

An accepted command line is a row of options, each with the text of its value behind it or attached
to it, and of flags. It makes the settings that it names, each once, and no others. The order in
which it names them does not matter.
-/

namespace OpenApiTools.Cli

namespace Setting

/-- The name of a setting has no equals sign. -/
theorem not_mem_name (setting : Setting) : '=' ∉ setting.name.toList := by
  rcases setting with option | flag
  · cases option <;> decide +kernel
  · cases flag <;> decide +kernel

/-- A setting is found under its name. -/
theorem ofName?_name (setting : Setting) : ofName? setting.name = some setting := by
  rcases setting with option | flag
  · cases option <;> decide +kernel
  · cases flag <;> decide +kernel

/-- What is found under a name has the name. -/
theorem name_of_ofName? {name : String} {setting : Setting} (found : ofName? name = some setting) :
    setting.name = name := by
  simpa using List.find?_some found

theorem name_ne_empty (setting : Setting) : setting.name ≠ "" := by
  rcases setting with option | flag
  · cases option <;> decide +kernel
  · cases flag <;> decide +kernel

/-- No setting is named like a request for a text. -/
theorem name_ne_help (setting : Setting) : setting.name ≠ "help" ∧ setting.name ≠ "version" := by
  rcases setting with option | flag
  · cases option <;> decide +kernel
  · cases flag <;> decide +kernel

end Setting

namespace Arguments

/-- A text that is no option: it begins with no dash, or is a dash alone. -/
def IsPlain (text : String) : Prop :=
  text = "-" ∨ ∀ rest, text.toList ≠ '-' :: rest

/-- How settings are written on a command line, each with the text of its value. -/
inductive Spells : List String → List (Setting × String) → Prop
  | nothing : Spells [] []
  /-- Two dashes may end the options. -/
  | escape : Spells ["--"] []
  | separate {option : ValueOption} {value : String} {line : List String}
    {settings : List (Setting × String)} (isPlain : IsPlain value) (later : Spells line settings) :
    Spells (("--" ++ (Setting.value option).name) :: value :: line)
      ((.value option, value) :: settings)
  | attached {option : ValueOption} {value : String} {line : List String}
    {settings : List (Setting × String)} (later : Spells line settings) :
    Spells (("--" ++ (Setting.value option).name ++ "=" ++ value) :: line)
      ((.value option, value) :: settings)
  | flag {flag : Flag} {line : List String} {settings : List (Setting × String)}
    (later : Spells line settings) :
    Spells (("--" ++ (Setting.flag flag).name) :: line) ((.flag flag, "true") :: settings)

namespace Word

theorem ne_equals_of_not_mem {chars : List Char} (noEquals : '=' ∉ chars) :
    ∀ c ∈ chars, (c != '=') = true := by
  intro c isThere
  rw [bne_iff_ne]
  rintro rfl
  exact noEquals isThere

/-- A long option without an equals sign has no value attached. -/
theorem ofString_eq_long {text : String} {rest : List Char}
    (chars : text.toList = '-' :: '-' :: rest) (notEmpty : rest ≠ []) (noEquals : '=' ∉ rest) :
    ofString text = .long (String.ofList rest) none := by
  have kept := ne_equals_of_not_mem noEquals
  have taken := List.takeWhile_eq_self_iff.mpr kept
  have dropped := List.dropWhile_eq_nil_iff.mpr kept
  unfold ofString
  rw [chars]
  cases rest with
  | nil => exact absurd rfl notEmpty
  | cons first rest => simp only [taken, dropped]

/-- A value may be attached behind an equals sign. -/
theorem ofString_eq_long_attached {text : String} {name value : List Char}
    (chars : text.toList = '-' :: '-' :: (name ++ '=' :: value)) (noEquals : '=' ∉ name) :
    ofString text = .long (String.ofList name) (some (String.ofList value)) := by
  have kept := ne_equals_of_not_mem noEquals
  have taken : (name ++ '=' :: value).takeWhile (· != '=') = name := by
    rw [List.takeWhile_append_of_pos kept, List.takeWhile_cons_of_neg (by simp), List.append_nil]
  have dropped : (name ++ '=' :: value).dropWhile (· != '=') = '=' :: value := by
    rw [List.dropWhile_append_of_pos kept, List.dropWhile_cons_of_neg (by simp)]
  unfold ofString
  rw [chars]
  cases joined : name ++ '=' :: value with
  | nil => simp at joined
  | cons first rest =>
    rw [joined] at taken dropped
    simp only [taken, dropped]

/-- A text that is no option is taken as it is. -/
theorem ofString_eq_plain {text : String} (isPlain : IsPlain text) :
    ofString text = .plain text := by
  unfold ofString
  rcases isPlain with rfl | noDash
  · rfl
  · split
    · rename_i chars
      exact absurd chars (noDash _)
    · rename_i chars
      exact absurd chars (noDash _)
    · rename_i chars
      exact absurd chars (noDash _)
    · rfl

/-- What each shape of a word says about its text. -/
def Describes (text : String) : Word → Prop
  | .escape => text = "--"
  | .long name none => text = "--" ++ name
  | .long name (some value) => text = "--" ++ name ++ "=" ++ value
  | .short _ => True
  | .plain other => other = text ∧ IsPlain text

/-- The shape of a word describes its text. -/
theorem describes_ofString (text : String) : Describes text (ofString text) := by
  unfold ofString
  split
  · rename_i chars
    exact String.toList_inj.mp chars
  · rename_i rest _ chars
    have cut := List.takeWhile_append_dropWhile (p := (· != '=')) (l := rest)
    have first := List.head?_dropWhile_not (· != '=') rest
    dsimp only
    split
    · rename_i sign value dropped
      rw [dropped] at cut first
      obtain rfl : sign = '=' := by simpa using first
      rw [← cut] at chars
      apply String.toList_inj.mp
      simpa using chars
    · rename_i dropped
      rw [dropped, List.append_nil] at cut
      rw [← cut] at chars
      apply String.toList_inj.mp
      simpa using chars
  · trivial
  · rename_i notEscape notLong notShort
    refine ⟨rfl, ?_⟩
    by_cases isDash : text = "-"
    · exact .inl isDash
    · refine .inr fun rest chars => ?_
      cases rest with
      | nil => exact isDash (String.toList_inj.mp chars)
      | cons first rest => exact notShort first rest chars

/-- The option of a setting is read by its name. -/
theorem ofString_name (setting : Setting) :
    ofString ("--" ++ setting.name) = .long setting.name none := by
  have chars : ("--" ++ setting.name).toList = '-' :: '-' :: setting.name.toList := by
    simp
  have notEmpty : setting.name.toList ≠ [] := by
    simpa using setting.name_ne_empty
  rw [ofString_eq_long chars notEmpty setting.not_mem_name, String.ofList_toList]

/-- It may have its value attached. -/
theorem ofString_name_attached (setting : Setting) (value : String) :
    ofString ("--" ++ setting.name ++ "=" ++ value) = .long setting.name (some value) := by
  have chars : ("--" ++ setting.name ++ "=" ++ value).toList =
      '-' :: '-' :: (setting.name.toList ++ '=' :: value.toList) := by
    simp
  rw [ofString_eq_long_attached chars setting.not_mem_name, String.ofList_toList,
    String.ofList_toList]

end Word

namespace Reading

variable {reading settled : Reading}

/-- What a reading comes to once the rest of a command line has been read. -/
def outcome (reading : Reading) (line : List String) : Except UsageError Arguments := do
  let reading ← line.foldlM Reading.step reading
  return (← reading.settle).arguments

/-- The words of a command line are read one after the other. -/
theorem outcome_cons (reading : Reading) (word : String) (line : List String) :
    reading.outcome (word :: line) = reading.step word >>= (outcome · line) := by
  rw [outcome, List.foldlM_cons, bind_assoc]
  rfl

/-- Nothing is pending in a reading that has been settled. -/
theorem pending_of_settle (settles : reading.settle = .ok settled) :
    settled.pending = none ∧ settled.escaped = reading.escaped := by
  obtain ⟨arguments, pending, escaped⟩ := reading
  rcases pending with _ | ⟨option, _ | value⟩
  · obtain rfl := Except.ok.inj settles
    exact ⟨rfl, rfl⟩
  · contradiction
  · obtain ⟨made, -, isSettled⟩ := exists_of_bind_eq_ok settles
    obtain rfl := Except.ok.inj isSettled
    exact ⟨rfl, rfl⟩

/-- A reading in which nothing is pending is settled. -/
theorem settle_of_pending (notPending : reading.pending = none) : reading.settle = .ok reading := by
  unfold settle
  rw [notPending]

/-- Before two dashes the shape of a word decides. -/
theorem step_of_not_escaped (notEscaped : reading.escaped = false) (word : String) :
    reading.step word =
      match Word.ofString word with
      | .escape => .ok { reading with escaped := true }
      | .long name attached => reading.readLong name attached
      | .short letters => reading.readShort letters
      | .plain text => reading.readPlain text :=
  if_neg (by simp [notEscaped])

/-- An option is read as the setting with its name. -/
theorem readLong_name (reading : Reading) (setting : Setting) (attached : Option String) :
    reading.readLong setting.name attached = reading.readNamed setting attached := by
  obtain ⟨notHelp, notVersion⟩ := setting.name_ne_help
  unfold readLong
  rw [if_neg notHelp, if_neg notVersion, setting.ofName?_name]

/-- The option of a setting is read as the setting. -/
theorem step_name (notEscaped : reading.escaped = false) (setting : Setting) :
    reading.step ("--" ++ setting.name) = reading.readNamed setting none := by
  rw [step_of_not_escaped notEscaped, Word.ofString_name]
  exact readLong_name reading setting none

/-- So it is with a value attached. -/
theorem step_name_attached (notEscaped : reading.escaped = false) (setting : Setting)
    (value : String) :
    reading.step ("--" ++ setting.name ++ "=" ++ value) =
      reading.readNamed setting (some value) := by
  rw [step_of_not_escaped notEscaped, Word.ofString_name_attached]
  exact readLong_name reading setting (some value)

/-- A text that is no option is read as a value. -/
theorem step_plain {text : String} (notEscaped : reading.escaped = false)
    (isPlain : IsPlain text) : reading.step text = reading.readPlain text := by
  rw [step_of_not_escaped notEscaped, Word.ofString_eq_plain isPlain]

/-- Settling makes the setting that is pending. -/
theorem settle_some (arguments : Arguments) (option : ValueOption) (value : String)
    (escaped : Bool) :
    settle ⟨arguments, some ⟨option, some value⟩, escaped⟩ =
      arguments.setOnce (.value option) value >>= fun made => .ok ⟨made, none, escaped⟩ := rfl

/-- A word that makes a setting at once makes the first setting of those spelled. -/
theorem outcome_of_making {line : List String} {settings : List (Setting × String)}
    (goesOn : ∀ {reading : Reading}, reading.escaped = false →
      reading.outcome line = reading.settle >>= fun settled => settled.arguments.makeAll settings)
    (notEscaped : reading.escaped = false) (setting : Setting) (value : String) :
    ((reading.settle >>= fun settled => settled.arguments.setOnce setting value >>= fun made =>
        .ok { settled with arguments := made }) >>= (outcome · line)) =
      reading.settle >>= fun settled =>
        settled.arguments.makeAll ((setting, value) :: settings) := by
  rw [bind_assoc]
  cases settles : reading.settle with
  | error error => rfl
  | ok settled =>
    obtain ⟨notPending, escaped⟩ := pending_of_settle settles
    rw [notEscaped] at escaped
    rw [ok_bind, ok_bind, makeAll_cons, bind_assoc]
    refine bind_congr fun made => ?_
    rw [ok_bind, goesOn (by exact escaped), settle_of_pending (by exact notPending), ok_bind]

/-- A line comes to the settings that it spells, made one after the other, once what is pending has
been settled. -/
theorem outcome_of_spells {line : List String} {settings : List (Setting × String)}
    (spells : Spells line settings) (notEscaped : reading.escaped = false) :
    reading.outcome line =
      reading.settle >>= fun settled => settled.arguments.makeAll settings := by
  induction spells generalizing reading with
  | nothing => rfl
  | escape =>
    rw [outcome_cons, step_of_not_escaped notEscaped]
    obtain ⟨arguments, pending, escaped⟩ := reading
    rcases pending with _ | ⟨option, _ | value⟩
    · rfl
    · rfl
    · change (settle ⟨arguments, some ⟨option, some value⟩, true⟩ >>= _) = _
      rw [settle_some, settle_some]
      cases arguments.setOnce (.value option) value <;> rfl
  | @separate option value line settings isPlain later inductionHypothesis =>
    rw [outcome_cons, step_name notEscaped, readNamed, bind_assoc]
    cases settles : reading.settle with
    | error error => rfl
    | ok settled =>
      obtain ⟨-, escaped⟩ := pending_of_settle settles
      rw [notEscaped] at escaped
      -- The option is pending without its value first, and with it until the next word is read.
      change outcome ⟨settled.arguments, some ⟨option, none⟩, settled.escaped⟩ (value :: line) =
        settled.arguments.makeAll ((.value option, value) :: settings)
      rw [outcome_cons, step_plain (by exact escaped) isPlain]
      refine (inductionHypothesis (by exact escaped)).trans ?_
      rw [settle_some, makeAll_cons, bind_assoc]
      rfl
  | @attached option value line settings later inductionHypothesis =>
    rw [outcome_cons, step_name_attached notEscaped]
    exact outcome_of_making inductionHypothesis notEscaped (.value option) value
  | @flag flag line settings later inductionHypothesis =>
    rw [outcome_cons, step_name notEscaped]
    exact outcome_of_making inductionHypothesis notEscaped (.flag flag) "true"

/-- What is pending at the end of a line is settled. -/
theorem exists_settle_of_outcome_nil {given : Arguments} (read : reading.outcome [] = .ok given) :
    ∃ settled, reading.settle = .ok settled := by
  change (reading.settle >>= fun settled => .ok settled.arguments) = .ok given at read
  obtain ⟨settled, settles, -⟩ := exists_of_bind_eq_ok read
  exact ⟨settled, settles⟩

/-- A reading whose pending option awaits its value cannot be settled. -/
theorem not_awaiting_of_settle (settles : reading.settle = .ok settled) (option : ValueOption) :
    reading.pending ≠ some ⟨option, none⟩ := by
  intro awaits
  unfold settle at settles
  rw [awaits] at settles
  contradiction

/-- A request for a text ends the reading. -/
theorem ask_ne_ok (reading after : Reading) (request : UsageError) :
    reading.ask request ≠ .ok after := by
  intro asked
  obtain ⟨settled, -, failed⟩ := exists_of_bind_eq_ok asked
  contradiction

theorem readShort_ne_ok (reading after : Reading) (letters : List Char) :
    reading.readShort letters ≠ .ok after := by
  unfold readShort
  split
  · exact ask_ne_ok reading after .displayHelp
  · exact ask_ne_ok reading after .displayVersion
  · exact nofun

/-- A long option that is accepted is read as the setting with its name. -/
theorem exists_of_readLong {after : Reading} {name : String} {attached : Option String}
    (read : reading.readLong name attached = .ok after) :
    ∃ setting : Setting, setting.name = name ∧ reading.readNamed setting attached = .ok after := by
  have notRequested (request : UsageError) :
      (if attached.isSome then .error .tooManyValues else reading.ask request) ≠
        (.ok after : Except UsageError Reading) := by
    split
    · exact nofun
    · exact ask_ne_ok reading after request
  unfold readLong at read
  dsimp only at read
  by_cases isHelp : name = "help"
  · rw [if_pos isHelp] at read
    exact absurd read (notRequested .displayHelp)
  · rw [if_neg isHelp] at read
    by_cases isVersion : name = "version"
    · rw [if_pos isVersion] at read
      exact absurd read (notRequested .displayVersion)
    · rw [if_neg isVersion] at read
      cases found : Setting.ofName? name with
      | none =>
        rw [found] at read
        contradiction
      | some setting =>
        rw [found] at read
        exact ⟨setting, Setting.name_of_ofName? found, read⟩

/-- What a word does that is accepted before two dashes. -/
inductive Advance (reading : Reading) : String → Reading → Prop
  | escape : Advance reading "--" { reading with escaped := true }
  | await {option : ValueOption} {settled : Reading} (settles : reading.settle = .ok settled) :
    Advance reading ("--" ++ (Setting.value option).name)
      { settled with pending := some ⟨option, none⟩ }
  | attached {option : ValueOption} {value : String} {settled : Reading} {made : Arguments}
    (settles : reading.settle = .ok settled) :
    Advance reading ("--" ++ (Setting.value option).name ++ "=" ++ value)
      { settled with arguments := made }
  | flag {flag : Flag} {settled : Reading} {made : Arguments}
    (settles : reading.settle = .ok settled) :
    Advance reading ("--" ++ (Setting.flag flag).name) { settled with arguments := made }
  | value {option : ValueOption} {text : String}
    (awaits : reading.pending = some ⟨option, none⟩) (isPlain : IsPlain text) :
    Advance reading text { reading with pending := some ⟨option, some text⟩ }

/-- An accepted word advances the reading. -/
theorem advance_of_step {word : String} {after : Reading} (notEscaped : reading.escaped = false)
    (stepped : reading.step word = .ok after) : Advance reading word after := by
  have described := Word.describes_ofString word
  rw [step_of_not_escaped notEscaped] at stepped
  cases shape : Word.ofString word with
  | escape =>
    rw [shape] at described stepped
    obtain rfl : word = "--" := described
    obtain rfl := Except.ok.inj stepped
    exact .escape
  | long name attached =>
    rw [shape] at described stepped
    obtain ⟨setting, rfl, named⟩ := exists_of_readLong stepped
    rcases setting with option | flag <;> rcases attached with _ | value
    · obtain rfl : word = "--" ++ (Setting.value option).name := described
      obtain ⟨settled, settles, isAfter⟩ := exists_of_bind_eq_ok named
      obtain rfl := Except.ok.inj isAfter
      exact .await settles
    · obtain rfl : word = "--" ++ (Setting.value option).name ++ "=" ++ value := described
      obtain ⟨settled, settles, makes⟩ := exists_of_bind_eq_ok named
      obtain ⟨made, -, isAfter⟩ := exists_of_bind_eq_ok makes
      obtain rfl := Except.ok.inj isAfter
      exact .attached settles
    · obtain rfl : word = "--" ++ (Setting.flag flag).name := described
      obtain ⟨settled, settles, makes⟩ := exists_of_bind_eq_ok named
      obtain ⟨made, -, isAfter⟩ := exists_of_bind_eq_ok makes
      obtain rfl := Except.ok.inj isAfter
      exact .flag settles
    · contradiction
  | short letters =>
    rw [shape] at stepped
    exact absurd stepped (readShort_ne_ok reading after letters)
  | plain text =>
    rw [shape] at described stepped
    obtain ⟨rfl, isPlain⟩ := described
    change reading.readPlain text = .ok after at stepped
    unfold readPlain at stepped
    split at stepped
    · rename_i option awaits
      obtain rfl := Except.ok.inj stepped
      exact .value awaits isPlain
    · contradiction

/-- How the rest of a line completes a reading: with the value that is awaited, if one is, and with
settings. -/
inductive Completes (reading : Reading) : List String → Prop
  | spelled {line : List String} {settings : List (Setting × String)}
    (notAwaiting : ∀ option, reading.pending ≠ some ⟨option, none⟩)
    (spells : Spells line settings) : Completes reading line
  | awaited {option : ValueOption} {value : String} {line : List String}
    {settings : List (Setting × String)} (awaits : reading.pending = some ⟨option, none⟩)
    (isPlain : IsPlain value) (spells : Spells line settings) : Completes reading (value :: line)

/-- If nothing is pending, the rest of the line spells settings. -/
theorem Completes.exists_spells {line : List String} (completes : reading.Completes line)
    (notPending : reading.pending = none) : ∃ settings, Spells line settings := by
  cases completes with
  | spelled notAwaiting spells => exact ⟨_, spells⟩
  | awaited awaits isPlain spells =>
    rw [notPending] at awaits
    contradiction

/-- No word is accepted behind two dashes. -/
theorem eq_nil_of_escaped {line : List String} {given : Arguments}
    (escaped : reading.escaped = true) (read : reading.outcome line = .ok given) : line = [] := by
  cases line with
  | nil => rfl
  | cons word line =>
    have failed : reading.step word = .error .unknownArgument := if_pos escaped
    rw [outcome_cons, failed] at read
    contradiction

/-- A reading that comes to arguments is completed. -/
theorem completes_of_outcome {line : List String} {given : Arguments}
    (read : reading.outcome line = .ok given) (notEscaped : reading.escaped = false) :
    reading.Completes line := by
  induction line generalizing reading with
  | nil =>
    obtain ⟨settled, settles⟩ := exists_settle_of_outcome_nil read
    exact .spelled (not_awaiting_of_settle settles) .nothing
  | cons word line inductionHypothesis =>
    rw [outcome_cons] at read
    obtain ⟨after, stepped, later⟩ := exists_of_bind_eq_ok read
    cases advance_of_step notEscaped stepped with
    | escape =>
      -- Two dashes leave what is pending as it was.
      obtain rfl := eq_nil_of_escaped rfl later
      obtain ⟨settled, settles⟩ := exists_settle_of_outcome_nil later
      have notAwaiting := not_awaiting_of_settle settles
      exact .spelled notAwaiting .escape
    | @await option settled settles =>
      obtain ⟨-, escaped⟩ := pending_of_settle settles
      cases inductionHypothesis later (escaped.trans notEscaped) with
      | spelled notAwaiting spells => exact absurd rfl (notAwaiting option)
      | awaited awaits isPlain spells =>
        exact .spelled (not_awaiting_of_settle settles) (.separate isPlain spells)
    | attached settles =>
      obtain ⟨notPending, escaped⟩ := pending_of_settle settles
      have completes := inductionHypothesis later (escaped.trans notEscaped)
      obtain ⟨settings, spells⟩ := completes.exists_spells notPending
      exact .spelled (not_awaiting_of_settle settles) (.attached spells)
    | flag settles =>
      obtain ⟨notPending, escaped⟩ := pending_of_settle settles
      have completes := inductionHypothesis later (escaped.trans notEscaped)
      obtain ⟨settings, spells⟩ := completes.exists_spells notPending
      exact .spelled (not_awaiting_of_settle settles) (.flag spells)
    | value awaits isPlain =>
      cases inductionHypothesis later notEscaped with
      | spelled notAwaiting spells => exact .awaited awaits isPlain spells
      | awaited awaitsAnother => exact absurd awaitsAnother (by simp)

end Reading

/-- A line makes the settings that it spells, one after the other. -/
theorem ofCommandLine_of_spells {line : List String} {settings : List (Setting × String)}
    (spells : Spells line settings) : ofCommandLine line = empty.makeAll settings := by
  have outcome : Reading.outcome ⟨empty, none, false⟩ line = _ :=
    Reading.outcome_of_spells spells rfl
  exact outcome

/-- An accepted line spells settings. -/
theorem exists_spells_of_ofCommandLine {line : List String} {given : Arguments}
    (read : ofCommandLine line = .ok given) : ∃ settings, Spells line settings := by
  have completes : Reading.Completes ⟨empty, none, false⟩ line :=
    Reading.completes_of_outcome read rfl
  exact completes.exists_spells rfl

variable {setting : Setting} {given : Arguments} {settings others : List (Setting × String)}

/-- A command line is accepted exactly if it spells settings that can be made, each once. -/
theorem ofCommandLine_eq_ok_iff {line : List String} :
    ofCommandLine line = .ok given ↔
      ∃ settings, Spells line settings ∧ Makes empty settings given := by
  constructor
  · intro read
    obtain ⟨settings, spells⟩ := exists_spells_of_ofCommandLine read
    rw [ofCommandLine_of_spells spells] at read
    exact ⟨settings, spells, makeAll_eq_ok_iff.mp read⟩
  · rintro ⟨settings, spells, makes⟩
    rw [ofCommandLine_of_spells spells]
    exact makeAll_eq_ok_iff.mpr makes

/-- All that an accepted line spells is made. -/
theorem Spells.makes {line : List String} (spells : Spells line settings)
    (read : ofCommandLine line = .ok given) : Makes empty settings given := by
  rw [ofCommandLine_of_spells spells] at read
  exact makeAll_eq_ok_iff.mp read

/-- A line gives a setting a text. -/
def Gives (line : List String) (setting : Setting) (text : String) : Prop :=
  ∃ settings, Spells line settings ∧ (setting, text) ∈ settings

/-- A setting is made with the text that the line gives it. -/
theorem Gives.exists_set {line : List String} {text : String} (gives : Gives line setting text)
    (read : ofCommandLine line = .ok given) :
    ∃ alone, empty.set setting text = .ok alone ∧ Alike setting given alone := by
  obtain ⟨settings, spells, isThere⟩ := gives
  exact (spells.makes read).made setting text isThere

/-- A line makes the settings that it gives a text. -/
theorem has_iff_gives {line : List String} (read : ofCommandLine line = .ok given) :
    given.has setting = true ↔ ∃ text, Gives line setting text := by
  constructor
  · intro isMade
    obtain ⟨settings, spells, makes⟩ := ofCommandLine_eq_ok_iff.mp read
    by_contra notGiven
    have missing : setting ∉ settings.map Prod.fst := by
      intro isThere
      obtain ⟨⟨_, text⟩, isGiven, rfl⟩ := List.mem_map.mp isThere
      exact notGiven ⟨text, settings, spells, isGiven⟩
    rw [(makes.unmade setting missing).has_eq, has_empty] at isMade
    contradiction
  · rintro ⟨text, gives⟩
    obtain ⟨alone, isRead, alike⟩ := gives.exists_set read
    rw [alike.has_eq]
    exact has_of_set isRead

/-- Lines that spell the same settings in another order make the same. -/
theorem ofCommandLine_of_perm {line otherLine : List String} (spells : Spells line settings)
    (spellsOthers : Spells otherLine others) (perm : settings.Perm others)
    (read : ofCommandLine line = .ok given) : ofCommandLine otherLine = .ok given :=
  ofCommandLine_eq_ok_iff.mpr ⟨others, spellsOthers, (spells.makes read).perm perm⟩

end Arguments

end OpenApiTools.Cli
