import OpenApiTools.Proofs.Cli.Arguments

/-!
# Settings that are made one after the other

Settings can be made one after the other if they are distinct and each can be made alone. Each is
then as it would be alone, whatever the order, and all others stay as they are.
-/

namespace OpenApiTools.Cli.Arguments

variable {setting : Setting} {left right : Arguments}

theorem Alike.symm (alike : Alike setting left right) : Alike setting right left := by
  rcases setting with option | flag
  · cases option <;> exact Eq.symm alike
  · cases flag <;> exact Eq.symm alike

/-- Arguments are what their settings are. -/
theorem eq_of_alike (alike : ∀ setting, Alike setting left right) : left = right := by
  have url : left.url = right.url := alike (.value .url)
  have file : left.file = right.file := alike (.value .file)
  have nameSpace : left.nameSpace = right.nameSpace := alike (.value .nameSpace)
  have securityScheme : left.securityScheme = right.securityScheme :=
    alike (.value .securityScheme)
  have config : left.config = right.config := alike (.value .config)
  have output : left.output = right.output := alike (.value .output)
  have pretty : left.pretty = right.pretty := alike (.flag .pretty)
  have logJson : left.logJson = right.logJson := alike (.flag .logJson)
  have timeoutSecs : left.timeoutSecs = right.timeoutSecs := alike (.value .timeoutSecs)
  have specHash : left.specHash = right.specHash := alike (.value .specHash)
  have specHashPolicy : left.specHashPolicy = right.specHashPolicy :=
    alike (.value .specHashPolicy)
  cases left
  simp_all only

/-- No setting has been made in the empty arguments. -/
theorem has_empty (setting : Setting) : empty.has setting = false := by
  rcases setting with option | flag
  · cases option <;> rfl
  · cases flag <;> rfl

/-- A setting that is made is there. -/
theorem has_of_set {value : String} {alone : Arguments}
    (isRead : empty.set setting value = .ok alone) : alone.has setting = true := by
  rcases setting with option | flag
  · cases option with
    | url | nameSpace | securityScheme | specHash =>
      obtain rfl := Except.ok.inj isRead
      rfl
    | file | config | output | timeoutSecs | specHashPolicy =>
      obtain ⟨value, -, made⟩ := exists_of_bind_eq_ok isRead
      obtain rfl := Except.ok.inj made
      rfl
  · cases flag with
    | pretty | logJson =>
      obtain ⟨value, -, made⟩ := exists_of_bind_eq_ok isRead
      obtain rfl := Except.ok.inj made
      rfl

/-- Makes settings one after the other. -/
def makeAll (arguments : Arguments) (settings : List (Setting × String)) :
    Except UsageError Arguments :=
  settings.foldlM (fun arguments entry => arguments.setOnce entry.1 entry.2) arguments

/-- The first setting is made before the others. -/
theorem makeAll_cons (arguments : Arguments) (setting : Setting) (value : String)
    (settings : List (Setting × String)) :
    arguments.makeAll ((setting, value) :: settings) =
      arguments.setOnce setting value >>= (makeAll · settings) := rfl

/-- Each of some settings is made, once and as it would be made alone, and no others are. -/
structure Makes (before : Arguments) (settings : List (Setting × String)) (after : Arguments) :
    Prop where
  distinct : (settings.map Prod.fst).Nodup
  fresh : ∀ setting ∈ settings.map Prod.fst, before.has setting = false
  made : ∀ setting value, (setting, value) ∈ settings →
    ∃ alone, empty.set setting value = .ok alone ∧ Alike setting after alone
  unmade : ∀ setting, setting ∉ settings.map Prod.fst → Alike setting after before

variable {before after : Arguments} {settings others : List (Setting × String)}

/-- The order of the settings does not matter. -/
theorem Makes.perm (makes : Makes before settings after) (perm : settings.Perm others) :
    Makes before others after where
  distinct := (perm.map Prod.fst).nodup_iff.mp makes.distinct
  fresh setting isThere := makes.fresh setting ((perm.map Prod.fst).mem_iff.mpr isThere)
  made setting value isThere := makes.made setting value (perm.mem_iff.mpr isThere)
  unmade setting missing :=
    makes.unmade setting fun isThere => missing ((perm.map Prod.fst).mem_iff.mp isThere)

/-- Making a setting once adopts what it would be alone. -/
theorem setOnce_eq_ok_iff {value : String} :
    before.setOnce setting value = .ok after ↔
      before.has setting = false ∧
        ∃ alone, empty.set setting value = .ok alone ∧ after = adopt setting alone before := by
  unfold setOnce
  rw [set_eq_map_adopt]
  cases before.has setting with
  | true => simp
  | false => cases empty.set setting value <;> simp [Except.map, eq_comm]

/-- A setting that is made before others goes before them. -/
theorem Makes.cons {value : String} {alone : Arguments} (notMade : before.has setting = false)
    (isRead : empty.set setting value = .ok alone)
    (makes : Makes (adopt setting alone before) settings after) :
    Makes before ((setting, value) :: settings) after := by
  have isFirst := alike_adopt setting alone before
  have notLater : setting ∉ settings.map Prod.fst := by
    intro isLater
    have isFresh := makes.fresh setting isLater
    rw [isFirst.has_eq, has_of_set isRead] at isFresh
    contradiction
  refine ⟨List.nodup_cons.mpr ⟨notLater, makes.distinct⟩, ?_, ?_, ?_⟩
  · intro other isThere
    rcases List.mem_cons.mp isThere with rfl | isLater
    · exact notMade
    · have different := ne_of_mem_of_not_mem isLater notLater
      rw [← (alike_adopt_of_ne different alone before).has_eq]
      exact makes.fresh other isLater
  · intro other otherValue isThere
    rcases List.mem_cons.mp isThere with same | isLater
    · obtain ⟨rfl, rfl⟩ := Prod.mk.inj same
      exact ⟨alone, isRead, (makes.unmade other notLater).trans isFirst⟩
    · exact makes.made other otherValue isLater
  · intro other missing
    obtain ⟨different, notOther⟩ := List.ne_and_not_mem_of_not_mem_cons missing
    exact (makes.unmade other notOther).trans (alike_adopt_of_ne different alone before)

/-- Once the first setting has been made, the others are left. -/
theorem Makes.tail {value : String} (makes : Makes before ((setting, value) :: settings) after) :
    ∃ alone, empty.set setting value = .ok alone ∧
      Makes (adopt setting alone before) settings after := by
  obtain ⟨alone, isRead, alike⟩ := makes.made setting value List.mem_cons_self
  obtain ⟨notLater, distinct⟩ := List.nodup_cons.mp makes.distinct
  refine ⟨alone, isRead, distinct, ?_, ?_, ?_⟩
  · intro other isThere
    have different := ne_of_mem_of_not_mem isThere notLater
    rw [(alike_adopt_of_ne different alone before).has_eq]
    exact makes.fresh other (List.mem_cons_of_mem _ isThere)
  · intro other otherValue isThere
    exact makes.made other otherValue (List.mem_cons_of_mem _ isThere)
  · intro other missing
    by_cases same : other = setting
    · subst same
      exact alike.trans (alike_adopt other alone before).symm
    · have unmade := makes.unmade other (List.not_mem_cons_of_ne_of_not_mem same missing)
      exact unmade.trans (alike_adopt_of_ne same alone before).symm

/-- Settings are made one after the other exactly if they are distinct and each can be made. -/
theorem makeAll_eq_ok_iff :
    before.makeAll settings = .ok after ↔ Makes before settings after := by
  induction settings generalizing before with
  | nil =>
    constructor
    · intro isMade
      obtain rfl := Except.ok.inj isMade
      exact ⟨List.nodup_nil, nofun, nofun, fun setting _ => .refl setting before⟩
    · intro makes
      have same := eq_of_alike fun setting => makes.unmade setting List.not_mem_nil
      exact congrArg Except.ok same.symm
  | cons first rest inductionHypothesis =>
    obtain ⟨setting, value⟩ := first
    rw [makeAll_cons]
    constructor
    · intro isMade
      obtain ⟨middle, once, later⟩ := exists_of_bind_eq_ok isMade
      obtain ⟨notMade, alone, isRead, rfl⟩ := setOnce_eq_ok_iff.mp once
      exact (inductionHypothesis.mp later).cons notMade isRead
    · intro makes
      obtain ⟨alone, isRead, later⟩ := makes.tail
      have notMade := makes.fresh setting List.mem_cons_self
      rw [setOnce_eq_ok_iff.mpr ⟨notMade, alone, isRead, rfl⟩, ok_bind]
      exact inductionHypothesis.mpr later

end OpenApiTools.Cli.Arguments
