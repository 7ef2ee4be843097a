import ReplDriver.Proofs.Number.Rounding
import ReplDriver.Settings.Check

/-!
# The checks of settings

Ten settings can stand in a JSON object. Each has a form that is allowed, and a check in the order
of the record; where the key is missing, the check is made of the default. The checks refuse every
other value, except for one that they let pass, an interval that is no number at all, and two that
they refuse in the wrong words: an interval that is too large, and a mode that cannot be shown.

* `Setting.Allows`, `Taken`: the form of each setting, and what is made of it.
* `Setting.allows_missing`: the defaults are allowed, but for the mode that the environment asks
  for.
* `message_fault`: every refusal names the source and the key.
* `ofJson_validates`: what comes of every JSON object.
-/

namespace ReplDriver.Settings

/-! ## The settings of an object -/

/-- The settings that can stand in a JSON object. -/
inductive Setting where
  | program
  | programArguments
  | nodeVersion
  | prompt
  | mode
  | modulePaths
  | transformModules
  | pollInterval
  | sessionName
  | debug
deriving DecidableEq, Repr

namespace Setting

/-- The settings in the order in which they are checked. -/
def all : List Setting :=
  [program, programArguments, nodeVersion, prompt, mode, modulePaths, transformModules,
    pollInterval, sessionName, debug]

/-- The key of a setting. -/
def key : Setting → Text
  | program => "program"
  | programArguments => "program-arguments"
  | nodeVersion => "node-version"
  | prompt => "prompt"
  | mode => "repl-mode"
  | modulePaths => "module-paths"
  | transformModules => "transform-modules"
  | pollInterval => "poll-interval"
  | sessionName => "session-name"
  | debug => "debug"

/-- The value of a setting that is missing. -/
def missing (env : Environment) : Setting → Json
  | program => .text (default env).program
  | programArguments | modulePaths => Json.texts []
  | nodeVersion => .null
  | prompt => .text (default env).prompt
  | mode => .text (default env).mode
  | transformModules => .bool (default env).transformModules
  | pollInterval => .double (default env).pollInterval
  | sessionName => .text (default env).sessionName
  | debug => .bool (default env).debug

/-- The value of a setting: what stands under its key, or the default. -/
def value (env : Environment) (members : Json) (s : Setting) : Json :=
  (members.member? s.key).getD (s.missing env)

/-- The values that a setting may have. -/
def Allows : Setting → Json → Prop
  | program, v | prompt, v | sessionName, v => ∃ s : Text, v = .text s ∧ s ≠ []
  | programArguments, v | modulePaths, v => ∃ items, v = Json.texts items
  | nodeVersion, v => ∃ version, v = Json.optionalText version
  | mode, v => v = .text "sloppy" ∨ v = .text "strict"
  | transformModules, v | debug, v => ∃ b, v = .bool b
  | pollInterval, v =>
    (∃ n, v = .int n ∧ 0 < n) ∨ ∃ x : Double, v = .double x ∧ x.isPositive = true

/-- The values that pass the check of a setting: those that it may have, and an interval that is
no number. -/
def Passes (s : Setting) (v : Json) : Prop :=
  s.Allows v ∨ s = pollInterval ∧ v = .double .nan

/-- Only the interval passes in a form that it may not have. -/
theorem passes_iff {s : Setting} (hs : s ≠ pollInterval) (v : Json) : s.Passes v ↔ s.Allows v := by
  simp [Passes, hs]

/-- What is wrong with a value that a setting may not have. -/
def fault (v : Json) : Setting → SettingFault
  | program => .program
  | programArguments => .programArguments
  | nodeVersion => .nodeVersion v.kindName
  | prompt => .prompt
  | mode => .mode v
  | modulePaths => .modulePaths
  | transformModules => .transformModules
  | pollInterval => .pollInterval
  | sessionName => .sessionName
  | debug => .debug

/-- What a setting must be, in words; some show what was found. -/
def words (v : Json) : Setting → Text
  | program | prompt | sessionName => "a non-empty string"
  | programArguments | modulePaths => "a list of strings"
  | nodeVersion => "a string, got " ++ v.kindName
  | mode => "\x22sloppy\x22 or \x22strict\x22, got " ++ v.display
  | transformModules | debug => "true or false"
  | pollInterval => "a positive number"

theorem allows_missing (env : Environment) {s : Setting} (hs : s ≠ mode) :
    s.Allows (s.missing env) := by
  have hinterval : (default env).pollInterval.isPositive = true := by
    simp only [default]
    decide +kernel
  cases s with
  | mode => exact absurd rfl hs
  | program | prompt | sessionName => exact ⟨_, rfl, List.cons_ne_nil _ _⟩
  | programArguments | modulePaths => exact ⟨[], rfl⟩
  | nodeVersion => exact ⟨none, rfl⟩
  | transformModules | debug => exact ⟨_, rfl⟩
  | pollInterval => exact .inr ⟨_, rfl, hinterval⟩

end Setting

/-! ## Single checks -/

theorem nonemptyText?_eq_some {v : Json} {s : Text} :
    nonemptyText? v = some s ↔ v = .text s ∧ s ≠ [] := by
  rw [nonemptyText?, Option.filter_eq_some_iff]
  cases v <;> simp [text?]

theorem mapM_text?_eq_some {values : List Json} {items : List Text} :
    values.mapM text? = some items ↔ values = items.map .text := by
  induction values generalizing items with
  | nil =>
    cases items <;> simp
  | cons v values ih =>
    rw [List.mapM_cons]
    cases items with
    | nil => cases v <;> cases values.mapM text? <;> simp [text?]
    | cons s items =>
      rw [List.map_cons, List.cons.injEq, ← ih]
      cases v <;> cases values.mapM text? <;> simp [text?]

theorem texts?_eq_some {v : Json} {items : List Text} :
    texts? v = some items ↔ v = Json.texts items := by
  cases v with
  | list values => rw [texts?, mapM_text?_eq_some, Json.texts, Json.list.injEq]
  | _ => simp [texts?, Json.texts]

theorem bool?_eq_some {v : Json} {b : Bool} : bool? v = some b ↔ v = .bool b := by
  cases v <;> simp [bool?]

theorem checkVersion_cases (v : Json) :
    (∃ version, v = Json.optionalText version ∧ checkVersion v = .ok version) ∨
      (¬ Setting.nodeVersion.Allows v ∧
        checkVersion v = .error (Setting.nodeVersion.fault v)) := by
  cases v with
  | null => exact .inl ⟨none, rfl, rfl⟩
  | text s => exact .inl ⟨some s, rfl, rfl⟩
  | _ =>
    refine .inr ⟨?_, rfl⟩
    rintro ⟨version, h⟩
    cases version <;> cases h

theorem checkMode_cases (v : Json) :
    (∃ mode, v = .text mode ∧ (mode = "sloppy".toList ∨ mode = "strict".toList) ∧
        checkMode v = .ok mode) ∨
      (¬ Setting.mode.Allows v ∧ checkMode v = .error (Setting.mode.fault v)) := by
  cases v with
  | text s =>
    by_cases hs : s = "sloppy".toList ∨ s = "strict".toList
    · left
      refine ⟨s, rfl, hs, ?_⟩
      rw [checkMode, if_pos (by simpa using hs)]
    · right
      constructor
      · rintro (h | h)
        · exact hs (.inl (Json.text.inj h))
        · exact hs (.inr (Json.text.inj h))
      · rw [checkMode, if_neg (by simpa using hs)]
        rfl
  | _ =>
    right
    constructor
    · rintro (h | h) <;> cases h
    · rfl

theorem isInterval_iff (v : Json) :
    isInterval v = true ↔ Setting.pollInterval.Passes v := by
  cases v with
  | int n => simp [isInterval, Setting.Passes, Setting.Allows]
  | double x => simp [isInterval, Setting.Passes, Setting.Allows, or_comm]
  | _ => simp [isInterval, Setting.Passes, Setting.Allows]

/-- An interval is taken as a double, unless it is an integer without one. -/
theorem intervalValue_cases {v : Json} (h : isInterval v = true) :
    (∃ x, (v = .double x ∨ ∃ n, v = .int n ∧ Double.ofInt? n = some x) ∧ intervalValue v = .ok x) ∨
      ∃ n, v = .int n ∧ Double.ofInt? n = none ∧ intervalValue v = .error .integerTooLarge := by
  cases v with
  | int n =>
    rw [intervalValue]
    rcases hn : Double.ofInt? n with _ | x
    · exact .inr ⟨n, rfl, hn, rfl⟩
    · exact .inl ⟨x, .inr ⟨n, rfl, hn⟩, rfl⟩
  | double x => exact .inl ⟨x, .inl rfl, rfl⟩
  | _ => cases h

/-! ## One check after another -/

section Checks

variable {α : Type} {source : Text} {value : Setting → Json} {s : Setting} {rest : List Setting}

/-- A check of a setting gives a value of which something is known, if the setting passes, and is
refused otherwise. -/
def Checks (source : Text) (v : Json) (s : Setting) (known : α → Prop) (r : Except Failure α) :
    Prop :=
  (s.Passes v ∧ ∃ a, r = .ok a ∧ known a) ∨
    (¬ s.Passes v ∧ r = .error (refusal source (s.fault v)))

/-- The first of some settings that does not pass is refused, and if all of them pass, something is
known of the outcome. -/
def Resolves (source : Text) (value : Setting → Json) (settings : List Setting)
    (known : Except Failure α → Prop) (r : Except Failure α) : Prop :=
  (∃ before s after, settings = before ++ s :: after ∧ (∀ e ∈ before, e.Passes (value e)) ∧
    ¬ s.Passes (value s) ∧ r = .error (refusal source (s.fault (value s)))) ∨
  ((∀ e ∈ settings, e.Passes (value e)) ∧ known r)

theorem Resolves.nil {known : Except Failure α → Prop} {r : Except Failure α} (h : known r) :
    Resolves source value [] known r :=
  .inr ⟨fun _ ht => absurd ht List.not_mem_nil, h⟩

theorem Resolves.cons {β : Type} {passed : α → Prop} {known : Except Failure β → Prop}
    {x : Except Failure α} {f : α → Except Failure β}
    (hx : Checks source (value s) s passed x)
    (hf : ∀ a, passed a → Resolves source value rest known (f a)) :
    Resolves source value (s :: rest) known (x >>= f) := by
  rcases hx with ⟨hpasses, a, rfl, ha⟩ | ⟨hfails, rfl⟩
  · have hall : ∀ {settings : List Setting}, (∀ t ∈ settings, t.Passes (value t)) →
        ∀ t ∈ s :: settings, t.Passes (value t) := by
      intro settings h t ht
      rcases List.mem_cons.mp ht with rfl | ht
      · exact hpasses
      · exact h t ht
    rcases hf a ha with ⟨before, t, after, rfl, hbefore, ht, hr⟩ | ⟨hpass, hknown⟩
    · exact .inl ⟨s :: before, t, after, rfl, hall hbefore, ht, hr⟩
    · exact .inr ⟨hall hpass, hknown⟩
  · exact .inl ⟨[], s, rest, rfl, fun _ ht => absurd ht List.not_mem_nil, hfails, rfl⟩

/-- A value that must be there. -/
def required (source : Text) (fault : SettingFault) : Option α → Except Failure α
  | some a => .ok a
  | none => .error (refusal source fault)

/-- The value of a check that tells what is wrong. -/
def checked (source : Text) : Except SettingFault α → Except Failure α
  | .ok a => .ok a
  | .error fault => .error (refusal source fault)

/-- A check that reads a value of a certain form. -/
theorem checks_required {v : Json} {read : Json → Option α} {known : α → Prop}
    (hread : ∀ a, read v = some a → known a) (hpasses : s.Passes v ↔ ∃ a, read v = some a) :
    Checks source v s known (required source (s.fault v) (read v)) := by
  rcases hvalue : read v with _ | a
  · right
    refine ⟨fun h => ?_, rfl⟩
    obtain ⟨a, ha⟩ := hpasses.mp h
    rw [hvalue] at ha
    cases ha
  · left
    exact ⟨hpasses.mpr ⟨a, hvalue⟩, a, rfl, hread a hvalue⟩

theorem checks_text {v : Json} (hs : ∀ v, s.Passes v ↔ ∃ t : Text, v = .text t ∧ t ≠ []) :
    Checks source v s (fun t => v = .text t) (required source (s.fault v) (nonemptyText? v)) := by
  refine checks_required (fun t ht => (nonemptyText?_eq_some.mp ht).1) ?_
  simp only [hs, nonemptyText?_eq_some]

theorem checks_texts {v : Json} (hs : ∀ v, s.Passes v ↔ ∃ items, v = Json.texts items) :
    Checks source v s (fun items => v = Json.texts items)
      (required source (s.fault v) (texts? v)) := by
  refine checks_required (fun items hitems => texts?_eq_some.mp hitems) ?_
  simp only [hs, texts?_eq_some]

theorem checks_bool {v : Json} (hs : ∀ v, s.Passes v ↔ ∃ b, v = .bool b) :
    Checks source v s (fun b => v = .bool b) (required source (s.fault v) (bool? v)) := by
  refine checks_required (fun b hb => bool?_eq_some.mp hb) ?_
  simp only [hs, bool?_eq_some]

theorem checks_version (source : Text) (v : Json) :
    Checks source v .nodeVersion (fun version => v = Json.optionalText version)
      (checked source (checkVersion v)) := by
  rcases checkVersion_cases v with ⟨version, hvalue, hcheck⟩ | ⟨hfails, hcheck⟩
  · left
    rw [hcheck, Setting.passes_iff (by decide)]
    exact ⟨⟨version, hvalue⟩, version, rfl, hvalue⟩
  · right
    rw [hcheck, Setting.passes_iff (by decide)]
    exact ⟨hfails, rfl⟩

theorem checks_mode (source : Text) (v : Json) :
    Checks source v .mode (fun mode => v = .text mode) (checked source (checkMode v)) := by
  rcases checkMode_cases v with ⟨mode, hvalue, hmode, hcheck⟩ | ⟨hfails, hcheck⟩
  · left
    rw [hcheck, Setting.passes_iff (by decide)]
    refine ⟨?_, mode, rfl, hvalue⟩
    rcases hmode with rfl | rfl
    · exact .inl hvalue
    · exact .inr hvalue
  · right
    rw [hcheck, Setting.passes_iff (by decide)]
    exact ⟨hfails, rfl⟩

theorem checks_interval (source : Text) (v : Json) :
    Checks source v .pollInterval (fun interval => interval = v ∧ isInterval v = true)
      (required source .pollInterval (if isInterval v then some v else none)) := by
  by_cases hv : isInterval v = true
  · left
    rw [if_pos hv]
    exact ⟨(isInterval_iff v).mp hv, v, rfl, rfl, hv⟩
  · right
    rw [if_neg hv]
    exact ⟨fun h => hv ((isInterval_iff v).mpr h), rfl⟩

end Checks

/-! ## All checks -/

/-- What is made of the values: each setting is taken from its value, the interval as a double. -/
structure Taken (value : Setting → Json) (root : Option Text) (settings : Settings) : Prop where
  program : value .program = .text settings.program
  programArguments : value .programArguments = Json.texts settings.programArguments
  nodeVersion : value .nodeVersion = Json.optionalText settings.nodeVersion
  prompt : value .prompt = .text settings.prompt
  mode : value .mode = .text settings.mode
  modulePaths : value .modulePaths = Json.texts settings.modulePaths
  transformModules : value .transformModules = .bool settings.transformModules
  pollInterval : value .pollInterval = .double settings.pollInterval ∨
    ∃ n, value .pollInterval = .int n ∧ Double.ofInt? n = some settings.pollInterval
  sessionName : value .sessionName = .text settings.sessionName
  debug : value .debug = .bool settings.debug
  projectRoot : settings.projectRoot = root

/-- What comes of values that pass: settings, or a failure if the interval is too large. -/
def Built (value : Setting → Json) (root : Option Text) (r : Except Failure Settings) : Prop :=
  (∃ settings, r = .ok settings ∧ Taken value root settings) ∨
    ∃ n, value .pollInterval = .int n ∧ Double.ofInt? n = none ∧ r = .error .integerTooLarge

/-- The checks one after another, each of the value of one setting. -/
theorem ofJson_eq (env : Environment) (members : Json) (root : Option Text) (source : Text) :
    ofJson env members root source = (do
      let value := Setting.value env members
      let program ← required source .program (nonemptyText? (value .program))
      let programArguments ← required source .programArguments (texts? (value .programArguments))
      let nodeVersion ← checked source (checkVersion (value .nodeVersion))
      let prompt ← required source .prompt (nonemptyText? (value .prompt))
      let mode ← checked source (checkMode (value .mode))
      let modulePaths ← required source .modulePaths (texts? (value .modulePaths))
      let transformModules ← required source .transformModules (bool? (value .transformModules))
      let interval ← required source .pollInterval
        (if isInterval (value .pollInterval) then some (value .pollInterval) else none)
      let sessionName ← required source .sessionName (nonemptyText? (value .sessionName))
      let debug ← required source .debug (bool? (value .debug))
      let pollInterval ← intervalValue interval
      return {
        program, programArguments, nodeVersion, prompt, mode, modulePaths, transformModules
        pollInterval, sessionName, debug, projectRoot := root }) := rfl

theorem ofJson_resolves (env : Environment) (members : Json) (root : Option Text) (source : Text) :
    Resolves source (Setting.value env members) Setting.all
      (Built (Setting.value env members) root) (ofJson env members root source) := by
  have hplain : ∀ {s : Setting}, s ≠ .pollInterval → ∀ v, s.Passes v ↔ s.Allows v :=
    Setting.passes_iff
  rw [ofJson_eq]
  refine .cons (checks_text (hplain (by decide))) fun program hprogram => ?_
  refine .cons (checks_texts (hplain (by decide))) fun programArguments harguments => ?_
  refine .cons (checks_version source _) fun nodeVersion hversion => ?_
  refine .cons (checks_text (hplain (by decide))) fun prompt hprompt => ?_
  refine .cons (checks_mode source _) fun mode hmode => ?_
  refine .cons (checks_texts (hplain (by decide))) fun modulePaths hpaths => ?_
  refine .cons (checks_bool (hplain (by decide))) fun transformModules htransform => ?_
  refine .cons (checks_interval source _) fun interval hinterval => ?_
  refine .cons (checks_text (hplain (by decide))) fun sessionName hsessionName => ?_
  refine .cons (checks_bool (hplain (by decide))) fun debug hdebug => ?_
  refine .nil ?_
  obtain ⟨rfl, hinterval⟩ := hinterval
  -- only the interval can still fail
  rcases intervalValue_cases hinterval with ⟨x, hx, hvalue⟩ | ⟨n, hn, hlarge, hvalue⟩
  · left
    rw [hvalue]
    exact ⟨_, rfl, ⟨hprogram, harguments, hversion, hprompt, hmode, hpaths, htransform, hx,
      hsessionName, hdebug, rfl⟩⟩
  · right
    rw [hvalue]
    exact ⟨n, hn, hlarge, rfl⟩

/-! ## What is promised of the checks -/

/-- Settings as they should be. -/
structure Valid (settings : Settings) : Prop where
  program : settings.program ≠ []
  prompt : settings.prompt ≠ []
  mode : settings.mode = "sloppy".toList ∨ settings.mode = "strict".toList
  pollInterval : settings.pollInterval.isPositive = true
  sessionName : settings.sessionName ≠ []

/-- What should come of every object: settings that are valid and taken from it, or a failure of
the family `value` whose words begin with the source and go on with the key of a setting whose value
is not allowed. -/
def Documented (value : Setting → Json) (root : Option Text) (source : Text) :
    Except Failure Settings → Prop
  | .ok settings => Taken value root settings ∧ Valid settings
  | .error f => ∃ s : Setting, ¬ s.Allows (value s) ∧ f.family = .value ∧
      f.message = source ++ (": " ++ (s.key ++ (" must be " ++ s.words (value s))))

/-- All is allowed except that the interval is no number. -/
def NoNumber (value : Setting → Json) : Prop :=
  (∀ s : Setting, s ≠ .pollInterval → s.Allows (value s)) ∧ value .pollInterval = .double .nan

/-- All is allowed, and the interval is an integer beyond all doubles. -/
def TooLarge (value : Setting → Json) : Prop :=
  (∀ s : Setting, s.Allows (value s)) ∧
    ∃ n : Nat, value .pollInterval = .int n ∧ (2 ^ 54 - 1) * 2 ^ 970 ≤ n

/-- The first value that is not allowed is that of the mode, and it holds an integer of more digits
than messages show. -/
def NotShown (value : Setting → Json) : Prop :=
  (∀ s ∈ [.program, .programArguments, .nodeVersion, .prompt], Setting.Allows s (value s)) ∧
    ¬ Setting.mode.Allows (value .mode) ∧ (value .mode).isDisplayable = false

/-- Every fault is told with the key of the setting. -/
theorem message_fault (s : Setting) (v : Json) :
    (s.fault v).message = s.key ++ (" must be " ++ s.words v) := by
  have hshown : ∀ {start rest found : Text}, start = s.key ++ (" must be " ++ rest) →
      start ++ found = s.key ++ (" must be " ++ (rest ++ found)) := by
    rintro start rest found rfl
    simp only [List.append_assoc]
  cases s with
  | nodeVersion => exact hshown (by decide)
  | mode => exact hshown (by decide)
  | _ => rfl

/-- A fault of a setting is told in the promised words, unless it cannot be shown. -/
theorem documented_refusal {value : Setting → Json} {s : Setting} (root : Option Text)
    (source : Text) (hs : ¬ s.Allows (value s))
    (hshown : s = .mode → (value .mode).isDisplayable = true) :
    Documented value root source (.error (refusal source (s.fault (value s)))) := by
  have hrefusal : refusal source (s.fault (value s)) = .setting source (s.fault (value s)) := by
    cases s with
    | mode => rw [Setting.fault, refusal, if_pos (hshown rfl)]
    | _ => rfl
  have hmessage : (Failure.setting source (s.fault (value s))).message =
      source ++ (": " ++ (s.key ++ (" must be " ++ s.words (value s)))) := by
    rw [← message_fault, ← List.append_assoc]
    rfl
  rw [hrefusal]
  exact ⟨s, hs, rfl, hmessage⟩

/-- The double of an interval is positive if the interval is. -/
theorem Taken.isPositive {value : Setting → Json} {root : Option Text} {settings : Settings}
    (h : Taken value root settings) (hallows : Setting.pollInterval.Allows (value .pollInterval)) :
    settings.pollInterval.isPositive = true := by
  rcases h.pollInterval with hvalue | ⟨n, hvalue, hdouble⟩
  · rw [hvalue] at hallows
    rcases hallows with ⟨n, hn, -⟩ | ⟨x, hx, hpositive⟩
    · cases hn
    · cases hx
      exact hpositive
  · rw [hvalue] at hallows
    rcases hallows with ⟨m, hm, hpositive⟩ | ⟨x, hx, -⟩
    · cases hm
      exact Double.isPositive_of_ofInt? hdouble hpositive
    · cases hx

/-- Settings that are taken from allowed values are valid. -/
theorem Taken.valid {value : Setting → Json} {root : Option Text} {settings : Settings}
    (h : Taken value root settings) (hall : ∀ s : Setting, s.Allows (value s)) :
    Valid settings := by
  have htext : ∀ {v : Json} {t : Text}, v = .text t → (∃ u : Text, v = .text u ∧ u ≠ []) →
      t ≠ [] := by
    rintro v t rfl ⟨u, hu, hne⟩
    cases hu
    exact hne
  constructor
  · exact htext h.program (hall .program)
  · exact htext h.prompt (hall .prompt)
  · have hmode := hall .mode
    rw [h.mode] at hmode
    exact hmode.imp Json.text.inj Json.text.inj
  · exact h.isPositive (hall .pollInterval)
  · exact htext h.sessionName (hall .sessionName)

/-- A value that passes is allowed, or it is an interval that is no number. -/
theorem allows_of_passes {value : Setting → Json} (h : ∀ s : Setting, s.Passes (value s)) :
    (∀ s : Setting, s.Allows (value s)) ∨ NoNumber value := by
  rcases h .pollInterval with hinterval | ⟨-, hinterval⟩
  · left
    intro s
    by_cases hs : s = .pollInterval
    · rw [hs]
      exact hinterval
    · exact (Setting.passes_iff hs _).mp (h s)
  · right
    exact ⟨fun s hs => (Setting.passes_iff hs _).mp (h s), hinterval⟩

/-- The first setting that does not pass has all before it that pass. -/
theorem eq_takeWhile {value : Setting → Json} {settings before after : List Setting} {s : Setting}
    (h : settings = before ++ s :: after) (hbefore : ∀ e ∈ before, e.Passes (value e))
    (hs : ¬ s.Passes (value s)) : before = settings.takeWhile (· ≠ s) := by
  have hne : ∀ e ∈ before, decide (e ≠ s) = true := by
    intro e he
    rw [decide_eq_true_eq]
    rintro rfl
    exact hs (hbefore e he)
  rw [h, List.takeWhile_append_of_pos hne]
  simp

theorem NoNumber.passes {value : Setting → Json} (h : NoNumber value) (s : Setting) :
    s.Passes (value s) := by
  by_cases hs : s = .pollInterval
  · exact .inr ⟨hs, hs ▸ h.2⟩
  · exact .inl (h.1 s hs)

/-- Where the mode is the first setting that is not allowed, none before it is, and where another
one is, the mode is before it, or it is before the mode. -/
theorem NotShown.first {value : Setting → Json} (h : NotShown value) {before after : List Setting}
    {s : Setting} (hall : Setting.all = before ++ s :: after)
    (hbefore : ∀ e ∈ before, e.Passes (value e)) (hs : ¬ s.Passes (value s)) : s = .mode := by
  obtain ⟨hearlier, hmode, -⟩ := h
  have hcut := eq_takeWhile hall hbefore hs
  have hpass : ¬ Setting.mode.Passes (value .mode) :=
    fun hpass => hmode ((Setting.passes_iff (by decide) _).mp hpass)
  have horder : ∀ t : Setting, t = .mode ∨
      t ∈ [.program, .programArguments, .nodeVersion, .prompt] ∨
      Setting.mode ∈ Setting.all.takeWhile (· ≠ t) := by
    intro t
    cases t <;> decide
  rcases horder s with hsame | hfront | hbehind
  · exact hsame
  · exact absurd (.inl (hearlier s hfront)) hs
  · rw [← hcut] at hbehind
    exact absurd (hbefore _ hbehind) hpass

/-- What comes of the values. Three kinds of values apart, the checks keep their promise. An
interval that is no number passes; an integer beyond all doubles is refused as a number and not as a
setting; a mode that cannot be shown is refused without the source. -/
structure Outcome (value : Setting → Json) (root : Option Text) (source : Text)
    (r : Except Failure Settings) : Prop where
  documented : ¬ NoNumber value → ¬ TooLarge value → ¬ NotShown value →
    Documented value root source r
  noNumber : NoNumber value → ∃ settings, r = .ok settings ∧ Taken value root settings
  tooLarge : TooLarge value → r = .error .integerTooLarge
  notShown : NotShown value → r = .error .integerNotShown

theorem outcome_refused {value : Setting → Json} {before after : List Setting} {s : Setting}
    (root : Option Text) (source : Text) (hall : Setting.all = before ++ s :: after)
    (hbefore : ∀ e ∈ before, e.Passes (value e)) (hs : ¬ s.Passes (value s)) :
    Outcome value root source (.error (refusal source (s.fault (value s)))) := by
  have hfails : ¬ s.Allows (value s) := fun h => hs (.inl h)
  constructor
  · intro _ _ hshown
    apply documented_refusal root source hfails
    rintro rfl
    have hearlier : ∀ t ∈ [.program, .programArguments, .nodeVersion, .prompt],
        Setting.Allows t (value t) := by
      intro t ht
      have hne : t ≠ .pollInterval := by
        rintro rfl
        exact absurd ht (by decide)
      have hmem : t ∈ before := by
        rw [eq_takeWhile hall hbefore hs]
        exact ht
      exact (Setting.passes_iff hne _).mp (hbefore t hmem)
    rcases hdisplay : (value .mode).isDisplayable with _ | _
    · exact absurd ⟨hearlier, hfails, hdisplay⟩ hshown
    · rfl
  · intro h
    exact absurd (h.passes s) hs
  · intro h
    exact absurd (h.1 s) hfails
  · intro h
    obtain rfl := h.first hall hbefore hs
    rw [Setting.fault, refusal, if_neg (ne_true_of_eq_false h.2.2)]

theorem outcome_built {value : Setting → Json} {root : Option Text} (source : Text)
    {r : Except Failure Settings} (hpass : ∀ s : Setting, s.Passes (value s))
    (hbuilt : Built value root r) : Outcome value root source r := by
  have hmode : Setting.mode.Allows (value .mode) :=
    (Setting.passes_iff (by decide) _).mp (hpass .mode)
  rcases hbuilt with ⟨settings, rfl, htaken⟩ | ⟨n, hvalue, hlarge, rfl⟩
  · constructor
    · intro hnumber _ _
      rcases allows_of_passes hpass with hall | hnone
      · exact ⟨htaken, htaken.valid hall⟩
      · exact absurd hnone hnumber
    · intro _
      exact ⟨settings, rfl, htaken⟩
    · rintro ⟨-, n, hvalue, hlarge⟩
      have hnone : Double.ofInt? n = none := (Double.ofInt?_eq_none_iff n).mpr hlarge
      rcases htaken.pollInterval with hdouble | ⟨m, hm, hdouble⟩
      · rw [hvalue] at hdouble
        cases hdouble
      · rw [hvalue] at hm
        cases hm
        rw [hnone] at hdouble
        cases hdouble
    · intro h
      exact absurd hmode h.2.1
  · constructor
    · intro hnumber hsmall _
      rcases allows_of_passes hpass with hall | hnone
      · have hpositive : 0 < n := by
          have hallows := hall .pollInterval
          rw [hvalue] at hallows
          rcases hallows with ⟨m, hm, hpositive⟩ | ⟨x, hx, -⟩
          · cases hm
            exact hpositive
          · cases hx
        obtain ⟨size, rfl⟩ := Int.eq_ofNat_of_zero_le hpositive.le
        exact absurd ⟨hall, size, hvalue, (Double.ofInt?_eq_none_iff size).mp hlarge⟩ hsmall
      · exact absurd hnone hnumber
    · intro h
      have hnan := h.2
      rw [hvalue] at hnan
      cases hnan
    · intro _
      rfl
    · intro h
      exact absurd hmode h.2.1

/-- What comes of a JSON object, whatever stands in it. -/
theorem ofJson_validates (env : Environment) (members : List (Text × Json)) (root : Option Text)
    (source : Text) :
    Outcome (Setting.value env (.object members)) root source
      (ofJson env (.object members) root source) := by
  rcases ofJson_resolves env (.object members) root source with
    ⟨before, s, after, hall, hbefore, hs, hrefused⟩ | ⟨hpass, hbuilt⟩
  · rw [hrefused]
    exact outcome_refused root source hall hbefore hs
  · have hevery : ∀ s : Setting, s ∈ Setting.all := by
      intro s
      cases s <;> decide
    exact outcome_built source (fun s => hpass s (hevery s)) hbuilt

/-- An interval that is no number is taken, and one that is two to the power of 1024 is refused as a
number. -/
theorem ofJson_validates_interval :
    (∃ settings, ofJson [] (.object [("poll-interval", .double .nan)]) none "configuration" =
      .ok settings ∧ settings.pollInterval = .nan) ∧
    ofJson [] (.object [("poll-interval", .int (2 ^ 54 * 2 ^ 970 : Nat))]) none "configuration" =
      .error .integerTooLarge := by
  have hothers : ∀ (v : Json) (s : Setting), s ≠ .pollInterval →
      s.Allows (s.value [] (.object [("poll-interval", v)])) := by
    intro v s hs
    have hmissing : s.value [] (.object [("poll-interval", v)]) = s.missing [] := by
      cases s with
      | pollInterval => exact absurd rfl hs
      | _ => rfl
    rw [hmissing]
    by_cases hmode : s = .mode
    · rw [hmode]
      exact .inl rfl
    · exact Setting.allows_missing [] hmode
  constructor
  · obtain ⟨settings, hsettings, htaken⟩ :=
      (ofJson_validates [] [("poll-interval", .double .nan)] none "configuration").noNumber
        ⟨hothers _, rfl⟩
    refine ⟨settings, hsettings, ?_⟩
    rcases htaken.pollInterval with hvalue | ⟨n, hvalue, -⟩
    · exact (Json.double.inj hvalue).symm
    · cases hvalue
  · refine (ofJson_validates [] [("poll-interval", .int (2 ^ 54 * 2 ^ 970 : Nat))] none
      "configuration").tooLarge ⟨fun s => ?_, 2 ^ 54 * 2 ^ 970, rfl, ?_⟩
    · by_cases hs : s = .pollInterval
      · rw [hs]
        refine .inl ⟨_, rfl, ?_⟩
        positivity
      · exact hothers _ s hs
    · exact Nat.mul_le_mul_right _ (by decide)

end ReplDriver.Settings
