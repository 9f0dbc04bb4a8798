import FeatureScript.CommandLine

/-!
# FeatureScript.Proofs.Run.Settings

Where the settings of a run come from.

`Variable` lists the variables that may have bad values, in the order in which they are read;
`FirstBad` says which of them counts. Without one, each setting has its value from its own flag,
else its own variable, else its default (`Origin`), and these values are all settings of the run
(`SettledBy`). `settings_precedence`: the settings are loaded if and only if no variable is rejected,
and they are those; else the error is that of the first variable that is rejected.
-/

namespace FeatureScript

open Text Unicode

namespace CommandLine

/-! ## Flags -/

/-- What the command line can give. Advice is switched on by it and never off. -/
structure FlagSet where
  featuresDir : Option String := none
  advise : Bool := false
  colour : Option ColourMode := none
  format : Option ReportFormat := none
  logLevel : Option LogLevel := none
  deriving DecidableEq, Repr

def FlagSet.overrides (flags : FlagSet) : Overrides where
  featuresDir := flags.featuresDir
  showAdvice := if flags.advise then some true else none
  colour := flags.colour
  format := flags.format
  logLevel := flags.logLevel

theorem exists_flagSet {o : Overrides} (h : o.showAdvice ≠ some false) :
    ∃ flags : FlagSet, o = flags.overrides := by
  obtain ⟨featuresDir, showAdvice, colour, format, logLevel⟩ := o
  refine ⟨⟨featuresDir, showAdvice.isSome, colour, format, logLevel⟩, ?_⟩
  cases showAdvice with
  | none => rfl
  | some on =>
    cases on with
    | true => rfl
    | false => exact absurd rfl h

theorem map_eq_ok {ε α β : Type} {x : Except ε α} {f : α → β} {b : β} (h : x.map f = .ok b) :
    ∃ a, x = .ok a ∧ f a = b := by
  cases x with
  | error e => cases h
  | ok a => exact ⟨a, rfl, Except.ok.inj h⟩

theorem bind_eq_ok {ε α β : Type} {x : Except ε α} {f : α → Except ε β} {b : β}
    (h : x >>= f = .ok b) : ∃ a, x = .ok a ∧ f a = .ok b := by
  cases x with
  | error e => cases h
  | ok a => exact ⟨a, rfl, h⟩

section

variable {o o' : Overrides} {r r' : Reading}

theorem give_showAdvice {name : OptionName} {text : String} (h : give o name text = .ok o') :
    o'.showAdvice = o.showAdvice := by
  cases name <;>
  · obtain ⟨value, -, rfl⟩ := map_eq_ok h
    rfl

theorem settle_showAdvice (h : r.settle = .ok o) : o.showAdvice = r.given.showAdvice := by
  rw [Reading.settle] at h
  split at h
  · cases h
    rfl
  · cases h
  · exact give_showAdvice h

theorem accept_showAdvice {a : Argument} (h : r.accept a = .ok r')
    (hr : r.given.showAdvice ≠ some false) : r'.given.showAdvice ≠ some false := by
  cases a with
  | separator | unknown => cases h
  | plain text =>
    simp only [Reading.accept] at h
    split at h
    · cases h
      exact hr
    · cases h
  | option name value =>
    cases value with
    | none =>
      obtain ⟨given, hsettle, hgiven⟩ := bind_eq_ok h
      cases hgiven
      exact settle_showAdvice hsettle ▸ hr
    | some value =>
      obtain ⟨given, hsettle, hgiven⟩ := bind_eq_ok h
      obtain ⟨given', hgive, hgiven'⟩ := bind_eq_ok hgiven
      cases hgiven'
      rw [give_showAdvice hgive, settle_showAdvice hsettle]
      exact hr
  | flag name value =>
    cases value with
    | some value => cases name <;> cases h
    | none =>
      cases name with
      | help | version =>
        obtain ⟨given, -, hgiven⟩ := bind_eq_ok h
        cases hgiven
      | advise =>
        obtain ⟨given, -, hgiven⟩ := bind_eq_ok h
        obtain ⟨showAdvice, hfill, hgiven'⟩ := bind_eq_ok hgiven
        cases hgiven'
        -- advice is filled in with `true`, and only if nothing is there yet
        cases hplace : given.showAdvice with
        | none =>
          rw [hplace] at hfill
          cases hfill
          nofun
        | some on =>
          rw [hplace] at hfill
          cases hfill

theorem acceptAll_showAdvice {arguments : List String} (h : r.acceptAll arguments = .ok o)
    (hr : r.given.showAdvice ≠ some false) : o.showAdvice ≠ some false := by
  induction arguments generalizing r with
  | nil => exact settle_showAdvice h ▸ hr
  | cons text rest ih =>
    rw [Reading.acceptAll] at h
    split at h
    · split at h
      · exact settle_showAdvice h ▸ hr
      · cases h
    · split at h
      next r' haccept => exact ih h (accept_showAdvice haccept hr)
      next => cases h

end

theorem read_flags {arguments : List String} {given : Overrides}
    (h : read arguments = .ok given) : ∃ flags : FlagSet, given = flags.overrides :=
  exists_flagSet (acceptAll_showAdvice h (by decide))

end CommandLine

/-! ## Variables -/

namespace Environment

/-- The variables whose values may be bad. -/
inductive Variable where
  | showAdvice
  | colour
  | format
  | logLevel
  deriving DecidableEq, Repr

namespace Variable

/-- The place of a variable in the order in which they are read. -/
def place : Variable → Nat
  | .showAdvice => 0
  | .colour => 1
  | .format => 2
  | .logLevel => 3

def name : Variable → String
  | .showAdvice => "PLAINBDD_SHOW_ADVISE"
  | .colour => "PLAINBDD_COLOR"
  | .format => "PLAINBDD_FORMAT"
  | .logLevel => "PLAINBDD_LOG_LEVEL"

/-- What an error says before and after the bad value. -/
def wording : Variable → String × String
  | .showAdvice => ("invalid PLAINBDD_SHOW_ADVISE value ", ", expected a boolean")
  | .colour => ("unknown colour mode ", ", expected one of: auto, always, never")
  | .format => ("unknown output format ", ", expected one of: console, json")
  | .logLevel => ("unknown log level ", ", expected one of: trace, debug, info, warn, error")

/-- The error of a bad value, which is quoted as it is. -/
def complaint (v : Variable) (text : String) : SettingsError :=
  ⟨v.wording.1 ++ "'" ++ text ++ "'" ++ v.wording.2⟩

/-- The text is read as no value of the variable. -/
def Rejects (v : Variable) (text : String) : Prop :=
  match v with
  | .showAdvice => ∀ on, readSwitch text ≠ .ok on
  | .colour => ∀ mode, ColourMode.read text ≠ .ok mode
  | .format => ∀ format, ReportFormat.read text ≠ .ok format
  | .logLevel => ∀ level, LogLevel.read text ≠ .ok level

def BadIn (env : Environment) (v : Variable) (text : String) : Prop :=
  env v.name = some text ∧ v.Rejects text

end Variable

/-- The variable is set to a bad value, and none that is read before it is. -/
def FirstBad (env : Environment) (v : Variable) (text : String) : Prop :=
  v.BadIn env text ∧ ∀ (u : Variable) other, u.place < v.place → ¬u.BadIn env other

theorem Variable.place_injective {v u : Variable} (h : v.place = u.place) : v = u := by
  revert h
  cases v <;> cases u <;> decide

theorem FirstBad.unique {env : Environment} {v u : Variable} {text other : String}
    (hv : env.FirstBad v text) (hu : env.FirstBad u other) : v = u ∧ text = other := by
  rcases Nat.lt_trichotomy v.place u.place with hlt | heq | hgt
  · exact absurd hv.1 (hu.2 v text hlt)
  · obtain rfl := Variable.place_injective heq
    exact ⟨rfl, Option.some.inj (hv.1.1.symm.trans hu.1.1)⟩
  · exact absurd hu.1 (hv.2 u other hgt)

section

variable {α : Type} {read : String → Except SettingsError α} {v : Variable} {env : Environment}

/-- The texts that the variable rejects, and no others, are an error, its complaint. -/
def ReadBy (v : Variable) (read : String → Except SettingsError α) : Prop :=
  ∀ text, (v.Rejects text ∧ read text = .error (v.complaint text)) ∨
    (¬v.Rejects text ∧ ∃ a, read text = .ok a)

theorem readBy_of_readNamed {what expected : String} {values : List (String × α)}
    (hrejects : ∀ text, v.Rejects text ↔ ∀ a, readNamed what expected values text ≠ .ok a)
    (hbefore : v.wording.1 = "unknown " ++ what ++ " ")
    (hafter : v.wording.2 = ", expected one of: " ++ expected) :
    ReadBy v (readNamed what expected values) := by
  intro text
  have hopen : " '" = " " ++ "'" := by decide
  have hclose : "', expected one of: " = "'" ++ ", expected one of: " := by decide
  rw [hrejects, Variable.complaint, hbefore, hafter, readNamed, hopen, hclose]
  cases values.lookup (Unicode.lowercase text) with
  | some value => exact .inr ⟨fun h => h value rfl, value, rfl⟩
  | none => exact .inl ⟨nofun, by simp only [String.append_assoc]⟩

theorem colour_readBy : ReadBy .colour ColourMode.read :=
  readBy_of_readNamed (fun _ => .rfl) (by decide) (by decide)

theorem format_readBy : ReadBy .format ReportFormat.read :=
  readBy_of_readNamed (fun _ => .rfl) (by decide) (by decide)

theorem logLevel_readBy : ReadBy .logLevel LogLevel.read :=
  readBy_of_readNamed (fun _ => .rfl) (by decide) (by decide)

theorem showAdvice_readBy : ReadBy .showAdvice readSwitch := by
  intro text
  by_cases hon : trimmed text ∈ onWords
  · have hread : readSwitch text = .ok true := by rw [readSwitch]; exact if_pos hon
    exact .inr ⟨fun h => h true hread, true, hread⟩
  · by_cases hoff : trimmed text ∈ offWords
    · have hread : readSwitch text = .ok false := by
        rw [readSwitch]; exact (if_neg hon).trans (if_pos hoff)
      exact .inr ⟨fun h => h false hread, false, hread⟩
    · have hopen : "invalid PLAINBDD_SHOW_ADVISE value '" =
          "invalid PLAINBDD_SHOW_ADVISE value " ++ "'" := by decide
      have hclose : "', expected a boolean" = "'" ++ ", expected a boolean" := by decide
      have hread : readSwitch text = .error (Variable.complaint .showAdvice text) := by
        rw [readSwitch, hopen, hclose]
        refine (if_neg hon).trans ((if_neg hoff).trans ?_)
        simp only [Variable.complaint, Variable.wording, String.append_assoc]
      exact .inl ⟨fun on h => (nomatch hread.symm.trans h), hread⟩

def Gives (read : String → Except SettingsError α) (value : Option String) : Option α → Prop
  | none => value = none
  | some a => ∃ text, value = some text ∧ read text = .ok a

/-- What comes of reading the variables from a place on: the complaint about the first bad one, or
without a bad one a result. -/
def Settles (env : Environment) (start : Nat) (P : α → Prop) : Except SettingsError α → Prop
  | .error e => ∃ v text, e = Variable.complaint v text ∧ v.BadIn env text ∧ start ≤ v.place ∧
      ∀ (u : Variable) other, start ≤ u.place → u.place < v.place → ¬u.BadIn env other
  | .ok a => (∀ (v : Variable) text, start ≤ v.place → ¬v.BadIn env text) ∧ P a

theorem Settles.pure {P : α → Prop} {a : α} (h : P a) : Settles env 4 P (.ok a) :=
  ⟨fun v _ hv => by cases v <;> exact absurd hv (by decide), h⟩

theorem Settles.bind {β : Type} {P : β → Prop} {f : Option α → Except SettingsError β}
    (hread : ReadBy v read)
    (hrest : ∀ given, Gives read (env v.name) given → Settles env (v.place + 1) P (f given)) :
    Settles env v.place P (readIfSet read (env v.name) >>= f) := by
  -- a good variable adds nothing to what comes of the others, which are read from the next place on
  have hgood : ∀ given, Gives read (env v.name) given → (∀ text, ¬v.BadIn env text) →
      Settles env v.place P (f given) := by
    intro given hgiven hv
    have hlater := hrest given hgiven
    have hself : ∀ (u : Variable) other, v.place ≤ u.place → ¬v.place + 1 ≤ u.place →
        ¬u.BadIn env other := by
      intro u other hle hnot
      obtain rfl := Variable.place_injective (Nat.le_antisymm hle (by omega))
      exact hv other
    cases hf : f given with
    | ok b =>
      rw [hf] at hlater
      refine ⟨fun u other hle => ?_, hlater.2⟩
      by_cases hnext : v.place + 1 ≤ u.place
      · exact hlater.1 u other hnext
      · exact hself u other hle hnext
    | error e =>
      rw [hf] at hlater
      obtain ⟨w, text, rfl, hbad, hstart, hfirst⟩ := hlater
      refine ⟨w, text, rfl, hbad, by omega, fun u other hle hlt => ?_⟩
      by_cases hnext : v.place + 1 ≤ u.place
      · exact hfirst u other hnext hlt
      · exact hself u other hle hnext
  cases hvalue : env v.name with
  | none =>
    refine hgood none hvalue fun text hbad => ?_
    rw [Variable.BadIn, hvalue] at hbad
    cases hbad.1
  | some text =>
    rcases hread text with ⟨hrejects, herror⟩ | ⟨haccepts, a, hok⟩
    · rw [readIfSet, herror]
      exact ⟨v, text, rfl, ⟨hvalue, hrejects⟩, Nat.le_refl _, fun u _ hle hlt => by omega⟩
    · rw [readIfSet, hok]
      refine hgood (some a) ⟨text, hvalue, hok⟩ fun other hbad => ?_
      rw [Variable.BadIn, hvalue] at hbad
      exact haccepts (Option.some.inj hbad.1 ▸ hbad.2)

end

/-- The directory that the environment gives. A blank one counts as none. -/
def givenDir (env : Environment) : Option String :=
  match env "PLAINBDD_FEATURES_DIR" with
  | none => none
  | some dir => if dir.toList.all isBlank then none else some dir

/-- What the variables give, one by one. -/
structure GivenBy (env : Environment) (given : Overrides) : Prop where
  featuresDir : given.featuresDir = env.givenDir
  showAdvice : Gives readSwitch (env "PLAINBDD_SHOW_ADVISE") given.showAdvice
  colour : Gives ColourMode.read (env "PLAINBDD_COLOR") given.colour
  format : Gives ReportFormat.read (env "PLAINBDD_FORMAT") given.format
  logLevel : Gives LogLevel.read (env "PLAINBDD_LOG_LEVEL") given.logLevel

theorem filter_eq_givenDir (env : Environment) :
    (env "PLAINBDD_FEATURES_DIR").filter (fun dir => !isAllBlank dir.toList) = env.givenDir := by
  rw [givenDir]
  cases env "PLAINBDD_FEATURES_DIR" with
  | none => rfl
  | some dir =>
    rw [Option.filter_some, isAllBlank]
    dsimp only
    cases dir.toList.all isBlank <;> rfl

theorem overrides_settles (env : Environment) : Settles env 0 (GivenBy env) env.overrides := by
  refine .bind showAdvice_readBy fun showAdvice hshow => ?_
  refine .bind colour_readBy fun colour hcolour => ?_
  refine .bind format_readBy fun format hformat => ?_
  refine .bind logLevel_readBy fun logLevel hlevel => ?_
  exact .pure ⟨env.filter_eq_givenDir, hshow, hcolour, hformat, hlevel⟩

end Environment

/-! ## Settings -/

open Environment CommandLine

/-- Where the value of a setting comes from: its flag, else its variable, else its default. -/
inductive Origin {α : Type} (read : String → Except SettingsError α) (flag : Option α)
    (value : Option String) (default : α) : α → Prop
  | flag {a : α} (hflag : flag = some a) : Origin read flag value default a
  | environment {a : α} {text : String} (hflag : flag = none) (hvalue : value = some text)
      (hread : read text = .ok a) : Origin read flag value default a
  | default (hflag : flag = none) (hvalue : value = none) : Origin read flag value default default

namespace Origin

variable {α : Type} {read : String → Except SettingsError α} {flag given : Option α}
  {value : Option String} {default a b : α}

theorem of_gives (h : Gives read value given) (flag : Option α) (default : α) :
    Origin read flag value default (flag.getD (given.getD default)) := by
  cases flag with
  | some a => exact .flag rfl
  | none =>
    cases given with
    | none => exact .default rfl h
    | some a =>
      obtain ⟨text, hvalue, hread⟩ := h
      exact .environment rfl hvalue hread

theorem unique (ha : Origin read flag value default a) (hb : Origin read flag value default b) :
    a = b := by
  cases ha with
  | flag hflag =>
    cases hb with
    | flag hflag' => exact Option.some.inj (hflag.symm.trans hflag')
    | environment hflag' | default hflag' => cases hflag.symm.trans hflag'
  | environment hflag hvalue hread =>
    cases hb with
    | flag hflag' => cases hflag.symm.trans hflag'
    | environment _ hvalue' hread' =>
      obtain rfl := Option.some.inj (hvalue.symm.trans hvalue')
      exact Except.ok.inj (hread.symm.trans hread')
    | default _ hvalue' => cases hvalue.symm.trans hvalue'
  | default hflag hvalue =>
    cases hb with
    | flag hflag' => cases hflag.symm.trans hflag'
    | environment _ hvalue' => cases hvalue.symm.trans hvalue'
    | default => rfl

end Origin

/-- Each setting has its value from its own flag, its own variable or its own default. -/
structure SettledBy (env : Environment) (flags : FlagSet) (s : Settings) : Prop where
  featuresDir : Origin .ok flags.featuresDir env.givenDir "features" s.featuresDir
  showAdvice : s.showAdvice = true ↔ flags.advise = true ∨
    ∃ text, env "PLAINBDD_SHOW_ADVISE" = some text ∧ readSwitch text = .ok true
  colour : Origin ColourMode.read flags.colour (env "PLAINBDD_COLOR") .auto s.colour
  format : Origin ReportFormat.read flags.format (env "PLAINBDD_FORMAT") .console s.format
  logLevel : Origin LogLevel.read flags.logLevel (env "PLAINBDD_LOG_LEVEL") .warn s.logLevel

section

variable {env : Environment} {flags : FlagSet} {given : Overrides} {s t : Settings}

theorem Gives.getD_eq_true {value : Option String} {on : Option Bool}
    (h : Gives readSwitch value on) :
    on.getD false = true ↔ ∃ text, value = some text ∧ readSwitch text = .ok true := by
  cases on with
  | none =>
    rw [show value = none from h]
    simp
  | some on =>
    obtain ⟨text, rfl, hread⟩ := h
    simp [hread]

theorem settledBy_of_given (h : GivenBy env given) (flags : FlagSet) :
    SettledBy env flags ((({} : Settings).override given).override flags.overrides) where
  featuresDir := by
    have hdir : Gives .ok env.givenDir given.featuresDir := by
      rw [h.featuresDir]
      cases env.givenDir with
      | none => rfl
      | some dir => exact ⟨dir, rfl, rfl⟩
    exact .of_gives hdir flags.featuresDir "features"
  showAdvice := by
    rw [← Gives.getD_eq_true h.showAdvice]
    cases hadvise : flags.advise <;> simp [Settings.override, FlagSet.overrides, hadvise]
  colour := .of_gives h.colour flags.colour .auto
  format := .of_gives h.format flags.format .console
  logLevel := .of_gives h.logLevel flags.logLevel .warn

theorem SettledBy.unique (hs : SettledBy env flags s) (ht : SettledBy env flags t) : s = t := by
  have hadvice : s.showAdvice = t.showAdvice := by
    rw [Bool.eq_iff_iff, hs.showAdvice, ht.showAdvice]
  cases s
  cases t
  rw [Settings.mk.injEq]
  exact ⟨hs.featuresDir.unique ht.featuresDir, hadvice, hs.colour.unique ht.colour,
    hs.format.unique ht.format, hs.logLevel.unique ht.logLevel⟩

theorem Settings.load_cases (env : Environment) (flags : FlagSet) :
    (∃ v text, env.FirstBad v text ∧
        Settings.load env flags.overrides = .error (v.complaint text)) ∨
      ((∀ (v : Variable) text, ¬v.BadIn env text) ∧
        ∃ s, Settings.load env flags.overrides = .ok s ∧ SettledBy env flags s) := by
  have hsettles := overrides_settles env
  rw [Settings.load]
  cases hgiven : env.overrides with
  | error e =>
    rw [hgiven] at hsettles
    obtain ⟨v, text, rfl, hbad, -, hfirst⟩ := hsettles
    exact .inl ⟨v, text, ⟨hbad, fun u other => hfirst u other (Nat.zero_le _)⟩, rfl⟩
  | ok given =>
    rw [hgiven] at hsettles
    exact .inr ⟨fun v text => hsettles.1 v text (Nat.zero_le _), _, rfl,
      settledBy_of_given hsettles.2 flags⟩

end

/-- The settings are loaded if and only if no variable is set to a value that its parser rejects;
else the error is that of the first such variable, and quotes the value. If they are loaded, each
setting is that of its flag, else that of its variable, else its default; a blank directory in the
environment counts as none, and advice is shown if its flag is given or its variable says so. What
the command line gives is always such a set of flags. -/
theorem settings_precedence (env : Environment) (flags : FlagSet) :
    ((∃ e, Settings.load env flags.overrides = .error e) ↔
      ∃ (v : Variable) (text : String), v.BadIn env text) ∧
    (∀ e, Settings.load env flags.overrides = .error e ↔
      ∃ v text, env.FirstBad v text ∧ e = v.complaint text) ∧
    (∀ s, Settings.load env flags.overrides = .ok s ↔
      (∀ (v : Variable) text, ¬v.BadIn env text) ∧ SettledBy env flags s) ∧
    ∀ arguments given, CommandLine.read arguments = .ok given →
      ∃ flags : FlagSet, given = flags.overrides := by
  rcases Settings.load_cases env flags with ⟨v, text, hfirst, hload⟩ | ⟨hgood, s, hload, hs⟩
  · rw [hload]
    refine ⟨⟨fun _ => ⟨v, text, hfirst.1⟩, fun _ => ⟨_, rfl⟩⟩, fun e => ⟨?_, ?_⟩,
      fun t => ⟨nofun, fun h => absurd hfirst.1 (h.1 v text)⟩, fun _ _ => read_flags⟩
    · exact fun h => ⟨v, text, hfirst, (Except.error.inj h).symm⟩
    · rintro ⟨u, other, hother, rfl⟩
      obtain ⟨rfl, rfl⟩ := hfirst.unique hother
      rfl
  · rw [hload]
    refine ⟨⟨nofun, fun ⟨v, text, hbad⟩ => absurd hbad (hgood v text)⟩, fun e => ⟨nofun, ?_⟩,
      fun t => ⟨fun h => ⟨hgood, Except.ok.inj h ▸ hs⟩, fun h => ?_⟩, fun _ _ => read_flags⟩
    · rintro ⟨v, text, hfirst, -⟩
      exact absurd hfirst.1 (hgood v text)
    · rw [hs.unique h.2]

end FeatureScript
