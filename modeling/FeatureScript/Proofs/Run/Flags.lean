import FeatureScript.Proofs.Run.Settings

/-!
# FeatureScript.Proofs.Run.Flags

What is left to a variable whose flag is given.

`AgreeBut`: two environments that differ in the variable of one setting at most. If the flag of this
setting is given, its value does not come from the variable (`SettledBy.of_agreeBut`). But the
variables are all read before the flags are looked at, so a value that is rejected ends the loading
whatever the flags are. `flags_win`: nothing else is left to the variable.
-/

namespace FeatureScript

open Environment CommandLine

/-- A setting by its variable. The one of the directory has no bad values. -/
inductive Setting where
  | featuresDir
  | checked (v : Variable)
  deriving DecidableEq, Repr

namespace Setting

def name : Setting → String
  | featuresDir => "PLAINBDD_FEATURES_DIR"
  | checked v => v.name

/-- The flag of the setting is given. -/
def IsGiven (flags : FlagSet) : Setting → Prop
  | featuresDir => flags.featuresDir.isSome
  | checked .showAdvice => flags.advise
  | checked .colour => flags.colour.isSome
  | checked .format => flags.format.isSome
  | checked .logLevel => flags.logLevel.isSome

/-- The variable of the setting has a value that is rejected. -/
def BadIn (env : Environment) (text : String) : Setting → Prop
  | featuresDir => False
  | checked v => v.BadIn env text

/-- A variable that is read before that of the setting is bad. -/
def Overtaken (env : Environment) : Setting → Prop
  | featuresDir => False
  | checked v => ∃ (u : Variable) (text : String), u.place < v.place ∧ u.BadIn env text

theorem name_injective {r s : Setting} (h : r.name = s.name) : r = s := by
  cases r with
  | featuresDir =>
    cases s with
    | featuresDir => rfl
    | checked v =>
      revert h
      cases v <;> decide
  | checked u =>
    cases s with
    | featuresDir =>
      revert h
      cases u <;> decide
    | checked v =>
      revert h
      cases u <;> cases v <;> decide

end Setting

/-- The first words of a complaint tell the variables apart. -/
theorem Environment.Variable.complaint_injective {v u : Variable} {text other : String}
    (h : v.complaint text = u.complaint other) : v = u ∧ text = other := by
  have hproblem := congrArg (fun e => e.problem.toList) h
  have hvariable : v = u := by
    have hlong : ∀ v : Variable, 9 ≤ v.wording.1.toList.length := by
      intro v
      cases v <;> decide
    have htell : ∀ v u : Variable,
        v.wording.1.toList.take 9 = u.wording.1.toList.take 9 → v = u := by
      intro v u
      cases v <;> cases u <;> decide
    refine htell v u ?_
    have htake := congrArg (List.take 9) hproblem
    simp only [complaint, String.toList_append, List.append_assoc] at htake
    rwa [List.take_append_of_le_length (hlong v), List.take_append_of_le_length (hlong u)] at htake
  subst hvariable
  refine ⟨rfl, String.toList_injective ?_⟩
  simpa [complaint, String.toList_append] using hproblem

/-! ## Two environments -/

namespace Environment

/-- The environments differ in the variable of the setting at most. -/
def AgreeBut (s : Setting) (env env' : Environment) : Prop :=
  ∀ name, name ≠ s.name → env name = env' name

section

variable {s : Setting} {flags : FlagSet} {env env' : Environment} {v : Variable} {text : String}

namespace AgreeBut

theorem symm (h : AgreeBut s env env') : AgreeBut s env' env :=
  fun name hname => (h name hname).symm

/-- A setting that has not its flag has the same value of its variable. -/
theorem given_or_eq (h : AgreeBut s env env') (hgiven : s.IsGiven flags) (r : Setting) :
    r.IsGiven flags ∨ env r.name = env' r.name := by
  by_cases hname : r.name = s.name
  · obtain rfl := Setting.name_injective hname
    exact .inl hgiven
  · exact .inr (h _ hname)

theorem badIn_iff (h : AgreeBut s env env') (hv : .checked v ≠ s) :
    v.BadIn env text ↔ v.BadIn env' text := by
  rw [Variable.BadIn, Variable.BadIn, h v.name fun hname => hv (Setting.name_injective hname)]

theorem badIn_iff_of_lt {u : Variable} (h : AgreeBut (.checked v) env env')
    (hu : u.place < v.place) : u.BadIn env text ↔ u.BadIn env' text := by
  refine h.badIn_iff ?_
  rintro ⟨⟩
  exact Nat.lt_irrefl _ hu

theorem overtaken_iff (h : AgreeBut s env env') : s.Overtaken env ↔ s.Overtaken env' := by
  cases s with
  | featuresDir => exact .rfl
  | checked v =>
    exact exists_congr fun u => exists_congr fun text => and_congr_right h.badIn_iff_of_lt

end AgreeBut

theorem firstBad_congr (h : ∀ (u : Variable) other, u.place ≤ v.place →
    (u.BadIn env other ↔ u.BadIn env' other)) : env.FirstBad v text ↔ env'.FirstBad v text := by
  refine and_congr (h v text (Nat.le_refl _)) (forall_congr' fun u => forall_congr' fun other => ?_)
  exact imp_congr_right fun hlt => not_congr (h u other (Nat.le_of_lt hlt))

end

end Environment

/-! ## Values -/

section

variable {s : Setting} {flags : FlagSet} {env env' : Environment} {v : Variable} {text : String}
  {t : Settings}

theorem Origin.congr {α : Type} {read : String → Except SettingsError α} {flag : Option α}
    {value value' : Option String} {default a : α} (h : Origin read flag value default a)
    (hsame : flag.isSome ∨ value = value') : Origin read flag value' default a := by
  rcases hsame with hflag | rfl
  · cases h with
    | flag hflag' => exact .flag hflag'
    | environment hnone | default hnone => simp [hnone] at hflag
  · exact h

/-- The values come from the same places, whatever the variable of a flag that is given is. -/
theorem SettledBy.of_agreeBut (h : SettledBy env flags t) (hagree : AgreeBut s env env')
    (hgiven : s.IsGiven flags) : SettledBy env' flags t := by
  have hsame := hagree.given_or_eq hgiven
  refine ⟨h.featuresDir.congr ?_, h.showAdvice.trans ?_, h.colour.congr (hsame (.checked .colour)),
    h.format.congr (hsame (.checked .format)), h.logLevel.congr (hsame (.checked .logLevel))⟩
  · refine (hsame .featuresDir).imp_right fun heq => ?_
    have hdir : env "PLAINBDD_FEATURES_DIR" = env' "PLAINBDD_FEATURES_DIR" := heq
    rw [givenDir, givenDir, hdir]
  · rcases hsame (.checked .showAdvice) with hadvise | heq
    · exact iff_of_true (.inl hadvise) (.inl hadvise)
    · have hvalue : env "PLAINBDD_SHOW_ADVISE" = env' "PLAINBDD_SHOW_ADVISE" := heq
      rw [hvalue]

/-! ## Outcomes -/

theorem Settings.load_of_firstBad (h : env.FirstBad v text) (flags : FlagSet) :
    Settings.load env flags.overrides = .error (v.complaint text) := by
  rcases Settings.load_cases env flags with ⟨u, other, hfirst, hload⟩ | ⟨hgood, -⟩
  · obtain ⟨rfl, rfl⟩ := h.unique hfirst
    exact hload
  · exact absurd h.1 (hgood v text)

theorem Environment.FirstBad.of_load {e : SettingsError}
    (h : Settings.load env flags.overrides = .error e) :
    ∃ v text, env.FirstBad v text ∧ e = v.complaint text := by
  rcases Settings.load_cases env flags with ⟨v, text, hfirst, hload⟩ | ⟨-, t, hload, -⟩
  · exact ⟨v, text, hfirst, Except.error.inj (h.symm.trans hload)⟩
  · cases h.symm.trans hload

/-- Environments in which the same values are rejected. -/
theorem Settings.load_congr (hagree : AgreeBut s env env') (hgiven : s.IsGiven flags)
    (hbad : ∀ (v : Variable) text, v.BadIn env text ↔ v.BadIn env' text) :
    Settings.load env flags.overrides = Settings.load env' flags.overrides := by
  rcases Settings.load_cases env flags with ⟨v, text, hfirst, hload⟩ | ⟨hgood, t, hload, ht⟩
  · have hfirst' := (firstBad_congr fun u other _ => hbad u other).mp hfirst
    rw [hload, Settings.load_of_firstBad hfirst']
  · rcases Settings.load_cases env' flags with ⟨v, text, hfirst, -⟩ | ⟨-, t', hload', ht'⟩
    · exact absurd ((hbad v text).mpr hfirst.1) (hgood v text)
    · rw [hload, hload', (ht.of_agreeBut hagree hgiven).unique ht']

/-- Behind a bad variable it makes no difference whether another one is bad. -/
theorem Settings.load_of_overtaken (hagree : AgreeBut s env env') (h : s.Overtaken env)
    (flags : FlagSet) :
    Settings.load env flags.overrides = Settings.load env' flags.overrides := by
  cases s with
  | featuresDir => exact absurd h id
  | checked v =>
    obtain ⟨u, text, hlt, hu⟩ := h
    rcases Settings.load_cases env flags with ⟨w, other, hfirst, hload⟩ | ⟨hgood, -⟩
    · -- the first bad variable is read no later than the one that was found, so before the other
      have hw : w.place ≤ u.place := Nat.le_of_not_lt fun hlt' => hfirst.2 u text hlt' hu
      have hfirst' : env'.FirstBad w other :=
        (firstBad_congr fun x _ hx => hagree.badIn_iff_of_lt (by omega)).mp hfirst
      rw [hload, Settings.load_of_firstBad hfirst']
    · exact absurd hu (hgood u text)

/-- Equal outcomes are equal complaints, if the variable is the first bad one. -/
theorem Setting.badIn_of_load_eq
    (h : Settings.load env flags.overrides = Settings.load env' flags.overrides)
    (hfirst : ¬s.Overtaken env) (hbad : s.BadIn env text) : s.BadIn env' text := by
  cases s with
  | featuresDir => exact hbad
  | checked v =>
    have hfirst : env.FirstBad v text :=
      ⟨hbad, fun u other hlt hu => hfirst ⟨u, other, hlt, hu⟩⟩
    rw [Settings.load_of_firstBad hfirst] at h
    obtain ⟨u, other, hfirst', hcomplaint⟩ := FirstBad.of_load h.symm
    obtain ⟨rfl, rfl⟩ := Variable.complaint_injective hcomplaint
    exact hfirst'.1

/-- A flag that is given takes the place of its variable, as long as the variable is not rejected.

Environments that differ in the variable only bring the same outcome, be it settings or an error, if
the variable is rejected in neither of them. A value that is rejected ends the loading all the same.
So the outcomes are the same just if the same value is rejected in both environments, or none, or if
a variable that is read before is bad. -/
theorem flags_win (hagree : AgreeBut s env env') (hgiven : s.IsGiven flags) :
    ((∀ text, ¬s.BadIn env text) → (∀ text, ¬s.BadIn env' text) →
      Settings.load env flags.overrides = Settings.load env' flags.overrides) ∧
    ((∃ text, s.BadIn env text) → ∃ e, Settings.load env flags.overrides = .error e) ∧
    (Settings.load env flags.overrides = Settings.load env' flags.overrides ↔
      (∀ text, s.BadIn env text ↔ s.BadIn env' text) ∨ s.Overtaken env) := by
  have hequal : (∀ text, s.BadIn env text ↔ s.BadIn env' text) →
      Settings.load env flags.overrides = Settings.load env' flags.overrides := by
    intro hbad
    refine Settings.load_congr hagree hgiven fun v text => ?_
    by_cases hv : .checked v = s
    · subst hv
      exact hbad text
    · exact hagree.badIn_iff hv
  refine ⟨?_, ?_, ?_, ?_⟩
  · intro hgood hgood'
    exact hequal fun text => iff_of_false (hgood text) (hgood' text)
  · rintro ⟨text, hbad⟩
    cases s with
    | featuresDir => exact absurd hbad id
    | checked v =>
      rcases Settings.load_cases env flags with ⟨u, other, -, hload⟩ | ⟨hgood, -⟩
      · exact ⟨_, hload⟩
      · exact absurd hbad (hgood v text)
  · intro hload
    by_cases hovertaken : s.Overtaken env
    · exact .inr hovertaken
    · have hovertaken' : ¬s.Overtaken env' := fun h => hovertaken (hagree.overtaken_iff.mpr h)
      exact .inl fun text => ⟨Setting.badIn_of_load_eq hload hovertaken,
        Setting.badIn_of_load_eq hload.symm hovertaken'⟩
  · rintro (hbad | hovertaken)
    · exact hequal hbad
    · exact Settings.load_of_overtaken hagree hovertaken flags

end

/-- A colour from the environment does not matter beside one from the command line. -/
theorem flags_win_colour :
    let flags : FlagSet := { colour := some .never }
    let env : Environment := fun name => if name = "PLAINBDD_COLOR" then some "always" else none
    Settings.load env flags.overrides = Settings.load (fun _ => none) flags.overrides := by
  intro flags env
  have hgiven : Setting.IsGiven flags (.checked .colour) := rfl
  have hagree : AgreeBut (.checked .colour) env fun _ => none := fun name hname => if_neg hname
  have hgood : ∀ text, ¬Setting.BadIn env text (.checked .colour) := by
    rintro text ⟨hvalue, hrejects⟩
    cases hvalue
    exact hrejects .always rfl
  exact (flags_win hagree hgiven).1 hgood fun text h => nomatch h.1

/-- A colour that there is not ends the loading, even beside one from the command line. -/
theorem flag_leaves_rejection :
    let flags : FlagSet := { colour := some .never }
    let env : Environment := fun name => if name = "PLAINBDD_COLOR" then some "pink" else none
    Setting.IsGiven flags (.checked .colour) ∧ AgreeBut (.checked .colour) env (fun _ => none) ∧
      Settings.load (fun _ => none) flags.overrides = .ok { colour := .never } ∧
      Settings.load env flags.overrides = .error (Variable.complaint .colour "pink") :=
  ⟨rfl, fun _ hname => if_neg hname, rfl, rfl⟩

end FeatureScript
