import ErdSql.Cli.Program
import ErdSql.Proofs.Ascents

/-!
# How the program ends

The program ends with a status that tells how it went, or with a failure that it does not handle.
The status is 0 or 2 only after a run that succeeds, and 2 if an error was reported on the way.  It
is 1 where the file cannot be read, where its text is no project, and where the run fails.  What is
not handled is a file that is no UTF-8, a number of spaces in the environment that cannot be read, a
path with a null character, and a directory that is not there.
-/

namespace ErdSql
namespace Cli

/-- The contents are those of a file that holds the project. -/
def Loads (contents : Except Storage.Fault (List UInt8)) (project : Project) : Prop :=
  ∃ bytes text, contents = .ok bytes ∧ Text.decodeUtf8 bytes = .ok text ∧
    Document.parse Document.project text = .ok project

/-- How a run comes out. -/
structure Verdict where
  success : Bool
  errorReported : Bool

def Verdict.ofRun {σ : Type} (run : Generation.Run σ) : Verdict where
  success := run.result.success
  errorReported := Diagnostic.anyError (Event.diagnostics run.events)

def Verdict.status (verdict : Verdict) : Nat :=
  if !verdict.success then 1 else if verdict.errorReported then 2 else 0

namespace Setting

variable {σ : Type} [Storage.Sink σ]

/-- How the run of a project comes out; a dry run goes into memory. -/
def verdict (setting : Setting) (options : Options) (project : Project) (sink : σ) : Verdict :=
  if setting.arguments.dryRun then
    .ofRun (setting.generate options project ({} : Storage.Memory))
  else
    .ofRun (setting.generate options project sink)

/-- The ways in which the program ends, and how. -/
inductive Ends (setting : Setting) (contents : Except Storage.Fault (List UInt8)) (sink : σ) :
    Exit → Prop
  | nullPath (hcontents : contents = .error .nullCharacter) :
      Ends setting contents sink (.abort ⟨Storage.Fault.typeName .nullCharacter,
        Storage.Fault.message .nullCharacter⟩)
  | unreadable {fault : Storage.Fault} (hcontents : contents = .error fault)
      (hnull : fault ≠ .nullCharacter) : Ends setting contents sink (.status 1)
  | undecodable {bytes : List UInt8} {fault : Text.Utf8Fault} (hcontents : contents = .ok bytes)
      (hdecoded : Text.decodeUtf8 bytes = .error fault) :
      Ends setting contents sink (.abort ⟨"UnicodeDecodeError", fault.message⟩)
  | invalid {bytes : List UInt8} {text : String} {invalid : Document.Invalid}
      (hcontents : contents = .ok bytes) (hdecoded : Text.decodeUtf8 bytes = .ok text)
      (hparsed : Document.parse Document.project text = .error invalid) :
      Ends setting contents sink (.status 1)
  | unusable {project : Project} {cause : Log.Cause} (hloads : Loads contents project)
      (hoptions : setting.options = .error cause) : Ends setting contents sink (.abort cause)
  | failed {project : Project} {options : Options} (hloads : Loads contents project)
      (hoptions : setting.options = .ok options)
      (hsuccess : (setting.verdict options project sink).success = false) :
      Ends setting contents sink (.status 1)
  | erroneous {project : Project} {options : Options} (hloads : Loads contents project)
      (hoptions : setting.options = .ok options)
      (hsuccess : (setting.verdict options project sink).success = true)
      (herror : (setting.verdict options project sink).errorReported = true) :
      Ends setting contents sink (.status 2)
  | faultless {project : Project} {options : Options} (hloads : Loads contents project)
      (hoptions : setting.options = .ok options)
      (hsuccess : (setting.verdict options project sink).success = true)
      (herror : (setting.verdict options project sink).errorReported = false) :
      Ends setting contents sink (.status 0)

section Ends

variable {setting : Setting} {contents : Except Storage.Fault (List UInt8)} {sink : σ}
  {project : Project} {options : Options}

theorem loadProject_of_loads (h : Loads contents project) (name : String) :
    loadProject name contents = .ok project := by
  obtain ⟨bytes, text, rfl, hdecoded, hparsed⟩ := h
  simp only [loadProject, hdecoded, hparsed]

theorem exit_of_unreadable {fault : Storage.Fault} (hnull : fault ≠ .nullCharacter) :
    (setting.run (.error fault) sink).1.exit = .status 1 := by
  unfold run loadProject
  cases fault with
  | nullCharacter => exact absurd rfl hnull
  | refused refusal path => rfl
  | full => rfl

theorem exit_of_undecodable {bytes : List UInt8} {fault : Text.Utf8Fault}
    (hdecoded : Text.decodeUtf8 bytes = .error fault) :
    (setting.run (.ok bytes) sink).1.exit = .abort ⟨"UnicodeDecodeError", fault.message⟩ := by
  simp only [run, loadProject, hdecoded, abort]

theorem exit_of_invalid {bytes : List UInt8} {text : String} {invalid : Document.Invalid}
    (hdecoded : Text.decodeUtf8 bytes = .ok text)
    (hparsed : Document.parse Document.project text = .error invalid) :
    (setting.run (.ok bytes) sink).1.exit = .status 1 := by
  simp only [run, loadProject, hdecoded, hparsed]

theorem exit_of_unusable {cause : Log.Cause} (hloads : Loads contents project)
    (hoptions : setting.options = .error cause) :
    (setting.run contents sink).1.exit = .abort cause := by
  simp only [run, loadProject_of_loads hloads, hoptions, abort]

theorem exit_of_options (hloads : Loads contents project) (hoptions : setting.options = .ok options) :
    (setting.run contents sink).1.exit =
      .status (setting.verdict options project sink).status := by
  simp only [run, loadProject_of_loads hloads, hoptions, verdict]
  cases setting.arguments.dryRun <;> rfl

theorem Ends.exit_eq {exit : Exit} (h : setting.Ends contents sink exit) :
    (setting.run contents sink).1.exit = exit := by
  cases h with
  | nullPath hcontents =>
      subst hcontents
      rfl
  | unreadable hcontents hnull =>
      subst hcontents
      exact exit_of_unreadable hnull
  | undecodable hcontents hdecoded =>
      subst hcontents
      exact exit_of_undecodable hdecoded
  | invalid hcontents hdecoded hparsed =>
      subst hcontents
      exact exit_of_invalid hdecoded hparsed
  | unusable hloads hoptions => exact exit_of_unusable hloads hoptions
  | failed hloads hoptions hsuccess =>
      rw [exit_of_options hloads hoptions, Verdict.status, hsuccess]
      rfl
  | erroneous hloads hoptions hsuccess herror =>
      rw [exit_of_options hloads hoptions, Verdict.status, hsuccess, herror]
      rfl
  | faultless hloads hoptions hsuccess herror =>
      rw [exit_of_options hloads hoptions, Verdict.status, hsuccess, herror]
      rfl

/-- The program ends in one of the ways. -/
theorem exists_ends (setting : Setting) (contents : Except Storage.Fault (List UInt8)) (sink : σ) :
    ∃ exit, setting.Ends contents sink exit := by
  cases contents with
  | error fault =>
      by_cases hnull : fault = .nullCharacter
      · exact ⟨_, .nullPath (congrArg Except.error hnull)⟩
      · exact ⟨_, .unreadable rfl hnull⟩
  | ok bytes =>
      cases hdecoded : Text.decodeUtf8 bytes with
      | error fault => exact ⟨_, .undecodable rfl hdecoded⟩
      | ok text =>
          cases hparsed : Document.parse Document.project text with
          | error invalid => exact ⟨_, .invalid rfl hdecoded hparsed⟩
          | ok project =>
              have hloads : Loads (.ok bytes) project := ⟨bytes, text, rfl, hdecoded, hparsed⟩
              cases hoptions : setting.options with
              | error cause => exact ⟨_, .unusable hloads hoptions⟩
              | ok options =>
                  cases hsuccess : (setting.verdict options project sink).success with
                  | false => exact ⟨_, .failed hloads hoptions hsuccess⟩
                  | true =>
                      cases herror : (setting.verdict options project sink).errorReported with
                      | true => exact ⟨_, .erroneous hloads hoptions hsuccess herror⟩
                      | false => exact ⟨_, .faultless hloads hoptions hsuccess herror⟩

theorem ends_run (setting : Setting) (contents : Except Storage.Fault (List UInt8)) (sink : σ) :
    setting.Ends contents sink (setting.run contents sink).1.exit := by
  obtain ⟨exit, hends⟩ := exists_ends setting contents sink
  rw [hends.exit_eq]
  exact hends

end Ends

section Unusable

/-- Only the number of spaces can be unreadable in an environment. -/
theorem exists_ofEnvironment_eq_error_iff (env : Environment) :
    (∃ fault, Options.ofEnvironment env = .error fault) ↔
      ∃ value fault, env.get? OptionKey.indentSpaces.variableName = some value ∧
        Options.integerOfText value = .error fault := by
  unfold Options.ofEnvironment
  cases hvalue : env.get? OptionKey.indentSpaces.variableName with
  | none =>
      constructor
      · rintro ⟨fault, h⟩
        cases h
      · rintro ⟨value, fault, h, -⟩
        cases h
  | some value =>
      cases hinteger : Options.integerOfText value with
      | error fault =>
          refine ⟨fun _ => ⟨value, fault, rfl, hinteger⟩, fun _ => ⟨fault, ?_⟩⟩
          simp only [hinteger]
          rfl
      | ok spaces =>
          constructor
          · rintro ⟨fault, h⟩
            simp only [hinteger] at h
            cases h
          · rintro ⟨other, fault, hother, hfault⟩
            cases hother
            cases hinteger.symm.trans hfault

/-- Options are there unless there is no directory to write to, or the spaces cannot be read. -/
theorem exists_options_eq_error_iff (setting : Setting) :
    (∃ cause, setting.options = .error cause) ↔
      (setting.arguments.output = none ∧ setting.arguments.dryRun = false) ∨
        ∃ value fault,
          setting.environment.get? OptionKey.indentSpaces.variableName = some value ∧
            Options.integerOfText value = .error fault := by
  rw [← exists_ofEnvironment_eq_error_iff, options, Cli.options]
  by_cases hdirectory : setting.arguments.output = none ∧ setting.arguments.dryRun = false
  · rw [if_pos (by simpa using hdirectory)]
    exact ⟨fun _ => Or.inl hdirectory, fun _ => ⟨noDirectory, rfl⟩⟩
  · rw [if_neg (by simpa using hdirectory), or_iff_right hdirectory]
    cases Options.ofEnvironment setting.environment with
    | error fault => exact ⟨fun _ => ⟨fault, rfl⟩, fun _ => ⟨_, rfl⟩⟩
    | ok base =>
        constructor
        · rintro ⟨cause, h⟩
          cases h
        · rintro ⟨fault, h⟩
          cases h

end Unusable

section Statuses

variable {setting : Setting} {contents : Except Storage.Fault (List UInt8)} {sink : σ}

theorem exit_eq_zero_iff :
    (setting.run contents sink).1.exit = .status 0 ↔
      ∃ project options, Loads contents project ∧ setting.options = .ok options ∧
        (setting.verdict options project sink).success = true ∧
        (setting.verdict options project sink).errorReported = false := by
  constructor
  · intro h
    have hends := ends_run setting contents sink
    rw [h] at hends
    cases hends with
    | faultless hloads hoptions hsuccess herror =>
        exact ⟨_, _, hloads, hoptions, hsuccess, herror⟩
  · rintro ⟨project, options, hloads, hoptions, hsuccess, herror⟩
    exact (Ends.faultless hloads hoptions hsuccess herror).exit_eq

theorem exit_eq_one_iff :
    (setting.run contents sink).1.exit = .status 1 ↔
      (∃ fault, contents = .error fault ∧ fault ≠ .nullCharacter) ∨
      (∃ bytes text invalid, contents = .ok bytes ∧ Text.decodeUtf8 bytes = .ok text ∧
        Document.parse Document.project text = .error invalid) ∨
      ∃ project options, Loads contents project ∧ setting.options = .ok options ∧
        (setting.verdict options project sink).success = false := by
  constructor
  · intro h
    have hends := ends_run setting contents sink
    rw [h] at hends
    cases hends with
    | unreadable hcontents hnull => exact Or.inl ⟨_, hcontents, hnull⟩
    | invalid hcontents hdecoded hparsed =>
        exact Or.inr (Or.inl ⟨_, _, _, hcontents, hdecoded, hparsed⟩)
    | failed hloads hoptions hsuccess =>
        exact Or.inr (Or.inr ⟨_, _, hloads, hoptions, hsuccess⟩)
  · rintro (⟨fault, hcontents, hnull⟩ | ⟨bytes, text, invalid, hcontents, hdecoded, hparsed⟩ |
      ⟨project, options, hloads, hoptions, hsuccess⟩)
    · exact (Ends.unreadable hcontents hnull).exit_eq
    · exact (Ends.invalid hcontents hdecoded hparsed).exit_eq
    · exact (Ends.failed hloads hoptions hsuccess).exit_eq

theorem exit_eq_two_iff :
    (setting.run contents sink).1.exit = .status 2 ↔
      ∃ project options, Loads contents project ∧ setting.options = .ok options ∧
        (setting.verdict options project sink).success = true ∧
        (setting.verdict options project sink).errorReported = true := by
  constructor
  · intro h
    have hends := ends_run setting contents sink
    rw [h] at hends
    cases hends with
    | erroneous hloads hoptions hsuccess herror =>
        exact ⟨_, _, hloads, hoptions, hsuccess, herror⟩
  · rintro ⟨project, options, hloads, hoptions, hsuccess, herror⟩
    exact (Ends.erroneous hloads hoptions hsuccess herror).exit_eq

theorem exit_eq_abort_iff :
    (∃ cause, (setting.run contents sink).1.exit = .abort cause) ↔
      contents = .error .nullCharacter ∨
      (∃ bytes fault, contents = .ok bytes ∧ Text.decodeUtf8 bytes = .error fault) ∨
      ∃ project, Loads contents project ∧
        ((setting.arguments.output = none ∧ setting.arguments.dryRun = false) ∨
          ∃ value fault,
            setting.environment.get? OptionKey.indentSpaces.variableName = some value ∧
              Options.integerOfText value = .error fault) := by
  constructor
  · rintro ⟨cause, h⟩
    have hends := ends_run setting contents sink
    rw [h] at hends
    cases hends with
    | nullPath hcontents => exact Or.inl hcontents
    | undecodable hcontents hdecoded => exact Or.inr (Or.inl ⟨_, _, hcontents, hdecoded⟩)
    | unusable hloads hoptions =>
        exact Or.inr (Or.inr ⟨_, hloads, (exists_options_eq_error_iff setting).1 ⟨_, hoptions⟩⟩)
  · rintro (hcontents | ⟨bytes, fault, hcontents, hdecoded⟩ | ⟨project, hloads, hunusable⟩)
    · exact ⟨_, (Ends.nullPath hcontents).exit_eq⟩
    · exact ⟨_, (Ends.undecodable hcontents hdecoded).exit_eq⟩
    · obtain ⟨cause, hoptions⟩ := (exists_options_eq_error_iff setting).2 hunusable
      exact ⟨cause, (Ends.unusable hloads hoptions).exit_eq⟩

theorem le_two_of_exit {code : Nat} (h : (setting.run contents sink).1.exit = .status code) :
    code ≤ 2 := by
  have hends := ends_run setting contents sink
  rw [h] at hends
  cases hends <;> omega

end Statuses

/-- How the program ends, whatever it is given.  Status 0 and status 2 are those of runs that
succeed.  Of what keeps the program from such a run, a file that is refused, a text that is no
project and a run that fails lead to status 1, and all else to a failure that it does not handle.
The walks of a run end if no element of the project has the identity of one above it. -/
theorem exit_run {σ : Type} [Storage.Sink σ] (setting : Setting)
    (contents : Except Storage.Fault (List UInt8)) (sink : σ) :
    ((setting.run contents sink).1.exit = .status 0 ↔
      ∃ project options, Loads contents project ∧ setting.options = .ok options ∧
        (setting.verdict options project sink).success = true ∧
        (setting.verdict options project sink).errorReported = false) ∧
    ((setting.run contents sink).1.exit = .status 1 ↔
      (∃ fault, contents = .error fault ∧ fault ≠ .nullCharacter) ∨
      (∃ bytes text invalid, contents = .ok bytes ∧ Text.decodeUtf8 bytes = .ok text ∧
        Document.parse Document.project text = .error invalid) ∨
      ∃ project options, Loads contents project ∧ setting.options = .ok options ∧
        (setting.verdict options project sink).success = false) ∧
    ((setting.run contents sink).1.exit = .status 2 ↔
      ∃ project options, Loads contents project ∧ setting.options = .ok options ∧
        (setting.verdict options project sink).success = true ∧
        (setting.verdict options project sink).errorReported = true) ∧
    (∀ code, (setting.run contents sink).1.exit = .status code → code ≤ 2) ∧
    ((∃ cause, (setting.run contents sink).1.exit = .abort cause) ↔
      contents = .error .nullCharacter ∨
      (∃ bytes fault, contents = .ok bytes ∧ Text.decodeUtf8 bytes = .error fault) ∨
      ∃ project, Loads contents project ∧
        ((setting.arguments.output = none ∧ setting.arguments.dryRun = false) ∨
          ∃ value fault,
            setting.environment.get? OptionKey.indentSpaces.variableName = some value ∧
              Options.integerOfText value = .error fault)) ∧
    ∀ project, Loads contents project → project.RepeatsNoneBelow →
      ∀ node, ∃ steps result, (Index.ofProject project).Climbs steps node result :=
  ⟨exit_eq_zero_iff, exit_eq_one_iff, exit_eq_two_iff, fun _ => le_two_of_exit, exit_eq_abort_iff,
    fun _ _ hnone node => Index.exists_climbs hnone node⟩

/-- The program on the file `shop.json`, without other arguments or variables. -/
def shopSetting : Setting where
  arguments := { project := "shop.json" }
  environment := {}
  moment := { year := 2026, month := 1, day := 2, hour := 3, minute := 4, second := 5 }

/-- A file of one byte that begins no character ends the program with a failure, and not with
status 1. -/
theorem exit_run_undecodable :
    start ["shop.json"] = .ok shopSetting.arguments ∧
      (∃ cause, (shopSetting.run (.ok [0xff]) ({} : Storage.Memory)).1.exit = .abort cause) ∧
      (shopSetting.run (.ok [0xff]) ({} : Storage.Memory)).1.exit ≠ .status 1 := by
  have hdecoded : Text.decodeUtf8 [0xff] = .error ⟨0, 0xff, 1, .invalidStart⟩ := by
    rw [Text.decodeUtf8, Text.decodeUtf8From]
    rfl
  obtain ⟨-, -, -, -, habort, -⟩ := exit_run shopSetting (.ok [0xff]) ({} : Storage.Memory)
  have hbyte := habort.2 (Or.inr (Or.inl ⟨[0xff], _, rfl, hdecoded⟩))
  refine ⟨rfl, hbyte, fun hstatus => ?_⟩
  obtain ⟨cause, hcause⟩ := hbyte
  cases hstatus.symm.trans hcause

end Setting
end Cli
end ErdSql
