import ErdSql.Cli.Arguments
import ErdSql.Generation.Run
import ErdSql.Model.Document
import ErdSql.Options.Reading
import ErdSql.Text.Utf8

/-!
# The program

What the command line does with its arguments, the environment and the bytes of the project
file: it reads the project, generates the scripts, and says how that went.  The log and the
report go to the error stream, so that the output stream is free for the scripts of a dry run.
The program ends with status 0 if all is well, with 1 if no scripts or not all could be
generated, and with 2 if the command line cannot be understood or an error was reported on the
way.
-/

namespace ErdSql
namespace Cli

def programName : String := "generate_ddl.py"

def programVersion : String := "0.1.0"

def loggerName : String := "scripts.generate_ddl"

/-- How the program ends. -/
inductive Exit where
  | status (code : Nat)
  /-- A failure that the program does not handle. -/
  | abort (cause : Log.Cause)
deriving DecidableEq, Repr

/-- What the program has written, and how it ended. -/
structure Outcome where
  output : String := ""
  messages : List String := []
  exit : Exit
deriving Repr

namespace Outcome

def errorText (outcome : Outcome) : String :=
  String.join (outcome.messages.map (· ++ "\n"))

end Outcome

def helpText : String :=
  String.intercalate "\n" [
    "Generate PostgreSQL DDL from an ER model",
    "",
    "  project              ER model project exported as JSON",
    "  -h, --help           show this text",
    "  --output, -o DIR     output directory (default: current directory)",
    "  --dry-run            print generated files without writing them",
    "  --no-drop            do not generate drop files",
    "  --no-foreign-keys    do not generate foreign key constraints",
    "  --table-inserts      render table documentation as seed INSERT statements",
    "  --owner NAME         owner of the database and schemas",
    "  --version            show the version",
    "  --verbose, -v        enable verbose logging",
    "  --json-logs          emit structured JSON logs",
    ""]

/-- What the program does without a project, if the command line asks for nothing else. -/
def Request.answer? : Except UsageFault Request → Except Outcome Arguments
  | .error fault =>
      .error {
        messages := [programName ++ ": error: " ++ fault.message]
        exit := .status 2 }
  | .ok .help => .error { output := helpText, exit := .status 0 }
  | .ok .version =>
      .error { output := programName ++ " " ++ programVersion ++ "\n", exit := .status 0 }
  | .ok (.generate arguments) => .ok arguments

def start (line : List String) : Except Outcome Arguments :=
  Request.answer? (Request.ofWords line)

def abort (messages : List String) (cause : Log.Cause) : Outcome :=
  { messages := messages, exit := .abort cause }

def faultCount (count : Nat) (subject : String) : String :=
  toString count ++ (if count = 1 then " validation error for " else " validation errors for ") ++
    subject

/-- Reads the project from the bytes of its file. -/
def loadProject (name : String) (contents : Except Storage.Fault (List UInt8)) :
    Except Outcome Project :=
  match contents with
  | .error .nullCharacter =>
      .error (abort [] ⟨Storage.Fault.typeName .nullCharacter,
        Storage.Fault.message .nullCharacter⟩)
  | .error fault =>
      .error {
        messages := ["Cannot read " ++ name ++ ": " ++ fault.message]
        exit := .status 1 }
  | .ok bytes =>
      match Text.decodeUtf8 bytes with
      | .error fault => .error (abort [] ⟨"UnicodeDecodeError", fault.message⟩)
      | .ok text =>
          match Document.parse Document.project text with
          | .error invalid =>
              .error {
                messages := ["Invalid project model in " ++ name ++ ":",
                  faultCount invalid.count "Project"]
                exit := .status 1 }
          | .ok project => .ok project

/-- The directory below which the files are written, or the one at work if there is none. -/
def Arguments.directory (arguments : Arguments) : String :=
  arguments.output.getD "."

/-- The failure where there is no directory to write files to. -/
def noDirectory : Log.Cause :=
  ⟨"TypeError", "expected str, bytes or os.PathLike object, not list"⟩

/-- The options of the environment as changed by the command line. -/
def options (arguments : Arguments) (env : Environment) :
    Except Options.OptionFault Options := do
  let base ← Options.ofEnvironment env
  return { base with
    dropStatements := !arguments.noDrop && base.dropStatements
    foreignKeys := !arguments.noForeignKeys && base.foreignKeys
    tableInserts := arguments.tableInserts || base.tableInserts
    owner :=
      match arguments.owner with
      | some owner => if owner = "" then base.owner else owner
      | none => base.owner }

def logSetup (arguments : Arguments) (env : Environment) : Log.Setup :=
  .make (if arguments.verbose then .debug else .info) arguments.jsonLogs
    (env.get? Log.Setup.formatVariable)

def programRecord (message : String) : Log.Record :=
  .inContext {} .info loggerName message []

/-- The line between the log and the report, and after the report. -/
def rule : String :=
  String.ofList (List.replicate 70 '=')

def stepLines (verbose : Bool) (step : StepResult) : List String :=
  let error := match step.error with
    | some error => if error = "" then [] else ["   Error: " ++ error]
    | none => []
  let details :=
    if verbose then step.details.map fun (name, value) => "   " ++ name ++ ": " ++ value.shown
    else []
  ("[" ++ step.status.name.toUpper ++ "] " ++ step.name ++ ": " ++ step.message) ::
    error ++ details

def report (verbose : Bool) (steps : List StepResult) (diagnostics : List Diagnostic) :
    List String :=
  [rule] ++ steps.flatMap (stepLines verbose) ++
    (Diagnostic.warnings diagnostics).map ("WARNING: " ++ ·) ++
    (Diagnostic.errors diagnostics).map ("ERROR: " ++ ·) ++ [rule]

def summary (result : Generation.Result) : String :=
  "Generated " ++ toString result.files.length ++ " files in " ++ result.outputPath

def shownFiles (memory : Storage.Memory) : String :=
  String.join (memory.files.map fun (path, text) =>
    "-- ===== " ++ path ++ " =====\n" ++ text ++ "\n")

/-- What the program knows when it has read the command line. -/
structure Setting where
  arguments : Arguments
  environment : Environment
  moment : Log.Moment

namespace Setting

def log (setting : Setting) : Log.Setup :=
  logSetup setting.arguments setting.environment

/-- The records that are shown, in their written form. -/
def logLines (setting : Setting) (records : List Log.Record) : List String :=
  setting.log.lines setting.moment records

def loadedLines (setting : Setting) (project : Project) : List String :=
  setting.logLines
    [programRecord ("Loaded project " ++ project.name ++ " from " ++ setting.arguments.project)]

/-- What is written on the error stream about a run. -/
def runLines {σ : Type} [Storage.Sink σ] (setting : Setting) (run : Generation.Run σ) :
    List String :=
  let diagnostics := Event.diagnostics run.events
  let noted := Storage.Sink.noted run.sink
  setting.logLines (run.events.filterMap (Event.record? setting.moment noted true)) ++
    report setting.arguments.verbose run.result.steps diagnostics ++
    if run.result.success then
      setting.logLines [programRecord (summary run.result)] ++ [summary run.result]
    else
      ["Generation failed!"]

/-- The status with which the program ends after a run. -/
def runStatus {σ : Type} (run : Generation.Run σ) : Nat :=
  if !run.result.success then 1
  else if Diagnostic.anyError (Event.diagnostics run.events) then 2
  else 0

/-- Generates the scripts of a project into a sink. -/
def generate {σ : Type} [Storage.Sink σ] (setting : Setting) (options : Options)
    (project : Project) (sink : σ) : Generation.Run σ :=
  Generation.Generator.generateProject { options := options, sink := sink } setting.moment project

def runOutcome {σ : Type} [Storage.Sink σ] (setting : Setting) (project : Project)
    (output : String) (run : Generation.Run σ) : Outcome :=
  { output := output
    messages := setting.loadedLines project ++ setting.runLines run
    exit := .status (runStatus run) }

/-- The options of a run, if it has all that it needs. -/
def options (setting : Setting) : Except Log.Cause Options :=
  if setting.arguments.output.isNone && !setting.arguments.dryRun then
    .error noDirectory
  else
    (Cli.options setting.arguments setting.environment).mapError fun fault =>
      ⟨fault.typeName, fault.message⟩

/-- Runs the program on the bytes of the project file; the outcome, and the sink afterwards. -/
def run {σ : Type} [Storage.Sink σ] (setting : Setting)
    (contents : Except Storage.Fault (List UInt8)) (sink : σ) : Outcome × σ :=
  match loadProject setting.arguments.project contents with
  | .error outcome => (outcome, sink)
  | .ok project =>
      match setting.options with
      | .error cause => (abort (setting.loadedLines project) cause, sink)
      | .ok options =>
          if setting.arguments.dryRun then
            let run := setting.generate options project ({} : Storage.Memory)
            (setting.runOutcome project (shownFiles run.sink) run, sink)
          else
            let run := setting.generate options project sink
            (setting.runOutcome project "" run, run.sink)

end Setting
end Cli
end ErdSql
