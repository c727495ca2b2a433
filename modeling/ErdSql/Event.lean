import ErdSql.Diagnostic
import ErdSql.Log.Record
import ErdSql.Model.Tag
import ErdSql.Sql.Script
import ErdSql.Step

/-!
# Events

What a run of the generator does that can be seen from outside, in the order in which it does
it.  Generation is the making of a list of events; carrying them out comes after, and may stop
at a file that cannot be written.
-/

namespace ErdSql

/-- One thing that generation does. -/
inductive Action where
  /-- Tells the modeller something. -/
  | report (diagnostic : Diagnostic)
  /-- Writes a log record. -/
  | note (level : Log.Level) (logger message : String) (cause : Option Log.Cause)
  /-- Marks a point in the course of the run in the log. -/
  | mark (name : String) (data : List (String × Json))
  /-- Adds a tag to the project. -/
  | assign (tag : Tag)
  /-- Writes a script to a file. -/
  | write (path : String) (script : Sql.Script)
  /-- Enters a step into the result of the run. -/
  | conclude (step : StepResult)
deriving Repr

/-- An action, and what the generator is at work on when it takes it. -/
structure Event where
  context : Log.Context := {}
  action : Action
deriving Repr

namespace Event

def report (diagnostic : Diagnostic) : Event :=
  { action := .report diagnostic }

def note (level : Log.Level) (logger message : String) : Event :=
  { action := .note level logger message none }

def write (path : String) (script : Sql.Script) : Event :=
  { action := .write path script }

def conclude (step : StepResult) : Event :=
  { action := .conclude step }

def within (outer : Log.Context) (event : Event) : Event :=
  { event with context := event.context.inside outer }

def diagnostic? (event : Event) : Option Diagnostic :=
  match event.action with
  | .report d => some d
  | _ => none

/-- The script that is written, and the path of its file. -/
def script? (event : Event) : Option (String × Sql.Script) :=
  match event.action with
  | .write path script => some (path, script)
  | _ => none

def file? (event : Event) : Option (String × String) :=
  event.script?.map fun (path, script) => (path, script.text)

def assigned? (event : Event) : Option Tag :=
  match event.action with
  | .assign tag => some tag
  | _ => none

def step? (event : Event) : Option StepResult :=
  match event.action with
  | .conclude step => some step
  | _ => none

def diagnostics (events : List Event) : List Diagnostic :=
  events.filterMap diagnostic?

/-- The scripts that a list of events writes, with the paths of their files, in order. -/
def scripts (events : List Event) : List (String × Sql.Script) :=
  events.filterMap script?

/-- The files that a list of events writes, with their texts, in order. -/
def files (events : List Event) : List (String × String) :=
  events.filterMap file?

/-- The tags that a list of events adds to the project. -/
def assignedTags (events : List Event) : List Tag :=
  events.filterMap assigned?

/-- The steps that a list of events enters into the result. -/
def steps (events : List Event) : List StepResult :=
  events.filterMap step?

section Projections

variable (outer : Log.Context) (event : Event) (earlier later : List Event)

@[simp] theorem script?_within : (event.within outer).script? = event.script? := rfl

@[simp] theorem file?_within : (event.within outer).file? = event.file? := rfl

@[simp] theorem diagnostic?_within :
    (event.within outer).diagnostic? = event.diagnostic? := rfl

@[simp] theorem assigned?_within : (event.within outer).assigned? = event.assigned? := rfl

@[simp] theorem step?_within : (event.within outer).step? = event.step? := rfl

@[simp] theorem scripts_append :
    scripts (earlier ++ later) = scripts earlier ++ scripts later :=
  List.filterMap_append

@[simp] theorem files_append : files (earlier ++ later) = files earlier ++ files later :=
  List.filterMap_append

@[simp] theorem diagnostics_append :
    diagnostics (earlier ++ later) = diagnostics earlier ++ diagnostics later :=
  List.filterMap_append

@[simp] theorem steps_append : steps (earlier ++ later) = steps earlier ++ steps later :=
  List.filterMap_append

theorem files_eq_map_scripts (events : List Event) :
    files events = (scripts events).map fun (path, script) => (path, script.text) := by
  unfold files scripts file?
  exact (List.map_filterMap ..).symm

end Projections

/-- The log level at which a diagnostic is shown. -/
def levelOf : Severity → Log.Level
  | .info => .info
  | .warning => .warning
  | .error => .error

/-- The log record that goes with a reported diagnostic. -/
def diagnosticRecord (context : Log.Context) (d : Diagnostic) : Log.Record :=
  let data := match d.element with
    | some element => if element = "" then [] else [("element", Json.string element)]
    | none => []
  .inContext context (levelOf d.severity) "infrastructure.diagnostics" d.message data

/-- The log record of a sink that has written a file. -/
def fileRecord (context : Log.Context) (message : String) : Log.Record :=
  .inContext context .debug "infrastructure.file_sink" message []

/-- The log record that goes with an event; `written` words the record of a file written, and
diagnostics are logged only if the log follows them. -/
def record? (moment : Log.Moment) (written : String → String → String) (followsReports : Bool)
    (event : Event) : Option Log.Record :=
  match event.action with
  | .report d => if followsReports then some (diagnosticRecord event.context d) else none
  | .note level logger message cause =>
      some (.inContext event.context level logger message [] cause)
  | .mark name data => some (.checkpoint moment event.context "checkpoint" name data)
  | .assign _ => none
  | .conclude _ => none
  | .write path script => some (fileRecord event.context (written path script.text))

end Event
end ErdSql
