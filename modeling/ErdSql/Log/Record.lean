import ErdSql.Json.Printer
import ErdSql.Log.Context
import ErdSql.Log.Level
import ErdSql.Text.Lowercase

/-!
# Log records

A log record and its two written forms: a line for people, which shows what the program was at
work on, and a JSON object for programs.
-/

namespace ErdSql
namespace Log

/-- A moment in time, in universal time. -/
structure Moment where
  year : Nat
  month : Nat
  day : Nat
  hour : Nat
  minute : Nat
  second : Nat
  microsecond : Nat := 0
deriving DecidableEq, Repr

/-- A number with zeros before it up to the given width. -/
def padded (width n : Nat) : String :=
  let digits := toString n
  String.ofList (List.replicate (width - digits.length) '0') ++ digits

namespace Moment

def date (m : Moment) : String :=
  padded 4 m.year ++ "-" ++ padded 2 m.month ++ "-" ++ padded 2 m.day

def time (m : Moment) : String :=
  padded 2 m.hour ++ ":" ++ padded 2 m.minute ++ ":" ++ padded 2 m.second

/-- The moment for programs; a fraction of a second is shown if there is one. -/
def precise (m : Moment) : String :=
  m.date ++ "T" ++ m.time ++
    (if m.microsecond = 0 then "" else "." ++ padded 6 m.microsecond) ++ "+00:00"

def plain (m : Moment) : String :=
  m.date ++ " " ++ m.time

end Moment

/-- A failure that a record tells of. -/
structure Cause where
  type : String
  message : String
deriving DecidableEq, Repr

/-- The failure in words; without a message only its kind. -/
def Cause.text (cause : Cause) : String :=
  if cause.message = "" then cause.type else cause.type ++ ": " ++ cause.message

/-- A log record. -/
structure Record where
  level : Level
  logger : String
  message : String
  /-- The context in which it was written. -/
  context : Context := {}
  /-- The values attached to it. -/
  data : Option (List (String × Json)) := none
  cause : Option Cause := none
deriving Repr

namespace Record

/-- The full name of a logger; the one without a name is the root of all others. -/
def fullLoggerName (name : String) : String :=
  if name = "" then "root" else name

/-- A record of a logger that attaches the context to every record; the context replaces
attached values of the same name. -/
def inContext (context : Context) (level : Level) (logger message : String)
    (data : List (String × Json)) (cause : Option Cause := none) : Record :=
  { level := level, logger := fullLoggerName logger, message := message, context := context,
    data := some (Json.overwrite data context.members), cause := cause }

/-- A named mark in the course of the program, with the project and the data model at work. -/
def checkpoint (moment : Moment) (context : Context) (logger name : String)
    (data : List (String × Json)) : Record :=
  let shown (label : String) (value : Option String) : List (String × Json) :=
    match value with
    | some s => if s = "" then [] else [(label, .string s)]
    | none => []
  { level := .info, logger := fullLoggerName logger, message := "CHECKPOINT: " ++ name,
    context := context
    data := some (
      [("checkpoint", .string name), ("timestamp", .string moment.precise)] ++
        shown "project" context.project ++ shown "data_model" context.dataModel ++
        (if data.isEmpty then [] else [("data", .object data)])) }

/-- The part of a line that shows what the program was at work on. -/
def place (context : Context) : String :=
  let part (label : String) (value : Option String) : List String :=
    match value with
    | some s => if s = "" then [] else [label ++ "=" ++ s]
    | none => []
  let parts := part "model" context.dataModel ++ part "diagram" context.diagram ++
    part "entity" context.entity
  if parts.isEmpty then "" else " [" ++ String.intercalate ", " parts ++ "]"

/-- The text filled up with blanks to the given width. -/
def filled (width : Nat) (s : String) : String :=
  s ++ String.ofList (List.replicate (width - s.length) ' ')

def line (moment : Moment) (record : Record) : String :=
  moment.plain ++ " " ++ filled 8 record.level.name ++ " " ++ record.logger ++
    place record.context ++ ": " ++ record.message ++
    match record.cause with
    | some cause => "\n" ++ cause.text
    | none => ""

end Record

/-- Where in a program a record was written. -/
structure Source where
  file : String
  line : Nat
  function : String
deriving DecidableEq, Repr

/-- Which parts of a record its JSON form shows. -/
structure JsonForm where
  timestamp : Bool := true
  level : Bool := true
  logger : Bool := true
  context : Bool := true

/-- The record as a JSON object, without the place in the program if it is not known. -/
def Record.toJson (form : JsonForm) (moment : Moment) (source : Option Source)
    (record : Record) : Json :=
  let shownIf (b : Bool) (name : String) (value : Json) : List (String × Json) :=
    if b then [(name, value)] else []
  let context := record.context.members
  let data := record.data.getD []
  let cause := match record.cause with
    | some cause => [("exception", Json.string cause.text)]
    | none => []
  let place := match source with
    | some s =>
        [("source", Json.object
          [("file", .string s.file), ("line", .ofNat s.line), ("function", .string s.function)])]
    | none => []
  .object (
    shownIf form.timestamp "timestamp" (.string moment.precise) ++
    shownIf form.level "level" (.string record.level.name) ++
    shownIf form.logger "logger" (.string record.logger) ++
    [("message", .string record.message)] ++
    shownIf (form.context && !context.isEmpty) "context" (.object context) ++
    shownIf (!data.isEmpty) "data" (.object data) ++
    cause ++ place)

/-- How the log of a program is set up. -/
structure Setup where
  /-- Records below this level are not shown. -/
  level : Level
  /-- Records are shown as JSON objects. -/
  json : Bool
deriving DecidableEq, Repr

namespace Setup

/-- The variable of the environment that asks for JSON. -/
def formatVariable : String := "LOG_FORMAT"

/-- The set-up for a level; JSON is shown if it is asked for here or in the environment. -/
def make (level : Level) (json : Bool) (formatSetting : Option String) : Setup :=
  ⟨level, json || Text.lower (formatSetting.getD "") == "json"⟩

def shows (setup : Setup) (level : Level) : Bool :=
  setup.level.isShown level

/-- A record in the form that is set up.  The place in the program is not shown. -/
def write (setup : Setup) (moment : Moment) (record : Record) : String :=
  if setup.json then (record.toJson {} moment none).print else record.line moment

/-- The records that are shown, each in its written form. -/
def lines (setup : Setup) (moment : Moment) (records : List Record) : List String :=
  (records.filter fun r => setup.shows r.level).map (setup.write moment)

end Setup
end Log
end ErdSql
