import ErdSql.Cli.Program
import ErdSql.Log.Clock
import Std.Time.DateTime.Timestamp

/-!
# The command line

Reads the arguments, the environment, the clock and the project file, runs the program on them,
and does to the file system and the standard streams what the program says.
-/

namespace ErdSql
namespace Main

/-- The reason behind a number of the operating system, which may come as a negative one. -/
def refusalOfCode (code : UInt32) (words : String) : Storage.Refusal :=
  match if code.toNat < 0x80000000 then code.toNat else 0x100000000 - code.toNat with
  | 2 => .missing
  | 13 => .notPermitted
  | 17 => .alreadyExists
  | 20 => .notDirectory
  | 21 => .isDirectory
  | 28 => .noSpace
  | 30 => .readOnly
  | 36 => .nameTooLong
  | n => .other n words

def refusalOf : IO.Error → Storage.Refusal
  | .alreadyExists _ code words => refusalOfCode code words
  | .otherError code words => refusalOfCode code words
  | .resourceBusy code words => refusalOfCode code words
  | .resourceVanished code words => refusalOfCode code words
  | .unsupportedOperation code words => refusalOfCode code words
  | .hardwareFault code words => refusalOfCode code words
  | .unsatisfiedConstraints code words => refusalOfCode code words
  | .illegalOperation code words => refusalOfCode code words
  | .protocolError code words => refusalOfCode code words
  | .timeExpired code words => refusalOfCode code words
  | .interrupted _ code words => refusalOfCode code words
  | .noFileOrDirectory _ code words => refusalOfCode code words
  | .invalidArgument _ code words => refusalOfCode code words
  | .permissionDenied _ code words => refusalOfCode code words
  | .resourceExhausted _ code words => refusalOfCode code words
  | .inappropriateType _ code words => refusalOfCode code words
  | .noSuchThing _ code words => refusalOfCode code words
  | .unexpectedEof => .other 5 "Input/output error"
  | .userError words => .other 5 words

def readContents (path : Storage.Path) : IO (Except Storage.Fault (List UInt8)) := do
  if path.hasNull then
    return .error .nullCharacter
  try
    return .ok (← IO.FS.readBinFile path.text).toList
  catch failure =>
    return .error (.refused (refusalOf failure) path.text)

def makeDirectory (path : Storage.Path) : IO (Option Storage.Refusal) := do
  try
    IO.FS.createDir path.text
    return none
  catch failure =>
    return some (refusalOf failure)

/-- The outcome of making a directory that may be there already. -/
def settle (path : Storage.Path) (refusal : Storage.Refusal) : IO (Option Storage.Fault) := do
  try
    IO.FS.createDirAll path.text
    return none
  catch _ =>
    return some (.refused refusal path.text)

/-- Makes a directory and all that are missing on the way to it.  The steps are given from the
last one backwards. -/
def makeDirectories (start : Storage.PathStart) : List String → IO (Option Storage.Fault)
  | [] => return none
  | last :: before => do
      let path : Storage.Path := ⟨start, (last :: before).reverse⟩
      match ← makeDirectory path with
      | none => return none
      | some .missing =>
          match ← makeDirectories start before with
          | some fault => return some fault
          | none =>
              match ← makeDirectory path with
              | none => return none
              | some refusal => settle path refusal
      | some refusal => settle path refusal

/-- Writes one file, after making the directories that are missing on the way to it. -/
def writeOne (path : Storage.Path) (text : String) : IO (Option Storage.Fault) := do
  match ← makeDirectories path.start path.parent.steps.reverse with
  | some fault => return some fault
  | none =>
      try
        IO.FS.writeBinFile path.text text.toUTF8
        return none
      catch failure =>
        return some (.refused (refusalOf failure) path.text)

/-- Writes files; the number and the fault of the first one that cannot be written.  The next
file has the given number. -/
def writeAll (number : Nat) : List (Storage.Path × String) → IO (Option (Nat × Storage.Fault))
  | [] => return none
  | (path, text) :: rest => do
      match ← writeOne path text with
      | some fault => return some (number, fault)
      | none => writeAll (number + 1) rest

/-- The variables of the environment that matter. -/
def readEnvironment : IO Environment := do
  let names := Log.Setup.formatVariable :: OptionKey.all.map (·.variableName)
  let bindings ← names.filterMapM fun name => do
    return (← IO.getEnv name).map fun value => (name, value)
  return ⟨bindings⟩

def readClock : IO Log.Moment := do
  let nanoseconds := (← Std.Time.Timestamp.now).toNanosecondsSinceUnixEpoch.val
  return .ofEpochMicroseconds (nanoseconds.toNat / 1000)

/-- Shows an outcome, and gives the status for the operating system. -/
def finish (outcome : Cli.Outcome) : IO UInt32 := do
  IO.print outcome.output
  IO.eprint outcome.errorText
  match outcome.exit with
  | .status code => return code.toUInt32
  | .abort cause =>
      IO.eprintln cause.text
      return 1

/-- Runs the program with its arguments.  The files are written after the run has been worked
out; if one of them cannot be written, the run is worked out again with that failure. -/
def perform (arguments : Cli.Arguments) : IO UInt32 := do
  let setting : Cli.Setting := ⟨arguments, ← readEnvironment, ← readClock⟩
  let contents ← readContents (.ofString arguments.project)
  let sink : Storage.Local := { base := .ofString arguments.directory }
  let (outcome, after) := setting.run contents sink
  match ← writeAll 1 after.written with
  | none => finish outcome
  | some (number, fault) =>
      let faulty : Storage.Faulty Storage.Local :=
        { sink := sink, failing := number, fault := fault }
      finish (setting.run contents faulty).1

end Main
end ErdSql

def main (line : List String) : IO UInt32 := do
  match ErdSql.Cli.start line with
  | .error outcome => ErdSql.Main.finish outcome
  | .ok arguments => ErdSql.Main.perform arguments
