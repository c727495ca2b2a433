import ErdSql.Text.Digit
import ErdSql.Text.Quoted
import ErdSql.Text.Split

/-!
# Arguments of the command line

The command line names one project file and any number of options.  A long option may be
shortened as long as it stays unambiguous, and may have its value behind an equals sign; short
options may be run together, and the last of them may be followed by its value.  All words
after `--` are taken as they are.
-/

namespace ErdSql
namespace Cli

/-- The options of the command line. -/
inductive Flag where
  | help
  | output
  | dryRun
  | noDrop
  | noForeignKeys
  | tableInserts
  | owner
  | version
  | verbose
  | jsonLogs
deriving DecidableEq, Repr

namespace Flag

def all : List Flag :=
  [help, output, dryRun, noDrop, noForeignKeys, tableInserts, owner, version, verbose, jsonLogs]

def spellings : Flag → List String
  | help => ["-h", "--help"]
  | output => ["--output", "-o"]
  | dryRun => ["--dry-run"]
  | noDrop => ["--no-drop"]
  | noForeignKeys => ["--no-foreign-keys"]
  | tableInserts => ["--table-inserts"]
  | owner => ["--owner"]
  | version => ["--version"]
  | verbose => ["--verbose", "-v"]
  | jsonLogs => ["--json-logs"]

def takesValue : Flag → Bool
  | output => true
  | owner => true
  | _ => false

def shown (flag : Flag) : String :=
  String.intercalate "/" flag.spellings

def table : List (String × Flag) :=
  all.flatMap fun flag => flag.spellings.map fun spelling => (spelling, flag)

def ofSpelling? (spelling : String) : Option Flag :=
  (table.find? fun entry => entry.1 == spelling).map (·.2)

end Flag

/-- What the command line asks for. -/
structure Arguments where
  project : String
  /-- The directory below which the files are written; none where the separator stands in its
  place. -/
  output : Option String := some "."
  dryRun : Bool := false
  noDrop : Bool := false
  noForeignKeys : Bool := false
  tableInserts : Bool := false
  owner : Option String := none
  verbose : Bool := false
  jsonLogs : Bool := false
deriving DecidableEq, Repr

/-- Why a command line cannot be understood. -/
inductive UsageFault where
  | ambiguous (word : String) (spellings : List String)
  | missingValue (flag : Flag)
  | needlessValue (flag : Flag) (value : String)
  | missingProject
  | unrecognized (words : List String)
deriving DecidableEq, Repr

def UsageFault.message : UsageFault → String
  | .ambiguous word spellings =>
      "ambiguous option: " ++ word ++ " could match " ++ String.intercalate ", " spellings
  | .missingValue flag => "argument " ++ flag.shown ++ ": expected one argument"
  | .needlessValue flag value =>
      "argument " ++ flag.shown ++ ": ignored explicit argument " ++ Text.quoted value
  | .missingProject => "the following arguments are required: project"
  | .unrecognized words => "unrecognized arguments: " ++ String.intercalate " " words

/-- One way to read a word as an option. -/
structure Reading where
  spelling : String
  flag : Flag
  /-- What stands behind the option in the same word. -/
  attached : Option (List Char)
deriving DecidableEq, Repr

/-- A word of the command line. -/
inductive Word where
  | plain (word : String)
  /-- The first `--`. -/
  | separator
  /-- An option, and how it is read unless it is not known. -/
  | option (word : String) (reading : Option Reading)
deriving DecidableEq, Repr

def Word.written : Word → String
  | .plain word => word
  | .separator => "--"
  | .option word _ => word

/-- The parts of a word before and after its first equals sign, if it has one. -/
def splitAtEquals (word : List Char) : List Char × Option (List Char) :=
  match word.dropWhile (· != '=') with
  | [] => (word, none)
  | _ :: value => (word.takeWhile (· != '='), some value)

/-- The ways to read a word as an option written in full, with or without a value behind an
equals sign. -/
def fullReading? (word : String) : Option Reading :=
  match Flag.ofSpelling? word with
  | some flag => some ⟨word, flag, none⟩
  | none =>
      match splitAtEquals word.toList with
      | (_, none) => none
      | (stem, some value) =>
          (Flag.ofSpelling? (String.ofList stem)).map fun flag =>
            ⟨String.ofList stem, flag, some value⟩

/-- The ways to read a word as a long option that may be shortened. -/
def longReadings (word : List Char) : List Reading :=
  let (stem, value) := splitAtEquals word
  Flag.table.filterMap fun (spelling, flag) =>
    if stem.isPrefixOf spelling.toList then some ⟨spelling, flag, value⟩ else none

/-- The ways to read a word as a short option with its value or other short ones right behind
it. -/
def shortReadings (word : List Char) : List Reading :=
  Flag.table.filterMap fun (spelling, flag) =>
    if spelling.toList = word.take 2 then some ⟨spelling, flag, some (word.drop 2)⟩ else none

def isLong (word : List Char) : Bool :=
  word.take 2 = ['-', '-']

/-- Whether a word is a negative number: a minus sign before digits, with at most one point,
which digits follow.  A line feed at the end is overlooked. -/
def isNegativeNumber : List Char → Bool
  | '-' :: cs =>
      let body := if cs.getLast? = some '\n' then cs.dropLast else cs
      match body.dropWhile Text.isDigit with
      | [] => !body.isEmpty
      | '.' :: digits => !digits.isEmpty && digits.all Text.isDigit
      | _ => false
  | _ => false

/-- What a word before `--` is.  A word that begins with a minus sign is an option, unless it is
a mere minus sign, or is not known and has a blank in it or is a number. -/
def classify (word : String) : Except UsageFault Word :=
  let cs := word.toList
  if cs.head? ≠ some '-' ∨ cs.length = 1 then
    .ok (.plain word)
  else
    match fullReading? word with
    | some reading => .ok (.option word (some reading))
    | none =>
        match if isLong cs then longReadings cs else shortReadings cs with
        | [] =>
            if isNegativeNumber cs ∨ ' ' ∈ cs then .ok (.plain word)
            else .ok (.option word none)
        | [reading] => .ok (.option word (some reading))
        | readings => .error (.ambiguous word (readings.map (·.spelling)))

def words : List String → Except UsageFault (List Word)
  | [] => .ok []
  | "--" :: rest => .ok (.separator :: rest.map .plain)
  | word :: rest =>
      match classify word with
      | .error fault => .error fault
      | .ok word => (words rest).map (word :: ·)

/-- The options in one word, with their values. -/
structure OptionRun where
  set : List (Flag × Option String) := []
  /-- The last option, if its value is the next word. -/
  open? : Option Flag := none
deriving Repr

/-- The value that stands in one word with its option; the separator is none. -/
def attachedValue? (value : List Char) : Option String :=
  if value = ['-', '-'] then none else some (String.ofList value)

/-- Reads the options of one word, from the given one on; behind it stands its value, if it has
one, and otherwise more short options, if it is short itself. -/
def optionRun (short : Bool) (flag : Flag) : List Char → Except UsageFault OptionRun
  | [] => .ok (if flag.takesValue then { open? := some flag } else { set := [(flag, none)] })
  | c :: rest =>
      if flag.takesValue then
        .ok { set := [(flag, attachedValue? (c :: rest))] }
      else
        match if short then Flag.ofSpelling? (String.ofList ['-', c]) else none with
        | none => .error (.needlessValue flag (String.ofList (c :: rest)))
        | some next =>
            (optionRun short next rest).map fun run =>
              { run with set := (flag, none) :: run.set }

/-- The options of a word.  An empty value can only stand behind an equals sign. -/
def Reading.run (reading : Reading) : Except UsageFault OptionRun :=
  match reading.attached with
  | some [] =>
      if reading.flag.takesValue then .ok { set := [(reading.flag, some "")] }
      else .error (.needlessValue reading.flag "")
  | attached =>
      optionRun (!isLong reading.spelling.toList) reading.flag (attached.getD [])

/-- What has been read of a command line. -/
structure Reader where
  project : Option String := none
  arguments : Arguments := { project := "" }
  unknown : List String := []
  /-- The option, met on the way, that is answered at once. -/
  answered : Option Flag := none

namespace Reader

def setFlag (reader : Reader) (flag : Flag) (value : Option String) : Reader :=
  let arguments := reader.arguments
  match flag with
  | .help => { reader with answered := some .help }
  | .version => { reader with answered := some .version }
  | .output => { reader with arguments := { arguments with output := value } }
  | .dryRun => { reader with arguments := { arguments with dryRun := true } }
  | .noDrop => { reader with arguments := { arguments with noDrop := true } }
  | .noForeignKeys => { reader with arguments := { arguments with noForeignKeys := true } }
  | .tableInserts => { reader with arguments := { arguments with tableInserts := true } }
  | .owner => { reader with arguments := { arguments with owner := value } }
  | .verbose => { reader with arguments := { arguments with verbose := true } }
  | .jsonLogs => { reader with arguments := { arguments with jsonLogs := true } }

/-- With options set one after the other, up to one that is answered at once. -/
def setFlags (reader : Reader) : List (Flag × Option String) → Reader
  | [] => reader
  | (flag, value) :: rest =>
      if reader.answered.isSome then reader else (reader.setFlag flag value).setFlags rest

def skip (reader : Reader) (word : Word) : Reader :=
  { reader with unknown := reader.unknown ++ [word.written] }

def setProject (reader : Reader) (project : String) : Reader :=
  { reader with project := some project }

/-- Reads words up to the end or to an option that is answered at once.  The first plain word
is the project file; a separator next to it goes with it. -/
def read (reader : Reader) : List Word → Except UsageFault Reader
  | [] => .ok reader
  | .option _ (some reading) :: rest =>
      match reading.run with
      | .error fault => .error fault
      | .ok run =>
          match run.open? with
          | none =>
              let reader := reader.setFlags run.set
              if reader.answered.isSome then .ok reader else reader.read rest
          | some flag =>
              match rest with
              | .plain value :: rest =>
                  let reader := reader.setFlags (run.set ++ [(flag, some value)])
                  if reader.answered.isSome then .ok reader else reader.read rest
              | _ => .error (.missingValue flag)
  | .option word none :: rest => (reader.skip (.option word none)).read rest
  | word :: rest =>
      if reader.project.isSome then
        (reader.skip word).read rest
      else
        match word, rest with
        | .plain project, .separator :: rest => (reader.setProject project).read rest
        | .plain project, rest => (reader.setProject project).read rest
        | .separator, .plain project :: rest => (reader.setProject project).read rest
        | word, rest => (reader.skip word).read rest

end Reader

/-- What the program is asked to do. -/
inductive Request where
  | help
  | version
  | generate (arguments : Arguments)
deriving DecidableEq, Repr

def Request.ofWords (line : List String) : Except UsageFault Request := do
  let reader ← ({} : Reader).read (← words line)
  match reader.answered with
  | some .version => return .version
  | some _ => return .help
  | none =>
      match reader.project with
      | none => .error .missingProject
      | some project =>
          if reader.unknown = [] then return .generate { reader.arguments with project := project }
          else .error (.unrecognized reader.unknown)

end Cli
end ErdSql
