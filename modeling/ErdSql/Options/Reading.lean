import ErdSql.Decimal.Numeral
import ErdSql.Environment
import ErdSql.Json.Printer
import ErdSql.Options.Basic
import ErdSql.Text.Lowercase

/-!
# Reading options

Options come from the environment, where every value is a text, or from a mapping that a host
application hands over, where values may have any type.  In a mapping an option may go by two
names; the last value that is not `null` counts, whichever name it goes by.  The values are
collected before they are read, and then set group by group.  Only the number of spaces can be
unreadable: any value can be taken for a switch or a text.
-/

namespace ErdSql
namespace Options

/-- Why a value is no number of spaces. -/
inductive OptionFault where
  | malformed (text : String)
  | tooLong (digits : Nat)
  /-- An array or an object, by the name of its type. -/
  | noNumber (typeName : String)
  | nan
  | infinite
deriving DecidableEq, Repr

/-- How much of a text without a number in it is shown. -/
def shownWidth : Nat := 200

def OptionFault.message : OptionFault → String
  | .malformed text =>
      "invalid literal for int() with base 10: " ++ Text.quotedUpTo shownWidth text
  | .tooLong digits =>
      "Exceeds the limit (" ++ toString Numeral.maxDigits ++
        " digits) for integer string conversion: value has " ++ toString digits ++
        " digits; use sys.set_int_max_str_digits() to increase the limit"
  | .noNumber typeName =>
      "int() argument must be a string, a bytes-like object or a real number, not " ++
        Text.quoted typeName
  | .nan => "cannot convert float NaN to integer"
  | .infinite => "cannot convert float infinity to integer"

def OptionFault.typeName : OptionFault → String
  | .malformed _ => "ValueError"
  | .tooLong _ => "ValueError"
  | .noNumber _ => "TypeError"
  | .nan => "ValueError"
  | .infinite => "OverflowError"

def onWords : List String := ["1", "true", "yes", "on"]

/-- A text as a switch: on exactly for a word that turns it on, in any case and with blanks
around it. -/
def switchOfText (s : String) : Bool :=
  Text.lower (Text.trim s) ∈ onWords

def integerOfText (s : String) : Except OptionFault Int :=
  match Numeral.readInt s with
  | .ok n => .ok n
  | .error .malformed => .error (.malformed s)
  | .error (.tooLong digits) => .error (.tooLong digits)

/-- A value as a switch; a value that is no text is off when it is zero or empty. -/
def switchOf : Json → Bool
  | .null => false
  | .bool b => b
  | .int n => n != 0
  | .float x => x.rank != 0
  | .string s => switchOfText s
  | .array items => !items.isEmpty
  | .object members => !members.isEmpty

/-- A value as an integer; a fraction is cut off. -/
def integerOf : Json → Except OptionFault Int
  | .null => .error (.noNumber "NoneType")
  | .bool b => .ok (if b then 1 else 0)
  | .int n => .ok n
  | .float x =>
      if x.isNaN then .error .nan
      else if x.isInfinite then .error .infinite
      else .ok x.truncate
  | .string s => integerOfText s
  | .array _ => .error (.noNumber "list")
  | .object _ => .error (.noNumber "dict")

def textOf (value : Json) : String :=
  value.shown

/-- A value as one of the given kind. -/
def valueOf : (kind : OptionKind) → Json → Except OptionFault kind.Value
  | .switch, value => .ok (switchOf value)
  | .integer, value => integerOf value
  | .text, value => .ok (textOf value)

/-- Gives a key of a dictionary a value made from the one that it has; a new key comes last. -/
def updateEntry {κ α : Type} [DecidableEq κ] (key : κ) (change : Option α → α) :
    List (κ × α) → List (κ × α)
  | [] => [(key, change none)]
  | (k, value) :: rest =>
      if k = key then (k, change (some value)) :: rest
      else (k, value) :: updateEntry key change rest

/-- Values for options, one for each option, by the groups of the options. -/
abbrev Updates : Type := List (OptionGroup × List (OptionKey × Json))

def Updates.put (updates : Updates) (key : OptionKey) (value : Json) : Updates :=
  updateEntry key.group (fun values => updateEntry key (fun _ => value) (values.getD [])) updates

/-- Takes in one member of a mapping.  A name of no option is passed over, and so is `null`. -/
def Updates.take (updates : Updates) (member : String × Json) : Updates :=
  match OptionKey.ofName? member.1 with
  | none => updates
  | some key =>
      match member.2 with
      | .null => updates
      | value => updates.put key value

def Updates.ofMapping (mapping : List (String × Json)) : Updates :=
  mapping.foldl Updates.take []

/-- Sets one option to a value read as one of its kind. -/
def assign (options : Options) (entry : OptionKey × Json) : Except OptionFault Options := do
  let value ← valueOf entry.1.kind entry.2
  return options.set entry.1 value

/-- Sets the options of one group that have a value. -/
def setGroup (options : Options) (entry : OptionGroup × List (OptionKey × Json)) :
    Except OptionFault Options :=
  (entry.1.keys.filterMap fun key => (entry.2.lookup key).map (key, ·)).foldlM assign options

/-- Reads a mapping.  Where it gives an option no value, the base decides. -/
def ofMapping (mapping : List (String × Json)) (base : Options := {}) :
    Except OptionFault Options :=
  (Updates.ofMapping mapping).foldlM setGroup base

def ofEnvironment (env : Environment) : Except OptionFault Options := do
  let switch (name : String) (otherwise : Bool) : Bool :=
    ((env.get? name).map switchOfText).getD otherwise
  let text (name : String) (otherwise : String) : String :=
    (env.get? name).getD otherwise
  let indentSpaces ←
    match env.get? OptionKey.indentSpaces.variableName with
    | some value => integerOfText value
    | none => .ok 4
  return {
    useTab := switch OptionKey.useTab.variableName false
    indentSpaces := indentSpaces
    owner := text OptionKey.owner.variableName "postgres"
    encoding := text OptionKey.encoding.variableName "UTF8"
    tablespace := text OptionKey.tablespace.variableName "pg_default"
    collation := text OptionKey.collation.variableName "default"
    dropStatements := switch OptionKey.dropStatements.variableName true
    foreignKeys := switch OptionKey.foreignKeys.variableName true
    tableInserts := switch OptionKey.tableInserts.variableName false
    triggerMarker := text OptionKey.triggerMarker.variableName "trigger"
    functionMarker := text OptionKey.functionMarker.variableName "function"
    procedureMarker := text OptionKey.procedureMarker.variableName "procedure" }

end Options
end ErdSql
