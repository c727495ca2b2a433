import ErdSql.Json.Printer
import ErdSql.Text.Uppercase

/-!
# Levels

How important a log record is, and which level a setting stands for.
-/

namespace ErdSql
namespace Log

/-- How important a record is; the higher the more. -/
abbrev Level : Type := Int

/-- Why a setting is no level. -/
inductive LevelFault where
  /-- The setting is a text. -/
  | text (text : String)
  /-- The setting is neither a number nor a text, but what is shown here. -/
  | value (shown : String)
deriving DecidableEq, Repr

namespace LevelFault

def message : LevelFault → String
  | text s => "Unknown level: " ++ Text.quoted s
  | value shown => "Level not an integer or a valid string: " ++ shown

def typeName : LevelFault → String
  | text _ => "ValueError"
  | value _ => "TypeError"

end LevelFault

namespace Level

def notSet : Level := 0
def debug : Level := 10
def info : Level := 20
def warning : Level := 30
def error : Level := 40
def critical : Level := 50

/-- The name of a level; a level without a name is shown by its number. -/
def name (level : Level) : String :=
  if level = notSet then "NOTSET"
  else if level = debug then "DEBUG"
  else if level = info then "INFO"
  else if level = warning then "WARNING"
  else if level = error then "ERROR"
  else if level = critical then "CRITICAL"
  else "Level " ++ toString level

/-- Whether a record of a level is shown where records below a threshold are not.  A record of
a level that is not positive is never shown. -/
def isShown (threshold level : Level) : Bool :=
  0 < level && threshold ≤ level

/-- The format of the lines of a log that is not set up. -/
def plainFormat : String := "%(levelname)s:%(name)s:%(message)s"

/-- What is shown of the styles in which a format may be written. -/
def formatStyles : String :=
  "\x7b'%': (<class 'logging.PercentStyle'>, '" ++ plainFormat ++ "'), " ++
    "'\x7b': (<class 'logging.StrFormatStyle'>, " ++
    "'\x7blevelname\x7d:\x7bname\x7d:\x7bmessage\x7d'), " ++
    "'$': (<class 'logging.StringTemplateStyle'>, " ++
    "'$\x7blevelname\x7d:$\x7bname\x7d:$\x7bmessage\x7d')\x7d"

/-- The level that a word stands for, in any case.  Two words stand for other settings, which
are no levels; any other word stands for `info`. -/
def ofWord (word : String) : Except LevelFault Level :=
  match Text.upper word with
  | "NOTSET" => .ok notSet
  | "DEBUG" => .ok debug
  | "WARNING" => .ok warning
  | "WARN" => .ok warning
  | "ERROR" => .ok error
  | "CRITICAL" => .ok critical
  | "FATAL" => .ok critical
  | "BASIC_FORMAT" => .error (.text plainFormat)
  | "_STYLES" => .error (.value formatStyles)
  | _ => .ok info

/-- The level that a setting stands for: a number, a truth value for one or zero, or a word. -/
def ofSetting : Json → Except LevelFault Level
  | .int n => .ok n
  | .bool b => .ok (if b then 1 else 0)
  | .string word => ofWord word
  | setting => .error (.value setting.shown)

end Level
end Log
end ErdSql
