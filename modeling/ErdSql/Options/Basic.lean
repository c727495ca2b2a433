import ErdSql.Sql.Fault

/-!
# Options

What can be chosen about the generated SQL.
-/

namespace ErdSql

/-- The choices, with their defaults. -/
structure Options where
  useTab : Bool := false
  /-- The spaces of a level, where tabs are not used. -/
  indentSpaces : Int := 4
  /-- The owner of the database and of the schemas. -/
  owner : String := "postgres"
  encoding : String := "UTF8"
  tablespace : String := "pg_default"
  collation : String := "default"
  /-- Write the scripts that drop what the others create. -/
  dropStatements : Bool := true
  foreignKeys : Bool := true
  /-- Take the documentation of an entity for rows to insert. -/
  tableInserts : Bool := false
  /-- The names of the tags that reference tags must point at to be taken for triggers,
  functions and procedures. -/
  triggerMarker : String := "trigger"
  functionMarker : String := "function"
  procedureMarker : String := "procedure"
deriving DecidableEq, Repr

namespace Options

/-- The bound of the numbers that are counted in 64 bits. -/
def countBound : Int := 0x8000000000000000

/-- The most spaces that there is room for. -/
def maxSpaces : Int := 0x100000000

/-- One level of indentation; a number of spaces below zero is none.  A number that cannot be
counted is at fault even below zero. -/
def indentUnit (options : Options) : Except Sql.BuildFault String :=
  if options.useTab then .ok "\t"
  else if options.indentSpaces < -countBound ∨ countBound ≤ options.indentSpaces then
    .error .uncountableIndent
  else if maxSpaces < options.indentSpaces then .error .noRoomForIndent
  else .ok ("".pushn ' ' options.indentSpaces.toNat)

/-- The collation of the database, unless it is left to the server. -/
def collation? (options : Options) : Option String :=
  if options.collation = "default" then none else some options.collation

end Options

/-- The groups of options; the options of a group are set together. -/
inductive OptionGroup where
  | formatting
  | database
  | generation
  | markers
deriving DecidableEq, Repr

/-- What the value of an option is: a switch, an integer or a text. -/
inductive OptionKind where
  | switch
  | integer
  | text
deriving DecidableEq, Repr

def OptionKind.Value : OptionKind → Type
  | switch => Bool
  | integer => Int
  | text => String

/-- The options by name. -/
inductive OptionKey where
  | useTab
  | indentSpaces
  | owner
  | encoding
  | tablespace
  | collation
  | dropStatements
  | foreignKeys
  | tableInserts
  | triggerMarker
  | functionMarker
  | procedureMarker
deriving DecidableEq, Repr

namespace OptionKey

/-- The name that a host application gives an option. -/
def hostName : OptionKey → String
  | useTab => "useTab"
  | indentSpaces => "indentSpaces"
  | owner => "owner"
  | encoding => "encoding"
  | tablespace => "tablespace"
  | collation => "collation"
  | dropStatements => "dropStatements"
  | foreignKeys => "foreignKeyConstraint"
  | tableInserts => "tableInserts"
  | triggerMarker => "trigger"
  | functionMarker => "function"
  | procedureMarker => "procedure"

/-- The other name of an option, with underscores. -/
def fieldName : OptionKey → String
  | useTab => "use_tab"
  | indentSpaces => "indent_spaces"
  | owner => "owner"
  | encoding => "encoding"
  | tablespace => "tablespace"
  | collation => "collation"
  | dropStatements => "drop_statements"
  | foreignKeys => "foreign_key_constraint"
  | tableInserts => "table_inserts"
  | triggerMarker => "trigger"
  | functionMarker => "function"
  | procedureMarker => "procedure"

/-- The variable of the environment that sets an option. -/
def variableName : OptionKey → String
  | useTab => "DDL_USE_TAB"
  | indentSpaces => "DDL_INDENT_SPACES"
  | owner => "DDL_OWNER"
  | encoding => "DDL_ENCODING"
  | tablespace => "DDL_TABLESPACE"
  | collation => "DDL_COLLATION"
  | dropStatements => "DDL_DROP_STATEMENTS"
  | foreignKeys => "DDL_FOREIGN_KEY_CONSTRAINT"
  | tableInserts => "DDL_TABLE_INSERTS"
  | triggerMarker => "DDL_TRIGGER_MARKER"
  | functionMarker => "DDL_FUNCTION_MARKER"
  | procedureMarker => "DDL_PROCEDURE_MARKER"

def all : List OptionKey :=
  [useTab, indentSpaces, owner, encoding, tablespace, collation, dropStatements, foreignKeys,
    tableInserts, triggerMarker, functionMarker, procedureMarker]

/-- The option with the given name: the host application's name for it, or else the other one. -/
def ofName? (name : String) : Option OptionKey :=
  (all.find? fun key => name == key.hostName) <|> all.find? fun key => name == key.fieldName

def group : OptionKey → OptionGroup
  | useTab => .formatting
  | indentSpaces => .formatting
  | owner => .database
  | encoding => .database
  | tablespace => .database
  | collation => .database
  | dropStatements => .generation
  | foreignKeys => .generation
  | tableInserts => .generation
  | triggerMarker => .markers
  | functionMarker => .markers
  | procedureMarker => .markers

def kind : OptionKey → OptionKind
  | useTab => .switch
  | indentSpaces => .integer
  | owner => .text
  | encoding => .text
  | tablespace => .text
  | collation => .text
  | dropStatements => .switch
  | foreignKeys => .switch
  | tableInserts => .switch
  | triggerMarker => .text
  | functionMarker => .text
  | procedureMarker => .text

end OptionKey

/-- The options of a group, in order. -/
def OptionGroup.keys (group : OptionGroup) : List OptionKey :=
  OptionKey.all.filter fun key => key.group = group

/-- Sets one option. -/
def Options.set (options : Options) : (key : OptionKey) → key.kind.Value → Options
  | .useTab, value => { options with useTab := value }
  | .indentSpaces, value => { options with indentSpaces := value }
  | .owner, value => { options with owner := value }
  | .encoding, value => { options with encoding := value }
  | .tablespace, value => { options with tablespace := value }
  | .collation, value => { options with collation := value }
  | .dropStatements, value => { options with dropStatements := value }
  | .foreignKeys, value => { options with foreignKeys := value }
  | .tableInserts, value => { options with tableInserts := value }
  | .triggerMarker, value => { options with triggerMarker := value }
  | .functionMarker, value => { options with functionMarker := value }
  | .procedureMarker, value => { options with procedureMarker := value }

end ErdSql
