/-!
# Faults of scripts

Why a script cannot be built.
-/

namespace ErdSql
namespace Sql

/-- Why a script cannot be built. -/
inductive BuildFault where
  /-- A text with a null character has no literal. -/
  | nullCharacter
  /-- The foreign keys of a group of tables have been written already. -/
  | alreadyFlushed
  /-- The spaces of a level of indentation cannot be counted in 64 bits. -/
  | uncountableIndent
  /-- There is no room for the spaces of a level of indentation. -/
  | noRoomForIndent
deriving DecidableEq, Repr

namespace BuildFault

def message : BuildFault → String
  | nullCharacter => "PostgreSQL text fields cannot contain NUL (0x00) bytes"
  | alreadyFlushed => "Foreign keys already flushed for this table group"
  | uncountableIndent => "cannot fit 'int' into an index-sized integer"
  | noRoomForIndent => ""

def typeName : BuildFault → String
  | nullCharacter => "psycopg.DataError"
  | alreadyFlushed => "RuntimeError"
  | uncountableIndent => "OverflowError"
  | noRoomForIndent => "MemoryError"

end BuildFault
end Sql
end ErdSql
