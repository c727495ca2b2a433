/-!
# SQL literals

A text written as a literal of PostgreSQL: between quotes, with a quote inside written twice.
A text that holds a backslash is written as an escape string, with every backslash twice, after
a blank that keeps the marker apart from what stands before.  A text with a null character has
no literal.
-/

namespace ErdSql
namespace Sql

def literalChar (c : Char) : List Char :=
  if c = '\'' ∨ c = '\\' then [c, c] else [c]

def literalChars (cs : List Char) : List Char :=
  (if '\\' ∈ cs then [' ', 'E', '\''] else ['\'']) ++ cs.flatMap literalChar ++ ['\'']

/-- The literal of a text, or of the missing value. -/
def literal : Option String → String
  | none => "NULL"
  | some s => String.ofList (literalChars s.toList)

def hasLiteral (s : String) : Bool :=
  !s.toList.contains (Char.ofNat 0)

end Sql
end ErdSql
