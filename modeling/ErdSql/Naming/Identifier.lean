import ErdSql.Text.Lowercase
import ErdSql.Text.Split

/-!
# Identifiers

Which texts may stand unquoted as the name of something in a database.  An identifier is a
letter or underscore followed by letters, digits, underscores and dollar signs, all of ASCII;
one line feed at the very end is overlooked.
-/

namespace ErdSql
namespace Naming

def isIdentifierStart (c : Char) : Bool :=
  c.isAlpha || c == '_'

def isIdentifierPart (c : Char) : Bool :=
  c.isAlphanum || c == '_' || c == '$'

/-- Whether the characters go on with an identifier up to the end or to a last line feed. -/
def isIdentifierTail (cs : List Char) : Bool :=
  match cs.dropWhile isIdentifierPart with
  | [] => true
  | ['\n'] => true
  | _ => false

/-- Whether the text may stand as an unquoted name. -/
def isIdentifier (name : String) : Bool :=
  match name.toList with
  | [] => false
  | c :: cs => isIdentifierStart c && isIdentifierTail cs

/-- A display name made into a candidate for a name: in lower case, with underscores for
spaces. -/
def normalize (name : String) : String :=
  Text.lower (Text.replaceChar ' ' '_' name)

end Naming
end ErdSql
