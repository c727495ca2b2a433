/-!
# Upper case

The upper-case form of a text, as far as it is made of ASCII letters: a few letters beyond ASCII
and ligatures of ASCII letters have such a form too.  All other characters are kept.
-/

namespace ErdSql
namespace Text

def upperChar (c : Char) : List Char :=
  match c.toNat with
  | 0xDF => ['S', 'S']
  | 0x131 => ['I']
  | 0x17F => ['S']
  | 0xFB00 => ['F', 'F']
  | 0xFB01 => ['F', 'I']
  | 0xFB02 => ['F', 'L']
  | 0xFB03 => ['F', 'F', 'I']
  | 0xFB04 => ['F', 'F', 'L']
  | 0xFB05 => ['S', 'T']
  | 0xFB06 => ['S', 'T']
  | _ => [c.toUpper]

def upper (s : String) : String :=
  String.ofList (s.toList.flatMap upperChar)

end Text
end ErdSql
