import ErdSql.Text.Quoted

/-!
# Faults of storage

Why a file cannot be read or written.
-/

namespace ErdSql
namespace Storage

/-- Why a file system refuses. -/
inductive Refusal where
  | missing
  | notPermitted
  | alreadyExists
  | notDirectory
  | isDirectory
  | noSpace
  | readOnly
  | nameTooLong
  /-- Any other reason, with its number and its wording. -/
  | other (code : Nat) (words : String)
deriving DecidableEq, Repr

namespace Refusal

def code : Refusal → Nat
  | missing => 2
  | notPermitted => 13
  | alreadyExists => 17
  | notDirectory => 20
  | isDirectory => 21
  | noSpace => 28
  | readOnly => 30
  | nameTooLong => 36
  | other code _ => code

def words : Refusal → String
  | missing => "No such file or directory"
  | notPermitted => "Permission denied"
  | alreadyExists => "File exists"
  | notDirectory => "Not a directory"
  | isDirectory => "Is a directory"
  | noSpace => "No space left on device"
  | readOnly => "Read-only file system"
  | nameTooLong => "File name too long"
  | other _ words => words

/-- The kind of failure that the reason belongs to. -/
def typeName : Refusal → String
  | missing => "FileNotFoundError"
  | notPermitted => "PermissionError"
  | alreadyExists => "FileExistsError"
  | notDirectory => "NotADirectoryError"
  | isDirectory => "IsADirectoryError"
  | _ => "OSError"

end Refusal

/-- Why a file cannot be read or written. -/
inductive Fault where
  /-- The file system refuses to do something with a path. -/
  | refused (refusal : Refusal) (path : String)
  /-- The path has a null character in it. -/
  | nullCharacter
  /-- There is no room. -/
  | full
deriving DecidableEq, Repr

namespace Fault

def message : Fault → String
  | refused refusal path =>
      "[Errno " ++ toString refusal.code ++ "] " ++ refusal.words ++ ": " ++ Text.quoted path
  | nullCharacter => "embedded null byte"
  | full => "disk full"

def typeName : Fault → String
  | refused refusal _ => refusal.typeName
  | nullCharacter => "ValueError"
  | full => "OSError"

end Fault
end Storage
end ErdSql
