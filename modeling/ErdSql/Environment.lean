/-!
# Environment

The variables that a program is started with.
-/

namespace ErdSql

/-- The variables with their values; of several with one name the first counts. -/
structure Environment where
  bindings : List (String × String) := []
deriving Repr

/-- Why a variable cannot be set. -/
inductive VariableFault where
  /-- The name or the value holds a null character. -/
  | nullCharacter
  /-- The name holds an equals sign. -/
  | equalsInName
  | noName
deriving DecidableEq, Repr

namespace VariableFault

def message : VariableFault → String
  | nullCharacter => "embedded null byte"
  | equalsInName => "illegal environment variable name"
  | noName => "[Errno 22] Invalid argument"

def typeName : VariableFault → String
  | nullCharacter => "ValueError"
  | equalsInName => "ValueError"
  | noName => "OSError"

end VariableFault

namespace Environment

def get? (env : Environment) (name : String) : Option String :=
  (env.bindings.find? fun v => v.1 == name).map (·.2)

def unset (env : Environment) (name : String) : Environment :=
  ⟨env.bindings.filter fun v => v.1 != name⟩

/-- With the variable set, if it can be. -/
def set (env : Environment) (name value : String) : Except VariableFault Environment :=
  if (name ++ value).toList.contains (Char.ofNat 0) then .error .nullCharacter
  else if name.toList.contains '=' then .error .equalsInName
  else if name = "" then .error .noName
  else .ok ⟨(name, value) :: (env.unset name).bindings⟩

end Environment
end ErdSql
