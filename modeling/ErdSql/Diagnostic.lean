/-!
# Diagnostics

What generation tells the modeller: progress, names that cannot be used, and failures.
-/

namespace ErdSql

/-- How serious a diagnostic is. -/
inductive Severity where
  | info
  | warning
  | error
deriving DecidableEq, Repr

def Severity.name : Severity → String
  | .info => "info"
  | .warning => "warning"
  | .error => "error"

def Severity.ofName? (name : String) : Option Severity :=
  [Severity.info, .warning, .error].find? fun s => s.name == name

/-- One message, and the name of the element it is about. -/
structure Diagnostic where
  severity : Severity
  message : String
  element : Option String := none
deriving DecidableEq, Repr

namespace Diagnostic

def messages (severity : Severity) (diagnostics : List Diagnostic) : List String :=
  (diagnostics.filter fun d => d.severity = severity).map (·.message)

def infos : List Diagnostic → List String :=
  messages .info

def warnings : List Diagnostic → List String :=
  messages .warning

def errors : List Diagnostic → List String :=
  messages .error

def anyError (diagnostics : List Diagnostic) : Bool :=
  diagnostics.any fun d => d.severity = .error

end Diagnostic
end ErdSql
