import NetConsole.Error

namespace NetConsole

inductive Severity where
  | none
  | info
  | success
  | warning
  | error
  deriving DecidableEq, Repr, Inhabited

def Severity.text : Severity → String
  | .none => ""
  | .info => "info"
  | .success => "success"
  | .warning => "warning"
  | .error => "error"

structure Description where
  short : String
  details : String
  severity : Severity
  deriving DecidableEq, Repr, Inhabited

namespace Description

def unknown (details : String) : Description := ⟨"unknown", details, .error⟩

def isError (d : Description) : Bool := d.severity == .error

def check (d : Description) : Except Error Unit :=
  if d.isError then .error (.invalidEnum d.details) else .ok ()

end Description

end NetConsole
