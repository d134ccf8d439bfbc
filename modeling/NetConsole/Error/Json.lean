import NetConsole.Error
import NetConsole.Description
import NetConsole.Json.Basic

namespace NetConsole

def Error.toJson (e : Error) : Json :=
  .obj [("error", .str e.variantName), ("class", .str e.kind.name), ("root", .str e.root.variantName),
    ("message", .str e.message)]

def Description.toJson (d : Description) : Json :=
  .obj [("short", .str d.short), ("details", .str d.details), ("level", .str d.severity.text)]

def checkJson (r : Except Error Unit) : Json :=
  match r with
  | .ok () => .null
  | .error e => .str e.message

end NetConsole
