import NetConsole.Error

namespace NetConsole.Cli

def indentLines (indent text : String) : String := ("\n" ++ indent).intercalate (text.splitOn "\n")

def causeChain : List String → String
  | [] => ""
  | [only] => "\n\nCaused by:\n    " ++ indentLines "    " only
  | causes => "\n\nCaused by:" ++ String.join (causes.zipIdx.map fun (c, i) =>
      let n := toString i
      "\n" ++ String.ofList (List.replicate (5 - n.length) ' ') ++ n ++ ": " ++ indentLines "       " c)

def failureReport (e : Error) : String := "Error: " ++ e.message ++ causeChain e.causes ++ "\n"

def contextReport (context : String) (e : Error) : String :=
  "Error: " ++ context ++ causeChain (e.message :: e.causes) ++ "\n"

end NetConsole.Cli
