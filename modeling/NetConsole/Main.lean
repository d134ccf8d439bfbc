import NetConsole.Cli.Run

/-! The `nmconsole` program. This build has no connection to the system bus, so every command
fails as one does whose bus cannot be reached. -/

open NetConsole NetConsole.Cli

def busUnreachable : Error := .bus (.failure "no connection to the system bus is available")

def main (args : List String) : IO UInt32 := do
  match Invocation.read args with
  | .error (.display text) =>
    IO.print text
    return 0
  | .error (.refuse text) =>
    IO.eprint text
    return 2
  | .ok _ =>
    IO.eprint (contextReport "couldn't connect to the system bus" busUnreachable)
    return 1
