namespace NetConsole.Bus

inductive BusError where
  | failure (text : String)
  | reply (name message : String)
  | standard (name message : String)
  | encoding (text : String)
  deriving Repr, DecidableEq

namespace BusError

def message : BusError → String
  | .failure text => text
  | .reply name msg => name ++ ": " ++ msg
  | .standard name msg => name ++ ": " ++ msg
  | .encoding text => text

def isReply (name : String) : BusError → Bool
  | .reply n _ => n == name
  | _ => false

def causes : BusError → List String
  | .standard name msg => [name ++ ": " ++ msg]
  | .encoding text => [text]
  | _ => []

end BusError

end NetConsole.Bus
