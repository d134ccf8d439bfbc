import NetConsole.Bus.Value

/-! What the bus's wire format allows of a value: containers nested at most 32 structures and 32
arrays deep and 64 deep in all, checked as each container is entered, and strings without NUL. -/

namespace NetConsole.Bus

structure Depths where
  structures : Nat := 0
  arrays : Nat := 0
  variants : Nat := 0
  deriving DecidableEq, Repr

inductive DepthLimit where
  | structures
  | arrays
  | containers
  deriving DecidableEq, Repr

def DepthLimit.message : DepthLimit → String
  | .structures => "Maximum allowed depth for structures in encoding was exceeded"
  | .arrays => "Maximum allowed depth for arrays in encoding was exceeded"
  | .containers => "Maximum allowed depth for containers in encoding was exceeded"

namespace Depths

def exceeded? (d : Depths) : Option DepthLimit :=
  if d.structures > 32 then some .structures
  else if d.arrays > 32 then some .arrays
  else if d.structures + d.arrays + d.variants > 64 then some .containers
  else none

def enterStructure (d : Depths) : Depths := { d with structures := d.structures + 1 }

def enterArray (d : Depths) : Depths := { d with arrays := d.arrays + 1 }

def enterVariant (d : Depths) : Depths := { d with variants := d.variants + 1 }

end Depths

mutual

def Value.depthFault? (d : Depths) : Value → Option DepthLimit
  | .variant v =>
    let d := d.enterVariant
    d.exceeded?.orElse fun _ => v.depthFault? d
  | .array _ items =>
    let d := d.enterArray
    d.exceeded?.orElse fun _ => itemsDepthFault? d items
  | .dict _ _ entries =>
    let d := d.enterArray
    d.exceeded?.orElse fun _ => entriesDepthFault? d entries
  | .struct fields =>
    let d := d.enterStructure
    d.exceeded?.orElse fun _ => itemsDepthFault? d fields
  | _ => none

def itemsDepthFault? (d : Depths) : List Value → Option DepthLimit
  | [] => none
  | v :: rest => (v.depthFault? d).orElse fun _ => itemsDepthFault? d rest

def entriesDepthFault? (d : Depths) : List (Value × Value) → Option DepthLimit
  | [] => none
  | (k, v) :: rest =>
    (k.depthFault? d).orElse fun _ => (v.depthFault? d).orElse fun _ => entriesDepthFault? d rest

end

mutual

def Value.hasNul : Value → Bool
  | .string s => s.contains '\x00'
  | .objectPath p => p.contains '\x00'
  | .variant v => v.hasNul
  | .array _ items => itemsHaveNul items
  | .dict _ _ entries => entriesHaveNul entries
  | .struct fields => itemsHaveNul fields
  | _ => false

def itemsHaveNul : List Value → Bool
  | [] => false
  | v :: rest => v.hasNul || itemsHaveNul rest

def entriesHaveNul : List (Value × Value) → Bool
  | [] => false
  | (k, v) :: rest => k.hasNul || v.hasNul || entriesHaveNul rest

end

def nulRefusal : String :=
  "invalid value: character \x60\x00\x60, expected D-Bus string type must not contain interior null bytes"

end NetConsole.Bus
