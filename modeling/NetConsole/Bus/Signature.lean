/-! Type signatures of bus values. A dictionary's key and value are each one complete type read
greedily, so in `a{as}s` the key takes `as` and no value is left before the brace closes. -/

namespace NetConsole.Bus

inductive Signature where
  | unit
  | byte
  | bool
  | int16
  | uint16
  | int32
  | uint32
  | int64
  | uint64
  | double
  | string
  | objectPath
  | signature
  | variant
  | fd
  | array (elem : Signature)
  | dict (key value : Signature)
  | struct (fields : List Signature)
  deriving Repr, Inhabited

namespace Signature

def code : Signature → Option Char
  | .byte => some 'y'
  | .bool => some 'b'
  | .int16 => some 'n'
  | .uint16 => some 'q'
  | .int32 => some 'i'
  | .uint32 => some 'u'
  | .int64 => some 'x'
  | .uint64 => some 't'
  | .double => some 'd'
  | .string => some 's'
  | .objectPath => some 'o'
  | .signature => some 'g'
  | .variant => some 'v'
  | .fd => some 'h'
  | _ => none

def ofCode : Char → Option Signature
  | 'y' => some .byte
  | 'b' => some .bool
  | 'n' => some .int16
  | 'q' => some .uint16
  | 'i' => some .int32
  | 'u' => some .uint32
  | 'x' => some .int64
  | 't' => some .uint64
  | 'd' => some .double
  | 's' => some .string
  | 'o' => some .objectPath
  | 'g' => some .signature
  | 'v' => some .variant
  | 'h' => some .fd
  | _ => none

mutual

def chars : Signature → List Char
  | .array elem => 'a' :: chars elem
  | .dict key value => ['a', '\x7b'] ++ chars key ++ chars value ++ ['\x7d']
  | .struct fields => '(' :: fieldChars fields ++ [')']
  | s => (code s).toList

def fieldChars : List Signature → List Char
  | [] => []
  | s :: rest => chars s ++ fieldChars rest

end

def text (s : Signature) : String := String.ofList s.chars

instance : ToString Signature := ⟨text⟩

def depthLimit : Nat := 32

mutual

/-- One complete type at the front of the characters, read inside `arrays` arrays and `structs`
structures, and what follows it. Every step reads a character, so a `fuel` above the number of
characters is never used up. -/
def front (arrays structs : Nat) : Nat → List Char → Option (Signature × List Char)
  | 0, _ => none
  | _ + 1, [] => none
  | fuel + 1, 'a' :: '\x7b' :: rest =>
    if arrays < depthLimit then do
      let (key, rest) ← front (arrays + 1) structs fuel rest
      let (value, rest) ← front (arrays + 1) structs fuel rest
      match rest with
      | '\x7d' :: rest => some (.dict key value, rest)
      | _ => none
    else none
  | fuel + 1, 'a' :: rest =>
    if arrays < depthLimit then do
      let (elem, rest) ← front (arrays + 1) structs fuel rest
      some (.array elem, rest)
    else none
  | fuel + 1, '(' :: rest =>
    if structs < depthLimit then do
      let (fields, rest) ← fieldsFront arrays (structs + 1) fuel rest
      match fields with
      | [] => none
      | _ => some (.struct fields, rest)
    else none
  | _ + 1, c :: rest => (ofCode c).map fun s => (s, rest)

def fieldsFront (arrays structs : Nat) : Nat → List Char → Option (List Signature × List Char)
  | 0, _ => none
  | _ + 1, ')' :: rest => some ([], rest)
  | fuel + 1, cs => do
    let (field, rest) ← front arrays structs fuel cs
    let (fields, rest) ← fieldsFront arrays structs fuel rest
    some (field :: fields, rest)

end

/-- The complete types that the characters spell one after another, none when some part of them
is not a type. -/
def types : Nat → List Char → Option (List Signature)
  | _, [] => some []
  | 0, _ :: _ => none
  | fuel + 1, cs@(_ :: _) => do
    let (s, rest) ← front 0 0 (cs.length + 1) cs
    let more ← types fuel rest
    some (s :: more)

/-- The signature a text spells: the unit for the empty text, the one type it holds, or the
structure of the several types it holds. -/
def parse? (text : String) : Option Signature :=
  match types (text.length + 1) text.toList with
  | some [] => some .unit
  | some [s] => some s
  | some fields => some (.struct fields)
  | none => none

mutual

/-- The order of signatures as dictionary keys: arrays by their elements, dictionaries by key
and then value, structures by their fields in turn (a prefix first). Any two basic types, and any
two signatures of different kinds, are equal in it; so it is not transitive, and where a
dictionary keyed by signatures puts a key depends on the keys it meets on the way. -/
def order : Signature → Signature → Ordering
  | .array a, .array b => order a b
  | .dict k v, .dict k' v' => (order k k').then (order v v')
  | .struct fs, .struct gs => orderFields fs gs
  | _, _ => .eq

def orderFields : List Signature → List Signature → Ordering
  | [], [] => .eq
  | [], _ :: _ => .lt
  | _ :: _, [] => .gt
  | f :: fs, g :: gs => (order f g).then (orderFields fs gs)

end

end Signature

end NetConsole.Bus
