import NetConsole.Bus.Signature
import NetConsole.Bus.KeyTree
import NetConsole.Number.Binary64

namespace NetConsole.Bus

inductive Value where
  | byte (n : UInt8)
  | bool (b : Bool)
  | int16 (n : Int16)
  | uint16 (n : UInt16)
  | int32 (n : Int32)
  | uint32 (n : UInt32)
  | int64 (n : Int64)
  | uint64 (n : UInt64)
  | double (x : Binary64)
  | string (s : String)
  | objectPath (p : String)
  | signature (s : Signature)
  | variant (v : Value)
  | array (elem : Signature) (items : List Value)
  | dict (key value : Signature) (entries : List (Value × Value))
  | struct (fields : List Value)
  deriving Repr, Inhabited

namespace Value

mutual

def signatureOf : Value → Signature
  | .byte _ => .byte
  | .bool _ => .bool
  | .int16 _ => .int16
  | .uint16 _ => .uint16
  | .int32 _ => .int32
  | .uint32 _ => .uint32
  | .int64 _ => .int64
  | .uint64 _ => .uint64
  | .double _ => .double
  | .string _ => .string
  | .objectPath _ => .objectPath
  | .signature _ => .signature
  | .variant _ => .variant
  | .array elem _ => .array elem
  | .dict key value _ => .dict key value
  | .struct fields => .struct (fieldSignatures fields)

def fieldSignatures : List Value → List Signature
  | [] => []
  | v :: rest => signatureOf v :: fieldSignatures rest

end

def kindRank : Value → Nat
  | .byte _ => 0
  | .bool _ => 1
  | .int16 _ => 2
  | .uint16 _ => 3
  | .int32 _ => 4
  | .uint32 _ => 5
  | .int64 _ => 6
  | .uint64 _ => 7
  | .double _ => 8
  | .string _ => 9
  | .signature _ => 10
  | .objectPath _ => 11
  | .variant _ => 12
  | .array _ _ => 13
  | .dict _ _ _ => 14
  | .struct _ => 15

mutual

/-- The order of dictionary keys: numbers by value (the two zeros of a double equal), texts by
code points, signatures by `Signature.order`, a variant by what it holds, arrays and structures
by their items in turn and then by their signatures, dictionaries by their entries in turn and
then by their signatures, and values of different kinds by kind. -/
def compareKeys : Value → Value → Ordering
  | .byte a, .byte b => compare a.toNat b.toNat
  | .bool a, .bool b => compare a.toNat b.toNat
  | .int16 a, .int16 b => compare a.toInt b.toInt
  | .uint16 a, .uint16 b => compare a.toNat b.toNat
  | .int32 a, .int32 b => compare a.toInt b.toInt
  | .uint32 a, .uint32 b => compare a.toNat b.toNat
  | .int64 a, .int64 b => compare a.toInt b.toInt
  | .uint64 a, .uint64 b => compare a.toNat b.toNat
  | .double a, .double b => a.compareValue b
  | .string a, .string b => compare a b
  | .objectPath a, .objectPath b => compare a b
  | .signature a, .signature b => Signature.order a b
  | .variant a, .variant b => compareKeys a b
  | .array e xs, .array f ys => (compareItems xs ys).then (Signature.order (.array e) (.array f))
  | .dict k v xs, .dict k' v' ys =>
    (compareEntries xs ys).then (Signature.order (.dict k v) (.dict k' v'))
  | .struct xs, .struct ys =>
    (compareItems xs ys).then
      (Signature.order (.struct (fieldSignatures xs)) (.struct (fieldSignatures ys)))
  | a, b => compare a.kindRank b.kindRank

def compareItems : List Value → List Value → Ordering
  | [], [] => .eq
  | [], _ :: _ => .lt
  | _ :: _, [] => .gt
  | x :: xs, y :: ys => (compareKeys x y).then (compareItems xs ys)

def compareEntries : List (Value × Value) → List (Value × Value) → Ordering
  | [], [] => .eq
  | [], _ :: _ => .lt
  | _ :: _, [] => .gt
  | (k, v) :: xs, (k', v') :: ys =>
    ((compareKeys k k').then (compareKeys v v')).then (compareEntries xs ys)

end

def isZeroByte : Value → Bool
  | .byte n => n == 0
  | _ => false

end Value

namespace Dict

/-- The dictionary of the pairs, inserted in turn into a key tree: a later pair's value wins over
an earlier one with an equal key, whose key stays. -/
def ofPairs (pairs : List (Value × Value)) : List (Value × Value) :=
  KeyTree.ofPairs Value.compareKeys pairs

end Dict

end NetConsole.Bus
