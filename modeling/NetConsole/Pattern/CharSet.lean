namespace NetConsole.Pattern

abbrev CharSet := List (Nat × Nat)

namespace CharSet

def top : Nat := 0x10FFFF

def scalars : CharSet := [(0, 0xD7FF), (0xE000, top)]

def bytes : CharSet := [(0, 0xFF)]

def mergeSorted : CharSet → CharSet
  | [] => []
  | [r] => [r]
  | (lo, hi) :: (lo', hi') :: rest =>
    if lo' ≤ hi + 1 then mergeSorted ((lo, max hi hi') :: rest)
    else (lo, hi) :: mergeSorted ((lo', hi') :: rest)
termination_by rs => rs.length

def normalize (s : CharSet) : CharSet :=
  mergeSorted ((s.filter fun (lo, hi) => lo ≤ hi).mergeSort fun a b => a.1 ≤ b.1)

def union (a b : CharSet) : CharSet := normalize (a ++ b)

def gaps (start : Nat) : CharSet → CharSet
  | [] => if start ≤ top then [(start, top)] else []
  | (lo, hi) :: rest =>
    (if start < lo then [(start, lo - 1)] else []) ++ gaps (hi + 1) rest

def complement (s : CharSet) : CharSet := gaps 0 (normalize s)

def inter (a b : CharSet) : CharSet := complement (union (complement a) (complement b))

def diff (a b : CharSet) : CharSet := inter a (complement b)

def symmDiff (a b : CharSet) : CharSet := union (diff a b) (diff b a)

def negateIn (within s : CharSet) : CharSet := inter within (complement s)

def isEmpty (s : CharSet) : Bool := List.isEmpty (normalize s)

def isAscii (s : CharSet) : Bool := List.all (normalize s) fun (_, hi) => hi < 0x80

def single (c : Nat) : CharSet := [(c, c)]

end CharSet

end NetConsole.Pattern
