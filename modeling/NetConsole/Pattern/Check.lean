import NetConsole.Pattern.Read
import NetConsole.Pattern.CharSet

/-! Which patterns the log filter's matcher builds. It has no Unicode tables, so with Unicode on
it refuses the Perl and property classes, case folding and word boundaries, and with Unicode off
whatever could match a byte that is not ASCII. -/

namespace NetConsole.Pattern

open CharSet

structure Mode where
  caseless : Bool := false
  unicode : Bool := true
  deriving DecidableEq, Repr

namespace Mode

def apply (m : Mode) (items : List FlagItem) : Mode :=
  (items.foldl (fun (acc : Mode × Bool) item =>
    let (m, setting) := acc
    match item with
    | .negation => (m, false)
    | .flag .caseInsensitive => ({ m with caseless := setting }, setting)
    | .flag .unicode => ({ m with unicode := setting }, setting)
    | .flag _ => (m, setting)) (m, true)).1

def enter (m : Mode) : GroupKind → Mode
  | .nonCapturing items => m.apply items
  | _ => m

def domain (m : Mode) : CharSet := if m.unicode then scalars else bytes

end Mode

def asciiRanges : AsciiClass → CharSet
  | .alnum => [(0x30, 0x39), (0x41, 0x5A), (0x61, 0x7A)]
  | .alpha => [(0x41, 0x5A), (0x61, 0x7A)]
  | .ascii => [(0x00, 0x7F)]
  | .blank => [(0x09, 0x09), (0x20, 0x20)]
  | .cntrl => [(0x00, 0x1F), (0x7F, 0x7F)]
  | .digit => [(0x30, 0x39)]
  | .graph => [(0x21, 0x7E)]
  | .lower => [(0x61, 0x7A)]
  | .print => [(0x20, 0x7E)]
  | .punct => [(0x21, 0x2F), (0x3A, 0x40), (0x5B, 0x60), (0x7B, 0x7E)]
  | .space => [(0x09, 0x0D), (0x20, 0x20)]
  | .upper => [(0x41, 0x5A)]
  | .word => [(0x30, 0x39), (0x41, 0x5A), (0x5F, 0x5F), (0x61, 0x7A)]
  | .xdigit => [(0x30, 0x39), (0x41, 0x46), (0x61, 0x66)]

def perlRanges : PerlClass → CharSet
  | .digit => asciiRanges .digit
  | .space => asciiRanges .space
  | .word => asciiRanges .word

def classByte (l : Literal) : Option Nat := if l.char.toNat < 0x80 then some l.char.toNat else none

def SetOp.apply : SetOp → CharSet → CharSet → CharSet
  | .intersection => inter
  | .difference => diff
  | .symmetricDifference => symmDiff

/-- A bracketed class from its contents: refused when it must be folded without tables, then
negated, and refused with Unicode off when it holds a byte above 127. -/
def bracketSet (m : Mode) (negated : Bool) (s : CharSet) : Option CharSet :=
  if m.unicode && m.caseless && !isEmpty s then none
  else
    let s := if negated then negateIn m.domain s else s
    if !m.unicode && !isAscii s then none else some s

mutual

def itemSet (m : Mode) : ClassItem → Option CharSet
  | .empty => some []
  | .literal l => if m.unicode then some (single l.char.toNat) else (classByte l).map single
  | .range lo hi =>
    if m.unicode then some [(lo.char.toNat, hi.char.toNat)]
    else do
      let a ← classByte lo
      let b ← classByte hi
      some [(a, b)]
  | .ascii kind negated =>
    some (if negated then negateIn m.domain (asciiRanges kind) else asciiRanges kind)
  | .property _ => none
  | .perl kind negated => if m.unicode || negated then none else some (perlRanges kind)
  | .bracketed negated set => setOf m set >>= bracketSet m negated
  | .union items => unionOf m items

def unionOf (m : Mode) : List ClassItem → Option CharSet
  | [] => some []
  | i :: is => do
    let a ← itemSet m i
    let b ← unionOf m is
    some (union a b)

def setOf (m : Mode) : ClassSet → Option CharSet
  | .item i => itemSet m i
  | .op kind lhs rhs => do
    let l ← setOf m lhs
    let r ← setOf m rhs
    if m.unicode && m.caseless && (!isEmpty l || !isEmpty r) then none
    some (kind.apply l r)

end

def literalOk (m : Mode) (l : Literal) : Bool :=
  if m.unicode then !m.caseless else l.char.toNat < 0x80

/-- Whether an assertion is allowed: the anchors always, the word boundaries other than `\B`
only with Unicode off. -/
def assertionOk (m : Mode) : Assertion → Bool
  | .startLine | .endLine | .startText | .endText => true
  | .notWordBoundary => false
  | _ => !m.unicode

mutual

def check (m : Mode) : Expr → Option Mode
  | .empty => some m
  | .flags items => some (m.apply items)
  | .literal l => if literalOk m l then some m else none
  | .dot => if m.unicode then some m else none
  | .assertion a => if assertionOk m a then some m else none
  | .property _ => none
  | .perl _ negated => if m.unicode || negated then none else some m
  | .bracketed negated set => (setOf m set >>= bracketSet m negated).map fun _ => m
  | .repetition _ _ body => (check m body).map fun _ => m
  | .group kind body => (check (m.enter kind) body).map fun _ => m
  | .alternation branches => checkAll m branches
  | .concat parts => checkAll m parts

def checkAll (m : Mode) : List Expr → Option Mode
  | [] => some m
  | p :: ps => check m p >>= fun m => checkAll m ps

end

mutual

def ClassItem.depth : ClassItem → Nat
  | .bracketed _ set => set.depth + 1
  | .union items => itemsDepth items + 1
  | _ => 0

def itemsDepth : List ClassItem → Nat
  | [] => 0
  | i :: is => max i.depth (itemsDepth is)

def ClassSet.depth : ClassSet → Nat
  | .item i => i.depth
  | .op _ lhs rhs => max lhs.depth rhs.depth + 1

end

mutual

/-- How deeply a pattern nests: a class, a repetition, a group, an alternation and a
concatenation each count one. -/
def Expr.depth : Expr → Nat
  | .bracketed _ set => set.depth + 1
  | .repetition _ _ body => body.depth + 1
  | .group _ body => body.depth + 1
  | .alternation branches => partsDepth branches + 1
  | .concat parts => partsDepth parts + 1
  | _ => 0

def partsDepth : List Expr → Nat
  | [] => 0
  | p :: ps => max p.depth (partsDepth ps)

end

def nestLimit : Nat := 250

def accepts (text : String) : Bool :=
  match Expr.read text with
  | some p => p.depth ≤ nestLimit && (check {} p).isSome
  | none => false

end NetConsole.Pattern
