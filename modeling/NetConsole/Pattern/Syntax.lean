namespace NetConsole.Pattern

inductive Flag where
  | caseInsensitive
  | multiLine
  | dotMatchesNewLine
  | swapGreed
  | unicode
  | crlf
  | ignoreWhitespace
  deriving DecidableEq, Repr

inductive FlagItem where
  | negation
  | flag (f : Flag)
  deriving DecidableEq, Repr

def flagState (f : Flag) : List FlagItem → Option Bool :=
  go true
where
  go (setting : Bool) : List FlagItem → Option Bool
    | [] => none
    | .negation :: rest => go false rest
    | .flag g :: rest => if g = f then some setting else go setting rest

/-- A literal character, and whether it was written as two hex digits after `\x`: such a
literal stands for a byte where Unicode is off. -/
structure Literal where
  char : Char
  hexByte : Bool := false
  deriving DecidableEq, Repr

inductive PerlClass where
  | digit
  | space
  | word
  deriving DecidableEq, Repr

inductive AsciiClass where
  | alnum
  | alpha
  | ascii
  | blank
  | cntrl
  | digit
  | graph
  | lower
  | print
  | punct
  | space
  | upper
  | word
  | xdigit
  deriving DecidableEq, Repr

def AsciiClass.ofName : String → Option AsciiClass
  | "alnum" => some .alnum
  | "alpha" => some .alpha
  | "ascii" => some .ascii
  | "blank" => some .blank
  | "cntrl" => some .cntrl
  | "digit" => some .digit
  | "graph" => some .graph
  | "lower" => some .lower
  | "print" => some .print
  | "punct" => some .punct
  | "space" => some .space
  | "upper" => some .upper
  | "word" => some .word
  | "xdigit" => some .xdigit
  | _ => none

inductive Assertion where
  | startLine
  | endLine
  | startText
  | endText
  | wordBoundary
  | notWordBoundary
  | wordStart
  | wordEnd
  | wordStartHalf
  | wordEndHalf
  deriving DecidableEq, Repr

inductive SetOp where
  | intersection
  | difference
  | symmetricDifference
  deriving DecidableEq, Repr

mutual

inductive ClassItem where
  | empty
  | literal (l : Literal)
  | range (lo hi : Literal)
  | ascii (kind : AsciiClass) (negated : Bool)
  | property (negated : Bool)
  | perl (kind : PerlClass) (negated : Bool)
  | bracketed (negated : Bool) (set : ClassSet)
  | union (items : List ClassItem)

inductive ClassSet where
  | item (i : ClassItem)
  | op (kind : SetOp) (lhs rhs : ClassSet)

end

inductive Repeat where
  | zeroOrOne
  | zeroOrMore
  | oneOrMore
  | counted (lo : Nat) (hi : Option Nat)
  deriving DecidableEq, Repr

inductive GroupKind where
  | capture
  | named (name : String)
  | nonCapturing (flags : List FlagItem)
  deriving DecidableEq, Repr

inductive Expr where
  | empty
  | flags (items : List FlagItem)
  | literal (l : Literal)
  | dot
  | assertion (a : Assertion)
  | property (negated : Bool)
  | perl (kind : PerlClass) (negated : Bool)
  | bracketed (negated : Bool) (set : ClassSet)
  | repetition (op : Repeat) (greedy : Bool) (body : Expr)
  | group (kind : GroupKind) (body : Expr)
  | alternation (branches : List Expr)
  | concat (parts : List Expr)

namespace Expr

def ofParts : List Expr → Expr
  | [] => .empty
  | [p] => p
  | ps => .concat ps

def ofBranches : List Expr → Expr
  | [] => .empty
  | [p] => p
  | ps => .alternation ps

end Expr

def ClassItem.ofItems : List ClassItem → ClassItem
  | [] => .empty
  | [i] => i
  | is => .union is

end NetConsole.Pattern
