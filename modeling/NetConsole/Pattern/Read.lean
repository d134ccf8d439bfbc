import NetConsole.Pattern.Syntax
import NetConsole.Text.Blank
import NetConsole.Text.Alphabetic
import NetConsole.Text.Alphanumeric

namespace NetConsole.Pattern

open NetConsole.Text (isBlank isAlphabetic isAlphanumeric)

def skipSpaced : Bool → List Char → List Char
  | _, [] => []
  | true, c :: rest => if c == '\n' then skipSpaced false rest else skipSpaced true rest
  | false, c :: rest =>
    if isBlank c then skipSpaced false rest
    else if c == '#' then skipSpaced true rest
    else c :: rest

/-- The characters from the next one that counts: after blanks and comments where those are
ignored. -/
def skipSpace (spaced : Bool) (cs : List Char) : List Char :=
  if spaced then skipSpaced false cs else cs

def peekSpaced : Bool → List Char → Option Char
  | _, [] => none
  | inComment, c :: rest =>
    if isBlank c then peekSpaced inComment rest
    else if !inComment && c == '#' then peekSpaced true rest
    else some c

/-- The character after the current one that a range looks at: the next one, or where blanks are
ignored the first after blanks (and a comment sign), falling back to the next one. -/
def peekSpace (spaced : Bool) : List Char → Option Char
  | [] => none
  | _ :: rest => if spaced then (peekSpaced false rest).orElse fun _ => rest.head? else rest.head?

def isMeta (c : Char) : Bool := "\\.+*?()|[]{}^$#&-~".toList.contains c

/-- Whether a backslash before the character stands for the character itself: a meta character,
or ASCII that is neither a letter, a digit, `<` nor `>`. -/
def isEscapeable (c : Char) : Bool :=
  isMeta c || (c.toNat < 128 && !c.isAlphanum && c != '<' && c != '>')

def isHex (c : Char) : Bool := c.isDigit || ('a' ≤ c && c ≤ 'f') || ('A' ≤ c && c ≤ 'F')

def hexValue (c : Char) : Nat :=
  if c.isDigit then c.toNat - '0'.toNat
  else if 'a' ≤ c && c ≤ 'f' then c.toNat - 'a'.toNat + 10
  else c.toNat - 'A'.toNat + 10

def charOfHex (digits : List Char) : Option Char :=
  let n := digits.foldl (fun n c => n * 16 + hexValue c) 0
  if n < 4294967296 && n.isValidChar then some (Char.ofNat n) else none

inductive Primitive where
  | literal (l : Literal)
  | assertion (a : Assertion)
  | dot
  | perl (kind : PerlClass) (negated : Bool)
  | property (negated : Bool)

namespace Primitive

def toPattern : Primitive → Expr
  | .literal l => .literal l
  | .assertion a => .assertion a
  | .dot => .dot
  | .perl kind negated => .perl kind negated
  | .property negated => .property negated

def toClassItem : Primitive → Option ClassItem
  | .literal l => some (.literal l)
  | .perl kind negated => some (.perl kind negated)
  | .property negated => some (.property negated)
  | _ => none

def toLiteral : Primitive → Option Literal
  | .literal l => some l
  | _ => none

end Primitive

def fixedHexDigits (spaced : Bool) : Nat → List Char → Option (List Char × List Char)
  | 0, cs => some ([], cs)
  | _ + 1, [] => none
  | n + 1, c :: rest =>
    if isHex c then (fixedHexDigits spaced n (skipSpace spaced rest)).map fun (ds, r) => (c :: ds, r)
    else none

def bracedHexDigits (spaced : Bool) : Nat → List Char → Option (List Char × List Char)
  | 0, _ => none
  | _ + 1, [] => none
  | _ + 1, '\x7d' :: rest => some ([], skipSpace spaced rest)
  | fuel + 1, c :: rest =>
    if isHex c then (bracedHexDigits spaced fuel (skipSpace spaced rest)).map fun (ds, r) => (c :: ds, r)
    else none

/-- A hex escape after its letter: two digits for `x`, four for `u`, eight for `U`, or any
number in braces. -/
def hexEscape (spaced : Bool) (letter : Char) (cs : List Char) : Option (Primitive × List Char) :=
  match skipSpace spaced cs with
  | [] => none
  | '\x7b' :: rest => do
    let (digits, rest) ← bracedHexDigits spaced (rest.length + 1) (skipSpace spaced rest)
    if digits.isEmpty then none
    let c ← charOfHex digits
    some (.literal { char := c }, rest)
  | rest => do
    let count := if letter == 'x' then 2 else if letter == 'u' then 4 else 8
    let (digits, rest) ← fixedHexDigits spaced count rest
    let c ← charOfHex digits
    some (.literal { char := c, hexByte := letter == 'x' }, rest)

def braceBody (spaced : Bool) : Nat → List Char → Option (List Char)
  | 0, _ => none
  | _ + 1, [] => none
  | _ + 1, '\x7d' :: rest => some rest
  | fuel + 1, _ :: rest => braceBody spaced fuel (skipSpace spaced rest)

def propertyEscape (spaced : Bool) (negated : Bool) (cs : List Char) : Option (Primitive × List Char) :=
  match skipSpace spaced cs with
  | [] => none
  | '\x7b' :: rest => do
    let rest ← braceBody spaced (rest.length + 1) (skipSpace spaced rest)
    some (.property negated, rest)
  | '\\' :: _ => none
  | _ :: rest => some (.property negated, skipSpace spaced rest)

def isWordBoundaryChar (c : Char) : Bool := c.isAlpha || c == '-'

def boundaryName (spaced : Bool) : Nat → List Char → Option (List Char × List Char)
  | 0, _ => none
  | _ + 1, [] => none
  | _ + 1, '\x7d' :: rest => some ([], rest)
  | fuel + 1, c :: rest =>
    if isWordBoundaryChar c then
      (boundaryName spaced fuel (skipSpace spaced rest)).map fun (n, r) => (c :: n, r)
    else none

/-- What follows `\b`: a special boundary `\b{start}`, `\b{end}`, `\b{start-half}` or
`\b{end-half}`, or the plain boundary when the brace does not begin a name (it is then read as a
repetition). -/
def wordBoundaryEscape (spaced : Bool) (cs : List Char) : Option (Primitive × List Char) :=
  match cs with
  | '\x7b' :: rest =>
    match skipSpace spaced rest with
    | [] => none
    | c :: more =>
      if !isWordBoundaryChar c then some (.assertion .wordBoundary, cs)
      else do
        let (name, rest) ← boundaryName spaced ((c :: more).length + 1) (c :: more)
        let kind ← match String.ofList name with
          | "start" => some Assertion.wordStart
          | "end" => some .wordEnd
          | "start-half" => some .wordStartHalf
          | "end-half" => some .wordEndHalf
          | _ => none
        some (.assertion kind, rest)
  | _ => some (.assertion .wordBoundary, cs)

def escape (spaced : Bool) : List Char → Option (Primitive × List Char)
  | '\\' :: c :: rest =>
    if c.isDigit then none
    else if c == 'x' || c == 'u' || c == 'U' then hexEscape spaced c rest
    else if c == 'p' || c == 'P' then propertyEscape spaced (c == 'P') rest
    else if c == 'd' then some (.perl .digit false, rest)
    else if c == 's' then some (.perl .space false, rest)
    else if c == 'w' then some (.perl .word false, rest)
    else if c == 'D' then some (.perl .digit true, rest)
    else if c == 'S' then some (.perl .space true, rest)
    else if c == 'W' then some (.perl .word true, rest)
    else if isEscapeable c then some (.literal { char := c }, rest)
    else match c with
      | 'a' => some (.literal { char := '\x07' }, rest)
      | 'f' => some (.literal { char := '\x0c' }, rest)
      | 't' => some (.literal { char := '\t' }, rest)
      | 'n' => some (.literal { char := '\n' }, rest)
      | 'r' => some (.literal { char := '\r' }, rest)
      | 'v' => some (.literal { char := '\x0b' }, rest)
      | 'A' => some (.assertion .startText, rest)
      | 'z' => some (.assertion .endText, rest)
      | 'b' => wordBoundaryEscape spaced rest
      | 'B' => some (.assertion .notWordBoundary, rest)
      | '<' => some (.assertion .wordStart, rest)
      | '>' => some (.assertion .wordEnd, rest)
      | _ => none
  | _ => none

def primitive (spaced : Bool) : List Char → Option (Primitive × List Char)
  | [] => none
  | cs@('\\' :: _) => escape spaced cs
  | '.' :: rest => some (.dot, rest)
  | '^' :: rest => some (.assertion .startLine, rest)
  | '$' :: rest => some (.assertion .endLine, rest)
  | c :: rest => some (.literal { char := c }, rest)

def asciiClass : List Char → Option (ClassItem × List Char)
  | '[' :: ':' :: rest => do
    let (negated, rest) ← match rest with
      | '^' :: more => if more.isEmpty then none else some (true, more)
      | [] => none
      | more => some (false, more)
    let name := rest.takeWhile (· != ':')
    match rest.drop name.length with
    | ':' :: ']' :: after => do
      let kind ← AsciiClass.ofName (String.ofList name)
      some (.ascii kind negated, after)
    | _ => none
  | _ => none

def leadingDashes (spaced : Bool) : Nat → List Char → Option (List ClassItem × List Char)
  | 0, _ => none
  | _ + 1, [] => none
  | fuel + 1, '-' :: rest =>
    match skipSpace spaced rest with
    | [] => none
    | more => (leadingDashes spaced fuel more).map fun (is, r) => (.literal { char := '-' } :: is, r)
  | _ + 1, cs => some ([], cs)

/-- The opening of a bracketed class: whether it is negated, the literal `-`s and `]` it starts
with, and what follows. -/
def openClass (spaced : Bool) : List Char → Option (Bool × List ClassItem × List Char)
  | '[' :: rest => do
    let rest := skipSpace spaced rest
    if rest.isEmpty then none
    let (negated, rest) ← match rest with
      | '^' :: more =>
        let more := skipSpace spaced more
        if more.isEmpty then none else some (true, more)
      | more => some (false, more)
    let (dashes, rest) ← leadingDashes spaced (rest.length + 1) rest
    match dashes, rest with
    | [], ']' :: more =>
      let more := skipSpace spaced more
      if more.isEmpty then none else some (negated, [.literal { char := ']' }], more)
    | _, _ => some (negated, dashes, rest)
  | _ => none

def classPrimitive (spaced : Bool) : List Char → Option (Primitive × List Char)
  | [] => none
  | cs@('\\' :: _) => escape spaced cs
  | c :: rest => some (.literal { char := c }, rest)

def classRange (spaced : Bool) (cs : List Char) : Option (ClassItem × List Char) := do
  let (first, rest) ← classPrimitive spaced cs
  let rest := skipSpace spaced rest
  match rest with
  | [] => none
  | '-' :: after =>
    if peekSpace spaced rest == some ']' || peekSpace spaced rest == some '-' then
      (first.toClassItem).map fun i => (i, rest)
    else
      match skipSpace spaced after with
      | [] => none
      | more => do
        let (second, rest) ← classPrimitive spaced more
        let lo ← first.toLiteral
        let hi ← second.toLiteral
        if hi.char < lo.char then none
        some (.range lo hi, rest)
  | _ => (first.toClassItem).map fun i => (i, rest)

/-- A bracket being read inside a class: the union around it and whether it is negated, or the
left side of a set operation. -/
inductive ClassFrame where
  | bracket (around : List ClassItem) (negated : Bool)
  | op (kind : SetOp) (lhs : ClassSet)

/-- The contents ending at the top of the stack: a pending set operation takes them as its right
side. -/
def closeOp (stack : List ClassFrame) (rhs : ClassSet) : ClassSet × List ClassFrame :=
  match stack with
  | .op kind lhs :: rest => (.op kind lhs rhs, rest)
  | _ => (rhs, stack)

/-- Reads a bracketed class up to the bracket that closes the outermost one: the items of the
union being read, and the stack of brackets and operations around it. -/
def classLoop (spaced : Bool) : Nat → List ClassItem → List ClassFrame → List Char →
    Option ((Bool × ClassSet) × List Char)
  | 0, _, _, _ => none
  | fuel + 1, union, stack, cs =>
    let operation := fun (kind : SetOp) (rest : List Char) =>
      let (lhs, stack) := closeOp stack (.item (ClassItem.ofItems union))
      classLoop spaced fuel [] (.op kind lhs :: stack) rest
    match skipSpace spaced cs with
    | [] => none
    | cs@('[' :: _) =>
      match (if stack.isEmpty then none else asciiClass cs) with
      | some (item, rest) => classLoop spaced fuel (union ++ [item]) stack rest
      | none => do
        let (negated, items, rest) ← openClass spaced cs
        classLoop spaced fuel items (.bracket union negated :: stack) rest
    | ']' :: rest =>
      let (set, stack) := closeOp stack (.item (ClassItem.ofItems union))
      match stack with
      | [.bracket _ negated] => some ((negated, set), rest)
      | .bracket around negated :: stack => classLoop spaced fuel (around ++ [.bracketed negated set]) stack rest
      | _ => none
    | '&' :: '&' :: rest => operation .intersection rest
    | '-' :: '-' :: rest => operation .difference rest
    | '~' :: '~' :: rest => operation .symmetricDifference rest
    | cs => do
      let (item, rest) ← classRange spaced cs
      classLoop spaced fuel (union ++ [item]) stack rest

def bracketedClass (spaced : Bool) (cs : List Char) : Option (Expr × List Char) :=
  (classLoop spaced (cs.length + 1) [] [] cs).map fun ((negated, set), rest) => (.bracketed negated set, rest)

def flagOf : Char → Option Flag
  | 'i' => some .caseInsensitive
  | 'm' => some .multiLine
  | 's' => some .dotMatchesNewLine
  | 'U' => some .swapGreed
  | 'u' => some .unicode
  | 'R' => some .crlf
  | 'x' => some .ignoreWhitespace
  | _ => none

/-- The flag items up to `:` or `)`, each named once, not ending in `-`; and the rest from that
character. -/
def flagItems (items : List FlagItem) : List Char → Option (List FlagItem × List Char)
  | [] => none
  | c :: rest =>
    if c == ':' || c == ')' then
      if items.getLast? == some .negation then none else some (items, c :: rest)
    else do
      let item ← if c == '-' then some FlagItem.negation else (flagOf c).map .flag
      if items.contains item then none
      flagItems (items ++ [item]) rest

def isNameChar (first : Bool) (c : Char) : Bool :=
  if first then c == '_' || isAlphabetic c
  else c == '_' || c == '.' || c == '[' || c == ']' || isAlphanumeric c

def groupName (first : Bool) : List Char → Option (List Char × List Char)
  | [] => none
  | '>' :: rest => some ([], rest)
  | c :: rest =>
    if isNameChar first c then (groupName false rest).map fun (n, r) => (c :: n, r) else none

inductive Opening where
  | setFlags (items : List FlagItem)
  | group (kind : GroupKind)

def opening (spaced : Bool) (names : List String) (cs : List Char) :
    Option (Opening × List Char) :=
  let cs := skipSpace spaced cs
  let named := fun (rest : List Char) => do
    if rest.isEmpty then none
    let (name, rest) ← groupName true rest
    let name := String.ofList name
    if name.isEmpty || names.contains name then none
    some (Opening.group (.named name), rest)
  match cs with
  | '?' :: '=' :: _ | '?' :: '!' :: _ | '?' :: '<' :: '=' :: _ | '?' :: '<' :: '!' :: _ => none
  | '?' :: 'P' :: '<' :: rest => named rest
  | '?' :: '<' :: rest => named rest
  | '?' :: [] => none
  | '?' :: rest => do
    let (items, rest) ← flagItems [] rest
    match rest with
    | ')' :: rest => if items.isEmpty then none else some (.setFlags items, rest)
    | _ :: rest => some (.group (.nonCapturing items), rest)
    | [] => none
  | rest => some (.group .capture, rest)

def dropBlanks : List Char → List Char
  | c :: rest => if isBlank c then dropBlanks rest else c :: rest
  | [] => []

def decimalDigits (spaced : Bool) : Nat → List Char → List Char × List Char
  | 0, cs => ([], cs)
  | _ + 1, [] => ([], [])
  | fuel + 1, c :: rest =>
    if c.isDigit then
      let (ds, r) := decimalDigits spaced fuel (skipSpace spaced rest)
      (c :: ds, r)
    else ([], c :: rest)

def trailingBlanks (spaced : Bool) : Nat → List Char → List Char
  | 0, cs => cs
  | _ + 1, [] => []
  | fuel + 1, c :: rest =>
    if isBlank c then trailingBlanks spaced fuel (skipSpace spaced rest) else c :: rest

def decimal (spaced : Bool) (cs : List Char) : Option Nat × List Char :=
  let cs := dropBlanks cs
  let (digits, rest) := decimalDigits spaced (cs.length + 1) cs
  let rest := trailingBlanks spaced (rest.length + 1) rest
  let n := digits.foldl (fun n c => n * 10 + (c.toNat - '0'.toNat)) 0
  (if digits.isEmpty || 4294967296 ≤ n then none else some n, rest)

def countedBounds (spaced : Bool) (cs : List Char) : Option (Repeat × List Char) :=
  match skipSpace spaced cs with
  | [] => none
  | cs => do
    let (lo, rest) := decimal spaced cs
    match rest with
    | [] => none
    | ',' :: rest =>
      match skipSpace spaced rest with
      | [] => none
      | '\x7d' :: rest => do
        let lo ← lo
        some (.counted lo none, rest)
      | rest => do
        let lo ← lo
        let (hi, rest) := decimal spaced rest
        let hi ← hi
        match rest with
        | '\x7d' :: rest => if hi < lo then none else some (.counted lo (some hi), rest)
        | _ => none
    | '\x7d' :: rest => do
      let lo ← lo
      some (.counted lo (some lo), rest)
    | _ => none

def Expr.repeatable : Expr → Bool
  | .empty => false
  | .flags _ => false
  | _ => true

/-- A group being read: the parts before it, what it is, and whether blanks were ignored
outside it; or the branches before the current one. -/
inductive Frame where
  | group (before : List Expr) (kind : GroupKind) (spaced : Bool)
  | alternation (branches : List Expr)

def finish (parts : List Expr) : List Frame → Option Expr
  | [] => some (Expr.ofParts parts)
  | [.alternation branches] => some (.alternation (branches ++ [Expr.ofParts parts]))
  | _ => none

def repeatLast (parts : List Expr) (op : Repeat) (greedy : Bool) : Option (List Expr) :=
  match parts.getLast? with
  | some p => if p.repeatable then some (parts.dropLast ++ [.repetition op greedy p]) else none
  | none => none

def lazyMark : List Char → Bool × List Char
  | '?' :: rest => (false, rest)
  | rest => (true, rest)

/-- Reads the parts of a pattern: the names of the groups so far, whether blanks are ignored, the
parts of the current sequence and the stack of groups around it. Each round reads at least one
character, so a `fuel` above the number of characters is never used up. -/
def readLoop : Nat → List String → Bool → List Expr → List Frame → List Char → Option Expr
  | 0, _, _, _, _, _ => none
  | fuel + 1, names, spaced, parts, stack, cs =>
    match skipSpace spaced cs with
    | [] => finish parts stack
    | '(' :: rest => do
      let (opened, rest) ← opening spaced names rest
      match opened with
      | .setFlags items =>
        let spaced := (flagState .ignoreWhitespace items).getD spaced
        readLoop fuel names spaced (parts ++ [.flags items]) stack rest
      | .group kind =>
        let names := match kind with
          | .named n => names ++ [n]
          | _ => names
        let inner := match kind with
          | .nonCapturing items => (flagState .ignoreWhitespace items).getD spaced
          | _ => spaced
        readLoop fuel names inner [] (.group parts kind spaced :: stack) rest
    | ')' :: rest =>
      match stack with
      | .group before kind outer :: stack =>
        readLoop fuel names outer (before ++ [.group kind (Expr.ofParts parts)]) stack rest
      | .alternation branches :: .group before kind outer :: stack =>
        let body := Expr.ofBranches (branches ++ [Expr.ofParts parts])
        readLoop fuel names outer (before ++ [.group kind body]) stack rest
      | _ => none
    | '|' :: rest =>
      match stack with
      | .alternation branches :: stack =>
        readLoop fuel names spaced [] (.alternation (branches ++ [Expr.ofParts parts]) :: stack) rest
      | _ => readLoop fuel names spaced [] (.alternation [Expr.ofParts parts] :: stack) rest
    | cs@('[' :: _) => do
      let (cls, rest) ← bracketedClass spaced cs
      readLoop fuel names spaced (parts ++ [cls]) stack rest
    | '?' :: rest => do
      let (greedy, rest) := lazyMark rest
      let parts ← repeatLast parts .zeroOrOne greedy
      readLoop fuel names spaced parts stack rest
    | '*' :: rest => do
      let (greedy, rest) := lazyMark rest
      let parts ← repeatLast parts .zeroOrMore greedy
      readLoop fuel names spaced parts stack rest
    | '+' :: rest => do
      let (greedy, rest) := lazyMark rest
      let parts ← repeatLast parts .oneOrMore greedy
      readLoop fuel names spaced parts stack rest
    | '\x7b' :: rest => do
      if !(parts.getLast?.map Expr.repeatable).getD false then none
      let (op, rest) ← countedBounds spaced rest
      let (greedy, rest) := match skipSpace spaced rest with
        | '?' :: more => (false, more)
        | more => (true, more)
      let parts ← repeatLast parts op greedy
      readLoop fuel names spaced parts stack rest
    | cs => do
      let (p, rest) ← primitive spaced cs
      readLoop fuel names spaced (parts ++ [p.toPattern]) stack rest

def Expr.read (text : String) : Option Expr :=
  readLoop (text.length + 1) [] false [] [] text.toList

end NetConsole.Pattern
