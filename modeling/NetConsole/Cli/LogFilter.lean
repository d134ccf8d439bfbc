import NetConsole.Log
import NetConsole.Text.Alphanumeric
import NetConsole.Text.Blank
import NetConsole.Pattern.Check

/-! Which log records the program shows. A record is shown by the most specific rule that applies
to it (longest target prefix, then most fields; a later rule replaces an equal one), and by no
rule when none applies. A filter with a rule that cannot be read is replaced by `warn`. -/

namespace NetConsole.Cli

/-- One rule of a log filter: records whose target begins with `target` (every record when
none) and that carry the named fields are shown up to the verbosity, from 0 for none to 5. -/
structure LogRule where
  target : Option String := none
  fields : List String := []
  verbosity : Nat
  deriving DecidableEq, Repr

structure LogFilter where
  rules : List LogRule := []
  deriving DecidableEq, Repr

def recordFields : List String := ["message", "log.target", "log.module_path", "log.file", "log.line"]

namespace LogRule

def applies (rule : LogRule) (r : LogRecord) : Bool :=
  (match rule.target with
    | some t => t.isPrefixOf r.target
    | none => true) &&
  rule.fields.all recordFields.contains

/-- The order of specificity: a longer target in bytes, then more fields, then the texts
themselves. -/
def before (a b : LogRule) : Bool :=
  let targetLength := fun (r : LogRule) => r.target.map (·.utf8ByteSize + 1) |>.getD 0
  if targetLength a != targetLength b then targetLength a > targetLength b
  else if a.fields.length != b.fields.length then a.fields.length > b.fields.length
  else if a.target != b.target then compare a.target b.target == .gt
  else compare a.fields b.fields == .gt

def sameScope (a b : LogRule) : Bool := a.target == b.target && a.fields == b.fields

end LogRule

namespace LogFilter

def add (f : LogFilter) (rule : LogRule) : LogFilter :=
  if f.rules.any (·.sameScope rule) then
    ⟨f.rules.map fun r => if r.sameScope rule then rule else r⟩
  else
    let (ahead, behind) := f.rules.span (·.before rule)
    ⟨ahead ++ rule :: behind⟩

def shows (f : LogFilter) (r : LogRecord) : Bool :=
  match f.rules.find? (·.applies r) with
  | some rule => r.level.rank ≤ rule.verbosity
  | none => false

def warnings : LogFilter := ⟨[{ verbosity := 2 }]⟩

end LogFilter

/-- A level as a rule writes it: a number from 0 to 5, perhaps with a plus sign and leading
zeros, or a name in any case; the empty text is `error`. -/
def levelOf? (text : String) : Option Nat :=
  let digits := match text.toList with
    | '+' :: ds => ds
    | ds => ds
  let number := digits.foldl (fun n c => n * 10 + (c.toNat - '0'.toNat)) 0
  if !digits.isEmpty && digits.all Char.isDigit && number ≤ 5 then some number
  else
    match text.toLower with
    | "" => some 1
    | "off" => some 0
    | "error" => some 1
    | "warn" => some 2
    | "info" => some 3
    | "debug" => some 4
    | "trace" => some 5
    | _ => none

structure FieldFilter where
  name : String
  value : Option String
  deriving DecidableEq, Repr

def FieldFilter.ofText (text : String) : FieldFilter :=
  match text.splitOn "=" with
  | name :: value :: _ => ⟨name, some value⟩
  | _ => ⟨text, none⟩

/-- Whether a text reads as a floating point number: a sign, then `inf`, `infinity` or `nan` in
any case, or digits with at most one point and at least one digit, and an optional exponent of
`e` or `E`, a sign and digits. Integers are among them. -/
def isNumberText (text : String) : Bool :=
  let body := match text.toList with
    | '+' :: rest | '-' :: rest => rest
    | rest => rest
  let lower := String.ofList (body.map Char.toLower)
  let whole := body.takeWhile Char.isDigit
  let afterWhole := body.drop whole.length
  let (fraction, afterFraction) := match afterWhole with
    | '.' :: rest => (rest.takeWhile Char.isDigit, rest.drop (rest.takeWhile Char.isDigit).length)
    | rest => ([], rest)
  let exponentOk := match afterFraction with
    | [] => true
    | e :: rest =>
      let digits := match rest with
        | '+' :: ds | '-' :: ds => ds
        | ds => ds
      (e == 'e' || e == 'E') && !digits.isEmpty && digits.all Char.isDigit
  lower == "inf" || lower == "infinity" || lower == "nan" ||
    ((!whole.isEmpty || !fraction.isEmpty) && exponentOk)

def FieldFilter.readable (f : FieldFilter) : Bool :=
  match f.value with
  | some v => isNumberText v || Pattern.accepts v
  | none => true

structure Directive where
  verbosity : Nat := 5
  target : Option String := none
  span : Option String := none
  fields : List FieldFilter := []
  deriving DecidableEq, Repr

def Directive.rule? (d : Directive) : Option LogRule :=
  if d.span.isNone && d.fields.all (·.value.isNone) then
    some { target := d.target, fields := d.fields.map (·.name), verbosity := d.verbosity }
  else none

inductive RuleState where
  | start
  | levelOrTarget (offset : Nat)
  | span (offset : Nat)
  | field (offset : Nat)
  | fields
  | target
  | level (offset : Nat)

def withOffsets (cs : List Char) (base : Nat := 0) : List (Nat × Char) :=
  match cs with
  | [] => []
  | c :: rest => (base, c) :: withOffsets rest (base + c.utf8Size)

/-- The part of a text from byte `lo` up to byte `hi` (the end when none); none when a bound
falls inside a character or past the end. -/
def byteSlice (text : String) (lo : Nat) (hi : Option Nat) : Option String :=
  let marked := withOffsets text.toList
  let size := text.utf8ByteSize
  let hi := hi.getD size
  let isBound := fun (n : Nat) => n == size || marked.any (·.1 == n)
  if isBound lo && isBound hi && lo ≤ hi then
    some (String.ofList ((marked.filter fun (o, _) => lo ≤ o && o < hi).map (·.2)))
  else none

/-- One step of reading a rule: the directive so far and the state after the character at
offset `i` of the trimmed rule, or none when the rule cannot be read. -/
def ruleStep (text : String) (d : Directive) (st : RuleState) (i : Nat) (c : Char) :
    Option (Directive × RuleState) :=
  match st with
  | .start =>
    if c == '[' then some (d, .span (i + 1))
    else if c == '-' || c == ':' || c == '_' || Text.isAlphanumeric c then
      some (d, .levelOrTarget i)
    else none
  | .levelOrTarget s =>
    if c == '=' then (byteSlice text s (some i)).map fun t => ({ d with target := some t }, .level (i + 1))
    else if c == '[' then
      (byteSlice text s (some i)).map fun t => ({ d with target := some t }, .span (i + 1))
    else some (d, st)
  | .target => if c == '=' then some (d, .level (i + 1)) else none
  | .span s =>
    if c == ']' then (byteSlice text s (some i)).map fun t => ({ d with span := some t }, .target)
    else if c == '\x7b' then
      (byteSlice text s (some i)).map fun t =>
        ({ d with span := if t.isEmpty then none else some t }, .field (i + 1))
    else some (d, st)
  | .field s =>
    if c == '\x7d' then
      match byteSlice text s (some i) with
      | some t => if t.isEmpty then none else some ({ d with fields := d.fields ++ [.ofText t] }, .fields)
      | none => none
    else some (d, st)
  | .fields => if c == ']' then some (d, .target) else none
  | .level _ => some (d, st)

def ruleSteps (text : String) : Directive → RuleState → List (Nat × Char) → Option (Directive × RuleState)
  | d, st, [] => some (d, st)
  | d, st, (i, c) :: rest =>
    match ruleStep text d st i c with
    | some (d', st') => ruleSteps text d' st' rest
    | none => none

def readRule (text : String) : Option Directive := do
  let trimmed := withOffsets (Text.trimBlanks text).toList
  let (d, st) ← ruleSteps text {} .start trimmed
  if !d.fields.all FieldFilter.readable then none
  match st with
  | .levelOrTarget s =>
    let word ← byteSlice text s none
    if word.isEmpty then pure d
    else
      match levelOf? word with
      | some v => pure { d with verbosity := v, target := none }
      | none => pure { d with verbosity := 5, target := some word }
  | .level s =>
    let word ← byteSlice text s none
    if word.isEmpty then pure { d with verbosity := 5 }
    else (levelOf? word).map fun v => { d with verbosity := v }
  | .target => pure d
  | _ => none

def LogFilter.ofSetting : Option String → LogFilter
  | none => .warnings
  | some "" => {}
  | some text =>
    match ((text.splitOn ",").filter (!·.isEmpty)).mapM readRule with
    | some directives => (directives.filterMap Directive.rule?).foldl LogFilter.add {}
    | none => .warnings

def LogRecord.line (r : LogRecord) : String := r.level.label ++ " " ++ r.target ++ ": " ++ r.message ++ "\n"

def LogFilter.render (f : LogFilter) (records : List LogRecord) : String :=
  String.join ((records.filter f.shows).map LogRecord.line)

end NetConsole.Cli
