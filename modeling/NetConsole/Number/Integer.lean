namespace NetConsole

inductive IntError where
  | empty
  | invalidDigit
  | tooLarge
  | tooSmall
  deriving DecidableEq, Repr

namespace IntError

def message : IntError → String
  | .empty => "cannot parse integer from empty string"
  | .invalidDigit => "invalid digit found in string"
  | .tooLarge => "number too large to fit in target type"
  | .tooSmall => "number too small to fit in target type"

end IntError

structure IntRange where
  lo : Int
  hi : Int

namespace IntRange

def u8 : IntRange := ⟨0, 255⟩
def i32 : IntRange := ⟨-2147483648, 2147483647⟩
def u32 : IntRange := ⟨0, 4294967295⟩
def i64 : IntRange := ⟨-9223372036854775808, 9223372036854775807⟩
def u64 : IntRange := ⟨0, 18446744073709551615⟩

def contains (r : IntRange) (n : Int) : Bool := r.lo ≤ n && n ≤ r.hi

def digitValue? (c : Char) : Option Nat :=
  if '0' ≤ c ∧ c ≤ '9' then some (c.toNat - '0'.toNat) else none

def readDigits (r : IntRange) (negative : Bool) : List Char → Int → Except IntError Int
  | [], acc => .ok acc
  | c :: rest, acc =>
    match digitValue? c with
    | none => .error .invalidDigit
    | some d =>
      let next := if negative then acc * 10 - d else acc * 10 + d
      if next > r.hi then .error .tooLarge
      else if next < r.lo then .error .tooSmall
      else readDigits r negative rest next

def parse (r : IntRange) (s : String) : Except IntError Int :=
  match s.toList with
  | [] => .error .empty
  | ['+'] | ['-'] => .error .invalidDigit
  | '+' :: rest => readDigits r false rest 0
  | '-' :: rest => if r.lo < 0 then readDigits r true rest 0 else .error .invalidDigit
  | cs => readDigits r false cs 0

end IntRange

end NetConsole
