import NetConsole.Proofs.FieldRules
import Mathlib.Data.List.TakeWhile

/-! Decimal integers of a range. A text that spells an integer of the range reads as it;
otherwise the digits right after the sign decide whether it is too large, too small or has an
invalid digit, whatever follows them. -/

namespace NetConsole

namespace IntRange

def decimalFrom (acc : Nat) (digits : List Char) : Nat :=
  digits.foldl (fun n c => 10 * n + (c.toNat - '0'.toNat)) acc

def splitSign : List Char → Bool × List Char
  | '+' :: rest => (false, rest)
  | '-' :: rest => (true, rest)
  | cs => (false, cs)

def signed (negative : Bool) (n : Nat) : Int := if negative then -(n : Int) else n

def Spells (s : String) (n : Int) : Prop :=
  ∃ sign digits, s.toList = sign ++ digits ∧ (sign = [] ∨ sign = ['+'] ∨ sign = ['-']) ∧
    digits ≠ [] ∧ (∀ c ∈ digits, c.isDigit = true) ∧
    n = signed (sign == ['-']) (decimalFrom 0 digits)

def leadingDigits (s : String) : List Char := (splitSign s.toList).2.takeWhile Char.isDigit

/-- How a signed range refuses a text: it is empty; or the digits right after its sign already
lie beyond the range, too large or after `-` too small; or else it spells no integer. -/
inductive Refusal (r : IntRange) (s : String) : IntError → Prop
  | empty : s = "" → Refusal r s .empty
  | tooLarge : (splitSign s.toList).1 = false → r.hi < decimalFrom 0 (leadingDigits s) →
      Refusal r s .tooLarge
  | tooSmall : (splitSign s.toList).1 = true → -(decimalFrom 0 (leadingDigits s) : Int) < r.lo →
      Refusal r s .tooSmall
  | invalidDigit : s ≠ "" →
      r.contains (signed (splitSign s.toList).1 (decimalFrom 0 (leadingDigits s))) = true →
      (∀ n, ¬ Spells s n) → Refusal r s .invalidDigit

theorem decimalFrom_cons (acc : Nat) (c : Char) (cs : List Char) :
    decimalFrom acc (c :: cs) = decimalFrom (10 * acc + (c.toNat - '0'.toNat)) cs := by
  simp only [decimalFrom, List.foldl_cons]

theorem le_decimalFrom (acc : Nat) (digits : List Char) : acc ≤ decimalFrom acc digits := by
  induction digits generalizing acc with
  | nil => exact Nat.le_refl acc
  | cons c rest ih =>
      rw [decimalFrom_cons]
      exact Nat.le_trans (by omega) (ih _)

theorem digitValue?_eq (c : Char) :
    digitValue? c = if c.isDigit then some (c.toNat - '0'.toNat) else none := by
  by_cases digit : c.isDigit = true
  · have bounds : '0' ≤ c ∧ c ≤ '9' := by
      simp only [Char.isDigit, Bool.and_eq_true, decide_eq_true_eq] at digit
      exact ⟨digit.1, digit.2⟩
    simp [digitValue?, bounds, digit]
  · have bounds : ¬ ('0' ≤ c ∧ c ≤ '9') := by
      simp only [Char.isDigit, Bool.and_eq_true, decide_eq_true_eq] at digit
      exact fun ⟨lower, upper⟩ => digit ⟨lower, upper⟩
    simp [digitValue?, bounds, digit]

theorem takeWhile_eq_self {cs : List Char} (digits : cs.all Char.isDigit = true) :
    cs.takeWhile Char.isDigit = cs :=
  List.takeWhile_eq_self_iff.mpr (by simpa using digits)

theorem signed_step (negative : Bool) (m d : Nat) :
    (if negative then signed negative m * 10 - d else signed negative m * 10 + d) =
      signed negative (10 * m + d) := by
  cases negative <;> simp [signed] <;> omega

theorem splitSign_cases (cs : List Char) :
    (∃ rest, cs = '+' :: rest ∧ splitSign cs = (false, rest)) ∨
      (∃ rest, cs = '-' :: rest ∧ splitSign cs = (true, rest)) ∨
      (splitSign cs = (false, cs) ∧ cs.head? ≠ some '+' ∧ cs.head? ≠ some '-') := by
  cases cs with
  | nil => exact .inr (.inr ⟨rfl, by simp, by simp⟩)
  | cons c rest =>
      by_cases plus : c = '+'
      · subst plus
        exact .inl ⟨rest, rfl, rfl⟩
      by_cases minus : c = '-'
      · subst minus
        exact .inr (.inl ⟨rest, rfl, rfl⟩)
      refine .inr (.inr ⟨?_, by simpa using plus, by simpa using minus⟩)
      simp only [splitSign]
      split <;> simp_all

theorem spells_iff (s : String) (n : Int) :
    Spells s n ↔
      (splitSign s.toList).2 ≠ [] ∧ (splitSign s.toList).2.all Char.isDigit = true ∧
        n = signed (splitSign s.toList).1 (decimalFrom 0 (splitSign s.toList).2) := by
  constructor
  · rintro ⟨sign, digits, text, shape, nonempty, allDigits, rfl⟩
    have digitsAll : digits.all Char.isDigit = true := List.all_eq_true.mpr allDigits
    rcases shape with rfl | rfl | rfl
    · -- no sign: the text starts with a digit, and a digit is no sign
      obtain ⟨d, ds, rfl⟩ := List.exists_cons_of_ne_nil nonempty
      have digit : d.isDigit = true := allDigits d List.mem_cons_self
      have unsigned : splitSign s.toList = (false, s.toList) := by
        rcases splitSign_cases s.toList with ⟨rest, signed, -⟩ | ⟨rest, signed, -⟩ | ⟨split, -, -⟩
        · simp only [text, List.nil_append, List.cons.injEq] at signed
          rw [signed.1] at digit
          cases digit
        · simp only [text, List.nil_append, List.cons.injEq] at signed
          rw [signed.1] at digit
          cases digit
        · exact split
      rw [unsigned, text]
      simp [digitsAll]
    · simp [text, splitSign, digitsAll, nonempty]
    · simp [text, splitSign, digitsAll, nonempty]
  · rintro ⟨nonempty, allDigits, rfl⟩
    rcases splitSign_cases s.toList with ⟨rest, text, split⟩ | ⟨rest, text, split⟩ | ⟨split, -, -⟩ <;>
      rw [split] at nonempty allDigits ⊢
    · exact ⟨['+'], rest, text, .inr (.inl rfl), nonempty, List.all_eq_true.mp allDigits, rfl⟩
    · exact ⟨['-'], rest, text, .inr (.inr rfl), nonempty, List.all_eq_true.mp allDigits, rfl⟩
    · exact ⟨[], s.toList, rfl, .inl rfl, nonempty, List.all_eq_true.mp allDigits, rfl⟩

section Signed

variable (r : IntRange) (lo : r.lo ≤ 0) (hi : 0 ≤ r.hi)
include lo hi

theorem contains_signed_iff (negative : Bool) (n : Nat) :
    r.contains (signed negative n) = true ↔
      if negative then r.lo ≤ -(n : Int) else (n : Int) ≤ r.hi := by
  cases negative <;> simp [contains, signed] <;> omega

theorem contains_signed_mono {negative : Bool} {m n : Nat} (le : m ≤ n)
    (inRange : r.contains (signed negative n) = true) : r.contains (signed negative m) = true := by
  rw [contains_signed_iff r lo hi] at inRange ⊢
  cases negative <;> simp only [Bool.false_eq_true, if_false, if_true] at inRange ⊢ <;> omega

/-- The range checks of one step of reading: a value of either sign leaves the range only on
its own side. -/
theorem guards_eq {α : Type} (negative : Bool) (n : Nat) (k : Except IntError α) :
    (if signed negative n > r.hi then .error .tooLarge
      else if signed negative n < r.lo then .error .tooSmall else k) =
      if r.contains (signed negative n) then k
      else .error (if negative then .tooSmall else .tooLarge) := by
  cases negative
  · have notBelow : ¬ (n : Int) < r.lo := by omega
    by_cases above : (n : Int) > r.hi
    · have outside : r.contains (n : Int) = false := by simp [contains]; omega
      simp [signed, above, outside]
    · have inside : r.contains (n : Int) = true := by simp [contains]; omega
      simp [signed, above, notBelow, inside]
  · have notAbove : ¬ -(n : Int) > r.hi := by omega
    by_cases below : -(n : Int) < r.lo
    · have outside : r.contains (-(n : Int)) = false := by simp [contains]; omega
      simp [signed, notAbove, below, outside]
    · have inside : r.contains (-(n : Int)) = true := by simp [contains]; omega
      simp [signed, notAbove, below, inside]

/-- Reading digits onto a value of the range: the digits up to the first character that is no
digit decide whether the value leaves the range, and if it stays, an invalid character refuses
the rest. The induction runs over the digits, with the value so far generalised. -/
theorem readDigits_eq (negative : Bool) (cs : List Char) (m : Nat)
    (inRange : r.contains (signed negative m) = true) :
    r.readDigits negative cs (signed negative m) =
      if r.contains (signed negative (decimalFrom m (cs.takeWhile Char.isDigit))) then
        if cs.all Char.isDigit then .ok (signed negative (decimalFrom m cs))
        else .error .invalidDigit
      else .error (if negative then .tooSmall else .tooLarge) := by
  induction cs generalizing m with
  | nil => simp [readDigits, decimalFrom, inRange]
  | cons c rest ih =>
      by_cases digit : c.isDigit = true
      · simp only [readDigits, digitValue?_eq, digit, if_true, signed_step, guards_eq r lo hi,
          List.takeWhile_cons, List.all_cons, Bool.true_and, decimalFrom_cons]
        by_cases fits : r.contains (signed negative (10 * m + (c.toNat - '0'.toNat))) = true
        · rw [if_pos fits, ih _ fits]
        · -- the value left the range here, and more digits take it no nearer
          have beyond : r.contains (signed negative (decimalFrom (10 * m + (c.toNat - '0'.toNat))
              (rest.takeWhile Char.isDigit))) = false := by
            cases further : r.contains _
            · rfl
            · exact absurd (contains_signed_mono r lo hi (le_decimalFrom _ _) further) fits
          rw [if_neg fits, beyond]
          rfl
      · simp [readDigits, digitValue?_eq, digit, decimalFrom, inRange]

end Signed

theorem contains_signed_zero (r : IntRange) (lo : r.lo ≤ 0) (hi : 0 ≤ r.hi) (negative : Bool) :
    r.contains (signed negative 0) = true := by
  cases negative <;> simp [contains, signed] <;> omega

/-- Reading a text for a signed range: an empty text is refused as empty; otherwise the digits
right after the sign decide whether the value leaves the range, and if it stays, the text must
be a sign and one or more digits. -/
theorem parse_eq (r : IntRange) (lo : r.lo < 0) (hi : 0 ≤ r.hi) (s : String) :
    r.parse s =
      if s = "" then .error .empty
      else if r.contains (signed (splitSign s.toList).1 (decimalFrom 0 (leadingDigits s))) then
        if (splitSign s.toList).2 ≠ [] ∧ (splitSign s.toList).2.all Char.isDigit = true then
          .ok (signed (splitSign s.toList).1 (decimalFrom 0 (splitSign s.toList).2))
        else .error .invalidDigit
      else .error (if (splitSign s.toList).1 then .tooSmall else .tooLarge) := by
  have below : r.lo ≤ 0 := Int.le_of_lt lo
  have zero := contains_signed_zero r below hi
  have unsignedZero : (0 : Int) = signed false 0 := rfl
  have negativeZero : (0 : Int) = signed true 0 := by simp [signed]
  unfold parse
  split
  next text => simp [String.toList_eq_nil_iff.mp text]
  next text =>
    have nonempty : s ≠ "" := by rintro rfl; simp at text
    simp [nonempty, leadingDigits, text, splitSign, decimalFrom, zero]
  next text =>
    have nonempty : s ≠ "" := by rintro rfl; simp at text
    simp [nonempty, leadingDigits, text, splitSign, decimalFrom, zero]
  next rest more text =>
    have nonempty : s ≠ "" := by rintro rfl; simp at text
    have digitsAfter : rest ≠ [] := more
    rw [unsignedZero, readDigits_eq r below hi false rest 0 (zero false)]
    simp [nonempty, leadingDigits, text, splitSign, digitsAfter]
  next rest more text =>
    have nonempty : s ≠ "" := by rintro rfl; simp at text
    have digitsAfter : rest ≠ [] := more
    rw [if_pos lo, negativeZero, readDigits_eq r below hi true rest 0 (zero true)]
    simp [nonempty, leadingDigits, text, splitSign, digitsAfter]
  next empty _ _ notPlus notMinus =>
    have nonempty : s ≠ "" := fun same => empty (String.toList_eq_nil_iff.mpr same)
    have unsigned : splitSign s.toList = (false, s.toList) := by
      rcases splitSign_cases s.toList with ⟨rest, text, -⟩ | ⟨rest, text, -⟩ | ⟨split, -, -⟩
      · exact absurd text (notPlus rest)
      · exact absurd text (notMinus rest)
      · exact split
    rw [unsignedZero, readDigits_eq r below hi false _ 0 (zero false)]
    simp [nonempty, leadingDigits, unsigned]

theorem contains_signed_eq_false_iff (r : IntRange) (lo : r.lo ≤ 0) (hi : 0 ≤ r.hi)
    (negative : Bool) (n : Nat) :
    r.contains (signed negative n) = false ↔
      (negative = false ∧ r.hi < n) ∨ (negative = true ∧ -(n : Int) < r.lo) := by
  cases negative <;> simp [contains, signed] <;> omega

section Signed

variable {r : IntRange} (lo : r.lo < 0) (hi : 0 ≤ r.hi)
include lo hi

theorem parse_eq_ok_iff (s : String) (n : Int) :
    r.parse s = .ok n ↔ Spells s n ∧ r.contains n = true := by
  rw [parse_eq r lo hi, spells_iff]
  by_cases empty : s = ""
  · subst empty
    simp [splitSign]
  rw [if_neg empty]
  by_cases fits : r.contains (signed (splitSign s.toList).1 (decimalFrom 0 (leadingDigits s))) = true
  · rw [if_pos fits]
    by_cases shape : (splitSign s.toList).2 ≠ [] ∧ (splitSign s.toList).2.all Char.isDigit = true
    · -- the digits after the sign are the whole magnitude
      have whole : leadingDigits s = (splitSign s.toList).2 := takeWhile_eq_self shape.2
      rw [if_pos shape]
      rw [whole] at fits
      constructor
      · intro read
        cases read
        exact ⟨⟨shape.1, shape.2, rfl⟩, fits⟩
      · rintro ⟨⟨-, -, rfl⟩, -⟩
        rfl
    · rw [if_neg shape]
      simp only [reduceCtorEq, false_iff]
      exact fun ⟨⟨nonempty, digits, _⟩, _⟩ => shape ⟨nonempty, digits⟩
  · rw [if_neg fits]
    simp only [reduceCtorEq, false_iff]
    rintro ⟨⟨-, digits, rfl⟩, inRange⟩
    rw [leadingDigits, takeWhile_eq_self digits] at fits
    exact fits inRange

theorem parse_eq_error_iff (s : String) (e : IntError) :
    r.parse s = .error e ↔ Refusal r s e := by
  have overflow := contains_signed_eq_false_iff r (Int.le_of_lt lo) hi
    (splitSign s.toList).1 (decimalFrom 0 (leadingDigits s))
  rw [parse_eq r lo hi]
  by_cases empty : s = ""
  · subst empty
    simp only [if_true, Except.error.injEq]
    constructor
    · rintro rfl
      exact .empty rfl
    · intro refusal
      cases refusal with
      | empty _ => rfl
      | tooLarge _ above => simp [leadingDigits, splitSign, decimalFrom] at above; omega
      | tooSmall negative _ => simp [splitSign] at negative
      | invalidDigit nonempty _ _ => exact absurd rfl nonempty
  rw [if_neg empty]
  by_cases fits : r.contains (signed (splitSign s.toList).1 (decimalFrom 0 (leadingDigits s))) = true
  · -- the number stays in range: an error can only be an invalid digit
    have noOverflow : ∀ e, Refusal r s e → e = .invalidDigit := by
      intro e refusal
      cases refusal with
      | empty same => exact absurd same empty
      | tooLarge positive above => simp [overflow.mpr (.inl ⟨positive, above⟩)] at fits
      | tooSmall negative below => simp [overflow.mpr (.inr ⟨negative, below⟩)] at fits
      | invalidDigit => rfl
    rw [if_pos fits]
    by_cases shape : (splitSign s.toList).2 ≠ [] ∧ (splitSign s.toList).2.all Char.isDigit = true
    · rw [if_pos shape]
      simp only [reduceCtorEq, false_iff]
      intro refusal
      obtain rfl := noOverflow e refusal
      cases refusal with
      | invalidDigit _ _ spellsNone =>
          exact spellsNone _ ((spells_iff s _).mpr ⟨shape.1, shape.2, rfl⟩)
    · rw [if_neg shape, Except.error.injEq]
      refine ⟨?_, fun refusal => (noOverflow e refusal).symm⟩
      rintro rfl
      refine .invalidDigit empty fits fun n spelled => shape ?_
      obtain ⟨nonempty, digits, -⟩ := (spells_iff s n).mp spelled
      exact ⟨nonempty, digits⟩
  · -- the number leaves the range on the side of its sign
    rw [if_neg fits, Except.error.injEq]
    rcases overflow.mp (by simpa using fits) with ⟨positive, above⟩ | ⟨negative, below⟩
    · rw [positive]
      constructor
      · rintro rfl
        exact .tooLarge positive above
      · intro refusal
        cases refusal with
        | empty same => exact absurd same empty
        | tooLarge => rfl
        | tooSmall negative _ => simp [positive] at negative
        | invalidDigit _ inRange _ => exact absurd inRange fits
    · rw [negative]
      constructor
      · rintro rfl
        exact .tooSmall negative below
      · intro refusal
        cases refusal with
        | empty same => exact absurd same empty
        | tooLarge positive _ => simp [negative] at positive
        | tooSmall => rfl
        | invalidDigit _ inRange _ => exact absurd inRange fits

end Signed

example : i64.parse "99999999999999999999x" = .error .tooLarge := rfl

end IntRange

namespace IntRange

theorem i64_lo_neg : i64.lo < 0 := by decide

theorem i64_hi_nonneg : 0 ≤ i64.hi := by decide

theorem i64_contains_of_bounds {n : Int} (lower : -999 ≤ n) (upper : n ≤ 999) :
    i64.contains n = true := by
  simp only [contains, i64, Bool.and_eq_true]
  exact ⟨decide_eq_true (by omega), decide_eq_true (by omega)⟩

theorem exists_refusal_iff {r : IntRange} (lo : r.lo < 0) (hi : 0 ≤ r.hi) (s : String) :
    (∃ e, Refusal r s e) ↔ ¬ ∃ n, Spells s n ∧ r.contains n = true := by
  simp only [← parse_eq_error_iff lo hi, ← parse_eq_ok_iff lo hi]
  cases r.parse s with
  | ok n => simp
  | error e => simp

end IntRange

namespace Form

open IntRange (Spells)

theorem bounded_eq_invalidInteger_iff (s : String) (e : IntError) :
    bounded s = .error (.invalidInteger s e) ↔ IntRange.i64.parse s = .error e := by
  unfold bounded
  cases IntRange.i64.parse s with
  | error e' => simp
  | ok v =>
      dsimp only
      split <;> simp

theorem bounded_eq_ok_iff_spells (s : String) (n : Int) :
    bounded s = .ok n ↔ Spells s n ∧ -999 ≤ n ∧ n ≤ 999 := by
  rw [bounded_eq_ok_iff, IntRange.parse_eq_ok_iff IntRange.i64_lo_neg IntRange.i64_hi_nonneg]
  constructor
  · rintro ⟨⟨spelled, -⟩, lower, upper⟩
    exact ⟨spelled, lower, upper⟩
  · rintro ⟨spelled, lower, upper⟩
    exact ⟨⟨spelled, IntRange.i64_contains_of_bounds lower upper⟩, lower, upper⟩

theorem bounded_of_outside {s : String} {n : Int} (spelled : Spells s n)
    (within : IntRange.i64.contains n = true) (outside : n < -999 ∨ 999 < n) :
    bounded s = .error (.outOfRange n (-999) 999) := by
  have read : IntRange.i64.parse s = .ok n :=
    (IntRange.parse_eq_ok_iff IntRange.i64_lo_neg IntRange.i64_hi_nonneg s n).mpr ⟨spelled, within⟩
  have notWithin : ¬ (priorityMin ≤ n ∧ n ≤ priorityMax) := by
    simp only [priorityMin, priorityMax]
    omega
  unfold bounded
  rw [read]
  dsimp only
  rw [if_neg notWithin]
  rfl

theorem channel_eq_error_iff (s : String) (e : Error) :
    channel s = .error e ↔
      bounded s = .error e ∨ ∃ v, bounded s = .ok v ∧ v < 0 ∧ e = .outOfRange v 0 999 := by
  unfold channel
  cases bounded s with
  | error e' => simp [bind, Except.bind]
  | ok v =>
      by_cases negative : v < 0
      · simp [bind, Except.bind, negative, throw, throwThe, MonadExceptOf.throw, priorityMax,
          eq_comm]
      · simp [bind, Except.bind, negative, pure, Except.pure]

/-- The integer fields accept exactly the integers of their ranges that the text spells. The
priority field refuses a text that spells no 64-bit integer as Rust reads it, and any other
number outside [-999, 999] as out of that range; the channel field refuses the same, and a
negative number of the priority range as outside [0, 999]. -/
theorem integer_fields_exact_ranges (s : String) :
    (∀ n, bounded s = .ok n ↔ Spells s n ∧ -999 ≤ n ∧ n ≤ 999) ∧
    (∀ e, bounded s = .error (.invalidInteger s e) ↔ IntRange.i64.Refusal s e) ∧
    ((∃ e, IntRange.i64.Refusal s e) ↔ ¬ ∃ n, Spells s n ∧ IntRange.i64.contains n = true) ∧
    (∀ n, Spells s n → IntRange.i64.contains n = true → n < -999 ∨ 999 < n →
      bounded s = .error (.outOfRange n (-999) 999)) ∧
    (∀ c : Nat, channel s = .ok c ↔ Spells s c ∧ c ≤ 999) ∧
    (∀ e, channel s = .error (.invalidInteger s e) ↔ IntRange.i64.Refusal s e) ∧
    (∀ n, Spells s n → -999 ≤ n → n < 0 → channel s = .error (.outOfRange n 0 999)) ∧
    (∀ n, Spells s n → IntRange.i64.contains n = true → n < -999 ∨ 999 < n →
      channel s = .error (.outOfRange n (-999) 999)) := by
  have refusal : ∀ e, bounded s = .error (.invalidInteger s e) ↔ IntRange.i64.Refusal s e :=
    fun e => (bounded_eq_invalidInteger_iff s e).trans
      (IntRange.parse_eq_error_iff IntRange.i64_lo_neg IntRange.i64_hi_nonneg s e)
  refine ⟨bounded_eq_ok_iff_spells s, refusal,
    IntRange.exists_refusal_iff IntRange.i64_lo_neg IntRange.i64_hi_nonneg s,
    fun n spelled within outside => bounded_of_outside spelled within outside,
    fun c => ?_, fun e => ?_, fun n spelled lower negative => ?_,
    fun n spelled within outside => ?_⟩
  · rw [channel_eq_ok_iff, IntRange.parse_eq_ok_iff IntRange.i64_lo_neg IntRange.i64_hi_nonneg]
    constructor
    · rintro ⟨⟨spelled, -⟩, upper⟩
      exact ⟨spelled, upper⟩
    · rintro ⟨spelled, upper⟩
      exact ⟨⟨spelled, IntRange.i64_contains_of_bounds (by omega) (by omega)⟩, upper⟩
  · -- a channel adds only an out-of-range error of its own
    rw [channel_eq_error_iff, ← refusal]
    simp
  · have read : bounded s = .ok n := (bounded_eq_ok_iff_spells s n).mpr ⟨spelled, lower, by omega⟩
    exact (channel_eq_error_iff s _).mpr (.inr ⟨n, read, negative, rfl⟩)
  · exact (channel_eq_error_iff s _).mpr (.inl (bounded_of_outside spelled within outside))

end Form

end NetConsole
