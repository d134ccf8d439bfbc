namespace NetConsole.Text

def sequenceLength (b : Nat) : Nat :=
  if b < 0x80 then 1
  else if 0xC2 ≤ b ∧ b ≤ 0xDF then 2
  else if 0xE0 ≤ b ∧ b ≤ 0xEF then 3
  else if 0xF0 ≤ b ∧ b ≤ 0xF4 then 4
  else 0

def firstTailRange (b : Nat) : Nat × Nat :=
  if b = 0xE0 then (0xA0, 0xBF)
  else if b = 0xED then (0x80, 0x9F)
  else if b = 0xF0 then (0x90, 0xBF)
  else if b = 0xF4 then (0x80, 0x8F)
  else (0x80, 0xBF)

def isFirstTail (b : Nat) (t : UInt8) : Bool :=
  (firstTailRange b).1 ≤ t.toNat && t.toNat ≤ (firstTailRange b).2

def isTail (t : UInt8) : Bool := 0x80 ≤ t.toNat && t.toNat ≤ 0xBF

def low6 (t : UInt8) : Nat := t.toNat % 64

def lossyChars : List UInt8 → List Char
  | [] => []
  | b :: rest =>
    let n := sequenceLength b.toNat
    if n = 1 then Char.ofNat b.toNat :: lossyChars rest
    else if n = 0 then '�' :: lossyChars rest
    else
      match rest with
      | [] => ['�']
      | t1 :: r1 =>
        if !isFirstTail b.toNat t1 then '�' :: lossyChars (t1 :: r1)
        else if n = 2 then Char.ofNat ((b.toNat % 32) * 64 + low6 t1) :: lossyChars r1
        else
          match r1 with
          | [] => ['�']
          | t2 :: r2 =>
            if !isTail t2 then '�' :: lossyChars (t2 :: r2)
            else if n = 3 then
              Char.ofNat ((b.toNat % 16) * 4096 + low6 t1 * 64 + low6 t2) :: lossyChars r2
            else
              match r2 with
              | [] => ['�']
              | t3 :: r3 =>
                if !isTail t3 then '�' :: lossyChars (t3 :: r3)
                else
                  Char.ofNat ((b.toNat % 8) * 262144 + low6 t1 * 4096 + low6 t2 * 64 + low6 t3)
                    :: lossyChars r3

def lossy (bytes : List UInt8) : String := String.ofList (lossyChars bytes)

/-- Where the first invalid run starts, and its length, or `none` as its length when the
octets end inside a sequence. `none` overall when every octet belongs to a character. -/
def firstInvalid (bytes : List UInt8) (index : Nat := 0) : Option (Nat × Option Nat) :=
  match bytes with
  | [] => none
  | b :: rest =>
    let n := sequenceLength b.toNat
    if n = 1 then firstInvalid rest (index + 1)
    else if n = 0 then some (index, some 1)
    else
      match rest with
      | [] => some (index, none)
      | t1 :: r1 =>
        if !isFirstTail b.toNat t1 then some (index, some 1)
        else if n = 2 then firstInvalid r1 (index + 2)
        else
          match r1 with
          | [] => some (index, none)
          | t2 :: r2 =>
            if !isTail t2 then some (index, some 2)
            else if n = 3 then firstInvalid r2 (index + 3)
            else
              match r2 with
              | [] => some (index, none)
              | t3 :: r3 =>
                if !isTail t3 then some (index, some 3) else firstInvalid r3 (index + 4)

def invalidMessage (bytes : List UInt8) : Option String :=
  (firstInvalid bytes).map fun
    | (i, some len) => s!"invalid utf-8 sequence of {len} bytes from index {i}"
    | (i, none) => s!"incomplete utf-8 byte sequence from index {i}"

def encode (s : String) : List UInt8 := s.toUTF8.toList

end NetConsole.Text
