namespace NetConsole.Flags

def has (bits flag : UInt32) : Bool := bits &&& flag == flag

def hexText (n : Nat) : String := String.ofList (Nat.toDigits 16 n)

def text (table : List (String × UInt32)) (bits : UInt32) : String :=
  let named := table.filter fun (_, flag) => flag != 0 && has bits flag
  let known := named.foldl (fun acc (_, flag) => acc ||| flag) 0
  let rest := bits &&& ~~~known
  let terms := named.map (·.1) ++ (if rest == 0 then [] else ["0x" ++ hexText rest.toNat])
  " | ".intercalate terms

end NetConsole.Flags
