import NetConsole.Cli.Usage

/-! Reading a command line word by word. An argument's values are checked when the argument is
complete, so of two mistakes the earlier one is reported; required arguments are checked after
the command's last word, the program's own options after the command's. -/

namespace NetConsole.Cli

inductive Stop where
  | display (text : String)  -- to standard output; the program succeeds
  | refuse (text : String)  -- to standard error; the program exits with 2
  deriving DecidableEq, Repr

abbrev Given := List (String × List String)

namespace Given

def has (g : Given) (id : String) : Bool := g.any (·.1 == id)

def values (g : Given) (id : String) : List String := ((g.find? (·.1 == id)).map (·.2)).getD []

def ids (g : Given) : List String := g.map (·.1)

def add (g : Given) (id : String) (vs : List String) : Given :=
  if g.has id then g.map fun (k, xs) => if k == id then (k, xs ++ vs) else (k, xs)
  else g ++ [(id, vs)]

end Given

structure Reading where
  given : Given := []
  pending : Option (ArgSpec × List String) := none
  awaiting : Bool := false
  position : Nat := 0
  escaped : Bool := false

inductive Word where
  | command (c : CommandSpec)
  | escape
  | long (name : String) (value : Option String)
  | short (flags : List Char)
  | value
  | positional

def Word.classify (lv : Level) (r : Reading) (word : String) : Word :=
  if r.escaped then .positional
  else
    match (if r.awaiting then none else lv.commands.find? (·.name == word)) with
    | some c => .command c
    | none =>
      if word == "--" then .escape
      else if word.startsWith "--" then
        match (word.drop 2).toString.splitOn "=" with
        | name :: first :: more => .long name (some ("=".intercalate (first :: more)))
        | _ => .long (word.drop 2).toString none
      else if word.startsWith "-" && word.length > 1 then .short (word.drop 1).toString.toList
      else if r.awaiting then .value
      else .positional

def looksLikeFlag (word : String) : Bool := word.startsWith "-" && word != "-" && word != "--"

namespace Level

def unexpected (lv : Level) (word : String) (tips : List String) (usage : String) : Stop :=
  .refuse (lv.refusal ("unexpected argument '" ++ word ++ "' found") tips (some usage))

def passAsValue (word : String) : String := "to pass '" ++ word ++ "' as a value, use '-- " ++ word ++ "'"

def similarTip (what : String) : List String → List String
  | [] => []
  | [one] => ["a similar " ++ what ++ " exists: '" ++ one ++ "'"]
  | many => ["some similar " ++ what ++ "s exist: " ++ ", ".intercalate (many.map fun m => "'" ++ m ++ "'")]

/-- Records an argument with its values: their number is checked, a second use of a
single-valued argument is refused, and then each value is checked in turn. Help and the version
stop reading. What was recorded before a refusal is kept, for the usage line of a later one. -/
def record (lv : Level) (a : ArgSpec) (values : List String) (r : Reading) :
    Reading × Option Stop :=
  if a.id == helpFlag.id then (r, some (.display lv.help))
  else if a.id == versionFlag.id then (r, some (.display lv.version))
  else if a.takesValue && values.isEmpty then
    (r, some (.refuse (lv.refusal ("a value is required for '" ++ a.display ++ "' but none was supplied")
      [] none)))
  else if !a.many && r.given.has a.id then
    (r, some (.refuse (lv.refusal ("the argument '" ++ a.display ++ "' cannot be used multiple times")
      [] (some lv.fullUsage))))
  else
    let r := { r with given := r.given.add a.id [] }
    match values.findSome? fun v => (a.check v).map (v, ·) with
    | some (v, reason) =>
      (r, some (.refuse (lv.refusal ("invalid value '" ++ v ++ "' for '" ++ a.display ++ "': " ++ reason)
        [] none)))
    | none => ({ r with given := r.given.add a.id values }, none)

def settle (lv : Level) (r : Reading) : Reading × Option Stop :=
  match r.pending with
  | none => (r, none)
  | some (a, vs) => lv.record a vs { r with pending := none, awaiting := false }

def settled (lv : Level) (r : Reading) : Except Stop Reading :=
  match lv.settle r with
  | (r, none) => pure r
  | (_, some stop) => throw stop

def take (lv : Level) (a : ArgSpec) (values : List String) (r : Reading) : Except Stop Reading := do
  let r ← lv.settled r
  match lv.record a values r with
  | (r, none) => pure r
  | (_, some stop) => throw stop

/-- A long flag naming no argument: refused with the nearest flag of this command, or else with
the nearest flag of a command named later on the line. -/
def unknownLong (p : ProgramSpec) (lv : Level) (r : Reading) (name : String)
    (later : List String) : Stop :=
  let r := (lv.settle r).1
  let word := "--" ++ name
  let nearest := fun (args : List ArgSpec) => (similar name (args.filterMap (·.long))).getLast?
  match nearest lv.args with
  | some flag =>
    let given := match lv.args.find? (·.long == some flag) with
      | some a => r.given.add a.id []
      | none => r.given
    lv.unexpected word ["a similar argument exists: '--" ++ flag ++ "'"] (lv.usageFor given.ids)
  | none =>
    let elsewhere := lv.commands.filterMap fun c =>
      (nearest (commandArgs p c)).bind fun flag => (later.idxOf? c.name).map fun i => (i, c.name, flag)
    let best := elsewhere.foldl (fun best x => match best with
      | some b => if x.1 < b.1 then some x else some b
      | none => some x) none
    match best with
    | some (_, command, flag) =>
      lv.unexpected word ["'" ++ command ++ " --" ++ flag ++ "' exists"] (lv.usageFor r.given.ids)
    | none =>
      lv.unexpected word (if lv.positionals.isEmpty then [] else [passAsValue word])
        (lv.usageFor r.given.ids)

def stray (lv : Level) (r : Reading) (word : String) : Stop :=
  if r.escaped && lv.commands.any (·.name == word) then
    lv.unexpected word ["subcommand '" ++ word ++ "' exists; to use it, remove the '--' before it"]
      lv.fullUsage
  else
    let asValue := !r.escaped && !lv.positionals.isEmpty && looksLikeFlag word
    let unrecognized := fun tips =>
      Stop.refuse (lv.refusal ("unrecognized subcommand '" ++ word ++ "'") tips (some lv.fullUsage))
    let near := similar word (lv.commands.map (·.name))
    if !lv.commands.isEmpty && !near.isEmpty then
      unrecognized (similarTip "subcommand" near ++
        (if asValue then ["to pass '" ++ word ++ "' as a value, use '" ++ lv.usageName ++ " -- " ++ word ++ "'"]
         else []))
    else if !lv.commands.isEmpty && lv.positionals.isEmpty then unrecognized []
    else lv.unexpected word (if asValue then [passAsValue word] else []) lv.fullUsage

def longFlag (p : ProgramSpec) (lv : Level) (r : Reading) (name : String) (value : Option String)
    (later : List String) : Except Stop Reading :=
  match lv.args.find? (·.long == some name) with
  | none => throw (lv.unknownLong p r name later)
  | some a =>
    match a.takesValue, value with
    | true, some v => lv.take a [v] r
    | true, none => do
      let r ← lv.settled r
      pure { r with pending := some (a, []), awaiting := true }
    | false, some v =>
      let named := (r.given.ids.filter fun id => !(lv.args.any fun b => b.id == id && b.required)) ++ [a.id]
      throw (.refuse (lv.refusal ("unexpected value '" ++ v ++ "' for '" ++ a.display ++
        "' found; no more were expected") [] (some (lv.usageFor named))))
    | false, none => lv.take a [] r

/-- A group of short flags: each is taken in turn, and one that takes a value takes the rest of
the word, or else the next word. -/
def shortFlags (lv : Level) (r : Reading) : List Char → Except Stop Reading
  | [] => pure r
  | c :: rest =>
    match lv.args.find? (·.short == some c) with
    | none =>
      let word := "-" ++ c.toString
      throw (lv.unexpected word (if lv.positionals.isEmpty then [] else [passAsValue word]) lv.fullUsage)
    | some a =>
      if a.takesValue then
        match rest with
        | [] => do
          let r ← lv.settled r
          pure { r with pending := some (a, []), awaiting := true }
        | '=' :: v => lv.take a [String.ofList v] r
        | v => lv.take a [String.ofList v] r
      else do
        let r ← lv.take a [] r
        lv.shortFlags r rest

def positional (lv : Level) (r : Reading) (word : String) : Except Stop Reading :=
  match lv.positionals[r.position]? with
  | none => throw (lv.stray (lv.settle r).1 word)
  | some a => do
    let r ← lv.settled r
    pure { r with pending := some (a, [word]), position := if a.many then r.position else r.position + 1 }

/-- Reads the words of one command up to the name of a command below it, which is returned with
the words after it. -/
def read (p : ProgramSpec) (lv : Level) : Reading → List String →
    Except Stop (Reading × Option (CommandSpec × List String))
  | r, [] => pure (r, none)
  | r, word :: rest =>
    match Word.classify lv r word with
    | .command c => pure (r, some (c, rest))
    | .escape => lv.read p { r with escaped := true } rest
    | .long name value => do lv.read p (← lv.longFlag p r name value rest) rest
    | .short flags => do lv.read p (← lv.shortFlags r flags) rest
    | .value =>
      let r := match r.pending with
        | some (a, vs) => { r with pending := some (a, vs ++ [word]), awaiting := false }
        | none => r
      lv.read p r rest
    | .positional => do lv.read p (← lv.positional r word) rest

def missing (lv : Level) (g : Given) : List String :=
  let absent := lv.args.filter fun a => a.required && !g.has a.id
  let last := (lv.positionals.zipIdx.filter fun (a, _) => absent.any (·.id == a.id)).foldl
    (fun n (_, i) => max n (i + 1)) 0
  let before := (lv.positionals.zipIdx.filter fun (a, i) => i + 1 < last && !g.has a.id).map (·.1)
  (absent ++ before).map (·.id)

def finish (lv : Level) (r : Reading) : Except Stop Given := do
  let r ← lv.settled r
  let absent := lv.missing r.given
  if absent.isEmpty then pure r.given
  else
    let lines := (lv.requiredUsage absent r.given.ids).map ("\n  " ++ ·)
    throw (.refuse (lv.refusal ("the following required arguments were not provided:" ++ String.join lines)
      [] (some (lv.shortUsage (r.given.ids ++ absent)))))

end Level

def helpFor (p : ProgramSpec) : Level → List String → Stop
  | lv, [] => .display lv.help
  | lv, name :: rest =>
    match lv.commands.find? (·.name == name) with
    | some c => helpFor p (commandLevel p c) rest
    | none => .refuse (lv.refusal ("unrecognized subcommand '" ++ name ++ "'") [] (some lv.fullUsage))

structure CommandLine where
  options : Given
  command : CommandSpec
  args : Given

def readCommandLine (p : ProgramSpec) (words : List String) : Except Stop CommandLine := do
  let top := topLevel p
  let (r, named) ← top.read p {} words
  match named with
  | some (c, rest) =>
    if c.name == helpCommand.name then throw (helpFor p top rest)
    else
      let lv := commandLevel p c
      let (cr, _) ← lv.read p {} rest
      let args ← lv.finish cr
      let options ← top.settled r
      pure { options := options.given, command := c, args }
  | none =>
    let r ← top.settled r
    if r.given.isEmpty then throw (.refuse top.help)
    else
      let names := ", ".intercalate (top.commands.map (·.name))
      throw (.refuse (top.refusal ("'" ++ p.name ++ "' requires a subcommand but one was not provided" ++
        "\n  [subcommands: " ++ names ++ "]") [] (some top.fullUsage)))

end NetConsole.Cli
