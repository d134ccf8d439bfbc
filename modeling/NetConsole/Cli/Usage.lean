import NetConsole.Cli.Spec
import NetConsole.Text.Blank

/-! Usage lines, help pages and the messages of refused command lines. A near miss of a name is
suggested when the two are more than 0.7 alike by the Jaro measure, in double precision. -/

namespace NetConsole.Cli

def termWidth : Nat := 100

def spaces (n : Nat) : String := String.ofList (List.replicate n ' ')

def trimEnd (s : String) : String :=
  String.ofList (s.toList.reverse.dropWhile Text.isBlank).reverse

def ArgSpec.extras (a : ArgSpec) : String :=
  match a.default with
  | some d => "[default: " ++ (if d.any Text.isBlank then Text.debugQuote d else d) ++ "]"
  | none => ""

def ArgSpec.fullHelp (a : ArgSpec) : String :=
  if a.extras.isEmpty then a.help
  else if a.help.isEmpty then a.extras
  else a.help ++ " " ++ a.extras

def ArgSpec.column (a : ArgSpec) : String :=
  if a.isPositional then a.display
  else
    (match a.short, a.long with
      | some c, some _ => "-" ++ c.toString ++ ", "
      | some _, none => ""
      | none, _ => "    ") ++ a.display

def ArgSpec.usageText (a : ArgSpec) : String :=
  if a.isPositional then ({ a with required := true } : ArgSpec).display else a.display

def helpBeneath (entries : List (String × String)) : Bool :=
  let longest := entries.foldl (fun n e => max n e.1.length) 2
  let taken := longest + 4
  taken ≤ termWidth && taken * 100 > 40 * termWidth &&
    entries.any fun e => e.2.length > termWidth - taken

def sectionLines (entries : List (String × String)) : List String :=
  let longest := entries.foldl (fun n e => max n e.1.length) 2
  if helpBeneath entries then
    entries.map fun (column, help) => "  " ++ column ++ "\n" ++ spaces 10 ++ help
  else
    entries.map fun (column, help) => "  " ++ column ++ spaces (longest - column.length + 2) ++ help

def helpSection (title : String) (entries : List (String × String)) : String :=
  if entries.isEmpty then "" else "\n\n" ++ title ++ ":\n" ++ "\n".intercalate (sectionLines entries)

/-- The arguments a command understands, in the order they are looked up and listed. The help
command takes only the names of commands. -/
def commandArgs (p : ProgramSpec) (c : CommandSpec) : List ArgSpec :=
  if c.name == "help" then c.args else c.args ++ p.globals ++ [helpFlag]

def topArgs (p : ProgramSpec) : List ArgSpec := p.globals ++ [helpFlag, versionFlag]

def allCommands (p : ProgramSpec) : List CommandSpec := p.commands ++ [helpCommand]

structure Level where
  usageName : String
  about : String
  args : List ArgSpec
  commands : List CommandSpec := []
  hasHelpFlag : Bool := true
  version : String := ""

def topLevel (p : ProgramSpec) : Level :=
  { usageName := p.name, about := p.about, args := topArgs p, commands := allCommands p
    version := p.name ++ " " ++ p.version ++ "\n" }

def commandLevel (p : ProgramSpec) (c : CommandSpec) : Level :=
  { usageName := p.name ++ " " ++ c.name, about := c.about, args := commandArgs p c
    hasHelpFlag := c.name != "help" }

namespace Level

def positionals (lv : Level) : List ArgSpec := lv.args.filter (·.isPositional)

def options (lv : Level) : List ArgSpec := lv.args.filter (!·.isPositional)

def commandSlot (lv : Level) : String := if lv.commands.isEmpty then "" else " <COMMAND>"

def hasOptions (lv : Level) : Bool :=
  lv.options.any fun a => a.id != helpFlag.id && a.id != versionFlag.id && !a.required

def fullUsage (lv : Level) : String :=
  lv.usageName ++ (if lv.hasOptions then " [OPTIONS]" else "") ++
    String.join (lv.positionals.map (" " ++ ·.display)) ++ lv.commandSlot

/-- The required arguments and those of `named`, skipping those `present`, as a refusal lists
them: options in the order named, then positional arguments in their order. -/
def requiredUsage (lv : Level) (named present : List String) : List String :=
  let ids := ((lv.args.filter (·.required)).map (·.id) ++ named).filter (!present.contains ·)
  let options := (ids.filterMap fun id => lv.options.find? (·.id == id)).map (·.usageText)
  let options := options.foldl (fun acc o => if acc.contains o then acc else acc ++ [o]) []
  let positionals := (lv.positionals.filter fun a => ids.contains a.id).map (·.usageText)
  options ++ positionals.filter (!options.contains ·)

/-- The short usage line: the required options and those of `named`, then every positional
argument, as if required when it is required or named and in brackets otherwise. -/
def shortUsage (lv : Level) (named : List String) : String :=
  let ids := (lv.args.filter (·.required)).map (·.id) ++ named
  let options := (ids.filterMap fun id => lv.options.find? (·.id == id)).map (·.usageText)
  let options := options.foldl (fun acc o => if acc.contains o then acc else acc ++ [o]) []
  let positionals := lv.positionals.map fun a => if ids.contains a.id then a.usageText else a.display
  lv.usageName ++ String.join ((options ++ positionals).map (" " ++ ·)) ++ lv.commandSlot

def usageFor (lv : Level) (named : List String) : String :=
  if named.isEmpty then lv.fullUsage else lv.shortUsage named

def help (lv : Level) : String :=
  let commandEntries := lv.commands.map fun c => (c.name, c.about)
  let entries := fun (args : List ArgSpec) => args.map fun a => (a.column, a.fullHelp)
  trimEnd (lv.about ++ "\n\nUsage: " ++ lv.fullUsage ++ helpSection "Commands" commandEntries ++
    helpSection "Arguments" (entries lv.positionals) ++
    helpSection "Options" (entries lv.options)) ++ "\n"

def refusal (lv : Level) (message : String) (tips : List String) (usage : Option String) :
    String :=
  "error: " ++ message ++
    (if tips.isEmpty then "" else "\n" ++ String.join (tips.map ("\n  tip: " ++ ·))) ++
    (match usage with
      | some u => "\n\nUsage: " ++ u
      | none => "") ++
    (if lv.hasHelpFlag then "\n\nFor more information, try '--help'.\n" else "\n")

end Level

/-- How alike two names are, from 0 to 1: the characters that match within half the longer
length of each other, less half of those out of order. -/
def jaro (a b : String) : Float :=
  let xs := a.toList
  let ys := b.toList
  if xs.isEmpty && ys.isEmpty then 1
  else if xs.isEmpty || ys.isEmpty then 0
  else
    let range := max xs.length ys.length / 2 - 1
    -- each character of `a` takes the first free equal character of `b` in range
    let (matchedA, usedB) := xs.zipIdx.foldl (fun (acc : List Char × List Bool) (c, i) =>
      let (ms, used) := acc
      let hi := min ys.length (i + range + 1)
      match (List.range hi).find? fun j => i - range ≤ j && ys[j]? == some c && used[j]? == some false with
      | some j => (ms ++ [c], used.set j true)
      | none => (ms, used)) ([], List.replicate ys.length false)
    let matchedB := (ys.zip usedB).filterMap fun (c, u) => if u then some c else none
    let m := matchedA.length
    let t := ((matchedA.zip matchedB).filter fun (x, y) => x != y).length / 2
    if m = 0 then 0
    else (m.toFloat / xs.length.toFloat + m.toFloat / ys.length.toFloat +
      (m - t).toFloat / m.toFloat) / 3

def similar (name : String) (names : List String) : List String :=
  let scored := names.filterMap fun n =>
    let score := jaro name n
    if score > 0.7 then some (n, score) else none
  (scored.mergeSort fun x y => x.2 ≤ y.2).map (·.1)

end NetConsole.Cli
