import SurveyExport.Entries
import SurveyExport.Text.Blank
import SurveyExport.Text.Search

/-!
# The grammar of command lines

A command line is a list of words. A word that begins with `--` names an option, with its value
after `=` or in the next word; a word that begins with a single `-` is a run of the letters of
options, where the rest of the word after a letter whose option takes a value is that value. A value
in a word of its own must not look like an option. The options of a level end where one of its
commands is named.

Words are read from left to right, and an option counts once its value is known, which is when the
next option or the end of the level comes. So a call for help in front of a fault is answered.
-/

namespace SurveyExport.Command

/-- What the value of an option must be. -/
inductive ValueRule where
  /-- A path, which is not empty. -/
  | path
  | text
  | oneOf (names : List String)
deriving DecidableEq, Repr

/-- Whether a text is a value. -/
def ValueRule.accepts : ValueRule → String → Bool
  | path, s => s ≠ ""
  | text, _ => true
  | oneOf names, s => names.contains s

/-- How an option is given. -/
inductive OptionRule where
  /-- At most once, without a value. -/
  | flag
  /-- Any number of times, without a value. -/
  | count
  /-- At most once, with a value. -/
  | single (rule : ValueRule)
  /-- Any number of times, with values that commas separate. -/
  | many
  /-- The option asks for help. -/
  | help
  /-- The option asks for the version. -/
  | version
deriving DecidableEq, Repr

/-- Whether options are given with a value. -/
def OptionRule.takesValue : OptionRule → Bool
  | single _ | many => true
  | flag | count | help | version => false

/-- An option: its name, its letter if it has one, and how it is given. -/
structure OptionSpec where
  name : String
  letter : Option Char := none
  rule : OptionRule
deriving DecidableEq, Repr

/-- Why the words of a level are not read to their end. -/
inductive Stop where
  /-- Help is asked for. -/
  | help
  /-- The version is asked for. -/
  | version
  /-- The words are no command line. -/
  | misuse
deriving DecidableEq, Repr

/-- The options that were given, with their values. -/
abbrev Given := List (String × List String)

namespace Given

/-- Whether an option was given. -/
def has (g : Given) (name : String) : Bool := (Entries.lookup name g).isSome

/-- The values of an option, if it was given. -/
def values? (g : Given) (name : String) : Option (List String) := Entries.lookup name g

/-- The only value of an option, if it was given. -/
def value? (g : Given) (name : String) : Option String := (g.values? name).bind (·.head?)

/-- Adds an option with its value, if it is given with one. -/
def add (g : Given) (o : OptionSpec) (value : Option String) : Except Stop Given :=
  match o.rule, value with
  | .help, _ => .error .help
  | .version, _ => .error .version
  | .flag, _ => if g.has o.name then .error .misuse else .ok (Entries.put o.name [] g)
  | .count, _ => .ok (Entries.put o.name [] g)
  | .single rule, some v =>
    if g.has o.name || !rule.accepts v then .error .misuse else .ok (Entries.put o.name [v] g)
  | .many, some v =>
    .ok (Entries.put o.name ((g.values? o.name).getD [] ++ Text.splitAt ',' v) g)
  | .single _, none => .error .misuse
  | .many, none => .error .misuse

end Given

/-- How far the words of a level have been read. -/
structure Scan where
  given : Given := []
  /-- The last option, while it does not count yet, and its value once that was read. -/
  last : Option (OptionSpec × Option String) := none

namespace Scan

/-- Whether the next word may be a value. -/
def awaitsValue (s : Scan) : Bool :=
  match s.last with
  | some (_, none) => true
  | _ => false

/-- The options that were given once the last one counts. -/
def settled (s : Scan) : Except Stop Given :=
  match s.last with
  | none => .ok s.given
  | some (o, value) => s.given.add o value

/-- Reads an option, with the value that is attached to it. -/
def option (s : Scan) (o : OptionSpec) (attached : Option String) : Except Stop Scan := do
  if o.rule.takesValue then
    let given ← s.settled
    match attached with
    | some v => return { given := ← given.add o (some v) }
    | none => return { given, last := some (o, none) }
  else if attached.isSome then .error .misuse
  else return { given := ← (← s.settled).add o none }

/-- Reads a word of letters. -/
def letters (specs : List OptionSpec) : List Char → Scan → Except Stop Scan
  | [], s => .ok s
  | c :: cs, s =>
    match specs.find? (·.letter == some c) with
    | none => .error .misuse
    | some o =>
      if o.rule.takesValue then
        s.option o <| match cs with
          | [] => none
          | '=' :: value => some (String.ofList value)
          | value => some (String.ofList value)
      else do letters specs cs (← s.option o none)

/-- Reads a word that names an option, without the dashes. -/
def named (specs : List OptionSpec) (word : String) (s : Scan) : Except Stop Scan :=
  let name := String.ofList (word.toList.takeWhile (· != '='))
  let attached := match word.toList.dropWhile (· != '=') with
    | [] => none
    | _ :: value => some (String.ofList value)
  match specs.find? (·.name == name) with
  | none => .error .misuse
  | some o => s.option o attached

end Scan

/-- Where the words of a level end: a command was named, and words follow it. -/
abbrev Named := Option (String × List String)

/-- Reads the words of a level. -/
def scan (specs : List OptionSpec) (commands : List String) :
    List String → Scan → Except Stop (Scan × Named)
  | [], s => .ok (s, none)
  | word :: rest, s =>
    if !s.awaitsValue && commands.contains word then .ok (s, some (word, rest))
    else
      match word.toList with
      | ['-', '-'] => if rest.isEmpty then .ok (s, none) else .error .misuse
      | '-' :: '-' :: name => do
        scan specs commands rest (← s.named specs (String.ofList name))
      | '-' :: c :: cs => do scan specs commands rest (← s.letters specs (c :: cs))
      | _ =>
        match s.last with
        | some (o, none) => scan specs commands rest { s with last := some (o, some word) }
        | _ => .error .misuse

/-- The options of a level that was read, if they go together. -/
def Scan.level (s : Scan) (conflicts : List (String × String)) (needed : List String) :
    Except Stop Given := do
  let given ← s.settled
  if conflicts.any fun c ↦ given.has c.1 && given.has c.2 then .error .misuse
  else if needed.all given.has then .ok given
  else .error .misuse

end SurveyExport.Command
