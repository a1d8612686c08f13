import CodeWiki.Text.Basic

/-!
The command line. The program has one command, which takes a reference, two options with a value and
a flag; help and version are shown in place of everything else. Arguments are looked at one by one,
and the first that cannot be understood settles what is reported.
-/
namespace CodeWiki.CommandLine

structure Request where
  reference : Text
  /-- The settings file. -/
  config : Option Text := none
  /-- The file for the document. -/
  output : Option Text := none
  /-- Whether results are not to be retained. -/
  noCache : Bool := false
deriving DecidableEq, Repr

/-- What is shown or reported if nothing is to be generated. -/
inductive Refusal where
  | help
  | version
  /-- There is no command, so help is shown. -/
  | missingCommand
  | unknownCommand
  | unknownArgument
  | missingReference
  /-- An option has no value or an empty one. -/
  | missingValue
  /-- A flag has a value. -/
  | unexpectedValue
  /-- An option or a flag is repeated. -/
  | repeated
deriving DecidableEq, Repr

namespace Refusal

/-- The exit code: success for what the user has asked for. -/
def exitCode : Refusal → Nat
  | help | version => 0
  | _ => 2

end Refusal

def generateName : Text := "generate"

def helpName : Text := "help"

def isCommand (word : Text) : Bool := word = generateName || word = helpName

/-- The kinds of arguments: the end of all options, an option with its name and the value attached
to it, a cluster of short flags, and a word. A hyphen alone is a word. -/
inductive Argument where
  | endOfOptions
  | long (name : Text) (value : Option Text)
  | short (flags : Text)
  | word (content : Text)
deriving DecidableEq, Repr

def Argument.ofText (t : Text) : Argument :=
  match t with
  | ['-', '-'] => endOfOptions
  | '-' :: '-' :: t =>
    match Text.cut? ['='] t with
    | some (name, value) => long name (some value)
    | none => long t none
  | ['-'] => word t
  | '-' :: flags => short flags
  | t => word t

inductive ValueOption where
  | config
  | output
deriving DecidableEq, Repr

def ValueOption.ofName? (name : Text) : Option ValueOption :=
  if name = "config".toList then some config
  else if name = "output".toList then some output
  else none

/-- An option whose value has not been taken in yet, with that value if it has come. -/
structure Pending where
  option : ValueOption
  value : Option Text := none
deriving DecidableEq, Repr

/-- What is known of the request while the arguments of the command are looked at. -/
structure Draft where
  reference : Option Text := none
  config : Option Text := none
  output : Option Text := none
  noCache : Bool := false
  pending : Option Pending := none
deriving DecidableEq, Repr

namespace Draft

def value? (d : Draft) : ValueOption → Option Text
  | .config => d.config
  | .output => d.output

def withValue (d : Draft) (value : Text) : ValueOption → Draft
  | .config => { d with config := some value }
  | .output => { d with output := some value }

/-- Takes in the value of an option, which may be given once and not be empty. -/
def take (d : Draft) (option : ValueOption) (value : Text) : Except Refusal Draft :=
  if (d.value? option).isSome then .error .repeated
  else if value.isEmpty then .error .missingValue
  else .ok (d.withValue value option)

def settle (d : Draft) : Except Refusal Draft :=
  match d.pending with
  | none => .ok d
  | some { value := none, .. } => .error .missingValue
  | some { option, value := some value } => { d with pending := none }.take option value

def long (d : Draft) (name : Text) (value : Option Text) : Except Refusal Draft := do
  match ValueOption.ofName? name with
  | some option =>
    let d ← d.settle
    match value with
    | some value => d.take option value
    | none => .ok { d with pending := some { option } }
  | none =>
    if name = "no-cache".toList then
      if value.isSome then .error .unexpectedValue
      else
        let d ← d.settle
        if d.noCache then .error .repeated else .ok { d with noCache := true }
    else if name = helpName then
      if value.isSome then .error .unexpectedValue
      else
        let _ ← d.settle
        .error .help
    else .error .unknownArgument

/-- A cluster of short flags, of which the first decides. -/
def short (d : Draft) (flags : Text) : Except Refusal Draft := do
  if flags.head? = some 'h' then
    let _ ← d.settle
    .error .help
  else .error .unknownArgument

/-- A word that is no option's value: the reference. -/
def positional (d : Draft) (word : Text) : Except Refusal Draft := do
  if d.reference.isSome then .error .unknownArgument
  else
    let d ← d.settle
    .ok { d with reference := some word }

/-- A word, which is the value of the pending option if that still lacks one. -/
def word (d : Draft) (word : Text) : Except Refusal Draft :=
  match d.pending with
  | some { option, value := none } => .ok { d with pending := some { option, value := some word } }
  | _ => d.positional word

/-- Looks at arguments one after another; behind the end of all options everything is positional. -/
def read (d : Draft) : (optionsEnded : Bool) → List Text → Except Refusal Draft
  | _, [] => d.settle
  | true, arg :: rest => do (← d.positional arg).read true rest
  | false, arg :: rest => do
    match Argument.ofText arg with
    | .endOfOptions => d.read true rest
    | .long name value => (← d.long name value).read false rest
    | .short flags => (← d.short flags).read false rest
    | .word content => (← d.word content).read false rest

def request (d : Draft) : Except Refusal Request :=
  match d.reference with
  | some reference =>
    .ok { reference, config := d.config, output := d.output, noCache := d.noCache }
  | none => .error .missingReference

end Draft

def readGenerate (args : List Text) : Except Refusal Request := do
  (← ({} : Draft).read false args).request

/-- What the command for help comes to: help, if its arguments name at most one command. -/
def readHelp (names : List Text) : Refusal :=
  match names with
  | [] => .help
  | [name] => if isCommand name then .help else .unknownCommand
  | _ => .unknownCommand

/-- What an option in front of the command comes to. -/
def readLong (name : Text) (value : Option Text) : Refusal :=
  if name = helpName || name = "version".toList then
    if value.isSome then .unexpectedValue else if name = helpName then .help else .version
  else .unknownArgument

/-- What short flags in front of the command come to. -/
def readShort (flags : Text) : Refusal :=
  match flags with
  | 'h' :: _ => .help
  | 'V' :: _ => .version
  | _ => .unknownArgument

/-- What a word behind the end of all options comes to; a command has to stand in front of it. -/
def readMisplaced : List Text → Refusal
  | [] => .missingCommand
  | word :: _ => if isCommand word then .unknownArgument else .unknownCommand

/-- The request of a command line, given without the name of the program. -/
def parse : List Text → Except Refusal Request
  | [] => .error .missingCommand
  | arg :: rest =>
    match Argument.ofText arg with
    | .endOfOptions => .error (readMisplaced rest)
    | .long name value => .error (readLong name value)
    | .short flags => .error (readShort flags)
    | .word content =>
      if content = generateName then readGenerate rest
      else if content = helpName then .error (readHelp rest)
      else .error .unknownCommand

end CodeWiki.CommandLine
