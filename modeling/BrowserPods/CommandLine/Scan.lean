/-!
Scanning the arguments of a command.  Every option takes one value, after an equals sign or as the
next argument, and may be given once.  The value of the next argument is looked at only when the
option is settled: before the next option counts and at the end.
-/

namespace BrowserPods.CommandLine

/-- Why the arguments name no command to run. -/
inductive UsageError where
  | helpWanted
  | versionWanted
  /-- Nothing is given at all. -/
  | nothingGiven
  | commandMissing
  | commandUnknown
  | optionMissing
  | optionRepeated
  | argumentUnknown
  /-- An option has no value, or one that it does not take. -/
  | valueUnusable
  /-- An option that takes no value has one. -/
  | valueUnwanted
deriving DecidableEq, Repr

def UsageError.exitCode : UsageError → Nat
  | .helpWanted => 0
  | .versionWanted => 0
  | _ => 2

structure OptionSpec where
  /-- The name after two dashes. -/
  name : String
  /-- The environment variable with the value of an option that is not given. -/
  envVariable : Option String := none
  /-- The value if there is no other. -/
  default : Option String := none
  /-- Whether the value is a path, which must not be empty. -/
  isPath : Bool := false
  /-- Whether there must be a value. -/
  isRequired : Bool := false
deriving DecidableEq, Repr

structure Grammar where
  options : List OptionSpec
  /-- Whether the command tells its version. -/
  tellsVersion : Bool := false
  /-- The commands that may follow. -/
  commands : List String := []
deriving Repr

namespace Grammar

def option? (grammar : Grammar) (name : String) : Option OptionSpec :=
  grammar.options.find? (·.name = name)

end Grammar

/-- The option that is not settled yet. -/
inductive Unsettled where
  | nothing
  /-- The option waits for its value. -/
  | waiting (option : OptionSpec)
  | holding (option : OptionSpec) (value : String)
deriving DecidableEq, Repr

/-- What is known after some arguments. -/
structure Scan where
  /-- The settled options with their values. -/
  given : List (String × String) := []
  unsettled : Unsettled := .nothing
deriving DecidableEq, Repr

namespace Scan

def accepts (option : OptionSpec) (value : String) : Bool := !(option.isPath && value = "")

def give (scan : Scan) (option : OptionSpec) (value : String) : Except UsageError Scan :=
  if (scan.given.lookup option.name).isSome then .error .optionRepeated
  else if accepts option value then
    .ok { given := scan.given ++ [(option.name, value)], unsettled := .nothing }
  else .error .valueUnusable

def settle (scan : Scan) : Except UsageError Scan :=
  match scan.unsettled with
  | .nothing => .ok scan
  | .waiting _ => .error .valueUnusable
  | .holding option value => scan.give option value

/-- The name and the value of an argument that begins with two dashes. -/
def longParts? (arg : String) : Option (String × Option String) :=
  match arg.toList with
  | '-' :: '-' :: rest =>
    let value := match rest.dropWhile (· ≠ '=') with
      | [] => none
      | _ :: cs => some (String.ofList cs)
    some (String.ofList (rest.takeWhile (· ≠ '=')), value)
  | _ => none

/-- The letters of an argument that begins with one dash. -/
def shortParts? (arg : String) : Option (List Char) :=
  match arg.toList with
  | '-' :: '-' :: _ => none
  | ['-'] => none
  | '-' :: letters => some letters
  | _ => none

/-- The error that a flag for help or the version ends the scan with, once the option before is
settled. -/
def stop (scan : Scan) (reason : UsageError) : UsageError :=
  match scan.settle with
  | .error error => error
  | .ok _ => reason

def readLong (grammar : Grammar) (scan : Scan) (name : String) (value : Option String) :
    Except UsageError Scan :=
  match grammar.option? name with
  | some option =>
    scan.settle.bind fun settled =>
      match value with
      | some value => settled.give option value
      | none => .ok { settled with unsettled := .waiting option }
  | none =>
    let flag (reason : UsageError) : Except UsageError Scan :=
      .error (if value.isSome then .valueUnwanted else scan.stop reason)
    if name = "help" then flag .helpWanted
    else if name = "version" ∧ grammar.tellsVersion then flag .versionWanted
    else .error .argumentUnknown

/-- The error that an argument with one dash ends the scan with: only flags have letters. -/
def readShort (grammar : Grammar) (scan : Scan) : List Char → UsageError
  | 'h' :: _ => scan.stop .helpWanted
  | 'V' :: _ => if grammar.tellsVersion then scan.stop .versionWanted else .argumentUnknown
  | _ => .argumentUnknown

/-- The error of an argument that is neither option nor value.  Where a command is wanted it is
taken for an unknown one, unless it is a command in the wrong place. -/
def misplaced (grammar : Grammar) (arg : String) : UsageError :=
  if grammar.commands.isEmpty || grammar.commands.contains arg then .argumentUnknown
  else .commandUnknown

/-- Scans arguments, up to the first command if there is one; the command is given with the
arguments after it. -/
def run (grammar : Grammar) (scan : Scan) :
    List String → Except UsageError (Scan × Option (String × List String))
  | [] => .ok (scan, none)
  | arg :: rest =>
    if arg = "--" then
      match rest with
      | [] => .ok (scan, none)
      | next :: _ => .error (misplaced grammar next)
    else
      match scan.unsettled, longParts? arg, shortParts? arg with
      | _, some (name, value), _ =>
        (readLong grammar scan name value).bind fun next => run grammar next rest
      | _, none, some letters => .error (readShort grammar scan letters)
      | .waiting option, none, none =>
        run grammar { scan with unsettled := .holding option arg } rest
      | _, none, none =>
        if grammar.commands.contains arg then .ok (scan, some (arg, rest))
        else .error (misplaced grammar arg)

/-- The values of the options that are given in the environment or by default. -/
def complete (grammar : Grammar) (env : String → Option String) (scan : Scan) :
    Except UsageError (List (String × String)) :=
  let fromEnv := grammar.options.filterMap fun option =>
    if (scan.given.lookup option.name).isSome then none
    else (option.envVariable.bind env).map fun value => (option, value)
  if fromEnv.all fun (option, value) => accepts option value then
    let given := scan.given ++ fromEnv.map fun (option, value) => (option.name, value)
    let defaults := grammar.options.filterMap fun option =>
      if (given.lookup option.name).isSome then none
      else option.default.map fun value => (option.name, value)
    .ok (given ++ defaults)
  else .error .valueUnusable

def hasRequired (grammar : Grammar) (values : List (String × String)) : Bool :=
  grammar.options.all fun option => !option.isRequired || (values.lookup option.name).isSome

end Scan

end BrowserPods.CommandLine
