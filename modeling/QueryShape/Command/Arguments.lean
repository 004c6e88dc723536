import QueryShape.Keyed

/-!
# Command-line arguments

Arguments are read from left to right.  An option has a long name after two dashes, or a letter
after one; letters without values may stand together.  The value of an option is attached to it or
is the next argument.  After `--` every argument is an operand.

A value is taken when the next argument that is an option or an operand has been recognized, so an
unknown argument is found before a fault of the value in front of it.
-/

namespace QueryShape.Command

/-- Why arguments do not make an invocation. -/
inductive UsageError where
  | helpAsked
  | versionAsked
  | nothingAsked
  | missingCommand
  | unknownCommand
  | unknownArgument
  | missingArgument
  | repeatedArgument
  | missingValue
  | invalidValue
  | unexpectedValue
deriving DecidableEq, Repr

inductive ValueKind where
  | text
  | path
  | count
deriving DecidableEq, Repr

/-- What happens when a parameter is given. -/
inductive Effect where
  | raiseFlag
  | takeValue (kind : ValueKind)
  | showHelp
  | showVersion
deriving DecidableEq, Repr

/-- An option, or the operand of a command, which has no letter. -/
structure Parameter where
  name : String
  letter : Option Char
  effect : Effect
deriving DecidableEq, Repr

/-- What may be given to a command. -/
structure Level where
  options : List Parameter
  operand : Option Parameter
  commands : List String

/-- A natural number that fits 64 bits, with or without a plus sign. -/
def countOfText? (text : String) : Option Nat :=
  let digits := match text.toList with
    | '+' :: digits => digits
    | digits => digits
  let value := digits.foldl (fun sum digit => sum * 10 + (digit.toNat - '0'.toNat)) 0
  if !digits.isEmpty && digits.all Char.isDigit && value < Nat.pow 2 64 then some value else none

/-- The parameters that have been given, and the one whose value is not taken yet. -/
structure Progress where
  given : Keyed String := []
  pending : Option (Parameter × Option String) := none
  operandGiven : Bool := false

namespace Progress

/-- Whether the next argument may be the value of an option. -/
def isAwaiting (progress : Progress) : Bool :=
  match progress.pending with
  | some (_, none) => true
  | _ => false

def take (progress : Progress) (parameter : Parameter) (value : String) :
    Except UsageError Progress :=
  if progress.given.contains parameter.name then
    .error .repeatedArgument
  else
    match parameter.effect with
    | .takeValue .path =>
        if value = "" then .error .missingValue
        else .ok { progress with given := progress.given.insert parameter.name value }
    | .takeValue .count =>
        if (countOfText? value).isNone then .error .invalidValue
        else .ok { progress with given := progress.given.insert parameter.name value }
    | _ => .ok { progress with given := progress.given.insert parameter.name value }

/-- Takes the pending value. -/
def settle (progress : Progress) : Except UsageError Progress :=
  match progress.pending with
  | none => .ok progress
  | some (_, none) => .error .missingValue
  | some (parameter, some value) => { progress with pending := none }.take parameter value

/-- An option without a value. -/
def raise (progress : Progress) (parameter : Parameter) : Except UsageError Progress := do
  let progress ← progress.settle
  match parameter.effect with
  | .showHelp => throw .helpAsked
  | .showVersion => throw .versionAsked
  | _ => progress.take parameter "true"

/-- An option whose value is attached to it. -/
def attach (progress : Progress) (parameter : Parameter) (value : List Char) :
    Except UsageError Progress := do
  (← progress.settle).take parameter (String.ofList value)

/-- An option whose value is the next argument. -/
def await (progress : Progress) (parameter : Parameter) : Except UsageError Progress := do
  return { (← progress.settle) with pending := some (parameter, none) }

end Progress

namespace Level

def withName? (level : Level) (name : List Char) : Option Parameter :=
  level.options.find? fun option => option.name.toList = name

def withLetter? (level : Level) (letter : Char) : Option Parameter :=
  level.options.find? fun option => option.letter = some letter

/-- Options by their letters.  What follows the letter of an option with a value is the value. -/
def readLetters (level : Level) : Progress → List Char → Except UsageError Progress
  | progress, [] => .ok progress
  | progress, letter :: rest =>
      match level.withLetter? letter with
      | none => .error .unknownArgument
      | some parameter =>
          match parameter.effect, rest with
          | .takeValue _, [] => progress.await parameter
          | .takeValue _, '=' :: value => progress.attach parameter value
          | .takeValue _, value => progress.attach parameter value
          | _, rest => do level.readLetters (← progress.raise parameter) rest

/-- An option by its name, perhaps with a value after `=`. -/
def readName (level : Level) (progress : Progress) (text : List Char) :
    Except UsageError Progress :=
  match level.withName? (text.takeWhile (· ≠ '=')) with
  | none => .error .unknownArgument
  | some parameter =>
      match parameter.effect, text.dropWhile (· ≠ '=') with
      | .takeValue _, [] => progress.await parameter
      | .takeValue _, _ :: value => progress.attach parameter value
      | _, [] => progress.raise parameter
      | _, _ :: _ => .error .unexpectedValue

def readOperand (level : Level) (progress : Progress) (afterDashes : Bool) (argument : String) :
    Except UsageError Progress :=
  match level.operand, progress.operandGiven with
  | some operand, false => do
      let progress ← progress.settle
      return { progress with pending := some (operand, some argument), operandGiven := true }
  | _, _ =>
      if level.commands.isEmpty || (afterDashes && level.commands.contains argument) then
        .error .unknownArgument
      else
        .error .unknownCommand

/-- One argument in front of `--`, which is not the name of a command. -/
def readArgument (level : Level) (progress : Progress) (argument : String) :
    Except UsageError Progress :=
  match argument.toList with
  | '-' :: '-' :: text => level.readName progress text
  | '-' :: letter :: letters => level.readLetters progress (letter :: letters)
  | _ =>
      match progress.pending with
      | some (parameter, none) => .ok { progress with pending := some (parameter, some argument) }
      | _ => level.readOperand progress false argument

/-- Reads arguments up to the name of a command, which is given back with the arguments after it. -/
def read (level : Level) (progress : Progress) (afterDashes : Bool) :
    List String → Except UsageError (Keyed String × Option (String × List String))
  | [] => do return ((← progress.settle).given, none)
  | argument :: rest =>
      if afterDashes then do
        level.read (← level.readOperand progress true argument) true rest
      else if !progress.isAwaiting && level.commands.contains argument then do
        return ((← progress.settle).given, some (argument, rest))
      else if argument = "--" then
        level.read progress true rest
      else do
        level.read (← level.readArgument progress argument) false rest

end Level

end QueryShape.Command
