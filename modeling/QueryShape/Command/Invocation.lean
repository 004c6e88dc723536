import QueryShape.Command.Arguments
import QueryShape.Schema.Relations

/-!
# Invocations

What the arguments ask for: one of five commands, with its parameters.
-/

namespace QueryShape.Command

inductive Task where
  /-- Lists what is wrong with a schema. -/
  | check (schema : String) (strict : Bool)
  /-- Prints the relations of all entities of a schema, or of one. -/
  | graph (schema : String) (entity : Option String) (maxDepth : Nat)
  /-- Prints the selection for a specification. -/
  | compile (schema entity spec : String) (maxDepth : Nat)
  /-- Reshapes data and prints the result. -/
  | parse (schema entity spec input : String) (array : Bool) (maxDepth : Nat)
  | version
deriving DecidableEq, Repr

structure Invocation where
  task : Task
  quiet : Bool
deriving DecidableEq, Repr

/-- The commands by their names. -/
inductive Verb where
  | check
  | graph
  | compile
  | parse
  | version
deriving DecidableEq, Repr

def Verb.named : Keyed Verb :=
  [("check", .check), ("graph", .graph), ("compile", .compile), ("parse", .parse),
    ("version", .version)]

namespace Parameter

def verbose : Parameter := ⟨"verbose", some 'v', .raiseFlag⟩
def quiet : Parameter := ⟨"quiet", some 'q', .raiseFlag⟩
def help : Parameter := ⟨"help", some 'h', .showHelp⟩
def version : Parameter := ⟨"version", some 'V', .showVersion⟩
def schema : Parameter := ⟨"schema", none, .takeValue .path⟩
def strict : Parameter := ⟨"strict", none, .raiseFlag⟩
def entity : Parameter := ⟨"entity", some 'e', .takeValue .text⟩
def spec : Parameter := ⟨"spec", some 's', .takeValue .text⟩
def input : Parameter := ⟨"input", some 'i', .takeValue .path⟩
def array : Parameter := ⟨"array", none, .raiseFlag⟩
def maxDepth : Parameter := ⟨"max-depth", none, .takeValue .count⟩

end Parameter

/-- The name of the command that shows help on the others. -/
def helpCommand : String := "help"

/-- What may stand in front of the name of a command. -/
def outerLevel : Level where
  options := [.verbose, .quiet, .help, .version]
  operand := none
  commands := Verb.named.keys ++ [helpCommand]

/-- The options of a command beside those that all commands have. -/
def Verb.options : Verb → List Parameter
  | .check => [.strict]
  | .graph => [.entity, .maxDepth]
  | .compile => [.entity, .spec, .maxDepth]
  | .parse => [.entity, .spec, .input, .array, .maxDepth]
  | .version => []

def Verb.level (verb : Verb) : Level where
  options := verb.options ++ [.verbose, .quiet, .help]
  operand := if verb = .version then none else some .schema
  commands := []

/-- The value of a parameter that has to be given. -/
def required (given : Keyed String) (parameter : Parameter) : Except UsageError String :=
  match given.get? parameter.name with
  | some value => .ok value
  | none => .error .missingArgument

def isGiven (given : Keyed String) (parameter : Parameter) : Bool :=
  given.contains parameter.name

def valueOr (given : Keyed String) (parameter : Parameter) (otherwise : String) : String :=
  (given.get? parameter.name).getD otherwise

def depthOf (given : Keyed String) : Nat :=
  ((given.get? Parameter.maxDepth.name).bind countOfText?).getD Schema.defaultDepth

/-- The task of a command with the given parameters. -/
def Verb.task (verb : Verb) (given : Keyed String) : Except UsageError Task :=
  match verb with
  | .check => return .check (← required given .schema) (isGiven given .strict)
  | .graph =>
      return .graph (← required given .schema) (given.get? Parameter.entity.name) (depthOf given)
  | .compile =>
      return .compile (← required given .schema) (← required given .entity)
        (valueOr given .spec "\x7b\x7d") (depthOf given)
  | .parse =>
      return .parse (← required given .schema) (← required given .entity)
        (valueOr given .spec "\x7b\x7d") (valueOr given .input "-") (isGiven given .array)
        (depthOf given)
  | .version => return .version

/-- Help on no command or on one that there is. -/
def helpOn (names : List String) : UsageError :=
  match names with
  | [] => .helpAsked
  | [name] => if outerLevel.commands.contains name then .helpAsked else .unknownCommand
  | _ => .unknownCommand

def Invocation.ofArguments (arguments : List String) : Except UsageError Invocation := do
  let (outer, command) ← outerLevel.read {} false arguments
  match command with
  | none => throw (if outer.isEmpty then .nothingAsked else .missingCommand)
  | some (name, rest) =>
      match Verb.named.get? name with
      | none => throw (helpOn rest)
      | some verb => do
          let (inner, _) ← verb.level.read {} false rest
          let task ← verb.task inner
          return { task, quiet := isGiven outer .quiet || isGiven inner .quiet }

end QueryShape.Command
