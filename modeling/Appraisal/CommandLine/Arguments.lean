/-!
# Arguments

The commands of the program and the arguments that they take. Options may stand between the other
arguments; after `--` nothing is an option.
-/

namespace Appraisal.CommandLine

inductive Command where
  | analyze (id : String) (strategy : Option String)
  | batch (ids : List String) (strategy : Option String)
  | strategies
  | analyzers
  | refreshQueue
  | importFile (path : String)
  deriving DecidableEq

/-- Why the arguments are no command. -/
inductive Refusal where
  | misuse
  | help
  deriving DecidableEq

structure Given where
  values : List String := []
  strategy : Option String := none
  deriving DecidableEq

structure Shape where
  /-- The least and, if there is one, the greatest number of values. -/
  least : Nat
  most : Option Nat
  takesStrategy : Bool
  deriving DecidableEq

def Shape.admits (shape : Shape) (count : Nat) : Bool := shape.most.all (count ≤ ·)

/-- Whether an argument looks like an option. A single dash does not. -/
def isOption (arg : String) : Bool := arg.startsWith "-" && arg ≠ "-"

def asksForHelp (arg : String) : Bool := arg = "--help" || arg.startsWith "-h"

def strategyOption : String := "--strategy"

def attachedStrategy? (arg : String) : Option String :=
  (arg.dropPrefix? (strategyOption ++ "=")).map toString

def Given.addStrategy (given : Given) (name : String) : Except Refusal Given :=
  if given.strategy.isSome then .error .misuse else .ok { given with strategy := some name }

def Given.addValue (shape : Shape) (given : Given) (value : String) : Except Refusal Given :=
  let values := given.values ++ [value]
  if shape.admits values.length then .ok { given with values } else .error .misuse

/-- Sorts the arguments of a command from left to right. -/
def scan (shape : Shape) (given : Given) : List String → Except Refusal Given
  | [] => .ok given
  | arg :: rest =>
    if arg = "--" then rest.foldlM (Given.addValue shape) given
    else if asksForHelp arg then .error .help
    else if shape.takesStrategy ∧ arg = strategyOption then
      match rest with
      | name :: rest =>
        if isOption name then .error .misuse
        else do scan shape (← given.addStrategy name) rest
      | [] => .error .misuse
    else if isOption arg then
      match attachedStrategy? arg with
      | some name =>
        if shape.takesStrategy then do scan shape (← given.addStrategy name) rest
        else .error .misuse
      | none => .error .misuse
    else do scan shape (← given.addValue shape arg) rest

def parseGiven (shape : Shape) (args : List String) : Except Refusal Given := do
  let given ← scan shape {} args
  if given.values.length < shape.least then .error .misuse else return given

def oneValue (takesStrategy : Bool) : Shape := ⟨1, some 1, takesStrategy⟩

def someValues : Shape := ⟨1, none, true⟩

def noValues : Shape := ⟨0, some 0, false⟩

def commandNames : List String :=
  ["analyze", "batch", "strategies", "analyzers", "refresh-queue", "import"]

/-- Help may be asked for one command at a time. -/
def parseHelp : List String → Refusal
  | [] => .help
  | [name] => if name = "help" ∨ name ∈ commandNames then .help else .misuse
  | _ => .misuse

def parse : List String → Except Refusal Command
  | [] => .error .misuse
  | "analyze" :: args => do
    let given ← parseGiven (oneValue true) args
    match given.values with
    | [id] => return .analyze id given.strategy
    | _ => .error .misuse
  | "batch" :: args => do
    let given ← parseGiven someValues args
    return .batch given.values given.strategy
  | "strategies" :: args => do
    discard (parseGiven noValues args)
    return .strategies
  | "analyzers" :: args => do
    discard (parseGiven noValues args)
    return .analyzers
  | "refresh-queue" :: args => do
    discard (parseGiven noValues args)
    return .refreshQueue
  | "import" :: args => do
    match (← parseGiven (oneValue false) args).values with
    | [path] => return .importFile path
    | _ => .error .misuse
  | "help" :: args => .error (parseHelp args)
  | arg :: _ => .error (if asksForHelp arg then .help else .misuse)

end Appraisal.CommandLine
