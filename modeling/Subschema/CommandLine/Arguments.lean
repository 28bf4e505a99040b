namespace Subschema.CommandLine

/-- An option that a command line may have. It has a long name, and perhaps a letter; its value may
follow it or be part of the same argument. -/
structure OptionSpec where
  name : String
  letter : Option Char := none
  takesValue : Bool := true
  /-- Whether it may be given more than once. -/
  repeatable : Bool := false

/-- An option as given, with its value if it takes one. -/
structure Occurrence where
  name : String
  value : Option String := none
  deriving DecidableEq

/-- What one argument is, seen alone. -/
inductive Shape where
  | operand
  | complete (occurrence : Occurrence)
  /-- The next argument is the value of the option. -/
  | awaiting (name : String)
  | unknown

/-- An option whose value, if any, is part of the argument. -/
def shapeOf (spec : Option OptionSpec) (value : Option String) : Shape :=
  match spec with
  | none => .unknown
  | some spec =>
    if spec.takesValue then
      match value with
      | some value => .complete ⟨spec.name, some value⟩
      | none => .awaiting spec.name
    else if value.isNone then .complete ⟨spec.name, none⟩
    else .unknown

/-- The name and the value of an argument after its two dashes. -/
def splitLong (cs : List Char) : String × Option String :=
  (String.ofList (cs.takeWhile (· != '=')),
    match cs.dropWhile (· != '=') with
    | _ :: value => some (String.ofList value)
    | [] => none)

/-- The value that stands right after the letter of an option, an equals sign before it left out. -/
def attachedValue : List Char → Option String
  | [] => none
  | '=' :: value => some (String.ofList value)
  | value => some (String.ofList value)

/-- What an argument is. A dash alone is an operand. -/
def classify (specs : List OptionSpec) (argument : String) : Shape :=
  match argument.toList with
  | '-' :: '-' :: cs =>
    let (name, value) := splitLong cs
    shapeOf (specs.find? fun spec => spec.name == name) value
  | '-' :: letter :: cs =>
    shapeOf (specs.find? fun spec => spec.letter == some letter) (attachedValue cs)
  | _ => .operand

/-- Whether an argument may be the value of the option before it. -/
def mayBeValue (argument : String) : Bool :=
  match argument.toList with
  | '-' :: _ :: _ => false
  | _ => true

/-- The options up to the first operand, and the arguments from there. Two dashes end the options,
and then no operand is left to look for. -/
def readOptions (specs : List OptionSpec) :
    List String → Option (List Occurrence × List String)
  | [] => some ([], [])
  | argument :: rest =>
    match classify specs argument with
    | .operand => some ([], argument :: rest)
    | .complete occurrence =>
      (readOptions specs rest).map fun (given, rest) => (occurrence :: given, rest)
    | .awaiting name =>
      match rest with
      | [] => none
      | value :: rest =>
        if mayBeValue value then
          (readOptions specs rest).map fun (given, rest) => (⟨name, some value⟩ :: given, rest)
        else none
    | .unknown => none

/-- Options and operands in any order. After two dashes everything is an operand. -/
def readArguments (specs : List OptionSpec) :
    List String → Option (List Occurrence × List String)
  | [] => some ([], [])
  | argument :: rest =>
    if argument = "--" then some ([], rest)
    else
      match classify specs argument with
      | .operand => (readArguments specs rest).map fun (given, operands) => (given, argument :: operands)
      | .complete occurrence =>
        (readArguments specs rest).map fun (given, operands) => (occurrence :: given, operands)
      | .awaiting name =>
        match rest with
        | [] => none
        | value :: rest =>
          if mayBeValue value then
            (readArguments specs rest).map fun (given, operands) =>
              (⟨name, some value⟩ :: given, operands)
          else none
      | .unknown => none

/-- The values given to an option. -/
def valuesOf (given : List Occurrence) (name : String) : List String :=
  (given.filter (·.name == name)).filterMap (·.value)

/-- Whether an option is given. -/
def isGiven (given : List Occurrence) (name : String) : Bool :=
  given.any (·.name == name)

/-- Whether no option is given more often than it may be. -/
def givenOnce (specs : List OptionSpec) (given : List Occurrence) : Bool :=
  specs.all fun spec => spec.repeatable || (given.filter (·.name == spec.name)).length ≤ 1

/-- The values of an option that may stand before and after a command: those after it, if there are
any. -/
def valuesOfBoth (outer inner : List Occurrence) (name : String) : List String :=
  if isGiven inner name then valuesOf inner name else valuesOf outer name

end Subschema.CommandLine
