import AttachGate.Text.Basic

/-!
# Options on a command line

Options have long names after two dashes and may have a letter after one.  A
value follows as the next argument, after an equals sign, or right after the
letter; the last value given for an option counts.  Two dashes alone end the
options.
-/

namespace AttachGate.CommandLine

/-- An option: its names, and whether it takes a value. -/
structure OptionSpec where
  long : Text
  letter : Option CodePoint
  takesValue : Bool

/-- An option as it was given, by its long name. -/
structure Given where
  name : Text
  value : Text

structure Split where
  options : List Given
  operands : List Text

def dash : CodePoint := CodePoint.ofChar '-'
def equals : CodePoint := CodePoint.ofChar '='

/-- Whether an argument is written as an option: a dash and something after
it. -/
def isOption (argument : Text) : Bool := argument.head? = some dash && 1 < argument.length

/-- Takes a value for an option: the one attached to it, else the next
argument. -/
def takeValue (attached : Option Text) (rest : List Text) : Option (Text × List Text) :=
  match attached, rest with
  | some value, rest => some (value, rest)
  | none, value :: rest => some (value, rest)
  | none, [] => none

/-- Reads letters after one dash.  A letter that takes a value takes the rest of
the argument if there is one. -/
def readLetters (specs : List OptionSpec) :
    Text → List Text → Option (List Given × List Text)
  | [], rest => some ([], rest)
  | c :: more, rest => do
    let spec ← specs.find? fun spec => spec.letter == some c
    if spec.takesValue then
      let (value, rest) ← takeValue (if more.isEmpty then none else some more) rest
      pure ([⟨spec.long, value⟩], rest)
    else
      let (given, rest) ← readLetters specs more rest
      pure (⟨spec.long, []⟩ :: given, rest)

/-- Reads an argument that is written as an option, with the arguments after
it. -/
def readOption (specs : List OptionSpec) (argument : Text) (rest : List Text) :
    Option (List Given × List Text) :=
  let name := argument.takeWhile (· ≠ equals)
  let attached := if argument.contains equals then some (argument.drop (name.length + 1)) else none
  match specs.find? fun spec => spec.long = name with
  | some spec =>
    if spec.takesValue then do
      let (value, rest) ← takeValue attached rest
      pure ([⟨spec.long, value⟩], rest)
    else if attached.isSome then none
    else some ([⟨spec.long, []⟩], rest)
  | none =>
    if argument.take 2 = [dash, dash] then none else readLetters specs (argument.drop 1) rest

/-- Splits a command line.  Where options may not follow operands, the first
operand ends the options; `fuel` is at least the number of arguments. -/
def splitWithin (specs : List OptionSpec) (interspersed : Bool) :
    Nat → List Text → Option Split
  | _, [] => some ⟨[], []⟩
  | 0, _ => none
  | fuel + 1, argument :: rest =>
    if argument = [dash, dash] then some ⟨[], rest⟩
    else if isOption argument then do
      let (given, rest) ← readOption specs argument rest
      let split ← splitWithin specs interspersed fuel rest
      pure { split with options := given ++ split.options }
    else if interspersed then do
      let split ← splitWithin specs interspersed fuel rest
      pure { split with operands := argument :: split.operands }
    else some ⟨[], argument :: rest⟩

/-- Splits a command line, unless an option is unknown or lacks its value. -/
def split? (specs : List OptionSpec) (interspersed : Bool) (arguments : List Text) :
    Option Split :=
  splitWithin specs interspersed arguments.length arguments

/-- The last value given for an option. -/
def Split.value? (s : Split) (name : Text) : Option Text :=
  (s.options.reverse.find? fun given => given.name = name).map Given.value

def Split.has (s : Split) (name : Text) : Bool := s.options.any fun given => given.name = name

end AttachGate.CommandLine
