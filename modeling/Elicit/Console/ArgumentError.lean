import Elicit.Console.Options

/-! Why a command line is not accepted. -/
namespace Elicit.Console

inductive CountFault where
  | empty
  | badDigit
  | tooLarge
  deriving DecidableEq, Repr

def CountFault.message : CountFault → String
  | .empty => "cannot parse integer from empty string"
  | .badDigit => "invalid digit found in string"
  | .tooLarge => "number too large to fit in target type"

inductive ArgumentError where
  | help
  | version
  | unknown (word : String)
  | missingValue (a : Argument)
  | unneededValue (a : Argument) (value : String)
  | repeated (a : Argument)
  | badCount (a : Argument) (value : String) (fault : CountFault)
  /-- The value is not one of the words it has to be one of. -/
  | badChoice (a : Argument) (value : String)
  /-- Two options exclude each other; the first stands first on the command line. -/
  | conflict (a b : Argument)
  | missing (a : Argument)
  deriving DecidableEq, Repr

namespace ArgumentError

def choicesText (a : Argument) : String :=
  if a.choices.isEmpty then ""
  else "\n  [possible values: " ++ String.intercalate ", " a.choices ++ "]"

/-- Why a command line is not accepted, in words; nothing for what asks for a text of its own. -/
def message : ArgumentError → String
  | .help | .version => ""
  | .unknown word => "error: unexpected argument '" ++ word ++ "' found"
  | .missingValue a =>
    "error: a value is required for '" ++ a.usage ++ "' but none was supplied" ++ choicesText a
  | .unneededValue a value =>
    "error: unexpected value '" ++ value ++ "' for '" ++ a.usage ++ "' found; no more were expected"
  | .repeated a => "error: the argument '" ++ a.usage ++ "' cannot be used multiple times"
  | .badCount a value fault =>
    "error: invalid value '" ++ value ++ "' for '" ++ a.usage ++ "': " ++ fault.message
  | .badChoice a value =>
    "error: invalid value '" ++ value ++ "' for '" ++ a.usage ++ "'" ++ choicesText a
  | .conflict a b =>
    "error: the argument '" ++ a.usage ++ "' cannot be used with '" ++ b.usage ++ "'"
  | .missing a =>
    "error: the following required arguments were not provided:\n  " ++ a.usage

/-- The exit code of the program: asking for a text is no failure. -/
def exitCode : ArgumentError → Nat
  | .help | .version => 0
  | _ => 2

end ArgumentError

end Elicit.Console
