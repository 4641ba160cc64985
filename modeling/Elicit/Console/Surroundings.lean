import Elicit.Command.Outcome

/-! What the program finds around it: environment variables, files and other programs. -/
namespace Elicit.Console

inductive ReadFault where
  | system (fault : SystemFault)
  | notUtf8
  deriving DecidableEq, Repr

def ReadFault.message : ReadFault → String
  | .system fault => fault.message
  | .notUtf8 => "stream did not contain valid UTF-8"

structure Surroundings where
  environment : String → Option String
  read : String → Except ReadFault String
  hasFile : String → Bool
  program? : String → Option String

inductive NoGenerator where
  | unresolved (program : String)
  /-- None is given, and the usual one is not installed. -/
  | notInstalled
  | other (message : String)
  deriving DecidableEq, Repr

/-- The generator that is run when none is given. -/
def usualGenerator : String := "claude"

def generatorVariable : String := "CONSTRUCT_GENERATOR_BIN"

def NoGenerator.message : NoGenerator → String
  | .unresolved program => program ++ ": cannot find binary path"
  | .notInstalled =>
    usualGenerator ++ ": cannot find binary path. Pass a generator command after `--` or set " ++
      generatorVariable
  | .other message => message

namespace Surroundings

/-- The program of the generator and its arguments: as given, or else the path in the environment
variable if there is such a file, or else the usual generator. -/
def findGenerator (w : Surroundings) (command : List String) :
    Except NoGenerator (String × List String) :=
  match command with
  | program :: arguments =>
    match w.program? program with
    | some path => .ok (path, arguments)
    | none => .error (.unresolved program)
  | [] =>
    match (w.environment generatorVariable).filter w.hasFile with
    | some path => .ok (path, [])
    | none =>
      match w.program? usualGenerator with
      | some path => .ok (path, ["-p"])
      | none => .error .notInstalled

end Surroundings

end Elicit.Console
