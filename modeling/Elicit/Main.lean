import Elicit.Console.Run
import Elicit.Host.Machine

/-! The command line program. It brings in its words, the environment and the files that options
name, and writes what `Console.program` leaves. -/
namespace Elicit.Main

/-- The environment variables that are brought in. -/
def variableNames : List String :=
  [Host.searchVariable, "HOME", "LC_ALL", Console.generatorVariable] ++
    Console.Argument.all.filterMap Console.Argument.environmentName?

def environment : IO (List (String × String)) := do
  let found ← variableNames.mapM fun name => do
    return (← IO.getEnv name).map fun value => (name, value)
  return found.filterMap id

/-- Brings in a file, if it can be read. -/
def load (files : Host.Files) (path : String) : IO Host.Files := do
  try
    let content ← IO.FS.readBinFile path
    let start := if path.startsWith "/" then [] else Host.workplace
    return files.install ((path.splitOn "/").foldl Host.Files.descend start) content.toList
  catch _ => return files

/-- The files that a command line names. -/
def named (environment : List (String × String)) (line : List String) : List String :=
  match Console.Options.read (fun name => environment.lookup name) line with
  | .ok o => o.promptFile.toList ++ o.schemaFile.toList
  | .error _ => []

end Elicit.Main

def main (line : List String) : IO UInt32 := do
  let environment ← Elicit.Main.environment
  let files ← (Elicit.Main.named environment line).foldlM Elicit.Main.load Elicit.Host.Files.empty
  let report := Elicit.Console.program (Elicit.Host.surroundings environment files)
    (Elicit.Host.machine environment) line files
  IO.print report.output
  IO.eprint report.errors
  return UInt32.ofNat report.code
