import Elicit.Duration
import Elicit.Text.Quoted

/-! Commands that answer prompts: a program, and arguments that the prompt is put into. -/
namespace Elicit

structure Command where
  program : String
  /-- The arguments, in which the placeholder stands for the prompt. -/
  arguments : List String
  timeout : Duration
  /-- Where the program runs, if not in the current directory. -/
  directory : Option String
  /-- Environment variables to add; of two with one name the last counts. -/
  environment : List (String × String)
  deriving DecidableEq, Repr

namespace Command

/-- A command that may run for five minutes. -/
def plain (program : String) (arguments : List String) : Command :=
  ⟨program, arguments, .ofSecs 300, none, []⟩

/-- What stands for the prompt in an argument. -/
def placeholder : List Char := "\x7bprompt\x7d".toList

def hasPlaceholder : List Char → Bool
  | [] => false
  | c :: cs => placeholder.isPrefixOf (c :: cs) || hasPlaceholder cs

/-- Puts the prompt in place of each placeholder, from left to right. What is put in is not looked
at again. -/
def fill (prompt : List Char) : List Char → List Char
  | [] => []
  | c :: cs =>
    if placeholder.isPrefixOf (c :: cs) then
      prompt ++ fill prompt (cs.drop (placeholder.length - 1))
    else c :: fill prompt cs
termination_by cs => cs.length
decreasing_by
  · simp only [List.length_drop, List.length_cons]; omega
  · simp only [List.length_cons]; omega

def argumentsFor (c : Command) (prompt : String) : List String :=
  c.arguments.map fun a => String.ofList (fill prompt.toList a.toList)

/-- Whether the prompt goes into the arguments, and so not to standard input. -/
def promptsByArgument (c : Command) : Bool := c.arguments.any fun a => hasPlaceholder a.toList

def diagnosticText (c : Command) : String :=
  let pair (v : String × String) := "(" ++ Text.quoted v.1 ++ ", " ++ Text.quoted v.2 ++ ")"
  let spec := Text.record "CommandSpec"
    [("program", Text.quoted c.program),
      ("args", Text.listed (c.arguments.map Text.quoted)),
      ("timeout", c.timeout.text),
      ("cwd", Text.optional (c.directory.map Text.quoted)),
      ("env", Text.listed (c.environment.map pair))] false
  Text.record "CommandGenerator" [("spec", spec)] true

end Command

end Elicit
