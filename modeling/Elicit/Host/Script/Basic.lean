/-! Shell scripts: words with expansions in them, and commands made of words. -/
namespace Elicit.Host

/-- What an expansion stands for. -/
inductive Parameter where
  | variable (name : String)
  /-- An argument of the script; the one at 0 is the script's name. -/
  | position (n : Nat)
  /-- All arguments, each for itself where that is asked for and possible. -/
  | all (apart : Bool)
  | count
  | status
  | process
  deriving DecidableEq, Repr

inductive Fallback where
  /-- The word stands in for what is not set. -/
  | otherwise
  /-- The word stands in for what is set. -/
  | replaced
  /-- The word becomes the value of what is not set. -/
  | assigned
  deriving DecidableEq, Repr

inductive Operator where
  | plus | minus | times | over | remainder
  | less | atMost | more | atLeast | equal | unequal | both | either
  deriving DecidableEq, Repr

inductive Expression where
  | number (n : Nat)
  | variable (name : String)
  | position (n : Nat)
  | negation (e : Expression)
  | binary (op : Operator) (a b : Expression)
  deriving DecidableEq, Repr

inductive Direction where
  | input
  | output (keep : Bool)
  /-- The same place as another descriptor. -/
  | duplicate
  deriving DecidableEq, Repr

mutual

/-- A part of a word. What is not quoted is split at blanks after it is expanded. -/
inductive Piece where
  | text (s : String) (quoted : Bool)
  | value (p : Parameter) (quoted : Bool)
  | length (p : Parameter) (quoted : Bool)
  /-- A parameter with a word; an empty value counts as not set if `strict`. -/
  | fallback (p : Parameter) (f : Fallback) (strict : Bool) (word : List Piece) (quoted : Bool)
  | expression (e : Expression) (quoted : Bool)
  /-- What a script writes, without the line ends after it. -/
  | output (s : Script) (quoted : Bool)

inductive Redirection where
  | to (descriptor : Nat) (d : Direction) (target : List Piece)

/-- A command, or several that belong together. -/
inductive Script where
  | skip
  | simple (assignments : List (String × List Piece)) (words : List (List Piece))
      (redirections : List Redirection)
  | sequence (a b : Script)
  | both (a b : Script)
  | either (a b : Script)
  | negation (a : Script)
  | pipe (a b : Script)
  | branch (condition yes no : Script)
  | each (name : String) (words : List (List Piece)) (body : Script)
  /-- Repeats as long as the condition succeeds, or as long as it does not. -/
  | loop (whenever : Bool) (condition body : Script)
  /-- Goes by whether a word matches one of some patterns. -/
  | choice (word : List Piece) (patterns : List (List Piece)) (yes no : Script)
  | subshell (a : Script)
  | redirected (a : Script) (redirections : List Redirection)

end

end Elicit.Host
