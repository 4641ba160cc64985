/-! Log entries: a level, a message and named fields. -/
namespace Elicit.Log

inductive Level where
  | debug
  | info
  | warn
  | error
  deriving DecidableEq, Repr

inductive Value where
  | count (n : Nat)
  | text (s : String)
  deriving DecidableEq, Repr

structure Entry where
  level : Level
  message : String
  fields : List (String × Value)
  deriving DecidableEq, Repr

end Elicit.Log
