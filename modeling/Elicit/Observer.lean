import Elicit.Attempt
import Elicit.Log
import Elicit.Text.Quoted

/-! Observers of a run and callbacks for its failures. They are told of its moments and have no say
in it. -/
namespace Elicit

/-- A moment of a run that observers are told of. -/
inductive Moment where
  | started (a : Attempt)
  | succeeded (a : Attempt)
  /-- An attempt failed, and another follows. -/
  | retrying (a : Attempt) (error : String)
  /-- The last attempt failed. -/
  | exhausted (target : String) (attempts : Nat) (error : String)
  deriving DecidableEq, Repr

inductive Moment.Kind where
  | started
  | succeeded
  | retrying
  | exhausted
  deriving DecidableEq, Repr

def Moment.kind : Moment → Moment.Kind
  | .started _ => .started
  | .succeeded _ => .succeeded
  | .retrying .. => .retrying
  | .exhausted .. => .exhausted

/-- What an observer does about a moment, or a callback about a failure. -/
inductive Notice where
  | noted (m : Moment)
  | logged (e : Log.Entry)
  deriving DecidableEq, Repr

/-- An observer does something, or nothing, at each moment. One with a state of its own is a fold
over what it is told. -/
abbrev Observer := Moment → List Notice

namespace Observer

def recorder : Observer := fun m => [.noted m]

def silent : Observer := fun _ => []

def logEntry : Moment → Log.Entry
  | .started a => ⟨.info, "Construction attempt started",
    [("target_name", .text a.target), ("attempt", .count a.number),
      ("max_attempts", .count a.limit)]⟩
  | .succeeded a => ⟨.info, "Construction attempt succeeded",
    [("target_name", .text a.target), ("attempt", .count a.number)]⟩
  | .retrying a error => ⟨.warn, "Construction attempt failed, retrying",
    [("target_name", .text a.target), ("attempt", .count a.number),
      ("max_attempts", .count a.limit), ("error", .text error)]⟩
  | .exhausted target attempts error => ⟨.error, "Construction failed",
    [("target_name", .text target), ("total_attempts", .count attempts),
      ("last_error", .text error)]⟩

def logger : Observer := fun m => [.logged (logEntry m)]

end Observer

/-- An error callback does something, or nothing, about a failed attempt: it is told what was sought,
the attempt's number and what went wrong. -/
abbrev ErrorCallback := String → Nat → String → List Notice

def ErrorCallback.silent : ErrorCallback := fun _ _ _ => []

/-- An observer for each kind of moment; kinds without one are passed over. -/
structure HookSet where
  started : Option Observer
  succeeded : Option Observer
  retrying : Option Observer
  exhausted : Option Observer

namespace HookSet

def empty : HookSet := ⟨none, none, none, none⟩

def get (h : HookSet) : Moment.Kind → Option Observer
  | .started => h.started
  | .succeeded => h.succeeded
  | .retrying => h.retrying
  | .exhausted => h.exhausted

def set (h : HookSet) (k : Moment.Kind) (o : Observer) : HookSet :=
  match k with
  | .started => { h with started := some o }
  | .succeeded => { h with succeeded := some o }
  | .retrying => { h with retrying := some o }
  | .exhausted => { h with exhausted := some o }

def observer (h : HookSet) : Observer := fun m =>
  match h.get m.kind with
  | some o => o m
  | none => []

def diagnosticText (h : HookSet) : String :=
  Text.record "HookSet"
    [("attempt_start", Text.truth h.started.isSome),
      ("attempt_success", Text.truth h.succeeded.isSome),
      ("attempt_retry", Text.truth h.retrying.isSome),
      ("final_failure", Text.truth h.exhausted.isSome)] false

end HookSet

end Elicit
