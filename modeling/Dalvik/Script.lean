import Dalvik.Fault

/-!
# Scripts

Code that does not belong to the library (class initializers, emulated methods) is a script: it asks
the machine for something, looks at the answer or at the failure, and goes on, until it is done or
fails. A script is data, so it takes finitely many steps whatever the answers are, and it can reach
the state of a run only through its requests.
-/

namespace Dalvik

/-- Code that asks requests of type `ρ` and ends with an `α`. -/
inductive Script (ρ : Type) (Answer : ρ → Type) (α : Type) where
  | done (result : α)
  | fail (failure : Failure)
  | ask (request : ρ) (next : Except Failure (Answer request) → Script ρ Answer α)

namespace Script

variable {ρ : Type} {Answer : ρ → Type} {α β : Type}

/-- Goes on with `next` when the script is done. -/
def andThen (next : α → Script ρ Answer β) : Script ρ Answer α → Script ρ Answer β
  | done result => next result
  | fail failure => fail failure
  | ask request k => ask request fun answer => (k answer).andThen next

instance : Monad (Script ρ Answer) where
  pure := done
  bind script next := script.andThen next

/-- Asks once; a failure ends the script. -/
def request (request : ρ) : Script ρ Answer (Answer request) :=
  ask request fun
    | .ok answer => done answer
    | .error failure => fail failure

/-- The script with its failure as a result. -/
def attempt : Script ρ Answer α → Script ρ Answer (Except Failure α)
  | done result => done (.ok result)
  | fail failure => done (.error failure)
  | ask request k => ask request fun answer => (k answer).attempt

end Script

end Dalvik
