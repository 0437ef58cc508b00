import Routing.Error

/-!
# Operations

* `Operation`: what changes a state, and may fail on the way
* `Operation.within`: an operation on a part of the state
* `Operation.ensuring`: a change that is made however an operation ends
-/
namespace Routing

/-- An operation gives a value or an error together with the state after it; a failure keeps what was
done before. `none` stands for an operation that did not end within the steps it was given. -/
abbrev Operation (σ α : Type) := ExceptT RouterError (StateT σ Option) α

namespace Operation

variable {σ τ α : Type}

def start (x : Operation σ α) (s : σ) : Option (Except RouterError α × σ) :=
  x.run.run s

/-- An operation on the part of a state that `view` shows and `put` replaces. -/
def within (view : τ → σ) (put : σ → τ → τ) (x : Operation σ α) : Operation τ α :=
  ExceptT.mk fun t => (x.start (view t)).map fun (result, s) => (result, put s t)

/-- Makes a change after an operation, whether it fails or not. -/
def ensuring (x : Operation σ α) (change : σ → σ) : Operation σ α :=
  ExceptT.mk fun s => (x.start s).map fun (result, t) => (result, change t)

end Operation

end Routing
