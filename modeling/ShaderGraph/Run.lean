import ShaderGraph.Log

/-! Computations on a state that may fail and that log what they do. A failure keeps the state and
the log as they are when it arises. -/
namespace ShaderGraph

structure Outcome (σ ε α : Type) where
  result : Except ε α
  state : σ
  log : List Record

def Run (σ ε α : Type) : Type := σ → Outcome σ ε α

namespace Run

def pure (a : α) : Run σ ε α := fun s => ⟨.ok a, s, []⟩

def bind (x : Run σ ε α) (f : α → Run σ ε β) : Run σ ε β := fun s =>
  match x s with
  | ⟨.error error, t, log⟩ => ⟨.error error, t, log⟩
  | ⟨.ok a, t, log⟩ =>
    let rest := f a t
    ⟨rest.result, rest.state, log ++ rest.log⟩

instance : Monad (Run σ ε) where
  pure := pure
  bind := bind

def ofResult (result : Except ε α) (log : List Record) : Run σ ε α := fun s => ⟨result, s, log⟩

def note (records : List Record) : Run σ ε Unit := ofResult (.ok ()) records

def mapError (f : ε → δ) (x : Run σ ε α) : Run σ δ α := fun s =>
  let outcome := x s
  ⟨outcome.result.mapError f, outcome.state, outcome.log⟩

end Run
end ShaderGraph
