import SampleTap.Error

/-!
# Actions

An action changes a state, leaves a trace of what it did to the outside, and ends with a result or
an error. What it changed and did before an error stays changed and done.
-/

namespace SampleTap

/-- What a run of an action leaves. -/
structure Ran (ε σ α : Type) where
  state : σ
  /-- What was done on the way, in order. -/
  trace : List ε
  result : Except Error α

/-- An action on a state `σ` that does things of type `ε`. -/
def Action (ε σ α : Type) : Type := σ → Ran ε σ α

variable {ε ε' σ τ α β : Type}

/-- The run with `trace` done before it. -/
def Ran.after (trace : List ε) (r : Ran ε σ α) : Ran ε σ α := { r with trace := trace ++ r.trace }

namespace Action

/-- Does nothing and gives `a`. -/
def pure (a : α) : Action ε σ α := fun s => ⟨s, [], .ok a⟩

/-- One action and, when it succeeds, another that depends on what it gave. -/
def bind (act : Action ε σ α) (next : α → Action ε σ β) : Action ε σ β := fun s =>
  let r := act s
  match r.result with
  | .ok a => (next a r.state).after r.trace
  | .error e => ⟨r.state, r.trace, .error e⟩

instance : Monad (Action ε σ) where
  pure := pure
  bind := bind

/-- The state. -/
def get : Action ε σ σ := fun s => ⟨s, [], .ok s⟩

/-- Changes the state. -/
def modify (f : σ → σ) : Action ε σ Unit := fun s => ⟨f s, [], .ok ()⟩

/-- An action on a part of the state. -/
def on (part : σ → τ) (put : σ → τ → σ) (label : ε → ε') (act : Action ε τ α) : Action ε' σ α :=
  fun s =>
    let r := act (part s)
    ⟨put s r.state, r.trace.map label, r.result⟩

end Action

end SampleTap
