import SampleTap.Action

/-!
# Runs of composed actions

A sequence of actions succeeds exactly when each of them does, and it ends in the state that the
last one leaves (`Action.bind_ok`). How a sequence is bracketed does not matter: actions are a
lawful monad. Actions that are done whatever came of those before them are `Action.each`.
-/

namespace SampleTap

theorem ok_of_toOption {ε α : Type} {r : Except ε α} {a : α} (h : r.toOption = some a) :
    r = .ok a := by
  cases r with
  | error e => simp [Except.toOption] at h
  | ok b => exact congrArg Except.ok (Option.some.inj h)

namespace Action

variable {ε σ α β γ : Type}

theorem pure_bind (a : α) (next : α → Action ε σ β) : pure a >>= next = next a := by
  funext s
  show (next a s).after [] = next a s
  rw [Ran.after, List.nil_append]

theorem bind_pure (act : Action ε σ α) : act >>= pure = act := by
  funext s
  show Action.bind act pure s = act s
  rw [bind]
  rcases act s with ⟨s', trace, e | a⟩
  · rfl
  · simp only [pure, Ran.after, List.append_nil]

theorem bind_assoc (act : Action ε σ α) (next : α → Action ε σ β) (last : β → Action ε σ γ) :
    act >>= next >>= last = act >>= fun a => next a >>= last := by
  funext s
  simp only [Bind.bind, bind]
  rcases act s with ⟨s', trace, e | a⟩
  · rfl
  · simp only [Ran.after]
    rcases next a s' with ⟨s'', trace', e | b⟩
    · rfl
    · simp only [List.append_assoc]

instance : LawfulMonad (Action ε σ) :=
  LawfulMonad.mk' (Action ε σ) bind_pure pure_bind bind_assoc

/-- What succeeds is followed by the next action, with both traces. -/
theorem bind_of_ok {act : Action ε σ α} {next : α → Action ε σ β} {s s' : σ} {trace : List ε}
    {a : α} (h : act s = ⟨s', trace, .ok a⟩) : (act >>= next) s = (next a s').after trace := by
  simp only [Bind.bind, bind, h]

/-- What fails is not followed by anything. -/
theorem bind_of_error {act : Action ε σ α} {next : α → Action ε σ β} {s s' : σ} {trace : List ε}
    {e : Error} (h : act s = ⟨s', trace, .error e⟩) :
    (act >>= next) s = ⟨s', trace, .error e⟩ := by
  simp only [Bind.bind, bind, h]

/-- A sequence that succeeds is two actions that succeed, one from where the other ended. -/
theorem bind_ok {act : Action ε σ α} {next : α → Action ε σ β} {s : σ} {b : β}
    (h : ((act >>= next) s).result = .ok b) :
    ∃ a, (act s).result = .ok a ∧ (next a (act s).state).result = .ok b ∧
      ((act >>= next) s).state = (next a (act s).state).state := by
  simp only [Bind.bind, bind] at h ⊢
  cases hact : (act s).result with
  | error e => simp [hact] at h
  | ok a =>
    simp only [hact] at h ⊢
    exact ⟨a, rfl, h, rfl⟩

/-! ## One after the other -/

/-- Does actions one after the other, whatever comes of them, and gives what comes of each. -/
def each : List (Action ε σ α) → Action ε σ (List (Except Error α))
  | [] => pure []
  | act :: rest => fun s =>
    let ran := act s
    let more := each rest ran.state
    ⟨more.state, ran.trace ++ more.trace, more.result.map (ran.result :: ·)⟩

/-- Each action is done, whatever the one before it gave. -/
theorem each_cons {act : Action ε σ α} {rest : List (Action ε σ α)} {s s' s'' : σ}
    {trace trace' : List ε} {result : Except Error α} {results : List (Except Error α)}
    (h : act s = ⟨s', trace, result⟩) (hrest : each rest s' = ⟨s'', trace', .ok results⟩) :
    each (act :: rest) s = ⟨s'', trace ++ trace', .ok (result :: results)⟩ := by
  simp only [each, h, hrest, Except.map]

end Action
end SampleTap
