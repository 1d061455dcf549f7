/-!
# Cursors as sequences of calls

A cursor is called again and again. Each call gives an item and moves the cursor, or gives nothing
and leaves it where it is. `Cursor.answer` is what the calls answer, by their ordinal, and
`Cursor.Gives` says that they answer the items of a list in order, and then nothing for good. A
cursor gives one list at most (`Gives.unique`), and it gives a list item by item
(`gives_cons_iff`).
-/

namespace SampleTap
namespace Cursor

variable {κ ι : Type} {next? : κ → Option (ι × κ)} {c c' : κ} {item : ι} {items items' : List ι}

/-- What the calls on a cursor answer, counted from zero. -/
def answer (next? : κ → Option (ι × κ)) : κ → Nat → Option ι
  | c, 0 => (next? c).map Prod.fst
  | c, n + 1 =>
    match next? c with
    | some (_, c') => answer next? c' n
    | none => answer next? c n

/-- Whether a cursor gives items in order and then nothing, however often it is called. -/
def Gives (next? : κ → Option (ι × κ)) (c : κ) (items : List ι) : Prop :=
  ∀ n, answer next? c n = items[n]?

/-- A cursor gives one list of items at most. -/
theorem Gives.unique (h : Gives next? c items) (h' : Gives next? c items') : items = items' := by
  apply List.ext_getElem?
  intro n
  rw [← h n, h' n]

/-- A cursor that has nothing to give now has nothing to give later. -/
theorem answer_of_none (h : next? c = none) (n : Nat) : answer next? c n = none := by
  induction n with
  | zero => rw [answer, h, Option.map_none]
  | succ n ih =>
    rw [answer, h]
    exact ih

theorem gives_nil_iff : Gives next? c [] ↔ next? c = none := by
  constructor
  · intro h
    have hfirst := h 0
    rwa [answer, List.getElem?_nil, Option.map_eq_none_iff] at hfirst
  · intro h n
    rw [answer_of_none h, List.getElem?_nil]

theorem gives_cons_iff :
    Gives next? c (item :: items) ↔ ∃ c', next? c = some (item, c') ∧ Gives next? c' items := by
  constructor
  · intro h
    have hfirst := h 0
    rw [answer, List.getElem?_cons_zero] at hfirst
    obtain ⟨⟨_, c'⟩, hnext, rfl⟩ := Option.map_eq_some_iff.mp hfirst
    refine ⟨c', hnext, fun n => ?_⟩
    have hlater := h (n + 1)
    rwa [answer, hnext, List.getElem?_cons_succ] at hlater
  · rintro ⟨c', hnext, hlater⟩ n
    cases n with
    | zero => rw [answer, hnext, List.getElem?_cons_zero, Option.map_some]
    | succ n =>
      rw [answer, hnext, List.getElem?_cons_succ]
      exact hlater n

end Cursor
end SampleTap
