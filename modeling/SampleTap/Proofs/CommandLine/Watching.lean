import SampleTap.CommandLine
import SampleTap.Proofs.Stream.Delivery

/-!
# Watching

The loop that prints events. Over a stream that nothing keeps from giving what is to come, it prints
the lines of the wanted events in order, up to the count, does nothing else but look at the event
connection, and then closes the session (`watch_prints`). Events that are not wanted are passed over
and not counted, and behind the last line that counts there is no further look.
-/

namespace SampleTap

/-! ## Activities -/

namespace CommandLine

open Session (Looked)

/-- The line that an activity prints. -/
def Activity.line? : Activity → Option String
  | session _ => none
  | printed text => some text

/-- What an activity does with the session. -/
def Activity.effect? : Activity → Option Effect
  | session effect => some effect
  | printed _ => none

/-- What is done with the session prints nothing. -/
@[simp] theorem lines_sessions (effects : List Effect) :
    (effects.map Activity.session).filterMap Activity.line? = [] := by
  simp [List.filterMap_map, Function.comp_def, Activity.line?]

@[simp] theorem effects_sessions (effects : List Effect) :
    (effects.map Activity.session).filterMap Activity.effect? = effects := by
  rw [List.filterMap_map, show Activity.effect? ∘ Activity.session = some from rfl,
    List.filterMap_some]

/-- What is done between two states of a session: lines are printed in order, and the event
connection is looked at. -/
structure Watched (s s' : Session) (activities : List Activity) (lines : List String) : Prop where
  lines : activities.filterMap Activity.line? = lines
  looked : Looked s s' (activities.filterMap Activity.effect?)

theorem Watched.refl (s : Session) : Watched s s [] [] := ⟨rfl, .refl s⟩

/-- Looking at the event connection is watching without a line. -/
theorem Watched.of_looked {s s' : Session} {trace : List Effect} (h : Looked s s' trace) :
    Watched s s' (trace.map .session) [] := by
  refine ⟨lines_sessions trace, ?_⟩
  rw [effects_sessions]
  exact h

theorem Watched.of_printed (s : Session) (line : String) :
    Watched s s [.printed line] [line] := ⟨rfl, .refl s⟩

theorem Watched.trans {s s' s'' : Session} {first later : List Activity}
    {lines lines' : List String} (h : Watched s s' first lines)
    (h' : Watched s' s'' later lines') : Watched s s'' (first ++ later) (lines ++ lines') := by
  refine ⟨by rw [List.filterMap_append, h.lines, h'.lines], ?_⟩
  rw [List.filterMap_append]
  exact h.looked.trans h'.looked

/-! ## Lines -/

/-- The lines of the wanted events among records. -/
def wantedLines (env : Surroundings) (options : Options) (format : Report.Format)
    (records : List EventRecord) : List String :=
  (records.filter (isWanted options.monitor)).map (Report.eventLine format env.interfaces)

/-- The lines that are still to be printed when `seen` were printed before. -/
def upTo (count : Option Nat) (seen : Nat) (lines : List String) : List String :=
  match count with
  | some n => lines.take (n - seen)
  | none => lines

/-- Whether `seen` lines are as many as are asked for. -/
def Reached (count : Option Nat) (seen : Nat) : Prop := ∃ n, count = some n ∧ n ≤ seen

/-- Nothing is left to print behind the last line that counts. -/
theorem upTo_of_reached {count : Option Nat} {seen : Nat} (h : Reached count seen)
    (lines : List String) : upTo count seen lines = [] := by
  obtain ⟨n, rfl, hle⟩ := h
  rw [upTo, Nat.sub_eq_zero_of_le hle, List.take_zero]

/-- Before the count is reached, the first line is printed and counted. -/
theorem upTo_cons {count : Option Nat} {seen : Nat} (h : ¬ Reached count seen) (line : String)
    (lines : List String) :
    upTo count seen (line :: lines) = line :: upTo count (seen + 1) lines := by
  cases count with
  | none => rfl
  | some n =>
    have hless : seen < n := Nat.lt_of_not_le fun hle => h ⟨n, rfl, hle⟩
    rw [upTo, upTo, show n - seen = n - (seen + 1) + 1 by omega, List.take_succ_cons]

/-- The count only cuts lines off. -/
theorem mem_of_mem_upTo {count : Option Nat} {seen : Nat} {line : String} {lines : List String}
    (h : line ∈ upTo count seen lines) : line ∈ lines := by
  cases count with
  | none => exact h
  | some n => exact List.mem_of_mem_take h

@[simp] theorem upTo_nil (count : Option Nat) (seen : Nat) : upTo count seen [] = [] := by
  cases count <;> simp [upTo]

/-! ## Turns of the loop -/

variable {env : Surroundings} {options : Options} {format : Report.Format} {seen : Nat} {t : Stream}

theorem Work.after_after (first later : List Activity) (w : Work) :
    (w.after later).after first = w.after (first ++ later) := by
  simp only [Work.after, List.append_assoc]

/-- Having reached the count is what the loop tests first. -/
theorem reached_iff {count : Option Nat} : Reached count seen ↔ count.any (· ≤ seen) = true := by
  cases count <;> simp [Reached]

/-- With the count reached, the loop closes the session without another look. -/
theorem watch_of_reached (h : Reached options.count seen) :
    watch env options format seen t = Work.close t.intoSession := by
  rw [watch, if_pos (reached_iff.mp h)]

/-- A look that gives nothing ends the loop, and the session is closed. -/
theorem watch_of_pending (hcount : ¬ Reached options.count seen)
    (hpoll : t.next.result = .ok .pending) :
    watch env options format seen t =
      (Work.close t.next.state.intoSession).after (t.next.trace.map .session) := by
  rw [watch, if_neg (mt reached_iff.mpr hcount)]
  dsimp only
  split <;> simp_all

/-- A look that gives an event prints and counts it if it is wanted. Either way the loop goes on. -/
theorem watch_of_event (hcount : ¬ Reached options.count seen) {record : EventRecord}
    (hpoll : t.next.result = .ok (.event record)) :
    watch env options format seen t =
      if isWanted options.monitor record then
        (watch env options format (seen + 1) t.next.state).after (t.next.trace.map .session ++
          [.printed (Report.eventLine format env.interfaces record)])
      else (watch env options format seen t.next.state).after (t.next.trace.map .session) := by
  rw [watch, if_neg (mt reached_iff.mpr hcount)]
  dsimp only
  split <;> simp_all

/-! ## The loop -/

/-- Over a stream that nothing keeps from giving what is to come, the loop prints the wanted lines
up to the count and closes the session. When the count is reached, nothing is done behind the last
line. -/
theorem watch_prints (env : Surroundings) (options : Options) (format : Report.Format)
    (seen : Nat) {t : Stream} (h : t.Supplied) :
    let lines := upTo options.count seen (wantedLines env options format t.outstanding)
    ∃ activities s', watch env options format seen t = (Work.close s').after activities ∧
      Watched t.session s' activities lines ∧
      (Reached options.count (seen + lines.length) →
        activities.getLast? = lines.getLast?.map .printed) := by
  generalize hcoming : t.outstanding = coming
  induction coming generalizing t seen with
  | nil =>
    have hpoll := (Stream.supplied_next h).2
    rw [hcoming] at hpoll
    have hnone : upTo options.count seen (wantedLines env options format []) = [] :=
      upTo_nil options.count seen
    rw [hnone]
    by_cases hcount : Reached options.count seen
    · exact ⟨[], t.session, watch_of_reached hcount, .refl t.session, fun _ => rfl⟩
    · exact ⟨_, t.next.state.session, watch_of_pending hcount hpoll, .of_looked t.looked_next,
        fun hreached => absurd hreached hcount⟩
  | cons record rest ih =>
    obtain ⟨hsupplied, hpoll⟩ := Stream.supplied_next h
    rw [hcoming] at hpoll
    obtain ⟨hevent, hrest⟩ := hpoll
    by_cases hcount : Reached options.count seen
    · rw [upTo_of_reached hcount]
      exact ⟨[], t.session, watch_of_reached hcount, .refl t.session, fun _ => rfl⟩
    have hpolled := Watched.of_looked t.looked_next
    cases hwanted : isWanted options.monitor record with
    | true =>
      obtain ⟨activities, s', hwatch, hwatched, hlast⟩ := ih (seen + 1) hsupplied hrest
      have hlines : wantedLines env options format (record :: rest) =
          Report.eventLine format env.interfaces record :: wantedLines env options format rest := by
        simp [wantedLines, hwanted]
      rw [hlines, upTo_cons hcount]
      refine ⟨_, s', ?_, (hpolled.trans (.of_printed _ _)).trans hwatched, fun hreached => ?_⟩
      · rw [watch_of_event hcount hevent, hwanted, if_pos rfl, hwatch, Work.after_after]
      · rw [List.length_cons, Nat.add_comm _ 1, ← Nat.add_assoc] at hreached
        simp [List.getLast?_append, hlast hreached, List.getLast?_cons]
    | false =>
      obtain ⟨activities, s', hwatch, hwatched, hlast⟩ := ih seen hsupplied hrest
      have hlines : wantedLines env options format (record :: rest) =
          wantedLines env options format rest := by
        simp [wantedLines, hwanted]
      rw [hlines]
      refine ⟨_, s', ?_, hpolled.trans hwatched, fun hreached => ?_⟩
      · rw [watch_of_event hcount hevent, hwanted, if_neg (by simp), hwatch, Work.after_after]
      · -- The count was not reached before, so a line was printed behind this poll.
        rw [List.getLast?_append, hlast hreached]
        cases hprinted : upTo options.count seen (wantedLines env options format rest) with
        | nil =>
          rw [hprinted] at hreached
          exact absurd hreached hcount
        | cons line later => rw [List.getLast?_cons, Option.map_some, Option.some_or]

end CommandLine
end SampleTap
