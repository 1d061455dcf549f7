import SampleTap.Proofs.Message.Builder

/-!
# Nests closed in any order

A nest is known by the offset of its header. It can be closed a second time, or behind the nest that
is around it, and every time the two bytes of its length are written over.

* `Patched` says what this may change: these two bytes, which come to hold the distance from the
  header to the end of the body, as far as sixteen bits tell it.
* `Progress.run?` takes a builder through a list of steps. It fails where a step would write outside
  the body, or closes a nest that was not opened.
* `Progress.Sound` is the invariant: the body is aligned, and the header of every nest is inside.
* `builds_aligned_in_bounds` says what any step of any list does to the body, as long as the nests
  that are closed were opened before.
-/

namespace SampleTap
namespace MessageBuilder

open Attribute (headerLength)

/-! ## Writing over bytes -/

/-- Bytes that are long enough have a middle. -/
theorem exists_middle {data : Bytes} {offset n : Nat} (h : offset + n ≤ data.length) :
    ∃ front old back, data = front ++ (old ++ back) ∧ front.length = offset ∧ old.length = n := by
  refine ⟨data.take offset, (data.drop offset).take n, (data.drop offset).drop n, ?_, ?_, ?_⟩
  · rw [List.take_append_drop, List.take_append_drop]
  · rw [List.length_take]
    omega
  · rw [List.length_take, List.length_drop]
    omega

/-- The length field at an offset of a body was made to tell the distance from there to the end of
the body, and nothing else has changed. -/
structure Patched (offset : Nat) (before after : Bytes) : Prop where
  inside : offset + 2 ≤ before.length
  length : after.length = before.length
  frame : ∀ i, i < offset ∨ offset + 2 ≤ i → after[i]? = before[i]?
  field : Bytes.littleNat ((after.drop offset).take 2) = (before.length - offset) % 2 ^ 16

theorem patched_overwrite {body : Bytes} {offset : Nat} (h : offset + 2 ≤ body.length) :
    Patched offset body
      (overwrite body offset (Bytes.ofWord16 (UInt16.ofNat (body.length - offset)))) := by
  obtain ⟨front, old, back, hbody, rfl, hold⟩ := exists_middle h
  let distance := UInt16.ofNat (body.length - front.length)
  let patch := Bytes.ofWord16 distance
  have hpatch : patch.length = 2 := Bytes.length_ofWord16 distance
  have hsame : patch.length = old.length := by rw [hpatch, hold]
  have hafter : overwrite body front.length patch = front ++ (patch ++ back) := by
    rw [hbody]
    exact overwrite_append front old patch back hsame
  show Patched front.length body (overwrite body front.length patch)
  rw [hafter]
  -- Before and after agree in the front and in the back, and the patch is as long as the middle.
  constructor
  case inside => exact h
  case length =>
    simp only [hbody, List.length_append, hsame]
  case frame =>
    intro i hi
    rw [hbody]
    rcases hi with hi | hi
    · rw [List.getElem?_append_left hi, List.getElem?_append_left hi]
    · have hfront : front.length ≤ i := by omega
      rw [List.getElem?_append_right hfront, List.getElem?_append_right hfront,
        List.getElem?_append_right (by omega), List.getElem?_append_right (by omega), hsame]
  case field =>
    have hlimit : Bytes.limit 2 = 2 ^ 16 := rfl
    have hdistance : distance.toNat = (body.length - front.length) % 2 ^ 16 := UInt16.toNat_ofNat'
    rw [List.drop_left, List.take_left' hpatch]
    show Bytes.littleNat (Bytes.littleEndian 2 distance.toNat) = _
    rw [Bytes.littleNat_littleEndian, hlimit, hdistance, Nat.mod_mod]

/-- In an aligned body, closing a nest pads nothing. -/
theorem patched_closeNest {b : MessageBuilder} (h : b.body.length % 4 = 0) {nest : Nest}
    (hinside : nest.offset + 2 ≤ b.body.length) :
    Patched nest.offset b.body (b.closeNest nest).body := by
  let distance := UInt16.ofNat (b.body.length - nest.offset)
  let patched := overwrite b.body nest.offset (Bytes.ofWord16 distance)
  have hpatched : Patched nest.offset b.body patched := patched_overwrite hinside
  have haligned : patched.length % 4 = 0 := by
    rw [hpatched.length]
    exact h
  show Patched nest.offset b.body (Bytes.pad patched)
  rw [Bytes.pad_of_aligned haligned]
  exact hpatched

/-! ## Steps -/

/-- One operation on a builder. A nest is closed by its number: nests count from zero, in the order
in which they are opened. -/
inductive Step
  | append (data : Bytes)
  | attr (type : UInt16) (content : Attribute.Content)
  | openNest (type : UInt16)
  | closeNest (number : Nat)
deriving DecidableEq, Repr

namespace Step

/-- The number of nests that a step opens. -/
def opens : Step → Nat
  | openNest _ => 1
  | _ => 0

/-- Whether a step closes no nest but one of those that are opened already. -/
def Allowed (opened : Nat) : Step → Prop
  | closeNest number => number < opened
  | _ => True

instance (opened : Nat) : (step : Step) → Decidable (step.Allowed opened)
  | append _ | attr _ _ | openNest _ => inferInstanceAs (Decidable True)
  | closeNest number => inferInstanceAs (Decidable (number < opened))

/-- Whether every nest that is closed was opened before. -/
def Orderly : Nat → List Step → Prop
  | _, [] => True
  | opened, step :: rest => step.Allowed opened ∧ Orderly (opened + step.opens) rest

instance decidableOrderly : (opened : Nat) → (steps : List Step) → Decidable (Orderly opened steps)
  | _, [] => inferInstanceAs (Decidable True)
  | opened, step :: rest =>
    have := decidableOrderly (opened + step.opens) rest
    inferInstanceAs (Decidable (step.Allowed opened ∧ Orderly (opened + step.opens) rest))

/-- The bytes that a step puts behind an aligned body. -/
def added : Step → Bytes
  | append data => Bytes.pad data
  | attr type content =>
    Bytes.pad ((Attribute.Header.ofPayload type content.payload.length).encode ++ content.payload)
  | openNest type => (Attribute.Header.ofPayload (type ||| Attribute.nestedFlag) 0).encode
  | closeNest _ => []

theorem length_added_mod_four (step : Step) : step.added.length % 4 = 0 := by
  cases step with
  | append data => exact Bytes.length_pad_mod_four data
  | attr type content => exact Bytes.length_pad_mod_four _
  | openNest type =>
    rw [added, Attribute.Header.length_encode]
    rfl
  | closeNest number => rfl

/-- A step that opens a nest puts the nest's header behind the body. -/
theorem headerLength_le_added {step : Step} (h : step.opens ≠ 0) :
    headerLength ≤ step.added.length := by
  cases step with
  | openNest type =>
    rw [added, Attribute.Header.length_encode]
  | append | attr | closeNest => exact absurd rfl h

/-- What a step does to a body in which some nests were opened: closing one of these patches its
length field, and any other step leaves what is there and puts its own bytes behind. -/
def Changes (nests : List Nest) (before after : Bytes) : Step → Prop
  | closeNest number => ∃ nest, nests[number]? = some nest ∧ Patched nest.offset before after
  | step => after = before ++ step.added

end Step

/-- Closes a nest whose length field is inside the body. -/
def closeNest? (b : MessageBuilder) (nest : Nest) : Option MessageBuilder :=
  if nest.offset + 2 ≤ b.body.length then some (b.closeNest nest) else none

/-- A message under construction, and the nests that were opened in it, the first one first. -/
structure Progress where
  builder : MessageBuilder
  nests : List Nest := []
deriving DecidableEq, Repr

namespace Progress

/-- The body so far. -/
def body (p : Progress) : Bytes := p.builder.body

/-- One step. Nothing comes of one that would write outside the body, or closes a nest that was not
opened. -/
def perform? (p : Progress) : Step → Option Progress
  | .append data => some { p with builder := p.builder.append data }
  | .attr type content => some { p with builder := content.addTo p.builder type }
  | .openNest type =>
    let (builder, nest) := p.builder.openNest type
    some ⟨builder, p.nests ++ [nest]⟩
  | .closeNest number => do
    let nest ← p.nests[number]?
    let builder ← p.builder.closeNest? nest
    return { p with builder }

/-- One step after the other. -/
def run? (p : Progress) (steps : List Step) : Option Progress := steps.foldlM perform? p

theorem run?_cons {p next : Progress} {step : Step} (h : p.perform? step = some next)
    (rest : List Step) : p.run? (step :: rest) = next.run? rest := by
  rw [run?, List.foldlM_cons, h]
  rfl

/-! ## What every step keeps -/

/-- The body is aligned, and the header of every nest is inside. -/
structure Sound (p : Progress) : Prop where
  aligned : p.body.length % 4 = 0
  inside : ∀ nest ∈ p.nests, nest.offset + headerLength ≤ p.body.length

/-- A step that closes no nest puts its bytes behind the body, and a nest that it opens starts where
the body ended. -/
theorem perform?_of_adds {p : Progress} (h : p.body.length % 4 = 0) {step : Step}
    (hstep : ∀ number, step ≠ .closeNest number) :
    p.perform? step = some ⟨p.builder.extend step.added,
      p.nests ++ List.replicate step.opens ⟨p.body.length⟩⟩ := by
  cases step with
  | append data =>
    have hopens : (Step.append data).opens = 0 := rfl
    rw [perform?, append_of_aligned h, hopens, List.replicate_zero, List.append_nil]
    rfl
  | attr type content =>
    have hopens : (Step.attr type content).opens = 0 := rfl
    rw [perform?, Attribute.Content.addTo_eq, attr_of_aligned h, hopens, List.replicate_zero,
      List.append_nil]
    rfl
  | openNest type => rfl
  | closeNest number => exact absurd rfl (hstep number)

/-- Closing an opened nest succeeds when its length field is inside the body. -/
theorem perform?_closeNest {p : Progress} {number : Nat} {nest : Nest}
    (hnest : p.nests[number]? = some nest) (hinside : nest.offset + 2 ≤ p.body.length) :
    p.perform? (.closeNest number) = some { p with builder := p.builder.closeNest nest } := by
  have hclose : p.builder.closeNest? nest = some (p.builder.closeNest nest) := if_pos hinside
  rw [perform?, hnest, Option.bind_eq_bind, Option.bind_some, hclose]
  rfl

/-- What a step puts behind the body keeps it aligned, with the header of a new nest inside. -/
theorem Sound.add {p : Progress} (h : p.Sound) (step : Step) :
    Sound ⟨p.builder.extend step.added,
      p.nests ++ List.replicate step.opens ⟨p.body.length⟩⟩ where
  aligned := aligned_extend h.aligned step.length_added_mod_four
  inside := by
    intro nest hnest
    show nest.offset + headerLength ≤ (p.body ++ step.added).length
    rw [List.length_append]
    rcases List.mem_append.mp hnest with hold | hnew
    · have hinside := h.inside nest hold
      omega
    · obtain ⟨hopens, rfl⟩ := List.mem_replicate.mp hnew
      have hheader := Step.headerLength_le_added hopens
      show p.body.length + headerLength ≤ p.body.length + step.added.length
      omega

/-- A step succeeds when the nest that it closes was opened, keeps the invariant, and changes the
body only as it may. -/
theorem Sound.exists_perform? {p : Progress} (h : p.Sound) {step : Step}
    (hstep : step.Allowed p.nests.length) :
    ∃ after, p.perform? step = some after ∧ after.Sound ∧
      after.nests.length = p.nests.length + step.opens ∧
      step.Changes p.nests p.body after.body := by
  -- Steps that close no nest go alike: the invariant is that of the longer body.
  have hadds (hother : ∀ number, step ≠ .closeNest number) :
      ∃ after, p.perform? step = some after ∧ after.Sound ∧
        after.nests.length = p.nests.length + step.opens ∧ after.body = p.body ++ step.added := by
    refine ⟨_, perform?_of_adds h.aligned hother, h.add step, ?_, rfl⟩
    rw [List.length_append, List.length_replicate]
  cases step with
  | append data => exact hadds nofun
  | attr type content => exact hadds nofun
  | openNest type => exact hadds nofun
  | closeNest number =>
    -- The whole header of the nest is inside, so its first two bytes are.
    have hnest : p.nests[number]? = some p.nests[number] := List.getElem?_eq_getElem hstep
    have hheader : headerLength = 4 := rfl
    have hinside := h.inside _ (List.getElem_mem hstep)
    have hfield : p.nests[number].offset + 2 ≤ p.body.length := by omega
    have hpatched := patched_closeNest h.aligned hfield
    refine ⟨_, perform?_closeNest hnest hfield, ⟨?_, ?_⟩, rfl, _, hnest, hpatched⟩
    · show (p.builder.closeNest _).body.length % 4 = 0
      rw [hpatched.length]
      exact h.aligned
    · show ∀ nest ∈ p.nests, nest.offset + headerLength ≤ (p.builder.closeNest _).body.length
      rw [hpatched.length]
      exact h.inside

/-! ## Whole runs -/

/-- A run gets to every step of an orderly list, with the invariant. -/
theorem Sound.exists_run? {p : Progress} (h : p.Sound) {front back : List Step}
    (hsteps : Step.Orderly p.nests.length (front ++ back)) :
    ∃ reached, p.run? front = some reached ∧ reached.Sound ∧
      Step.Orderly reached.nests.length back := by
  induction front generalizing p with
  | nil => exact ⟨p, rfl, h, hsteps⟩
  | cons step front ih =>
    -- What may be closed further on depends on how many nests this step leaves opened.
    obtain ⟨hstep, hrest⟩ := hsteps
    obtain ⟨next, hperform, hsound, hnests, -⟩ := h.exists_perform? hstep
    rw [← hnests] at hrest
    rw [run?_cons hperform]
    exact ih hsound hrest

/-- A message of which only the header is known. -/
def start (type flags : UInt16) (seq sender : UInt32) : Progress :=
  { builder := { type, flags, seq, sender } }

theorem sound_start (type flags : UInt16) (seq sender : UInt32) :
    (start type flags seq sender).Sound where
  aligned := rfl
  inside := nofun

end Progress

/-- However appending, opening and closing follow each other, as long as each nest that is closed
was opened before: every step is performed and leaves the body aligned, closing a nest writes inside
the body and changes the two bytes of the nest's length only, and any other step changes nothing
that is there. -/
theorem builds_aligned_in_bounds (type flags : UInt16) (seq sender : UInt32)
    (front : List Step) (step : Step) (back : List Step)
    (h : Step.Orderly 0 (front ++ step :: back)) :
    ∃ before after, (Progress.start type flags seq sender).run? front = some before ∧
      before.perform? step = some after ∧ after.body.length % 4 = 0 ∧
      step.Changes before.nests before.body after.body := by
  obtain ⟨before, hrun, hbefore, hstep, -⟩ :=
    (Progress.sound_start type flags seq sender).exists_run? h
  obtain ⟨after, hperform, hafter, -, hchanges⟩ := hbefore.exists_perform? hstep
  exact ⟨before, after, hrun, hperform, hafter.aligned, hchanges⟩

/-- The outer of two nests is closed in front of the inner one, and again behind it. -/
theorem builds_aligned_in_bounds_reused :
    let front : List Step := [.openNest 7, .attr 1 (.bytes [0xaa]), .openNest 2, .closeNest 0,
      .append [1, 2, 3], .closeNest 1]
    Step.Orderly 0 (front ++ [.closeNest 0]) ∧
    ∃ before after, (Progress.start 16 1 0 0).run? front = some before ∧
      before.perform? (.closeNest 0) = some after ∧ after.body.length % 4 = 0 ∧
      (Step.closeNest 0).Changes before.nests before.body after.body :=
  ⟨by decide, builds_aligned_in_bounds 16 1 0 0 _ _ [] (by decide)⟩

/-- The length of the outer nest does not count what came behind its closing. -/
example : ((Progress.start 16 1 0 0).run? [.openNest 7, .openNest 2, .closeNest 0,
    .attr 1 (.bytes [0xaa]), .closeNest 1]).map Progress.body =
      some [8, 0, 7, 0x80, 12, 0, 2, 0x80, 5, 0, 1, 0, 0xaa, 0, 0, 0] := by decide

end MessageBuilder
end SampleTap
