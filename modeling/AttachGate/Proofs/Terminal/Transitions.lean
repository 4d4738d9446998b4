import AttachGate.Terminal.Reader

/-!
# Transitions of the reader

What the receive loop of a reader does in one transition, and what a read does,
each with all that must hold for it.
-/

namespace AttachGate.Terminal

inductive Reader.Steps (r : Reader) : List Feed → Reader → List Feed → Prop
  | message (m : Request) (inbox : List Feed) (hloop : r.loop = .receiving) :
    Steps r (.message m :: inbox) { r with loop := .received m } inbox
  | finished (inbox : List Feed) (hloop : r.loop = .receiving) :
    Steps r (.finished :: inbox) { r with loop := .offering (.finish none) } inbox
  | broken (f : Failure) (inbox : List Feed) (hloop : r.loop = .receiving) :
    Steps r (.broken f :: inbox) { r with loop := Loop.afterFailure f } inbox
  | use (m : Request) (inbox : List Feed) (hloop : r.loop = .received m)
    (hopened : r.closed = false) : Steps r inbox (r.use m) inbox
  | offer (item : Item) (inbox : List Feed) (hloop : r.loop = .offering item)
    (hopened : r.closed = false) : Steps r inbox { r with loop := .placing item } inbox
  | stop (inbox : List Feed) (hloop : (∃ m, r.loop = .received m) ∨ ∃ item, r.loop = .offering item)
    (hclosed : r.closed = true) : Steps r inbox { r with loop := .stopped } inbox
  | place (item : Item) (inbox : List Feed) (hloop : r.loop = .placing item)
    (hslot : r.slot = none) :
    Steps r inbox { r with slot := some item, loop := Loop.afterPlacing item } inbox
  | withdraw (item : Item) (inbox : List Feed) (hloop : r.loop = .placing item)
    (hclosed : r.closed = true) : Steps r inbox { r with loop := .offering item } inbox
  | record (f : Failure) (inbox : List Feed) (hloop : r.loop = .failing f) :
    Steps r inbox { r with error := some f, loop := .alarming f } inbox
  | alarm (f : Failure) (inbox : List Feed) (hloop : r.loop = .alarming f) :
    Steps r inbox { r with alarms := r.alarms + 1, loop := .offering (.finish (some f)) } inbox

theorem Reader.steps_of_advance {r next : Reader} (hadvance : r.advance = some next)
    (inbox : List Feed) : r.Steps inbox next inbox := by
  cases hloop : r.loop with
  | receiving => simp [advance, hloop] at hadvance
  | received m =>
      cases hclosed : r.closed with
      | true =>
          obtain rfl : { r with loop := .stopped } = next := by
            simpa [advance, hloop, hclosed] using hadvance
          exact .stop inbox (.inl ⟨m, hloop⟩) hclosed
      | false =>
          obtain rfl : r.use m = next := by simpa [advance, hloop, hclosed] using hadvance
          exact .use m inbox hloop hclosed
  | offering item =>
      cases hclosed : r.closed with
      | true =>
          obtain rfl : { r with loop := .stopped } = next := by
            simpa [advance, hloop, hclosed] using hadvance
          exact .stop inbox (.inr ⟨item, hloop⟩) hclosed
      | false =>
          obtain rfl : { r with loop := .placing item } = next := by
            simpa [advance, hloop, hclosed] using hadvance
          exact .offer item inbox hloop hclosed
  | placing item =>
      cases hslot : r.slot with
      | none =>
          obtain rfl : { r with slot := some item, loop := Loop.afterPlacing item } = next := by
            simpa [advance, hloop, hslot] using hadvance
          exact .place item inbox hloop hslot
      | some other =>
          obtain ⟨hclosed, rfl⟩ : r.closed = true ∧ { r with loop := .offering item } = next := by
            simpa [advance, hloop, hslot] using hadvance
          exact .withdraw item inbox hloop hclosed
  | failing f =>
      obtain rfl : { r with error := some f, loop := .alarming f } = next := by
        simpa [advance, hloop] using hadvance
      exact .record f inbox hloop
  | alarming f =>
      obtain rfl :
          { r with alarms := r.alarms + 1, loop := .offering (.finish (some f)) } = next := by
        simpa [advance, hloop] using hadvance
      exact .alarm f inbox hloop
  | stopped => simp [advance, hloop] at hadvance

theorem Reader.steps_of_step {r next : Reader} {inbox rest : List Feed}
    (hstep : r.step inbox = some (next, rest)) : r.Steps inbox next rest := by
  unfold step at hstep
  cases hadvance : r.advance with
  | some after =>
      simp only [hadvance, Option.some.injEq, Prod.mk.injEq] at hstep
      obtain ⟨rfl, rfl⟩ := hstep
      exact steps_of_advance hadvance inbox
  | none =>
      simp only [hadvance] at hstep
      split at hstep
      · rename_i feed inbox hloop
        obtain ⟨rfl, rfl⟩ : r.receive feed = next ∧ inbox = rest := by simpa using hstep
        simp only [receive, hloop]
        cases feed with
        | message m => exact .message m inbox hloop
        | finished => exact .finished inbox hloop
        | broken f => exact .broken f inbox hloop
      · cases hstep

/-- The loop leaves it alone whether the reader is closed and what the consumer was
given. -/
theorem Reader.Steps.frame {r next : Reader} {inbox rest : List Feed}
    (hsteps : r.Steps inbox next rest) :
    next.closed = r.closed ∧ next.ended = r.ended ∧ rest <:+ inbox := by
  cases hsteps with
  | message | finished | broken => exact ⟨rfl, rfl, List.suffix_cons _ _⟩
  | _ => exact ⟨rfl, rfl, List.suffix_refl _⟩

inductive Reading.Steps (r : Reader) : Reading → Reading → Reader → Prop
  | look (hopened : r.closed = false) : Steps r .looking .waiting r
  | turnAway (hclosed : r.closed = true) : Steps r .looking (.over (.finish none)) r
  | take (item : Item) (hslot : r.slot = some item) :
    Steps r .waiting (.holding item) { r with slot := none }
  | wake (hslot : r.slot = none) (hclosed : r.closed = true) : Steps r .waiting .looking r
  | drop (item : Item) (hclosed : r.closed = true) :
    Steps r (.holding item) (.over (.finish none)) r
  | deliver (data : Bytes) (hopened : r.closed = false) :
    Steps r (.holding (.chunk data)) (.over (.chunk data)) r
  | finish (f : Option Failure) (hopened : r.closed = false) :
    Steps r (.holding (.finish f)) (.over (.finish f)) { r with ended := some f }

theorem Reading.steps_of_advance {reading next : Reading} {r after : Reader}
    (hadvance : reading.advance r = some (next, after)) : Steps r reading next after := by
  cases reading with
  | looking =>
      cases hclosed : r.closed with
      | true =>
          obtain ⟨rfl, rfl⟩ : .over (.finish none) = next ∧ r = after := by
            simpa [advance, hclosed] using hadvance
          exact .turnAway hclosed
      | false =>
          obtain ⟨rfl, rfl⟩ : .waiting = next ∧ r = after := by
            simpa [advance, hclosed] using hadvance
          exact .look hclosed
  | waiting =>
      cases hslot : r.slot with
      | none =>
          obtain ⟨hclosed, rfl, rfl⟩ : r.closed = true ∧ .looking = next ∧ r = after := by
            simpa [advance, hslot] using hadvance
          exact .wake hslot hclosed
      | some item =>
          obtain ⟨rfl, rfl⟩ : .holding item = next ∧ { r with slot := none } = after := by
            simpa [advance, hslot] using hadvance
          exact .take item hslot
  | holding item =>
      cases hclosed : r.closed with
      | true =>
          obtain ⟨rfl, rfl⟩ : .over (.finish none) = next ∧ r = after := by
            simpa [advance, hclosed] using hadvance
          exact .drop item hclosed
      | false =>
          cases item with
          | chunk data =>
              obtain ⟨rfl, rfl⟩ : .over (.chunk data) = next ∧ r = after := by
                simpa [advance, hclosed] using hadvance
              exact .deliver data hclosed
          | finish f =>
              obtain ⟨rfl, rfl⟩ : .over (.finish f) = next ∧ { r with ended := some f } = after := by
                simpa [advance, hclosed] using hadvance
              exact .finish f hclosed
  | «over» item => simp [advance] at hadvance

/-- A read leaves the loop and the closing of the reader alone. -/
theorem Reading.Steps.frame {reading next : Reading} {r after : Reader}
    (hsteps : Steps r reading next after) : after.loop = r.loop ∧ after.closed = r.closed := by
  cases hsteps <;> exact ⟨rfl, rfl⟩

end AttachGate.Terminal
