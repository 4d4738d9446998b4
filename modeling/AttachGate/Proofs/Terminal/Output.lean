import AttachGate.Proofs.Course
import AttachGate.Terminal.Outlet
import Mathlib.Data.List.Basic

/-!
# Output on its way from the command to the client

The command makes one write after another and is over at some time; what serves
its client takes message after message out of the slot, and the outlet may be
closed at any time.  Whatever their order, the messages that were passed on and
the one in the slot are those of the writes that went through, each of them once
and in the order of the writes, and the serving ends only when the command is over
and all of them are passed on.
-/

namespace AttachGate.Terminal

/-! ## One transition -/

def Writing.lapse : Writing → Writing
  | .placing channel data => .looking channel data
  | w => w

def Writing.placed (m : Response) : Writing → List Response
  | .over (.ok _) => [m]
  | _ => []

/-- The serving takes what is in the slot and passes it on, and makes no message
of its own. -/
theorem Serving.advance_conserves (s : Serving) (done : Bool) (o : Outlet) :
    (s.advance done o).2.1.toList ++ (s.advance done o).2.2.slot.toList = o.slot.toList ∧
      (s.advance done o).2.2.closed = o.closed := by
  cases s with
  | taking => cases hslot : o.slot <;> simp [advance, hslot]
  | _ => simp [advance]

/-- The serving looks whether the slot is empty only if the command is over. -/
theorem Serving.emptying_of_advance {s : Serving} {done : Bool} {o : Outlet}
    (hemptying : (s.advance done o).1 = .emptying) : done = true := by
  cases s with
  | taking => cases hslot : o.slot <;> simp [advance, hslot] at hemptying
  | checking => cases done <;> simp [advance] at hemptying ⊢
  | emptying => cases hslot : o.slot <;> simp [advance, hslot] at hemptying
  | «over» => simp [advance] at hemptying

/-- The serving ends only if the slot is empty. -/
theorem Serving.over_of_advance {s : Serving} {done : Bool} {o : Outlet}
    (hover : (s.advance done o).1 = .over) :
    s = .over ∨ s = .emptying ∧ o.slot = none ∧ (s.advance done o).2.2.slot = none := by
  cases s with
  | taking => cases hslot : o.slot <;> simp [advance, hslot] at hover
  | checking => cases done <;> simp [advance] at hover
  | emptying => cases hslot : o.slot <;> simp [advance, hslot] at hover ⊢
  | «over» => exact .inl rfl

/-! ## The machine -/

structure Write where
  channel : Channel
  data : Bytes
  /-- Whether the outlet was closed when the write was started. -/
  late : Bool

def Write.message (w : Write) : Response := .ofWrite w.channel w.data

structure Output where
  outlet : Outlet
  current : Option (Write × Writing)
  ended : List (Write × Except Failure Nat)
  done : Bool
  serving : Serving
  passed : List Response

namespace Output

inductive Part
  | start (channel : Channel) (data : Bytes)
  | write
  /-- The write has waited its time for a full slot. -/
  | lapse
  | finish
  | serve
  | close

def start : Output :=
  { outlet := .start, current := none, ended := [], done := false, serving := .taking
    passed := [] }

def write (d : Output) : Output :=
  match d.current with
  | none => d
  | some (w, .over outcome) => { d with current := none, ended := d.ended ++ [(w, outcome)] }
  | some (w, writing) =>
    match writing.advance d.outlet with
    | some (writing, outlet) => { d with current := some (w, writing), outlet }
    | none => d

def serve (d : Output) : Output :=
  let (serving, m, outlet) := d.serving.advance d.done d.outlet
  { d with serving, outlet, passed := d.passed ++ m.toList }

def step (d : Output) : Part → Output
  | .start channel data =>
    if d.current.isNone && !d.done then
      { d with current := some (⟨channel, data, d.outlet.closed⟩, .looking channel data) }
    else d
  | .write => d.write
  | .lapse =>
    if d.outlet.slot.isSome then
      { d with current := d.current.map fun (w, writing) => (w, writing.lapse) }
    else d
  | .finish => if d.current.isNone then { d with done := true } else d
  | .serve => d.serve
  | .close => { d with outlet := d.outlet.close }

def accepted (e : Write × Except Failure Nat) : Option Response :=
  match e.2 with
  | .ok _ => some e.1.message
  | .error _ => none

def placed (d : Output) : List Response :=
  d.ended.filterMap accepted ++ d.current.toList.flatMap fun (w, writing) =>
    writing.placed w.message

/-! ## What every transition keeps -/

def Ends (closed : Bool) (w : Write) (outcome : Except Failure Nat) : Prop :=
  outcome = .ok w.data.length ∧ w.late = false ∨ outcome = .error .streamClosed ∧ closed = true

inductive Stands (closed : Bool) (w : Write) : Writing → Prop
  | looking (hlate : w.late = true → closed = true) :
    Stands closed w (.looking w.channel w.data)
  | placing (hearly : w.late = false) : Stands closed w (.placing w.channel w.data)
  | over (outcome : Except Failure Nat) (hends : Ends closed w outcome) :
    Stands closed w (.over outcome)

structure Sound (d : Output) : Prop where
  flowing : d.passed ++ d.outlet.slot.toList = d.placed
  current : ∀ e ∈ d.current, Stands d.outlet.closed e.1 e.2
  ended : ∀ e ∈ d.ended, Ends d.outlet.closed e.1 e.2
  idle : d.done = true → d.current = none
  emptying : d.serving = .emptying → d.done = true
  finished : d.serving = .over → d.done = true ∧ d.outlet.slot = none

variable {d : Output}

theorem sound_start : Sound start := by
  constructor <;> simp [start, Outlet.start, placed]

theorem Ends.close {closed : Bool} {w : Write} {outcome : Except Failure Nat}
    (hends : Ends closed w outcome) : Ends true w outcome := by
  rcases hends with hwritten | ⟨hfailed, _⟩
  · exact .inl hwritten
  · exact .inr ⟨hfailed, rfl⟩

theorem Stands.close {closed : Bool} {w : Write} {writing : Writing}
    (hstands : Stands closed w writing) : Stands true w writing := by
  cases hstands with
  | looking _ => exact .looking fun _ => rfl
  | placing hearly => exact .placing hearly
  | «over» outcome hends => exact .over outcome hends.close

theorem Stands.lapse {closed : Bool} {w : Write} {writing : Writing}
    (hstands : Stands closed w writing) :
    Stands closed w writing.lapse ∧ writing.lapse.placed w.message = writing.placed w.message := by
  cases hstands with
  | looking hlate => exact ⟨.looking hlate, rfl⟩
  | placing hearly =>
      refine ⟨.looking ?_, rfl⟩
      simp [hearly]
  | «over» outcome hends => exact ⟨.over outcome hends, rfl⟩

/-- A write places its message once, at the moment at which it is sure to go
through. -/
theorem Stands.advance {o after : Outlet} {w : Write} {writing next : Writing}
    (hstands : Stands o.closed w writing) (hadvance : writing.advance o = some (next, after)) :
    Stands after.closed w next ∧ after.closed = o.closed ∧ writing.placed w.message = [] ∧
      after.slot.toList = o.slot.toList ++ next.placed w.message := by
  cases hstands with
  | looking hlate =>
      simp only [Writing.advance, Option.some.injEq, Prod.mk.injEq] at hadvance
      obtain ⟨rfl, rfl⟩ := hadvance
      cases hclosed : o.closed with
      | true => exact ⟨.over _ (.inr ⟨rfl, rfl⟩), rfl, rfl, by simp [Writing.placed]⟩
      | false =>
          refine ⟨.placing ?_, rfl, rfl, by simp [Writing.placed]⟩
          cases hw : w.late with
          | false => rfl
          | true =>
              rw [hlate hw] at hclosed
              cases hclosed
  | placing hearly =>
      cases hslot : o.slot with
      | none =>
          simp only [Writing.advance, hslot, Option.some.injEq, Prod.mk.injEq] at hadvance
          obtain ⟨rfl, rfl⟩ := hadvance
          exact ⟨.over _ (.inl ⟨rfl, hearly⟩), rfl, rfl, rfl⟩
      | some m =>
          simp only [Writing.advance, hslot] at hadvance
          split at hadvance
          · rename_i hclosed
            simp only [Option.some.injEq, Prod.mk.injEq] at hadvance
            obtain ⟨rfl, rfl⟩ := hadvance
            exact ⟨.looking fun _ => hclosed, rfl, rfl, by simp [hslot, Writing.placed]⟩
          · cases hadvance
  | «over» outcome hends => simp [Writing.advance] at hadvance

/-! ### The command -/

theorem Sound.started (hd : Sound d) (hnone : d.current = none) (hgoing : d.done = false)
    (channel : Channel) (data : Bytes) :
    Sound { d with
      current := some (⟨channel, data, d.outlet.closed⟩, .looking channel data) } := by
  obtain ⟨hflowing, _, hended, _, hemptying, hfinished⟩ := hd
  refine ⟨?_, ?_, hended, by simp [hgoing], hemptying, hfinished⟩
  · rw [hflowing]
    simp [placed, hnone, Writing.placed]
  · rintro e ⟨⟩
    exact .looking id

theorem Sound.returned (hd : Sound d) {w : Write} {outcome : Except Failure Nat}
    (hcurrent : d.current = some (w, .over outcome)) :
    Sound { d with current := none, ended := d.ended ++ [(w, outcome)] } := by
  obtain ⟨hflowing, hstands, hended, hidle, hemptying, hfinished⟩ := hd
  have hends : Ends d.outlet.closed w outcome := by
    cases hstands _ hcurrent with
    | «over» _ hends => exact hends
  refine ⟨?_, by simp, ?_, by simp, hemptying, hfinished⟩
  · rw [hflowing]
    cases outcome <;> simp [placed, hcurrent, accepted, Writing.placed]
  · intro e he
    rcases List.mem_append.mp he with hold | hnew
    · exact hended e hold
    · rw [List.mem_singleton] at hnew
      rw [hnew]
      exact hends

theorem Sound.advanced (hd : Sound d) {w : Write} {writing next : Writing} {after : Outlet}
    (hcurrent : d.current = some (w, writing))
    (hadvance : writing.advance d.outlet = some (next, after)) :
    Sound { d with current := some (w, next), outlet := after } := by
  obtain ⟨hflowing, hstands, hended, hidle, hemptying, hfinished⟩ := hd
  obtain ⟨hnext, hclosed, hnothing, hslot⟩ := (hstands _ hcurrent).advance hadvance
  have hgoing : d.done = false := by
    cases hdone : d.done with
    | false => rfl
    | true =>
        rw [hidle hdone] at hcurrent
        cases hcurrent
  refine ⟨?_, ?_, ?_, by simp [hgoing], hemptying, ?_⟩
  · simp only [placed, hcurrent, Option.toList_some, List.flatMap_singleton, hnothing,
      List.append_nil] at hflowing ⊢
    rw [hslot, ← List.append_assoc, hflowing]
  · rintro e ⟨⟩
    exact hnext
  · rw [hclosed]
    exact hended
  · intro hover
    have hdone := (hfinished hover).1
    rw [hgoing] at hdone
    cases hdone

theorem Sound.write (hd : Sound d) : Sound d.write := by
  unfold Output.write
  split
  · exact hd
  · rename_i w outcome hcurrent
    exact hd.returned hcurrent
  · rename_i w writing _ hcurrent
    split
    · rename_i next after hadvance
      exact hd.advanced hcurrent hadvance
    · exact hd

theorem Sound.lapse (hd : Sound d) :
    Sound { d with current := d.current.map fun (w, writing) => (w, writing.lapse) } := by
  obtain ⟨hflowing, hstands, hended, hidle, hemptying, hfinished⟩ := hd
  cases hcurrent : d.current with
  | none =>
      have hsame : ({ d with current := none } : Output) = d := by rw [← hcurrent]
      rw [Option.map_none, hsame]
      exact ⟨hflowing, hstands, hended, hidle, hemptying, hfinished⟩
  | some e =>
      obtain ⟨w, writing⟩ := e
      obtain ⟨hnext, hplaced⟩ := (hstands _ hcurrent).lapse
      refine ⟨?_, ?_, hended, ?_, hemptying, hfinished⟩
      · rw [hflowing]
        simp [placed, hcurrent, hplaced]
      · rintro e ⟨⟩
        exact hnext
      · intro hdone
        rw [hidle hdone] at hcurrent
        cases hcurrent

/-! ### The serving and the closing -/

theorem Sound.serve (hd : Sound d) : Sound d.serve := by
  obtain ⟨hflowing, hstands, hended, hidle, hemptying, hfinished⟩ := hd
  obtain ⟨hconserves, hclosed⟩ := d.serving.advance_conserves d.done d.outlet
  unfold Output.serve
  constructor
  case flowing =>
    simp only [List.append_assoc, hconserves]
    exact hflowing
  case current =>
    simp only [hclosed]
    exact hstands
  case ended =>
    simp only [hclosed]
    exact hended
  case idle => exact hidle
  case emptying =>
    intro hnext
    exact Serving.emptying_of_advance hnext
  case finished =>
    intro hover
    rcases Serving.over_of_advance hover with hbefore | ⟨hbefore, _, hslot⟩
    · obtain ⟨hdone, hslot⟩ := hfinished hbefore
      exact ⟨hdone, by simpa [Serving.advance, hbefore] using hslot⟩
    · exact ⟨hemptying hbefore, hslot⟩

theorem Sound.close (hd : Sound d) : Sound { d with outlet := d.outlet.close } := by
  obtain ⟨hflowing, hstands, hended, hidle, hemptying, hfinished⟩ := hd
  exact ⟨hflowing, fun e he => (hstands e he).close, fun e he => (hended e he).close, hidle,
    hemptying, hfinished⟩

theorem Sound.step (hd : Sound d) (part : Part) : Sound (d.step part) := by
  cases part with
  | start channel data =>
      simp only [Output.step]
      split
      · rename_i hfree
        simp only [Bool.and_eq_true, Option.isNone_iff_eq_none, Bool.not_eq_true'] at hfree
        exact hd.started hfree.1 hfree.2 channel data
      · exact hd
  | write => exact hd.write
  | lapse =>
      simp only [Output.step]
      split
      · exact hd.lapse
      · exact hd
  | finish =>
      simp only [Output.step]
      split
      · rename_i hfree
        rw [Option.isNone_iff_eq_none] at hfree
        exact ⟨hd.flowing, hd.current, hd.ended, fun _ => hfree, fun _ => rfl,
          fun hover => ⟨rfl, (hd.finished hover).2⟩⟩
      · exact hd
  | serve => exact hd.serve
  | close => exact hd.close

theorem sound_foldl (parts : List Part) : Sound (parts.foldl step start) :=
  course_invariant (I := fun _ d => Sound d) sound_start (fun _ _ part hd => hd.step part) parts

/-! ## What the client is given -/

/-- Once the command is over, six transitions bring the serving to its end. -/
theorem Sound.over_of_done (hd : Sound d) (hdone : d.done = true) :
    ((List.replicate 6 Part.serve).foldl Output.step d).serving = .over := by
  obtain ⟨⟨slot, closed⟩, current, ended, done, serving, passed⟩ := d
  have hfinished := hd.finished
  simp only at hdone hfinished
  subst hdone
  cases serving <;> cases slot <;>
    simp [List.replicate, Output.step, Output.serve, Serving.advance] at hfinished ⊢

/-- A write returns within two transitions of the serving and three of its own. -/
theorem Sound.returns (hd : Sound d) (hsome : d.current.isSome = true) :
    ([Part.serve, .serve, .write, .write, .write].foldl Output.step d).current = none := by
  have hgoing : d.done = false := by
    cases hdone : d.done with
    | false => rfl
    | true =>
        rw [hd.idle hdone] at hsome
        cases hsome
  -- the two transitions leave the slot empty and the write where it is
  obtain ⟨hslot, hsame⟩ : ([Part.serve, .serve].foldl Output.step d).outlet.slot = none ∧
      ([Part.serve, .serve].foldl Output.step d).current = d.current := by
    have hnot : d.serving ≠ .emptying ∧ d.serving ≠ .over := by
      constructor
      · intro hemptying
        have hdone := hd.emptying hemptying
        rw [hgoing] at hdone
        cases hdone
      · intro hover
        have hdone := (hd.finished hover).1
        rw [hgoing] at hdone
        cases hdone
    cases hserving : d.serving <;> cases hslot : d.outlet.slot <;>
      simp [Output.step, Output.serve, Serving.advance, hserving, hslot, hgoing] at hnot ⊢
  obtain ⟨⟨w, writing⟩, hcurrent⟩ := Option.isSome_iff_exists.mp hsome
  rw [hcurrent] at hsame
  rw [show [Part.serve, .serve, .write, .write, .write] =
    [Part.serve, .serve] ++ [.write, .write, .write] from rfl, List.foldl_append]
  generalize [Part.serve, .serve].foldl Output.step d = served at hslot hsame ⊢
  cases writing with
  | looking channel data =>
      cases hclosed : served.outlet.closed <;>
        simp [Output.step, Output.write, Writing.advance, hsame, hslot, hclosed]
  | placing channel data => simp [Output.step, Output.write, Writing.advance, hsame, hslot]
  | «over» outcome => simp [Output.step, Output.write, hsame]

/-- A command writes, one write after another, and is then over; its client is
served, and the outlet may be closed.  In every order of all this: the messages
passed on and the one in the slot are those of the writes that have gone through,
each once and in the order of the writes; the serving ends only when the command
is over and all of them are passed on, and it does end then; as long as the outlet
is open every write goes through; a write that does not fails as one on a closed
stream, as does every write that is started after the closing; and no write waits
for ever. -/
theorem passed_of_writes (parts : List Part) (d : Output) (hd : d = parts.foldl step start) :
    d.passed ++ d.outlet.slot.toList = d.placed ∧
    (d.serving = .over → d.done = true ∧ d.passed = d.ended.filterMap accepted) ∧
    (d.done = true → ((List.replicate 6 Part.serve).foldl step d).serving = .over) ∧
    (d.outlet.closed = false → (∀ e ∈ d.ended, e.2 = .ok e.1.data.length) ∧
      d.ended.filterMap accepted = d.ended.map fun e => e.1.message) ∧
    (∀ e ∈ d.ended, e.2 = .ok e.1.data.length ∨ e.2 = .error .streamClosed) ∧
    (∀ e ∈ d.ended, e.1.late = true → e.2 = .error .streamClosed) ∧
    (d.current.isSome = true →
      ([Part.serve, .serve, .write, .write, .write].foldl step d).current = none) := by
  have hsound : Sound d := hd ▸ sound_foldl parts
  refine ⟨hsound.flowing, ?_, hsound.over_of_done, ?_, ?_, ?_, hsound.returns⟩
  · intro hover
    obtain ⟨hdone, hslot⟩ := hsound.finished hover
    have hflowing := hsound.flowing
    rw [hslot, placed, hsound.idle hdone] at hflowing
    exact ⟨hdone, by simpa using hflowing⟩
  · intro hopened
    have hok : ∀ e ∈ d.ended, e.2 = .ok e.1.data.length := by
      intro e he
      rcases hsound.ended e he with ⟨hwritten, _⟩ | ⟨_, hclosed⟩
      · exact hwritten
      · rw [hopened] at hclosed
        cases hclosed
    refine ⟨hok, ?_⟩
    apply List.filterMap_eq_map_iff_forall_eq_some.mpr
    intro e he
    simp [accepted, hok e he]
  · intro e he
    rcases hsound.ended e he with ⟨hwritten, _⟩ | ⟨hfailed, _⟩
    · exact .inl hwritten
    · exact .inr hfailed
  · intro e he hlate
    rcases hsound.ended e he with ⟨_, hearly⟩ | ⟨hfailed, _⟩
    · rw [hlate] at hearly
      cases hearly
    · exact hfailed

namespace Sample

/-- Two writes, the second of which is placed just after the serving has found the
slot empty; then a third after the outlet is closed. -/
def parts : List Part :=
  [.start .out [0x61], .write, .write, .serve, .write, .start .err [0x62], .write, .serve, .write,
    .write, .close, .start .out [0x63], .write, .write, .finish] ++ List.replicate 6 .serve

end Sample

theorem passed_of_writes_two :
    let d := Sample.parts.foldl step start
    d.serving = .over ∧ d.passed = [⟨[0x61], []⟩, ⟨[], [0x62]⟩] ∧ d.ended.length = 3 ∧
      ∀ e ∈ d.ended, e.1.late = true → e.2 = .error .streamClosed := by
  intro d
  obtain ⟨_, hpassed, _, _, _, hlate, _⟩ := passed_of_writes Sample.parts d rfl
  have hover : d.serving = .over := rfl
  exact ⟨hover, (hpassed hover).2, rfl, hlate⟩

end Output

end AttachGate.Terminal
