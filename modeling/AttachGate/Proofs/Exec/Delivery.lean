import AttachGate.Exec.Pump
import AttachGate.Proofs.Course
import AttachGate.Proofs.Terminal.Transitions

/-!
# Input on its way from the client to the command

The client, the receive loop of the reader and the pump that reads from it go on
side by side.  Whatever their order, what the socket is given is settled by the
chunks that the client sends: it is given them whole and in order, up to the
first empty one.  An empty chunk is read as no octets, as is the end of the
input, and the pump stops at either.
-/

namespace AttachGate

namespace Terminal

def Feed.items : Feed → List Item
  | .message m => m.input.map .chunk
  | .finished => [.finish none]
  | .broken f => [.finish (some f)]

def Loop.items : Loop → List Item
  | .received m => m.input.map .chunk
  | .offering item | .placing item => [item]
  | .failing f | .alarming f => [.finish (some f)]
  | .receiving | .stopped => []

/-- Whether the receive loop takes no more feeds. -/
def Loop.isEnding : Loop → Bool
  | .receiving | .received _ | .offering (.chunk _) | .placing (.chunk _) => false
  | .offering (.finish _) | .placing (.finish _) | .failing _ | .alarming _ | .stopped => true

def Reading.items : Reading → List Item
  | .holding item | .over item => [item]
  | .looking | .waiting => []

end Terminal

namespace Exec

open Terminal (Feed Item Loop Reader Reading)

def calm : PumpFaults := ⟨none, none⟩

namespace Pump

/-- What comes before the read of a round: the checks and the size. -/
def prepare (faults : PumpFaults) (p : Pump) : Pump :=
  match p.verdict with
  | .running =>
    let (isOpen, p) := p.checkOpen
    if !isOpen || p.cancelled then { p with verdict := .stopped }
    else
      match p.pollSize with
      | (none, p) => { p with verdict := .stopped }
      | (some size, p) => p.resize faults size
  | _ => p

theorem round_eq (faults : PumpFaults) (chunk : Chunk) (p : Pump) :
    p.round faults chunk =
      match (p.prepare faults).verdict with
      | .running => (p.prepare faults).relay faults chunk
      | _ => p.prepare faults := by
  unfold round prepare
  cases hverdict : p.verdict with
  | running =>
      simp only
      split
      · rfl
      · rcases p.checkOpen.2.pollSize with ⟨size, q⟩
        cases size <;> rfl
  | stopped => simp only [hverdict]
  | escaped f => simp only [hverdict]

def sent (p : Pump) : List Bytes :=
  p.log.filterMap fun
    | .sent data => some data
    | _ => none

/-- The size is sent, if it is a new one, and the pump goes on. -/
theorem prepare_calm {p : Pump} (hverdict : p.verdict = .running) (hchecks : p.openChecks = none)
    (hwanted : p.cancelled = false) (size : Geometry) :
    let q := { p with sizes := [some size] }.prepare calm
    q.verdict = .running ∧ q.openChecks = none ∧ q.cancelled = false ∧ q.sent = p.sent := by
  simp only [prepare, hverdict, checkOpen, hchecks, hwanted, pollSize]
  by_cases hlast : p.lastSize = some size <;>
    simp [resize, calm, WriteFault.strike?, hlast, sent]

/-- A read that brings octets is sent, and the pump goes on. -/
theorem relay_octets {p : Pump} (hverdict : p.verdict = .running) (hchecks : p.openChecks = none)
    (hwanted : p.cancelled = false) {data : Bytes} (hdata : data.isEmpty = false) :
    let q := p.relay calm ⟨false, .ok data⟩
    q.verdict = .running ∧ q.openChecks = none ∧ q.cancelled = false ∧
      q.sent = p.sent ++ [data] := by
  simp [relay, send, calm, WriteFault.strike?, hverdict, hchecks, hwanted, hdata, sent]

/-- A read that brings none is the last one. -/
theorem relay_nothing {p : Pump} (hchecks : p.openChecks = none) (hwanted : p.cancelled = false) :
    let q := p.relay calm ⟨false, .ok []⟩
    q.verdict = .stopped ∧ q.openChecks = none ∧ q.cancelled = false ∧ q.sent = p.sent := by
  simp [relay, send, hchecks, hwanted, sent]

end Pump

/-! ## The machine -/

inductive Stage
  | checking
  /-- The size is sent; the read is started next. -/
  | asking
  | reading (reading : Reading)

def Stage.items : Stage → List Item
  | .checking | .asking => []
  | .reading r => r.items

/-- Input on its way. -/
structure Intake where
  /-- What the client has still to send. -/
  coming : List Feed
  inbox : List Feed
  reader : Reader
  stage : Stage
  pump : Pump

inductive Part
  | client
  | loop
  | pump

namespace Intake

/-- The client sends messages and then no more. -/
def start (size : Geometry) (messages : List Request) : Intake :=
  { coming := messages.map .message ++ [.finished]
    inbox := []
    reader := .start size
    stage := .checking
    pump := .start none false [] }

/-- The pump comes to its read with the size that the reader has at the moment. -/
def prepare (d : Intake) : Intake :=
  { d with pump := { d.pump with sizes := [d.reader.size?] }.prepare calm, stage := .asking }

/-- The pump takes an item for what it amounts to in a buffer of its size. -/
def relay (d : Intake) (item : Item) : Intake :=
  { d with
    pump := d.pump.relay calm ⟨false, item.toBytes bufferSize⟩
    stage := .checking }

def pumpStep? (d : Intake) : Option Intake :=
  match d.pump.verdict, d.stage with
  | .running, .checking => some d.prepare
  | .running, .asking => some { d with stage := .reading (.start d.reader) }
  | .running, .reading (.over item) => some (d.relay item)
  | .running, .reading reading =>
    (reading.advance d.reader).map fun (reading, reader) =>
      { d with reader, stage := .reading reading }
  | _, _ => none

/-- The next transition of one part, if it need not wait and is not over. -/
def step? (d : Intake) : Part → Option Intake
  | .client =>
    match d.coming with
    | [] => none
    | feed :: coming => some { d with coming, inbox := d.inbox ++ [feed] }
  | .loop => (d.reader.step d.inbox).map fun (reader, inbox) => { d with reader, inbox }
  | .pump => d.pumpStep?

def step (d : Intake) (part : Part) : Intake := (d.step? part).getD d

def feeds (d : Intake) : List Feed := d.inbox ++ d.coming

/-- The items between the client and the pump. -/
def ahead (d : Intake) : List Item :=
  d.stage.items ++ d.reader.slot.toList ++ d.reader.loop.items ++ d.feeds.flatMap Feed.items

/-! ## What every transition keeps -/

def chunksOf (messages : List Request) : List Bytes := messages.flatMap Request.input

def beforeEmpty (chunks : List Bytes) : List Bytes := chunks.takeWhile fun data => !data.isEmpty

/-- The reader and what the receive loop has before it: messages of one chunk at
most, and then the end. -/
structure Fed (reader : Reader) (feeds : List Feed) : Prop where
  opened : reader.closed = false
  drained : reader.loop.isEnding = true → feeds = []
  more : reader.loop.isEnding = false →
    ∃ ms : List Request, feeds = ms.map .message ++ [.finished] ∧ ∀ m ∈ ms, m.input.length ≤ 1
  single : ∀ m, reader.loop = .received m → m.input.length ≤ 1
  regular : ∀ f, reader.loop ≠ .failing f ∧ reader.loop ≠ .alarming f

theorem Fed.step {reader next : Reader} {inbox rest coming : List Feed}
    (hfed : Fed reader (inbox ++ coming)) (hstep : reader.step inbox = some (next, rest)) :
    Fed next (rest ++ coming) ∧ next.ended = reader.ended ∧
      next.slot.toList ++ next.loop.items ++ (rest ++ coming).flatMap Feed.items =
        reader.slot.toList ++ reader.loop.items ++ (inbox ++ coming).flatMap Feed.items := by
  obtain ⟨hopened, hover, hmore, hsingle, hregular⟩ := hfed
  cases Reader.steps_of_step hstep with
  | message m _ hloop =>
      obtain ⟨ms, hms, hlengths⟩ := hmore (by rw [hloop]; rfl)
      cases ms with
      | nil => simp at hms
      | cons first ms =>
          obtain ⟨rfl, hrest⟩ : m = first ∧ rest ++ coming = ms.map .message ++ [.finished] := by
            simpa using hms
          have hm : m.input.length ≤ 1 := hlengths m List.mem_cons_self
          refine ⟨⟨hopened, ?_, ?_, ?_, ?_⟩, rfl, ?_⟩
          · simp [Loop.isEnding]
          · intro _
            exact ⟨ms, hrest, fun m hm => hlengths m (List.mem_cons_of_mem _ hm)⟩
          · simpa using hm
          · simp
          · simp [hloop, Loop.items, Feed.items]
  | finished _ hloop =>
      obtain ⟨ms, hms, _⟩ := hmore (by rw [hloop]; rfl)
      cases ms with
      | cons m ms => simp at hms
      | nil =>
          have hnone : rest ++ coming = [] := by simpa using hms
          refine ⟨⟨hopened, fun _ => hnone, ?_, ?_, ?_⟩, rfl, ?_⟩ <;>
            simp [hloop, Loop.isEnding, Loop.items, hnone, Feed.items]
  | broken f _ hloop =>
      obtain ⟨ms, hms, _⟩ := hmore (by rw [hloop]; rfl)
      cases ms <;> simp at hms
  | use m _ hloop _ =>
      have hm := hsingle m hloop
      have hrest := hmore (by rw [hloop]; rfl)
      cases hinput : m.input with
      | nil =>
          refine ⟨⟨hopened, ?_, fun _ => hrest, ?_, ?_⟩, rfl, ?_⟩ <;>
            simp [hloop, Reader.use, Reader.Loop.afterMessage, hinput, Loop.isEnding, Loop.items]
      | cons data others =>
          have hsole : others = [] := by simpa [hinput] using hm
          subst hsole
          refine ⟨⟨hopened, ?_, fun _ => hrest, ?_, ?_⟩, rfl, ?_⟩ <;>
            simp [hloop, Reader.use, Reader.Loop.afterMessage, hinput, Loop.isEnding, Loop.items]
  | offer item _ hloop _ =>
      rw [hloop] at hover hmore ⊢
      cases item <;> exact ⟨⟨hopened, hover, hmore, by simp, by simp⟩, rfl, rfl⟩
  | stop _ _ hclosed => simp [hopened] at hclosed
  | place item _ hloop hslot =>
      rw [hloop] at hover hmore
      cases item <;> refine ⟨⟨hopened, hover, hmore, ?_, ?_⟩, rfl, ?_⟩ <;>
        simp [hloop, hslot, Reader.Loop.afterPlacing, Loop.items]
  | withdraw _ _ _ hclosed => simp [hopened] at hclosed
  | record f _ hloop => exact ((hregular f).1 hloop).elim
  | alarm f _ hloop => exact ((hregular f).2 hloop).elim

/-- The consumer's side of a reader is of no account to its receive loop. -/
theorem Fed.of_loop {reader next : Reader} {feeds : List Feed} (hfed : Fed reader feeds)
    (hloop : next.loop = reader.loop) (hclosed : next.closed = reader.closed) : Fed next feeds := by
  obtain ⟨hopened, hover, hmore, hsingle, hregular⟩ := hfed
  rw [← hclosed] at hopened
  rw [← hloop] at hover hmore hsingle hregular
  exact ⟨hopened, hover, hmore, hsingle, hregular⟩

structure Sound (chunks : List Bytes) (d : Intake) : Prop where
  fed : Fed d.reader d.feeds
  unchecked : d.pump.openChecks = none
  wanted : d.pump.cancelled = false
  ended : d.pump.verdict = .running → d.reader.ended.isSome = true →
    ∃ f, d.stage = .reading (.over (.finish f))
  flowing : d.pump.verdict = .running →
    d.pump.sent.map .chunk ++ d.ahead = chunks.map .chunk ++ [.finish none] ∧
      ∀ data ∈ d.pump.sent, data.isEmpty = false
  stopped : d.pump.verdict ≠ .running →
    d.pump.verdict = .stopped ∧ d.pump.sent = beforeEmpty chunks

theorem sound_start (size : Geometry) {messages : List Request}
    (hsingle : ∀ m ∈ messages, m.input.length ≤ 1) :
    Sound (chunksOf messages) (start size messages) := by
  have hitems : (messages.map Feed.message).flatMap Feed.items =
      (chunksOf messages).map Item.chunk := by
    simp [List.flatMap_map, chunksOf, List.map_flatMap, Feed.items]
  constructor
  case fed =>
    constructor
    · rfl
    · simp [start, Reader.start, Loop.isEnding]
    · intro _
      exact ⟨messages, rfl, hsingle⟩
    · simp [start, Reader.start]
    · simp [start, Reader.start]
  case flowing =>
    intro _
    constructor
    · simp [ahead, feeds, start, Pump.start, Pump.sent, Stage.items, Reader.start, Loop.items, hitems,
        Feed.items]
    · simp [start, Pump.start, Pump.sent]
  all_goals simp [start, Reader.start, Pump.start]

/-! ### The receive loop and the client -/

theorem Sound.client {chunks : List Bytes} {d : Intake} (hd : Sound chunks d) {feed : Feed}
    {coming : List Feed} (hcoming : d.coming = feed :: coming) :
    Sound chunks { d with coming, inbox := d.inbox ++ [feed] } := by
  have hfeeds : ({ d with coming, inbox := d.inbox ++ [feed] } : Intake).feeds = d.feeds := by
    simp [feeds, hcoming]
  obtain ⟨hfed, hunchecked, hwanted, hended, hflowing, hstopped⟩ := hd
  refine ⟨?_, hunchecked, hwanted, hended, ?_, hstopped⟩
  · rw [hfeeds]
    exact hfed
  · unfold ahead at hflowing ⊢
    rw [hfeeds]
    exact hflowing

theorem Sound.loop {chunks : List Bytes} {d : Intake} (hd : Sound chunks d) {reader : Reader}
    {inbox : List Feed} (hstep : d.reader.step d.inbox = some (reader, inbox)) :
    Sound chunks { d with reader, inbox } := by
  obtain ⟨hfed, hunchecked, hwanted, hended, hflowing, hstopped⟩ := hd
  obtain ⟨hfed', hended', hitems⟩ := hfed.step hstep
  refine ⟨hfed', hunchecked, hwanted, ?_, ?_, hstopped⟩
  · rw [hended']
    exact hended
  · intro hrunning
    obtain ⟨hwhole, hsent⟩ := hflowing hrunning
    refine ⟨?_, hsent⟩
    rw [← hwhole]
    simp only [ahead, feeds, List.append_assoc] at hitems ⊢
    rw [hitems]

/-! ### The pump -/

/-- A read of an open reader takes the items as they come. -/
theorem advance_conserves {reading next : Reading} {reader after : Reader}
    (hopened : reader.closed = false) (hadvance : reading.advance reader = some (next, after)) :
    after.loop = reader.loop ∧ after.closed = false ∧
      next.items ++ after.slot.toList = reading.items ++ reader.slot.toList ∧
      (after.ended = reader.ended ∨ ∃ f, next = .over (.finish f)) := by
  cases Reading.steps_of_advance hadvance with
  | look _ => exact ⟨rfl, hopened, rfl, .inl rfl⟩
  | take item hslot => exact ⟨rfl, hopened, by simp [hslot, Reading.items], .inl rfl⟩
  | deliver data _ => exact ⟨rfl, hopened, rfl, .inl rfl⟩
  | finish f _ => exact ⟨rfl, hopened, rfl, .inr ⟨f, rfl⟩⟩
  | turnAway hclosed | wake _ hclosed | drop _ hclosed => simp [hopened] at hclosed

theorem beforeEmpty_of_append {chunks sent : List Bytes} {item : Item} {rest : List Item}
    (hwhole : sent.map .chunk ++ item :: rest = chunks.map .chunk ++ [.finish none])
    (hsent : ∀ data ∈ sent, data.isEmpty = false)
    (hitem : item.toBytes bufferSize = .ok []) : beforeEmpty chunks = sent := by
  induction sent generalizing chunks with
  | nil =>
      cases chunks with
      | nil => rfl
      | cons data chunks =>
          obtain ⟨rfl, _⟩ : item = .chunk data ∧ rest = chunks.map .chunk ++ [.finish none] := by
            simpa using hwhole
          have hempty : data = [] := by
            simp only [Item.toBytes] at hitem
            split at hitem
            · cases hitem
            · exact Except.ok.inj hitem
          simp [beforeEmpty, hempty]
  | cons data sent ih =>
      cases chunks with
      | nil => simp at hwhole
      | cons first chunks =>
          obtain ⟨rfl, hrest⟩ : data = first ∧
              sent.map .chunk ++ item :: rest = chunks.map .chunk ++ [.finish none] := by
            simpa using hwhole
          have hdata := hsent data List.mem_cons_self
          have htail := ih hrest fun other hother => hsent other (List.mem_cons_of_mem _ hother)
          unfold beforeEmpty at htail ⊢
          rw [List.takeWhile_cons_of_pos (by simp [hdata]), htail]

/-- The read goes on and the pump does nothing else. -/
theorem Sound.read {chunks : List Bytes} {d : Intake} (hd : Sound chunks d) {reader : Reader}
    {stage : Stage} (hloop : reader.loop = d.reader.loop)
    (hclosed : reader.closed = d.reader.closed)
    (hended : reader.ended.isSome = true → ∃ f, stage = .reading (.over (.finish f)))
    (hitems : stage.items ++ reader.slot.toList = d.stage.items ++ d.reader.slot.toList) :
    Sound chunks { d with reader, stage } := by
  obtain ⟨hfed, hunchecked, hwanted, _, hflowing, hstopped⟩ := hd
  refine ⟨hfed.of_loop hloop hclosed, hunchecked, hwanted, fun _ => hended, ?_, hstopped⟩
  intro hrunning
  obtain ⟨hwhole, hsent⟩ := hflowing hrunning
  refine ⟨?_, hsent⟩
  rw [← hwhole]
  simp only [ahead, feeds, hitems, hloop]

/-- Unless the pump is at the end, its reader has not given it. -/
theorem Sound.not_ended {chunks : List Bytes} {d : Intake} (hd : Sound chunks d)
    (hverdict : d.pump.verdict = .running)
    (hstage : ∀ f, d.stage ≠ .reading (.over (.finish f))) : d.reader.ended = none := by
  cases hended : d.reader.ended with
  | none => rfl
  | some _ =>
      obtain ⟨f, hf⟩ := hd.ended hverdict (by rw [hended]; rfl)
      exact (hstage f hf).elim

theorem Sound.prepare {chunks : List Bytes} {d : Intake} (hd : Sound chunks d)
    (hverdict : d.pump.verdict = .running) (hstage : d.stage = .checking) :
    Sound chunks d.prepare := by
  have hended := hd.not_ended hverdict (by simp [hstage])
  obtain ⟨hfed, hunchecked, hwanted, _, hflowing, _⟩ := hd
  have hsize : d.reader.size? = some d.reader.size := by simp [Reader.size?, hfed.opened]
  obtain ⟨hverdict', hunchecked', hwanted', hsent'⟩ :=
    Pump.prepare_calm hverdict hunchecked hwanted d.reader.size
  obtain ⟨hwhole, hsent⟩ := hflowing hverdict
  unfold Intake.prepare
  rw [hsize]
  refine ⟨hfed, hunchecked', hwanted', ?_, ?_, ?_⟩
  · simp [hended]
  · intro _
    rw [hsent']
    refine ⟨?_, hsent⟩
    rw [← hwhole]
    simp [ahead, feeds, hstage, Stage.items]
  · intro hnot
    exact (hnot hverdict').elim

/-- The pump is through with an item. -/
theorem Sound.relay {chunks : List Bytes} {d : Intake} (hd : Sound chunks d)
    (hfits : ∀ data ∈ chunks, data.length ≤ bufferSize) (hverdict : d.pump.verdict = .running)
    {item : Item} (hstage : d.stage = .reading (.over item)) : Sound chunks (d.relay item) := by
  obtain ⟨hfed, hunchecked, hwanted, hended, hflowing, hstopped⟩ := hd
  obtain ⟨hwhole, hsent⟩ := hflowing hverdict
  have hahead : d.ahead =
      item :: ({ d with stage := .checking } : Intake).ahead := by
    simp [ahead, hstage, Stage.items, Reading.items, feeds]
  rw [hahead] at hwhole
  have hmem : item ∈ chunks.map Item.chunk ++ [.finish none] := by
    rw [← hwhole]
    simp
  by_cases hnothing : item.toBytes bufferSize = .ok []
  · obtain ⟨hverdict', hunchecked', hwanted', hsent'⟩ :=
      Pump.relay_nothing hunchecked hwanted
    unfold Intake.relay
    rw [hnothing]
    refine ⟨hfed, hunchecked', hwanted', ?_, ?_, ?_⟩
    · simp [hverdict']
    · simp [hverdict']
    · intro _
      refine ⟨hverdict', ?_⟩
      rw [hsent', beforeEmpty_of_append hwhole hsent hnothing]
  · obtain ⟨data, rfl, hdata⟩ : ∃ data, item = .chunk data ∧ data ∈ chunks := by
      cases item with
      | chunk data => exact ⟨data, rfl, by simpa using hmem⟩
      | finish f => exact (hnothing rfl).elim
    have hbytes : (Item.chunk data).toBytes bufferSize = .ok data := by
      have hlength := hfits data hdata
      simp only [Item.toBytes]
      rw [if_neg (by omega)]
    have hfull : data.isEmpty = false := by
      rw [hbytes] at hnothing
      simpa using hnothing
    obtain ⟨hverdict', hunchecked', hwanted', hsent'⟩ :=
      Pump.relay_octets hverdict hunchecked hwanted hfull
    unfold Intake.relay
    rw [hbytes]
    refine ⟨hfed, hunchecked', hwanted', ?_, ?_, ?_⟩
    · intro _ hsome
      obtain ⟨f, hf⟩ := hended hverdict hsome
      simp [hstage] at hf
    · intro _
      rw [hsent']
      constructor
      · rw [← hwhole]
        simp [ahead, feeds]
      · intro other hother
        rcases List.mem_append.mp hother with hold | hnew
        · exact hsent other hold
        · rw [List.mem_singleton.mp hnew]
          exact hfull
    · intro hnot
      exact (hnot hverdict').elim

theorem pumpStep?_reading {d : Intake} (hverdict : d.pump.verdict = .running) {reading : Reading}
    (hstage : d.stage = .reading reading) :
    (∃ item, reading = .over item ∧ d.pumpStep? = some (d.relay item)) ∨
      (∀ item, reading ≠ .over item) ∧
        d.pumpStep? = (reading.advance d.reader).map fun (reading, reader) =>
          { d with reader, stage := .reading reading } := by
  cases reading with
  | «over» item => exact .inl ⟨item, rfl, by simp only [pumpStep?, hverdict, hstage]⟩
  | _ => exact .inr ⟨by simp, by simp only [pumpStep?, hverdict, hstage]⟩

theorem Sound.pump {chunks : List Bytes} {d next : Intake} (hd : Sound chunks d)
    (hfits : ∀ data ∈ chunks, data.length ≤ bufferSize) (hstep : d.pumpStep? = some next) :
    Sound chunks next := by
  have hopened := hd.fed.opened
  cases hverdict : d.pump.verdict with
  | stopped => simp [pumpStep?, hverdict] at hstep
  | escaped f => simp [pumpStep?, hverdict] at hstep
  | running =>
      cases hstage : d.stage with
      | checking =>
          simp only [pumpStep?, hverdict, hstage, Option.some.injEq] at hstep
          subst hstep
          exact hd.prepare hverdict hstage
      | asking =>
          simp only [pumpStep?, hverdict, hstage, Option.some.injEq] at hstep
          subst hstep
          have hended := hd.not_ended hverdict (by simp [hstage])
          apply hd.read rfl rfl
          · simp [hended]
          · simp [Reading.start, hended, hstage, Stage.items, Reading.items]
      | reading reading =>
          rcases pumpStep?_reading hverdict hstage with ⟨item, hover, hrelay⟩ | ⟨hnot, hread⟩
          · rw [hrelay, Option.some.injEq] at hstep
            subst hover hstep
            exact hd.relay hfits hverdict hstage
          · rw [hread, Option.map_eq_some_iff] at hstep
            obtain ⟨⟨after, reader⟩, hadvance, rfl⟩ := hstep
            obtain ⟨hloop, hclosed, hitems, hended⟩ := advance_conserves hopened hadvance
            apply hd.read hloop (hclosed.trans hopened.symm)
            · intro hsome
              rcases hended with hsame | ⟨f, hf⟩
              · have hnone := hd.not_ended hverdict (by simp [hstage, hnot])
                rw [hsame, hnone] at hsome
                cases hsome
              · exact ⟨f, by rw [hf]⟩
            · rw [hstage]
              exact hitems

theorem Sound.step {chunks : List Bytes} {d : Intake} (hd : Sound chunks d)
    (hfits : ∀ data ∈ chunks, data.length ≤ bufferSize) (part : Part) :
    Sound chunks (d.step part) := by
  unfold Intake.step
  cases hstep : d.step? part with
  | none => exact hd
  | some next =>
      cases part with
      | client =>
          cases hcoming : d.coming with
          | nil => simp [step?, hcoming] at hstep
          | cons feed coming =>
              simp only [step?, hcoming, Option.some.injEq] at hstep
              subst hstep
              exact hd.client hcoming
      | loop =>
          simp only [step?, Option.map_eq_some_iff] at hstep
          obtain ⟨⟨reader, inbox⟩, hadvance, rfl⟩ := hstep
          exact hd.loop hadvance
      | pump => exact hd.pump hfits hstep

/-! ## What the socket is given -/

/-- While the pump runs somebody can go on. -/
theorem Sound.not_stuck {chunks : List Bytes} {d : Intake} (hd : Sound chunks d)
    (hverdict : d.pump.verdict = .running) (hstuck : ∀ part, d.step? part = none) : False := by
  have hopened := hd.fed.opened
  have hcoming : d.coming = [] := by
    have hclient := hstuck .client
    cases hcoming : d.coming with
    | nil => rfl
    | cons feed coming => simp [step?, hcoming] at hclient
  -- the pump waits for an item
  have hpump : d.stage = .reading .waiting ∧ d.reader.slot = none := by
    have hpump := hstuck .pump
    simp only [step?] at hpump
    cases hstage : d.stage with
    | checking => simp [pumpStep?, hverdict, hstage] at hpump
    | asking => simp [pumpStep?, hverdict, hstage] at hpump
    | reading r =>
        cases r with
        | looking => simp [pumpStep?, hverdict, hstage, Reading.advance] at hpump
        | waiting =>
            cases hslot : d.reader.slot with
            | none => exact ⟨rfl, rfl⟩
            | some item => simp [pumpStep?, hverdict, hstage, Reading.advance, hslot] at hpump
        | holding item =>
            cases item <;>
              simp [pumpStep?, hverdict, hstage, Reading.advance, hopened] at hpump
        | «over» item => simp [pumpStep?, hverdict, hstage] at hpump
  obtain ⟨hstage, hslot⟩ := hpump
  -- so the loop has nothing to place and nothing to take
  have hloop : d.reader.loop.items = [] ∧ d.feeds = [] := by
    have hloop := hstuck .loop
    simp only [step?, Option.map_eq_none_iff] at hloop
    cases hreader : d.reader.loop with
    | receiving =>
        cases hinbox : d.inbox with
        | nil => exact ⟨rfl, by simp [feeds, hinbox, hcoming]⟩
        | cons feed rest => simp [Reader.step, Reader.advance, hreader, hinbox] at hloop
    | placing item => simp [Reader.step, Reader.advance, hreader, hslot] at hloop
    | stopped => exact ⟨rfl, hd.fed.drained (by rw [hreader]; rfl)⟩
    | _ => simp [Reader.step, Reader.advance, hreader] at hloop
  obtain ⟨hwhole, _⟩ := hd.flowing hverdict
  have hnone : d.ahead = [] := by
    simp [ahead, hstage, Stage.items, Reading.items, hslot, hloop.1, hloop.2]
  have hend : Item.finish none ∈ d.pump.sent.map Item.chunk ++ d.ahead := by
    rw [hwhole]
    simp
  simp [hnone] at hend

/-! ### Nothing goes on for ever -/

def loopWeight : Loop → Nat
  | .receiving | .stopped => 0
  | .placing _ => 7
  | .offering _ => 8
  | .alarming _ => 9
  | .failing _ => 10
  | .received _ => 11

def stageWeight : Stage → Nat
  | .reading .waiting => 0
  | .reading .looking => 1
  | .asking => 2
  | .checking => 3
  | .reading (.over _) => 4
  | .reading (.holding _) => 5

/-- A bound for the transitions that are left: each makes it smaller. -/
def remaining (d : Intake) : Nat :=
  13 * d.coming.length + 12 * d.inbox.length + loopWeight d.reader.loop +
    6 * d.reader.slot.toList.length + stageWeight d.stage

theorem remaining_loop {d : Intake} (hopened : d.reader.closed = false) {reader : Reader}
    {inbox : List Feed} (hstep : d.reader.step d.inbox = some (reader, inbox)) :
    ({ d with reader, inbox } : Intake).remaining < d.remaining := by
  unfold remaining
  generalize d.inbox = before at hstep ⊢
  cases Reader.steps_of_step hstep with
  | message m _ hloop | finished _ hloop =>
      simp [hloop, loopWeight]
      omega
  | broken f _ hloop =>
      have hweight : loopWeight (Reader.Loop.afterFailure f) ≤ 10 := by
        unfold Reader.Loop.afterFailure
        split <;> simp [loopWeight]
      have hidle : loopWeight .receiving = 0 := rfl
      simp only [hloop, hidle, List.length_cons]
      omega
  | use m _ hloop _ =>
      match hinput : m.input with
      | [] | [_] | _ :: _ :: _ =>
          simp [hloop, Reader.use, Reader.Loop.afterMessage, hinput, loopWeight]
  | place item _ hloop hslot =>
      cases item <;> simp [hloop, hslot, Reader.Loop.afterPlacing, loopWeight]
  | stop _ _ hclosed | withdraw _ _ _ hclosed => simp [hopened] at hclosed
  | offer _ _ hloop _ | record _ _ hloop | alarm _ _ hloop => simp [hloop, loopWeight]

theorem remaining_read {reading next : Reading} {reader after : Reader}
    (hopened : reader.closed = false) (hadvance : reading.advance reader = some (next, after)) :
    6 * after.slot.toList.length + stageWeight (.reading next) <
      6 * reader.slot.toList.length + stageWeight (.reading reading) := by
  cases Reading.steps_of_advance hadvance with
  | look _ | deliver _ _ | finish _ _ => simp [stageWeight]
  | take item hslot => simp [hslot, stageWeight]
  | turnAway hclosed | wake _ hclosed | drop _ hclosed => simp [hopened] at hclosed

theorem Sound.remaining {chunks : List Bytes} {d next : Intake} (hd : Sound chunks d) {part : Part}
    (hstep : d.step? part = some next) : next.remaining < d.remaining := by
  have hopened := hd.fed.opened
  cases part with
  | client =>
      cases hcoming : d.coming with
      | nil => simp [step?, hcoming] at hstep
      | cons feed coming =>
          simp only [step?, hcoming, Option.some.injEq] at hstep
          subst hstep
          simp only [Intake.remaining, hcoming, List.length_append, List.length_cons, List.length_nil]
          omega
  | loop =>
      simp only [step?, Option.map_eq_some_iff] at hstep
      obtain ⟨⟨reader, inbox⟩, hadvance, rfl⟩ := hstep
      exact remaining_loop hopened hadvance
  | pump =>
      simp only [step?] at hstep
      cases hverdict : d.pump.verdict with
      | stopped => simp [pumpStep?, hverdict] at hstep
      | escaped f => simp [pumpStep?, hverdict] at hstep
      | running =>
          cases hstage : d.stage with
          | checking =>
              simp only [pumpStep?, hverdict, hstage, Option.some.injEq] at hstep
              subst hstep
              simp [Intake.remaining, Intake.prepare, hstage, stageWeight]
          | asking =>
              simp only [pumpStep?, hverdict, hstage, Option.some.injEq] at hstep
              subst hstep
              have hended := hd.not_ended hverdict (by simp [hstage])
              simp [Intake.remaining, hstage, Reading.start, hended, stageWeight]
          | reading reading =>
              rcases pumpStep?_reading hverdict hstage with ⟨item, hover, hrelay⟩ | ⟨_, hread⟩
              · rw [hrelay, Option.some.injEq] at hstep
                subst hover hstep
                simp [Intake.remaining, Intake.relay, hstage, stageWeight]
              · rw [hread, Option.map_eq_some_iff] at hstep
                obtain ⟨⟨after, reader⟩, hadvance, rfl⟩ := hstep
                obtain ⟨hloop, _⟩ := advance_conserves hopened hadvance
                have hless := remaining_read hopened hadvance
                simp only [Intake.remaining, hstage, hloop]
                omega

/-! ## What the socket is given -/

/-- How many transitions of a course were no waiting. -/
def taken (past : List (Intake × Part)) : Nat :=
  past.countP fun entry => (entry.1.step? entry.2).isSome

theorem course_sound (size : Geometry) {messages : List Request}
    (hsingle : ∀ m ∈ messages, m.input.length ≤ 1)
    (hfits : ∀ data ∈ chunksOf messages, data.length ≤ bufferSize) (parts : List Part) :
    Sound (chunksOf messages) (parts.foldl step (start size messages)) ∧
      taken (history step (start size messages) parts) +
        (parts.foldl step (start size messages)).remaining ≤ 13 * messages.length + 16 := by
  apply course_invariant (I := fun past d =>
    Sound (chunksOf messages) d ∧ taken past + d.remaining ≤ 13 * messages.length + 16)
  · refine ⟨sound_start size hsingle, ?_⟩
    simp [taken, remaining, start, Reader.start, loopWeight, stageWeight]
    omega
  · intro past d part hkept
    obtain ⟨hd, hbound⟩ := hkept
    refine ⟨hd.step hfits part, ?_⟩
    have htaken : taken (past ++ [(d, part)]) =
        taken past + if (d.step? part).isSome then 1 else 0 := by
      simp [taken, List.countP_cons]
    rw [htaken]
    cases hstep : d.step? part with
    | none => simpa [step, hstep] using hbound
    | some next =>
        have hless := hd.remaining hstep
        simp only [step, hstep, Option.isSome_some, if_true, Option.getD_some]
        omega

theorem beforeEmpty_flatten {chunks : List Bytes} :
    (beforeEmpty chunks).flatten = chunks.flatten ↔
      ∀ data ∈ chunks.drop (beforeEmpty chunks).length, data = [] := by
  have hsplit : beforeEmpty chunks ++ chunks.drop (beforeEmpty chunks).length = chunks := by
    apply List.prefix_iff_eq_append.mp
    exact List.takeWhile_prefix _
  have hflatten := congrArg List.flatten hsplit
  rw [List.flatten_append] at hflatten
  rw [← List.flatten_eq_nil_iff]
  constructor
  · intro hsame
    rw [hsame] at hflatten
    exact List.append_right_eq_self.mp hflatten
  · intro hnone
    rw [hnone, List.append_nil] at hflatten
    exact hflatten

/-- The client sends messages of one chunk at most, none larger than the pump's
buffer, and then ends its stream; the socket stays open, the exec is not called
off, no write fails and the reader is not closed.  Then, in every order of the
client, the receive loop and the pump, no course goes on for ever, and where
nobody can go on the pump has stopped.  When it has, the socket was given the
chunks before the first empty one, whole and in order; this is all that the
client sent just if every chunk after those is empty. -/
theorem sent_before_empty (size : Geometry) (messages : List Request)
    (hsingle : ∀ m ∈ messages, m.input.length ≤ 1)
    (hfits : ∀ m ∈ messages, ∀ data ∈ m.input, data.length ≤ bufferSize) (parts : List Part)
    (d : Intake) (hd : d = parts.foldl step (start size messages)) :
    taken (history step (start size messages) parts) ≤ 13 * messages.length + 16 ∧
    ((∀ part, d.step? part = none) → d.pump.verdict ≠ .running) ∧
    (d.pump.verdict ≠ .running →
      d.pump.verdict = .stopped ∧
      d.pump.sent = beforeEmpty (chunksOf messages) ∧
      (d.pump.sent.flatten = (chunksOf messages).flatten ↔
        ∀ data ∈ (chunksOf messages).drop d.pump.sent.length, data = [])) := by
  have hchunks : ∀ data ∈ chunksOf messages, data.length ≤ bufferSize := by
    intro data hdata
    obtain ⟨m, hm, hmem⟩ := List.mem_flatMap.mp hdata
    exact hfits m hm data hmem
  obtain ⟨hsound, hbound⟩ := course_sound size hsingle hchunks parts
  rw [← hd] at hsound hbound
  refine ⟨by omega, ?_, ?_⟩
  · intro hstuck hrunning
    exact hsound.not_stuck hrunning hstuck
  · intro hover
    obtain ⟨hstopped, hsent⟩ := hsound.stopped hover
    refine ⟨hstopped, hsent, ?_⟩
    rw [hsent]
    exact beforeEmpty_flatten

namespace Sample

def messages (chunks : List Bytes) : List Request :=
  chunks.map fun data => { Request.nothing with input := [data] }

/-- The client sends everything first; then the loop and the pump take so many
transitions in turn. -/
def parts (feeds rounds : Nat) : List Part :=
  List.replicate feeds .client ++
    (List.replicate rounds (List.replicate 5 .loop ++ List.replicate 6 .pump)).flatten

end Sample

open Sample in
theorem sent_before_empty_two :
    let d := (parts 3 3).foldl step (start ⟨80, 24⟩ (messages [[0x61], [0x62, 0x63]]))
    d.pump.verdict = .stopped ∧ d.pump.sent = [[0x61], [0x62, 0x63]] ∧
      d.pump.sent.flatten = (chunksOf (messages [[0x61], [0x62, 0x63]])).flatten := by
  intro d
  have hstopped : d.pump.verdict = .stopped := by decide +kernel
  obtain ⟨_, _, hover⟩ := sent_before_empty ⟨80, 24⟩ (messages [[0x61], [0x62, 0x63]])
    (by decide) (by decide) (parts 3 3) d rfl
  obtain ⟨_, hsent, hall⟩ := hover (by simp [hstopped])
  refine ⟨hstopped, hsent, hall.mpr ?_⟩
  rw [hsent]
  decide

open Sample in
/-- A client that sends an empty chunk is not heard after it. -/
theorem nothing_sent_after_empty :
    ¬ ∀ (size : Geometry) (messages : List Request),
      (∀ m ∈ messages, m.input.length ≤ 1) →
      (∀ m ∈ messages, ∀ data ∈ m.input, data.length ≤ bufferSize) →
      ∀ parts : List Part,
        (parts.foldl step (start size messages)).coming = [] →
        (parts.foldl step (start size messages)).pump.verdict = .stopped →
        (parts.foldl step (start size messages)).pump.sent.flatten =
          (chunksOf messages).flatten := by
  intro hall
  have hsame := hall ⟨80, 24⟩ (messages [[], [0x61]]) (by decide) (by decide) (parts 3 1) rfl rfl
  have hnone : ((parts 3 1).foldl step (start ⟨80, 24⟩ (messages [[], [0x61]]))).pump.sent = [] :=
    rfl
  rw [hnone] at hsame
  exact absurd hsame (by decide)

end Intake

end Exec

end AttachGate
