import AttachGate.Proofs.Exec.Delivery
import Mathlib.Data.List.Basic

/-!
# Input on its way from the client to a consumer

A client sends messages and then ends its stream or loses it; the receive loop of
the reader and a consumer, which makes one read after another, go on side by side,
each of their waits may run out at any time, and the reader may be closed at any
time.  Whatever the order of all this, the consumer is given chunks and then ends,
and the chunks are the first ones of those that the client sent in the messages
before the first one with more than one chunk.
-/

namespace AttachGate.Terminal

/-! ## What a client sends -/

/-- How the stream of a client closes: it ends, or it breaks. -/
def closing : Option Failure → Feed
  | none => .finished
  | some f => .broken f

/-- The chunks of the messages before the first one that carries more than one. -/
def deliverable (messages : List Request) : List Bytes :=
  (messages.takeWhile fun m => m.input.length ≤ 1).flatMap Request.input

/-- Why the input ends: because of the first message that carries more than one
chunk, or as the stream closes. -/
def ending (broken : Option Failure) (messages : List Request) : Option Failure :=
  match messages.find? fun m => 1 < m.input.length with
  | some m => some (.chunkCount m.input.length)
  | none => broken

/-- The items that the receive loop makes of feeds. -/
def made : List Feed → List Item
  | [] => []
  | .finished :: _ => [.finish none]
  | .broken f :: _ => [.finish (some f)]
  | .message m :: rest =>
    match m.input with
    | [] => made rest
    | [data] => .chunk data :: made rest
    | chunks => [.finish (some (.chunkCount chunks.length))]

theorem made_of_messages (broken : Option Failure) (messages : List Request) :
    made (messages.map .message ++ [closing broken]) =
      (deliverable messages).map .chunk ++ [.finish (ending broken messages)] := by
  induction messages with
  | nil => cases broken <;> rfl
  | cons m messages ih =>
      simp only [deliverable, ending] at ih
      match hinput : m.input with
      | [] => simp [made, hinput, deliverable, ending, ih]
      | [data] => simp [made, hinput, deliverable, ending, ih]
      | first :: second :: others => simp [made, hinput, deliverable, ending]

/-- The end stands behind the chunks and nowhere else. -/
theorem chunks_of_finish {chunks data : List Bytes} {f e : Option Failure} {rest : List Item}
    (heq : chunks.map .chunk ++ .finish f :: rest = data.map .chunk ++ [.finish e]) :
    chunks = data ∧ f = e ∧ rest = [] := by
  induction chunks generalizing data with
  | nil => cases data <;> simp_all
  | cons first chunks ih =>
      cases data with
      | nil => simp at heq
      | cons other data =>
          simp only [List.map_cons, List.cons_append, List.cons.injEq, Item.chunk.injEq] at heq
          obtain ⟨rfl, rfl, rfl⟩ := ih heq.2
          exact ⟨by rw [heq.1], rfl, rfl⟩

theorem prefix_of_chunks {chunks data : List Bytes} {e : Option Failure} {rest : List Item}
    (heq : chunks.map .chunk ++ rest = data.map .chunk ++ [.finish e]) : chunks <+: data := by
  induction chunks generalizing data with
  | nil => exact List.nil_prefix
  | cons first chunks ih =>
      cases data with
      | nil => simp at heq
      | cons other data =>
          simp only [List.map_cons, List.cons_append, List.cons.injEq, Item.chunk.injEq] at heq
          rw [heq.1]
          exact List.cons_prefix_cons.mpr ⟨rfl, ih heq.2⟩

/-! ## The receive loop -/

def Loop.hand : Loop → List Feed
  | .received m => [.message m]
  | _ => []

def Loop.made (feeds : List Feed) : Loop → List Item
  | .receiving => Terminal.made feeds
  | .received m => Terminal.made (.message m :: feeds)
  | .offering (.chunk data) | .placing (.chunk data) => .chunk data :: Terminal.made feeds
  | .offering (.finish f) | .placing (.finish f) => [.finish f]
  | .failing f | .alarming f => [.finish (some f)]
  | .stopped => []

def Loop.lapse : Loop → Loop
  | .placing item => .offering item
  | l => l

theorem Loop.made_lapse (feeds : List Feed) (l : Loop) : l.lapse.made feeds = l.made feeds := by
  cases l with
  | placing item => cases item <;> rfl
  | _ => rfl

theorem Loop.isEnding_lapse (l : Loop) : l.lapse.isEnding = l.isEnding := by
  cases l with
  | placing item => cases item <;> rfl
  | _ => rfl

theorem Loop.hand_lapse (l : Loop) : l.lapse.hand = l.hand := by
  cases l <;> rfl

section Step

variable {r next : Reader} {inbox rest : List Feed}

/-- The loop of an open reader moves items on, and makes and loses none. -/
theorem Reader.made_of_step (hopened : r.closed = false)
    (hrecorded : ∀ f, .broken f ∈ inbox → isRecorded f = true) (coming : List Feed)
    (hstep : r.step inbox = some (next, rest)) :
    next.slot.toList ++ next.loop.made (rest ++ coming) =
      r.slot.toList ++ r.loop.made (inbox ++ coming) := by
  cases steps_of_step hstep with
  | message m _ hloop => simp [hloop, Loop.made]
  | finished _ hloop => simp [hloop, Loop.made, Terminal.made]
  | broken f _ hloop =>
      have hf := hrecorded f List.mem_cons_self
      simp [hloop, Loop.made, Terminal.made, Loop.afterFailure, hf]
  | use m _ hloop _ =>
      match hinput : m.input with
      | [] | [_] | _ :: _ :: _ =>
          simp [hloop, use, Loop.afterMessage, hinput, Loop.made, Terminal.made]
  | offer item _ hloop _ => cases item <;> simp [hloop, Loop.made]
  | stop _ _ hclosed | withdraw _ _ _ hclosed => simp [hopened] at hclosed
  | place item _ hloop hslot => cases item <;> simp [hloop, hslot, Loop.made, Loop.afterPlacing]
  | record f _ hloop | alarm f _ hloop => simp [hloop, Loop.made]

/-- How the loop stands to a message that carries too many chunks: whatever comes
behind it is not taken, and the loop comes to its end with it. -/
def Reader.Untaken (bad : Request) (behind : List Feed) (r : Reader) (feeds : List Feed) : Prop :=
  behind <:+ feeds ∧ (r.loop.isEnding = false → .message bad :: behind <:+ r.loop.hand ++ feeds)

theorem behind_of_suffix_cons {feed other : Feed} {behind feeds : List Feed}
    (hsuffix : feed :: behind <:+ other :: feeds) : behind <:+ feeds := by
  rcases List.suffix_cons_iff.mp hsuffix with hfirst | hlater
  · obtain ⟨_, rfl⟩ := List.cons.inj hfirst
    exact List.suffix_refl _
  · exact (List.suffix_cons _ _).trans hlater

theorem Reader.Untaken.step {bad : Request} {behind coming : List Feed}
    (hbad : 1 < bad.input.length) (huntaken : r.Untaken bad behind (inbox ++ coming))
    (hstep : r.step inbox = some (next, rest)) : next.Untaken bad behind (rest ++ coming) := by
  obtain ⟨hbehind, hahead⟩ := huntaken
  cases steps_of_step hstep with
  | message m _ hloop =>
      have hwhole : .message bad :: behind <:+ .message m :: (rest ++ coming) := by
        simpa [hloop, Loop.hand] using hahead (by rw [hloop]; rfl)
      refine ⟨behind_of_suffix_cons hwhole, fun _ => ?_⟩
      simpa [Loop.hand] using hwhole
  | finished _ hloop =>
      have hwhole : .message bad :: behind <:+ .finished :: (rest ++ coming) := by
        simpa [hloop, Loop.hand] using hahead (by rw [hloop]; rfl)
      exact ⟨behind_of_suffix_cons hwhole, by simp [Loop.isEnding]⟩
  | broken f _ hloop =>
      have hwhole : .message bad :: behind <:+ .broken f :: (rest ++ coming) := by
        simpa [hloop, Loop.hand] using hahead (by rw [hloop]; rfl)
      refine ⟨behind_of_suffix_cons hwhole, ?_⟩
      by_cases hf : isRecorded f = true <;> simp [Loop.afterFailure, hf, Loop.isEnding]
  | use m _ hloop _ =>
      have hwhole : .message bad :: behind <:+ .message m :: (inbox ++ coming) := by
        simpa [hloop, Loop.hand] using hahead (by rw [hloop]; rfl)
      have hrest : m.input.length ≤ 1 → .message bad :: behind <:+ inbox ++ coming := by
        intro hm
        rcases List.suffix_cons_iff.mp hwhole with hfirst | hlater
        · obtain rfl : bad = m := by simpa using (List.cons.inj hfirst).1
          omega
        · exact hlater
      refine ⟨hbehind, ?_⟩
      rcases hinput : m.input with _ | ⟨chunk, _ | ⟨second, chunks⟩⟩
      · simpa [use, Loop.afterMessage, hinput, Loop.hand, Loop.isEnding] using hrest
      · simpa [use, Loop.afterMessage, hinput, Loop.hand, Loop.isEnding] using hrest
      · simp [use, Loop.afterMessage, hinput, Loop.isEnding]
  | offer item _ hloop _ | withdraw item _ hloop _ =>
      rw [hloop] at hahead
      refine ⟨hbehind, ?_⟩
      cases item with
      | chunk data => exact hahead
      | finish f => simp [Loop.isEnding]
  | place item _ hloop _ =>
      rw [hloop] at hahead
      refine ⟨hbehind, ?_⟩
      cases item with
      | chunk data => exact hahead
      | finish f => simp [Loop.afterPlacing, Loop.isEnding]
  | stop _ _ _ | record _ _ _ | alarm _ _ _ => exact ⟨hbehind, by simp [Loop.isEnding]⟩

end Step

/-! ## The machine -/

structure Call where
  /-- Whether the reader was closed when the read was started. -/
  late : Bool
  reading : Reading

structure Answer where
  late : Bool
  item : Item

def Reading.lapse : Reading → Reading
  | .waiting => .looking
  | r => r

structure Input where
  /-- What the client has still to send. -/
  coming : List Feed
  inbox : List Feed
  reader : Reader
  call : Option Call
  returned : List Answer

namespace Input

inductive Part
  | client
  | loop
  /-- The loop has waited its time for a full slot. -/
  | lapse
  | call
  | read
  /-- The read has waited its time for an empty slot. -/
  | rest
  | close

def start (size : Geometry) (messages : List Request) (broken : Option Failure) : Input :=
  { coming := messages.map .message ++ [closing broken]
    inbox := []
    reader := .start size
    call := none
    returned := [] }

/-- A read has come to a stand with the reader as it is; it returns once it is over. -/
def settle (d : Input) (late : Bool) (reading : Reading) (reader : Reader) : Input :=
  match reading.item? with
  | some item => { d with reader, call := none, returned := d.returned ++ [⟨late, item⟩] }
  | none => { d with reader, call := some ⟨late, reading⟩ }

def read (d : Input) : Input :=
  match d.call with
  | none => d
  | some c =>
    match c.reading.advance d.reader with
    | some (reading, reader) => d.settle c.late reading reader
    | none => d

def step (d : Input) : Part → Input
  | .client =>
    match d.coming with
    | [] => d
    | feed :: coming => { d with coming, inbox := d.inbox ++ [feed] }
  | .loop =>
    match d.reader.step d.inbox with
    | some (reader, inbox) => { d with reader, inbox }
    | none => d
  | .lapse =>
    if d.reader.slot.isSome then { d with reader.loop := d.reader.loop.lapse } else d
  | .call =>
    if d.call.isNone then d.settle d.reader.closed (.start d.reader) d.reader else d
  | .read => d.read
  | .rest =>
    if d.reader.slot.isNone then
      { d with call := d.call.map fun c => { c with reading := c.reading.lapse } }
    else d
  | .close => { d with reader := d.reader.close }

def feeds (d : Input) : List Feed := d.inbox ++ d.coming

def items (d : Input) : List Item := d.returned.map Answer.item

def held (d : Input) : List Item := d.call.toList.flatMap fun c => c.reading.items

def ahead (d : Input) : List Item :=
  d.held ++ (d.reader.slot.toList ++ d.reader.loop.made d.feeds)

/-! ## What every transition keeps -/

/-- What the consumer has been given: chunks in order, and then the end again and
again.  Of an open reader it is given no end but the right one. -/
inductive Given (data : List Bytes) (e : Option Failure) (d : Input) : Prop
  | running (chunks : List Bytes) (hopened : d.reader.closed = false)
    (hended : d.reader.ended = none) (hitems : d.items = chunks.map .chunk)
    (hflowing : d.items ++ d.ahead = data.map .chunk ++ [.finish e]) : Given data e d
  | finished (n : Nat) (hopened : d.reader.closed = false) (hended : d.reader.ended = some e)
    (hitems : d.items = data.map .chunk ++ List.replicate (n + 1) (.finish e))
    (hidle : d.call = none) : Given data e d
  | closed (chunks : List Bytes) (ends : List (Option Failure)) (hclosed : d.reader.closed = true)
    (hitems : d.items = chunks.map .chunk ++ ends.map .finish) (hfirst : chunks <+: data)
    (hspent : d.reader.ended.isSome = true ∨ ends ≠ [] → ∀ c ∈ d.call, c.reading = .looking) :
    Given data e d

structure Sound (all : List Feed) (data : List Bytes) (e : Option Failure) (d : Input) : Prop where
  given : Given data e d
  taken : d.feeds <:+ all
  late : ∀ a ∈ d.returned, a.late = true → ∃ f, a.item = .finish f
  dry : ∀ c ∈ d.call, c.late = true → d.reader.closed = true ∧ c.reading = .looking
  going : ∀ c ∈ d.call, c.reading.item? = none
  untaken : ∀ bad behind, 1 < bad.input.length → .message bad :: behind <:+ all →
    d.reader.Untaken bad behind d.feeds

variable {all : List Feed} {data : List Bytes} {e : Option Failure} {d : Input}

theorem sound_start (size : Geometry) (messages : List Request) (broken : Option Failure) :
    Sound (messages.map .message ++ [closing broken]) (deliverable messages)
      (ending broken messages) (start size messages broken) := by
  constructor
  case given =>
    refine .running [] rfl rfl rfl ?_
    simp [items, ahead, held, start, Reader.start, Loop.made, feeds, made_of_messages]
  case taken => exact List.suffix_refl _
  case untaken =>
    intro bad behind _ hbad
    exact ⟨(List.suffix_cons _ _).trans hbad, fun _ => hbad⟩
  all_goals simp [start]

/-! ### The client and the receive loop -/

/-- What happens before the slot, as long as an open reader loses none of it. -/
theorem Given.frame {after : Input} (hd : Given data e d) (hreturned : after.returned = d.returned)
    (hcall : after.call = d.call) (hclosed : after.reader.closed = d.reader.closed)
    (hended : after.reader.ended = d.reader.ended)
    (hahead : d.reader.closed = false → after.ahead = d.ahead) : Given data e after := by
  have hitems : after.items = d.items := by rw [items, items, hreturned]
  cases hd with
  | running chunks hopened hnone hchunks hflowing =>
      refine .running chunks (hclosed ▸ hopened) (hended ▸ hnone) (hitems ▸ hchunks) ?_
      rw [hitems, hahead hopened]
      exact hflowing
  | finished n hopened hsome hchunks hidle =>
      exact .finished n (hclosed ▸ hopened) (hended ▸ hsome) (hitems ▸ hchunks) (hcall ▸ hidle)
  | closed chunks ends hdown hchunks hfirst hspent =>
      refine .closed chunks ends (hclosed ▸ hdown) (hitems ▸ hchunks) hfirst ?_
      rw [hended, hcall]
      exact hspent

theorem Sound.client (hd : Sound all data e d) {feed : Feed} {coming : List Feed}
    (hcoming : d.coming = feed :: coming) :
    Sound all data e { d with coming, inbox := d.inbox ++ [feed] } := by
  have hfeeds : ({ d with coming, inbox := d.inbox ++ [feed] } : Input).feeds = d.feeds := by
    simp [feeds, hcoming]
  obtain ⟨hgiven, htaken, hlate, hdry, hgoing, huntaken⟩ := hd
  refine ⟨hgiven.frame rfl rfl rfl rfl ?_, ?_, hlate, hdry, hgoing, ?_⟩
  · intro _
    simp only [ahead, hfeeds]
    rfl
  · rw [hfeeds]
    exact htaken
  · rw [hfeeds]
    exact huntaken

theorem Sound.loop (hd : Sound all data e d)
    (hrecorded : ∀ f, .broken f ∈ all → Reader.isRecorded f = true) {reader : Reader}
    {inbox : List Feed} (hstep : d.reader.step d.inbox = some (reader, inbox)) :
    Sound all data e { d with reader, inbox } := by
  obtain ⟨hgiven, htaken, hlate, hdry, hgoing, huntaken⟩ := hd
  obtain ⟨hclosed, hended, hinbox⟩ := (Reader.steps_of_step hstep).frame
  have hfeeds : inbox ++ d.coming <:+ d.inbox ++ d.coming := by
    obtain ⟨before, hbefore⟩ := hinbox
    exact ⟨before, by rw [← hbefore, List.append_assoc]⟩
  refine ⟨hgiven.frame rfl rfl hclosed hended ?_, hfeeds.trans htaken, hlate, ?_, hgoing, ?_⟩
  · intro hopened
    have hmade := Reader.made_of_step hopened
      (fun f hf => hrecorded f (htaken.subset (List.mem_append_left _ hf))) d.coming hstep
    simp only [ahead, held, feeds, hmade]
  · simp only [hclosed]
    exact hdry
  · intro bad behind hbad hall
    exact (huntaken bad behind hbad hall).step hbad hstep

theorem Sound.lapse (hd : Sound all data e d) :
    Sound all data e { d with reader.loop := d.reader.loop.lapse } := by
  obtain ⟨hgiven, htaken, hlate, hdry, hgoing, huntaken⟩ := hd
  refine ⟨hgiven.frame rfl rfl rfl rfl ?_, htaken, hlate, hdry, hgoing, ?_⟩
  · intro _
    simp only [ahead, held, feeds, Loop.made_lapse]
  · intro bad behind hbad hall
    obtain ⟨hbehind, hahead⟩ := huntaken bad behind hbad hall
    refine ⟨hbehind, ?_⟩
    simp only [Loop.isEnding_lapse, Loop.hand_lapse]
    exact hahead

/-! ### The consumer -/

theorem Given.call (hd : Given data e d) (hidle : d.call = none) :
    Given data e (d.settle d.reader.closed (.start d.reader) d.reader) := by
  cases hd with
  | running chunks hopened hnone hchunks hflowing =>
      simp only [Reading.start, hnone, settle, Reading.item?]
      refine .running chunks hopened hnone hchunks ?_
      simpa [items, ahead, held, hidle, Reading.items, feeds] using hflowing
  | finished n hopened hsome hchunks _ =>
      simp only [Reading.start, hsome, settle, Reading.item?]
      refine .finished (n + 1) hopened hsome ?_ rfl
      simp only [items] at hchunks ⊢
      simp [hchunks, List.replicate_succ' (n := n + 1)]
  | closed chunks ends hdown hchunks hfirst hspent =>
      cases hended : d.reader.ended with
      | none =>
          simp only [Reading.start, hended, settle, Reading.item?]
          refine .closed chunks ends hdown hchunks hfirst ?_
          rintro _ c ⟨⟩
          rfl
      | some f =>
          simp only [Reading.start, hended, settle, Reading.item?]
          refine .closed chunks (ends ++ [f]) hdown ?_ hfirst (by simp)
          simp only [items] at hchunks ⊢
          simp [hchunks]

/-- A read of an open reader takes the items as they come. -/
theorem Given.read_open {chunks : List Bytes} {late : Bool} {reading next : Reading}
    {reader : Reader} (hopened : d.reader.closed = false) (hnone : d.reader.ended = none)
    (hcall : d.call = some ⟨late, reading⟩) (hchunks : d.items = chunks.map .chunk)
    (hflowing : d.items ++ d.ahead = data.map .chunk ++ [.finish e])
    (hadvance : reading.advance d.reader = some (next, reader)) :
    Given data e (d.settle late next reader) := by
  simp only [items] at hchunks
  simp only [items, ahead, held, feeds, hcall, hchunks, Option.toList_some,
    List.flatMap_singleton] at hflowing
  cases Reading.steps_of_advance hadvance with
  | look _ =>
      refine .running chunks hopened hnone hchunks ?_
      simpa [settle, Reading.item?, items, ahead, held, feeds, hchunks, Reading.items]
        using hflowing
  | take item hslot =>
      refine .running chunks hopened hnone hchunks ?_
      simpa [settle, Reading.item?, items, ahead, held, feeds, hchunks, hslot, Reading.items]
        using hflowing
  | deliver data _ =>
      refine .running (chunks ++ [data]) hopened hnone ?_ ?_
      · simp [settle, Reading.item?, items, hchunks]
      · simpa [settle, Reading.item?, items, ahead, held, feeds, hchunks, Reading.items]
          using hflowing
  | finish f _ =>
      obtain ⟨rfl, rfl, _⟩ := chunks_of_finish hflowing
      refine .finished 0 hopened rfl ?_ rfl
      simp [settle, Reading.item?, items, hchunks]
  | turnAway hclosed | wake _ hclosed | drop _ hclosed => simp [hopened] at hclosed

theorem Given.read_closed {chunks : List Bytes} {ends : List (Option Failure)} {late : Bool}
    {reading next : Reading} {reader : Reader} (hclosed : d.reader.closed = true)
    (hcall : d.call = some ⟨late, reading⟩)
    (hitems : d.items = chunks.map .chunk ++ ends.map .finish) (hfirst : chunks <+: data)
    (hspent : d.reader.ended.isSome = true ∨ ends ≠ [] → ∀ c ∈ d.call, c.reading = .looking)
    (hadvance : reading.advance d.reader = some (next, reader)) :
    Given data e (d.settle late next reader) := by
  have hgoing : d.reader.ended.isSome = true ∨ ends ≠ [] → reading = .looking :=
    fun hover => hspent hover ⟨late, reading⟩ hcall
  simp only [items] at hitems
  -- a read that is over has been given an end
  have hreturned : Given data e (d.settle late (.over (.finish none)) d.reader) := by
    refine .closed chunks (ends ++ [none]) hclosed ?_ hfirst (by simp [settle, Reading.item?])
    simp [settle, Reading.item?, items, hitems]
  cases Reading.steps_of_advance hadvance with
  | turnAway _ | drop _ _ => exact hreturned
  | wake _ _ =>
      refine .closed chunks ends hclosed hitems hfirst ?_
      rintro _ c ⟨⟩
      rfl
  | take item hslot =>
      refine .closed chunks ends hclosed hitems hfirst fun hover => ?_
      cases hgoing hover
  | look hopened | deliver _ hopened | finish _ hopened => simp [hclosed] at hopened

theorem Given.read (hd : Given data e d) {c : Call} (hcall : d.call = some c) {next : Reading}
    {reader : Reader} (hadvance : c.reading.advance d.reader = some (next, reader)) :
    Given data e (d.settle c.late next reader) := by
  cases hd with
  | running chunks hopened hnone hchunks hflowing =>
      exact read_open hopened hnone hcall hchunks hflowing hadvance
  | finished n hopened hsome hchunks hidle =>
      rw [hidle] at hcall
      cases hcall
  | closed chunks ends hclosed hitems hfirst hspent =>
      exact read_closed hclosed hcall hitems hfirst hspent hadvance

theorem Given.rest (hd : Given data e d) :
    Given data e
      { d with call := d.call.map fun c => { c with reading := c.reading.lapse } } := by
  cases hd with
  | running chunks hopened hnone hchunks hflowing =>
      refine .running chunks hopened hnone hchunks ?_
      have hheld : (d.call.map fun c => { c with reading := c.reading.lapse }).toList.flatMap
          (fun c => c.reading.items) = d.held := by
        unfold held
        rcases d.call with _ | ⟨late, reading⟩
        · rfl
        · cases reading <;> rfl
      simp only [items, ahead, held, feeds] at hflowing hheld ⊢
      rw [hheld]
      exact hflowing
  | finished n hopened hsome hchunks hidle =>
      exact .finished n hopened hsome hchunks (by simp [hidle])
  | closed chunks ends hclosed hitems hfirst hspent =>
      refine .closed chunks ends hclosed hitems hfirst fun hover c hc => ?_
      obtain ⟨before, hbefore, rfl⟩ : ∃ before, d.call = some before ∧ _ = c := by
        simpa using hc
      simp [hspent hover before hbefore, Reading.lapse]

theorem Given.close (hd : Given data e d) :
    Given data e { d with reader := d.reader.close } := by
  cases hd with
  | running chunks hopened hnone hchunks hflowing =>
      have hfirst : chunks <+: data := by
        rw [hchunks] at hflowing
        exact prefix_of_chunks hflowing
      refine .closed chunks [] rfl ?_ hfirst ?_
      · simpa [items] using hchunks
      · simp [Reader.close, hnone]
  | finished n hopened hsome hchunks hidle =>
      refine .closed data (List.replicate (n + 1) e) rfl ?_ (List.prefix_refl _) ?_
      · simpa [items] using hchunks
      · simp [hidle]
  | closed chunks ends hclosed hitems hfirst hspent =>
      exact .closed chunks ends rfl hitems hfirst hspent

theorem Sound.settle (hd : Sound all data e d) {late : Bool} {reading : Reading} {reader : Reader}
    (hgiven : Given data e (d.settle late reading reader)) (hloop : reader.loop = d.reader.loop)
    (hlate : late = true → reader.closed = true ∧
      (reading = .looking ∨ ∃ f, reading = .over (.finish f))) :
    Sound all data e (d.settle late reading reader) := by
  have huntaken : ∀ bad behind, 1 < bad.input.length → .message bad :: behind <:+ all →
      reader.Untaken bad behind d.feeds := by
    intro bad behind hbad hall
    simp only [Reader.Untaken, hloop]
    exact hd.untaken bad behind hbad hall
  unfold Input.settle at hgiven ⊢
  cases hitem : reading.item? with
  | none =>
      simp only [hitem] at hgiven
      refine ⟨hgiven, hd.taken, hd.late, ?_, ?_, huntaken⟩
      · rintro c ⟨⟩ hc
        obtain ⟨hclosed, hlooking | ⟨f, rfl⟩⟩ := hlate hc
        · exact ⟨hclosed, hlooking⟩
        · cases hitem
      · rintro c ⟨⟩
        exact hitem
  | some item =>
      simp only [hitem] at hgiven
      refine ⟨hgiven, hd.taken, ?_, by simp, by simp, huntaken⟩
      intro a ha hlater
      rcases List.mem_append.mp ha with hold | hnew
      · exact hd.late a hold hlater
      · rw [List.mem_singleton] at hnew
        subst hnew
        obtain ⟨_, rfl | ⟨f, rfl⟩⟩ := hlate hlater
        · cases hitem
        · exact ⟨f, (Option.some.inj hitem).symm⟩

theorem Sound.call (hd : Sound all data e d) (hidle : d.call = none) :
    Sound all data e (d.settle d.reader.closed (.start d.reader) d.reader) := by
  refine hd.settle (hd.given.call hidle) rfl fun hclosed => ⟨hclosed, ?_⟩
  unfold Reading.start
  cases d.reader.ended with
  | none => exact .inl rfl
  | some f => exact .inr ⟨f, rfl⟩

theorem Sound.read (hd : Sound all data e d) : Sound all data e d.read := by
  unfold Input.read
  cases hcall : d.call with
  | none => exact hd
  | some c =>
      simp only
      split
      · rename_i next reader hadvance
        obtain ⟨hloop, hclosed⟩ := (Reading.steps_of_advance hadvance).frame
        refine hd.settle (hd.given.read hcall hadvance) hloop fun hlate => ?_
        obtain ⟨hdown, hlooking⟩ := hd.dry c hcall hlate
        refine ⟨hclosed.trans hdown, .inr ⟨none, ?_⟩⟩
        simp only [hlooking, Reading.advance, hdown, if_true, Option.some.injEq,
          Prod.mk.injEq] at hadvance
        exact hadvance.1.symm
      · exact hd

theorem Sound.rest (hd : Sound all data e d) :
    Sound all data e
      { d with call := d.call.map fun c => { c with reading := c.reading.lapse } } := by
  obtain ⟨hgiven, htaken, hlate, hdry, hgoing, huntaken⟩ := hd
  refine ⟨hgiven.rest, htaken, hlate, ?_, ?_, huntaken⟩
  · intro c hc hclate
    obtain ⟨before, hbefore, rfl⟩ : ∃ before, d.call = some before ∧ _ = c := by simpa using hc
    obtain ⟨hclosed, hlooking⟩ := hdry before hbefore hclate
    exact ⟨hclosed, by simp [hlooking, Reading.lapse]⟩
  · intro c hc
    obtain ⟨before, hbefore, rfl⟩ : ∃ before, d.call = some before ∧ _ = c := by simpa using hc
    have hbusy := hgoing before hbefore
    cases hreading : before.reading <;> simp_all [Reading.lapse, Reading.item?]

theorem Sound.close (hd : Sound all data e d) :
    Sound all data e { d with reader := d.reader.close } := by
  obtain ⟨hgiven, htaken, hlate, hdry, hgoing, huntaken⟩ := hd
  exact ⟨hgiven.close, htaken, hlate, fun c hc hclate => ⟨rfl, (hdry c hc hclate).2⟩, hgoing,
    huntaken⟩

theorem Sound.step (hrecorded : ∀ f, .broken f ∈ all → Reader.isRecorded f = true)
    (hd : Sound all data e d) (part : Part) : Sound all data e (d.step part) := by
  cases part with
  | client =>
      simp only [Input.step]
      split
      · exact hd
      · rename_i feed coming hcoming
        exact hd.client hcoming
  | loop =>
      simp only [Input.step]
      split
      · rename_i reader inbox hstep
        exact hd.loop hrecorded hstep
      · exact hd
  | lapse =>
      simp only [Input.step]
      split
      · exact hd.lapse
      · exact hd
  | call =>
      simp only [Input.step]
      split
      · rename_i hidle
        exact hd.call (Option.isNone_iff_eq_none.mp hidle)
      · exact hd
  | read => exact hd.read
  | rest =>
      simp only [Input.step]
      split
      · exact hd.rest
      · exact hd
  | close => exact hd.close

theorem sound_foldl (size : Geometry) (messages : List Request) {broken : Option Failure}
    (hbroken : ∀ f ∈ broken, f.isIn .stream = true) (parts : List Part) :
    Sound (messages.map .message ++ [closing broken]) (deliverable messages)
      (ending broken messages) (parts.foldl step (start size messages broken)) := by
  have hrecorded : ∀ f, .broken f ∈ messages.map .message ++ [closing broken] →
      Reader.isRecorded f = true := by
    intro f hf
    have hclosing : .broken f = closing broken := by simpa using hf
    cases broken with
    | none => cases hclosing
    | some other =>
        obtain rfl : f = other := by simpa [closing] using hclosing
        simp [Reader.isRecorded, hbroken f rfl]
  exact course_invariant (I := fun _ d => Sound _ _ _ d) (sound_start size messages broken)
    (fun _ _ part hd => hd.step hrecorded part) parts

/-! ## What the consumer is given -/

/-- What an open reader and its consumer hold, up to the end of the input. -/
theorem Given.flow_of_open (hd : Given data e d) (hopened : d.reader.closed = false) :
    (d.call = none ∧ .finish e ∈ d.items) ∨
      ∃ chunks : List Bytes, d.items = chunks.map .chunk ∧
        d.items ++ d.ahead = data.map .chunk ++ [.finish e] := by
  cases hd with
  | running chunks _ _ hchunks hflowing => exact .inr ⟨chunks, hchunks, hflowing⟩
  | finished n _ _ hitems hidle => exact .inl ⟨hidle, by simp [hitems]⟩
  | closed _ _ hclosed =>
      rw [hopened] at hclosed
      cases hclosed

/-- Once the loop of an open reader is stopped, its end is in the slot, in the
hand of a read or returned. -/
theorem Given.end_of_stopped (hd : Given data e d) (hopened : d.reader.closed = false)
    (hstopped : d.reader.loop = .stopped) :
    .finish e ∈ d.items ++ d.held ++ d.reader.slot.toList := by
  rcases hd.flow_of_open hopened with ⟨_, hreturned⟩ | ⟨_, _, hflowing⟩
  · simp [hreturned]
  · have hwhole : d.items ++ d.held ++ d.reader.slot.toList = data.map .chunk ++ [.finish e] := by
      simpa [ahead, hstopped, Loop.made] using hflowing
    simp [hwhole]

/-- A read that waits with nothing in the slot is not past the end. -/
theorem Given.slot_of_stopped (hd : Given data e d) (hopened : d.reader.closed = false)
    (hstopped : d.reader.loop = .stopped) {late : Bool} {reading : Reading}
    (hcall : d.call = some ⟨late, reading⟩) (hempty : reading.items = []) :
    d.reader.slot.isSome = true := by
  rcases hd.flow_of_open hopened with ⟨hidle, _⟩ | ⟨chunks, hchunks, hflowing⟩
  · rw [hidle] at hcall
    cases hcall
  · cases hslot : d.reader.slot with
    | some item => rfl
    | none =>
        have hwhole : chunks.map Item.chunk = data.map Item.chunk ++ [Item.finish e] := by
          simpa [hchunks, ahead, held, hcall, hempty, hslot, hstopped, Loop.made] using hflowing
        have hmem : Item.finish e ∈ chunks.map Item.chunk := by simp [hwhole]
        simp at hmem

/-- Three transitions end a read of a reader that is closed or has its loop stopped. -/
theorem Sound.returns (hd : Sound all data e d)
    (hover : d.reader.closed = true ∨ d.reader.loop = .stopped) :
    ([Part.read, .read, .read].foldl Input.step d).call = none := by
  cases hcall : d.call with
  | none => simp [Input.step, Input.read, hcall]
  | some c =>
      obtain ⟨late, reading⟩ := c
      have hgoing : reading.item? = none := hd.going _ hcall
      cases hclosed : d.reader.closed with
      | true =>
          cases reading <;> cases hslot : d.reader.slot <;>
            simp_all [Input.step, Input.read, Input.settle, Reading.advance, Reading.item?]
      | false =>
          have hstopped : d.reader.loop = .stopped := by simpa [hclosed] using hover
          have hslot := fun hempty => hd.given.slot_of_stopped hclosed hstopped hcall hempty
          cases reading with
          | looking =>
              obtain ⟨item, hitem⟩ := Option.isSome_iff_exists.mp (hslot rfl)
              cases item <;>
                simp [Input.step, Input.read, Input.settle, Reading.advance, Reading.item?, hcall,
                  hclosed, hitem]
          | waiting =>
              obtain ⟨item, hitem⟩ := Option.isSome_iff_exists.mp (hslot rfl)
              cases item <;>
                simp [Input.step, Input.read, Input.settle, Reading.advance, Reading.item?, hcall,
                  hclosed, hitem]
          | holding item =>
              cases item <;>
                simp [Input.step, Input.read, Input.settle, Reading.advance, Reading.item?, hcall,
                  hclosed]
          | «over» item => cases hgoing

/-- Nobody waits for anybody but the client: a read that waits on an empty slot of
an open reader whose loop cannot go on. -/
theorem Sound.starved (hd : Sound all data e d) (hopened : d.reader.closed = false) {late : Bool}
    (hcall : d.call = some ⟨late, .waiting⟩) (hslot : d.reader.slot = none)
    (hstuck : d.reader.step d.inbox = none) : d.reader.loop = .receiving ∧ d.inbox = [] := by
  cases hloop : d.reader.loop with
  | receiving =>
      cases hinbox : d.inbox with
      | nil => exact ⟨rfl, rfl⟩
      | cons feed inbox => simp [Reader.step, Reader.advance, hloop, hinbox] at hstuck
  | stopped =>
      have hsome := hd.given.slot_of_stopped hopened hloop hcall rfl
      rw [hslot] at hsome
      cases hsome
  | _ => simp [Reader.step, Reader.advance, hloop, hslot] at hstuck

/-- A client sends messages, and its stream ends or breaks; the receive loop and the
reads of a consumer run beside each other, and the reader may be closed at any
time.  In every order of all this: the reads return chunks, and from the first end
on nothing but ends; the chunks are the first ones of those in the messages before
the first that carries more than one; as long as the reader is open, an end is
returned only behind all of them, and says why the input ended.  A read that is
started after the closing returns an end.  What comes behind a message with more
than one chunk is not taken.  Once the loop of an open reader is stopped, the end
is in the slot, in the hand of a read or returned; a read returns once the loop is
stopped or the reader is closed, and before that it waits for nobody but the client. -/
theorem returned_of_feeds (size : Geometry) (messages : List Request) (broken : Option Failure)
    (hbroken : ∀ f ∈ broken, f.isIn .stream = true) (parts : List Part) (d : Input)
    (hd : d = parts.foldl step (start size messages broken)) :
    (∃ (chunks : List Bytes) (ends : List (Option Failure)),
      d.items = chunks.map .chunk ++ ends.map .finish ∧ chunks <+: deliverable messages ∧
      (d.reader.closed = false → ends ≠ [] →
        chunks = deliverable messages ∧ ∀ f ∈ ends, f = ending broken messages)) ∧
    (∀ a ∈ d.returned, a.late = true → ∃ f, a.item = .finish f) ∧
    (∀ before bad after, messages = before ++ bad :: after → 1 < bad.input.length →
      after.map .message ++ [closing broken] <:+ d.feeds) ∧
    (d.reader.closed = false → d.reader.loop = .stopped →
      .finish (ending broken messages) ∈ d.items ++ d.held ++ d.reader.slot.toList) ∧
    (d.reader.closed = true ∨ d.reader.loop = .stopped →
      ([Part.read, .read, .read].foldl step d).call = none) ∧
    (d.reader.closed = false → ∀ late, d.call = some ⟨late, .waiting⟩ → d.reader.slot = none →
      d.reader.step d.inbox = none → d.reader.loop = .receiving ∧ d.inbox = []) := by
  have hsound := hd ▸ sound_foldl size messages hbroken parts
  refine ⟨?_, hsound.late, ?_, hsound.given.end_of_stopped, hsound.returns,
    fun hopened late => hsound.starved hopened⟩
  · cases hsound.given with
    | running chunks _ _ hchunks hflowing =>
        rw [hchunks] at hflowing
        exact ⟨chunks, [], by simp [hchunks], prefix_of_chunks hflowing, by simp⟩
    | finished n _ _ hitems _ =>
        exact ⟨_, List.replicate (n + 1) (ending broken messages), by simp [hitems],
          List.prefix_refl _, fun _ _ => ⟨rfl, fun f hf => List.eq_of_mem_replicate hf⟩⟩
    | closed chunks ends hclosed hitems hfirst _ =>
        refine ⟨chunks, ends, hitems, hfirst, fun hopened => ?_⟩
        rw [hopened] at hclosed
        cases hclosed
  · rintro before bad after rfl hbad
    exact (hsound.untaken bad (after.map .message ++ [closing broken]) hbad (by simp)).1

namespace Sample

def message (input : List Bytes) : Request := { Request.nothing with input }

def broken : Failure := .reported .stream "reset"

/-- Everything is sent; the loop and the consumer go on in turn until the consumer has
been given an end, and then another one. -/
def parts : List Part :=
  List.replicate 5 .client ++
    (List.replicate 4 (List.replicate 5 .loop ++ [.lapse, .call, .rest] ++
      List.replicate 3 .read)).flatten

end Sample

open Sample in
theorem returned_of_feeds_two :
    let messages := [message [[0x61]], message [[0x62]], message [[0x63], [0x64]], message [[0x65]]]
    let d := parts.foldl step (start ⟨80, 24⟩ messages (some broken))
    d.items = [.chunk [0x61], .chunk [0x62], .finish (some (.chunkCount 2)),
      .finish (some (.chunkCount 2))] ∧
      [Feed.message (message [[0x65]]), .broken broken] <:+ d.feeds := by
  intro messages d
  obtain ⟨_, _, huntaken, _⟩ := returned_of_feeds ⟨80, 24⟩ messages (some broken)
    (by rintro f ⟨⟩; rfl) parts d rfl
  exact ⟨by decide +kernel, huntaken [message [[0x61]], message [[0x62]]]
    (message [[0x63], [0x64]]) [message [[0x65]]] rfl (by decide)⟩

end Input

end AttachGate.Terminal
