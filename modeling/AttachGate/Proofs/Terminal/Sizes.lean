import AttachGate.Proofs.Terminal.Input

/-!
# Sizes beside the input

Chunks wait in the slot and sizes do not, so a consumer may see a size before it is given
the chunks that were sent ahead of it.  How far the receive loop runs ahead is bounded on
both sides: the size is never older than the message of the last chunk returned, and never
newer than the second message with input that the consumer has not taken.
-/

namespace AttachGate.Terminal

/-! ## Messages in a row -/

/-- The size that messages leave a terminal with. -/
def latest (size : Geometry) (messages : List Request) : Geometry :=
  (messages.filterMap Request.size).getLast?.getD size

theorem latest_snoc (size : Geometry) (messages : List Request) (m : Request) :
    latest size (messages ++ [m]) = m.size.getD (latest size messages) := by
  cases hsize : m.size <;> simp [latest, hsize]

def bearing (messages : List Request) : Nat := messages.countP fun m => !m.input.isEmpty

theorem bearing_le_of_prefix {before messages : List Request} (hbefore : before <+: messages) :
    bearing before ≤ bearing messages := hbefore.sublist.countP_le

theorem length_deliverable {messages : List Request}
    (hsingle : ∀ m ∈ messages, m.input.length ≤ 1) :
    (deliverable messages).length = bearing messages := by
  induction messages with
  | nil => rfl
  | cons m rest ih =>
      have hrest := ih fun other hother => hsingle other (List.mem_cons_of_mem m hother)
      have hm := hsingle m List.mem_cons_self
      simp only [deliverable, bearing] at hrest
      rcases hinput : m.input with _ | ⟨data, _ | ⟨second, others⟩⟩
      · simpa [deliverable, bearing, hinput] using hrest
      · simpa [deliverable, bearing, hinput, Nat.add_comm] using hrest
      · simp [hinput] at hm

theorem deliverable_snoc {messages : List Request}
    (hsingle : ∀ m ∈ messages, m.input.length ≤ 1) (m : Request) :
    deliverable (messages ++ [m]) =
      deliverable messages ++ if m.input.length ≤ 1 then m.input else [] := by
  induction messages with
  | nil =>
      rcases hinput : m.input with _ | ⟨data, _ | ⟨second, others⟩⟩ <;>
        simp [deliverable, hinput]
  | cons first rest ih =>
      have hrest := ih fun other hother => hsingle other (List.mem_cons_of_mem first hother)
      have hfirst := hsingle first List.mem_cons_self
      simp only [deliverable] at hrest
      simp [deliverable, hfirst, hrest]

/-- A chunk stems from the message that as many messages with input come ahead of as
chunks come ahead of the chunk. -/
theorem bearer_of_deliverable {before after used unused : List Request} {m : Request}
    {data : Bytes} (hall : before ++ m :: after = used ++ unused) (hinput : m.input ≠ [])
    (hdata : (deliverable used)[bearing before]? = some data) :
    before.length < used.length ∧ m.input = [data] := by
  induction used generalizing before with
  | nil => simp [deliverable] at hdata
  | cons first used ih =>
      cases before with
      | nil =>
          obtain ⟨rfl, _⟩ := List.cons.inj hall
          rcases hm : m.input with _ | ⟨chunk, _ | ⟨second, others⟩⟩
          · exact absurd hm hinput
          · simpa [deliverable, bearing, hm] using hdata
          · simp [deliverable, hm] at hdata
      | cons other before =>
          obtain ⟨rfl, hrest⟩ := List.cons.inj hall
          have hlater : (deliverable used)[bearing before]? = some data := by
            rcases hother : other.input with _ | ⟨chunk, _ | ⟨second, others⟩⟩
            · simpa [deliverable, bearing, hother] using hdata
            · simpa [deliverable, bearing, hother] using hdata
            · simp [deliverable, hother] at hdata
          obtain ⟨hlength, hm⟩ := ih hrest hlater
          exact ⟨Nat.succ_lt_succ hlength, hm⟩

/-! ## What is on its way -/

def Item.chunk? : Item → Option Bytes
  | .chunk data => some data
  | .finish _ => none

def Feed.message? : Feed → Option Request
  | .message m => some m
  | _ => none

def Loop.chunk? : Loop → Option Bytes
  | .offering item | .placing item => item.chunk?
  | _ => none

def Reader.queued (r : Reader) : List Bytes :=
  r.slot.toList.filterMap Item.chunk? ++ r.loop.chunk?.toList

theorem hand_afterFailure (f : Failure) : (Reader.Loop.afterFailure f).hand = [] := by
  unfold Reader.Loop.afterFailure
  split <;> rfl

theorem hand_use (r : Reader) (m : Request) : (r.use m).loop.hand = [] := by
  simp only [Reader.use, Reader.Loop.afterMessage]
  split <;> rfl

theorem hand_afterPlacing (item : Item) : (Reader.Loop.afterPlacing item).hand = [] := by
  cases item <;> rfl

section Step

variable {r next : Reader} {inbox rest : List Feed}

/-- The loop takes the feeds as they come. -/
theorem Reader.Steps.hand_suffix (hsteps : r.Steps inbox next rest) :
    next.loop.hand ++ rest <:+ r.loop.hand ++ inbox := by
  cases hsteps with
  | message m _ hloop => simp [hloop, Loop.hand]
  | finished _ hloop =>
      rw [hloop]
      exact List.suffix_cons _ _
  | broken f _ hloop =>
      rw [hloop, hand_afterFailure]
      exact List.suffix_cons _ _
  | use m _ hloop _ =>
      rw [hloop, hand_use]
      exact List.suffix_cons _ _
  | stop _ hloop _ =>
      rcases hloop with ⟨m, hloop⟩ | ⟨item, hloop⟩ <;> simp [hloop, Loop.hand]
  | place item _ hloop _ =>
      rw [hloop, hand_afterPlacing]
      exact List.suffix_refl _
  | offer _ _ hloop _ | withdraw _ _ hloop _ | record _ _ hloop | alarm _ _ hloop =>
      simp [hloop, Loop.hand]

/-- The loop of an open reader uses a message, or else passes on what it has. -/
theorem Reader.Steps.use_or_pass (hsteps : r.Steps inbox next rest) (hopened : r.closed = false) :
    (∃ m, r.loop = .received m ∧ next = r.use m ∧ rest = inbox) ∨
      next.size = r.size ∧ next.queued = r.queued ∧
        (r.loop.isEnding = true → next.loop.isEnding = true) ∧
        (next.loop.hand ++ rest).filterMap Feed.message? =
          (r.loop.hand ++ inbox).filterMap Feed.message? := by
  cases hsteps with
  | use m _ hloop _ => exact .inl ⟨m, hloop, rfl, rfl⟩
  | stop _ _ hclosed | withdraw _ _ _ hclosed => simp [hopened] at hclosed
  | message m _ hloop => simp [hloop, queued, Loop.hand, Loop.chunk?, Loop.isEnding]
  | finished _ hloop =>
      simp [hloop, queued, Loop.hand, Loop.chunk?, Item.chunk?, Loop.isEnding,
        List.filterMap_cons, Feed.message?]
  | broken f _ hloop =>
      have hchunk : (Loop.afterFailure f).chunk? = none := by
        unfold Loop.afterFailure
        split <;> rfl
      refine .inr ⟨rfl, ?_, ?_, ?_⟩
      · simp only [queued, hloop, hchunk]
        rfl
      · simp [hloop, Loop.isEnding]
      · rw [hloop, hand_afterFailure]
        rfl
  | offer item _ hloop _ =>
      cases item <;> simp [hloop, queued, Loop.hand, Loop.chunk?, Loop.isEnding]
  | place item _ hloop hslot =>
      cases item <;>
        simp [hloop, hslot, queued, Loop.afterPlacing, Loop.hand, Loop.chunk?, Item.chunk?,
          Loop.isEnding]
  | record f _ hloop | alarm f _ hloop =>
      simp [hloop, queued, Loop.hand, Loop.chunk?, Item.chunk?, Loop.isEnding]

end Step

/-- A read of an open reader takes items out of the slot and loses none. -/
theorem Reading.Steps.items_of_open {reading next : Reading} {r after : Reader}
    (hsteps : Steps r reading next after) (hopened : r.closed = false) :
    next.items ++ after.slot.toList = reading.items ++ r.slot.toList ∧
      reading.items <+: next.items ∧ after.size = r.size := by
  cases hsteps with
  | look _ | deliver _ _ | finish _ _ => exact ⟨rfl, List.prefix_refl _, rfl⟩
  | take item hslot => exact ⟨by simp [Reading.items, hslot], List.nil_prefix, rfl⟩
  | turnAway hclosed | wake _ hclosed | drop _ hclosed => simp [hopened] at hclosed

namespace Input

def unused (d : Input) : List Request := (d.reader.loop.hand ++ d.feeds).filterMap Feed.message?

def used (messages : List Request) (d : Input) : Nat := messages.length - d.unused.length

def chunks (d : Input) : List Bytes := d.items.filterMap Item.chunk?

def taken (d : Input) : List Bytes := d.chunks ++ d.held.filterMap Item.chunk?

/-! ## What every transition keeps -/

/-- Where the receive loop of an open reader stands when it has used these messages. -/
structure Level (size : Geometry) (used : List Request) (d : Input) : Prop where
  size : d.reader.size = latest size used
  line : d.taken ++ d.reader.queued = deliverable used
  single : d.reader.loop.isEnding = false → ∀ m ∈ used, m.input.length ≤ 1
  near : bearing used.dropLast ≤ d.taken.length + 1

variable {size : Geometry} {used : List Request} {d : Input}

theorem level_start (size : Geometry) (messages : List Request) (broken : Option Failure) :
    Level size [] (start size messages broken) := by
  constructor <;> simp [start, Reader.start, latest, Reader.queued, taken, chunks, items, held,
    Loop.chunk?, deliverable, bearing]

theorem unused_start (size : Geometry) (messages : List Request) (broken : Option Failure) :
    (start size messages broken).unused = messages := by
  have hfeeds : (start size messages broken).unused =
      (messages.map Feed.message ++ [closing broken]).filterMap Feed.message? := rfl
  rw [hfeeds, List.filterMap_append, List.filterMap_map]
  cases broken <;> simp [closing, Feed.message?, Function.comp_def]

/-- What leaves the messages used as they are. -/
theorem Level.frame {after : Input} (hd : Level size used d)
    (hsize : after.reader.size = d.reader.size)
    (hline : after.taken ++ after.reader.queued = d.taken ++ d.reader.queued)
    (hending : d.reader.loop.isEnding = true → after.reader.loop.isEnding = true)
    (htaken : d.taken.length ≤ after.taken.length) : Level size used after := by
  refine ⟨hsize.trans hd.size, hline.trans hd.line, ?_, ?_⟩
  · intro hgoing
    apply hd.single
    cases hbefore : d.reader.loop.isEnding with
    | false => rfl
    | true => simp [hending hbefore] at hgoing
  · have hnear := hd.near
    omega

/-- The loop uses a message once it has placed the chunk before, so that one chunk at most
is not taken. -/
theorem Level.use (hd : Level size used d) {m : Request} (hloop : d.reader.loop = .received m) :
    Level size (used ++ [m]) { d with reader := d.reader.use m } := by
  have hsingle := hd.single (by rw [hloop]; rfl)
  have hline := hd.line
  have htaken : ({ d with reader := d.reader.use m } : Input).taken = d.taken := rfl
  simp only [Reader.queued, hloop, Loop.chunk?, Option.toList_none, List.append_nil] at hline
  constructor
  case size => simp [Reader.use, latest_snoc, hd.size]
  case line =>
    rw [deliverable_snoc hsingle, ← hline, htaken, List.append_assoc]
    congr 1
    simp only [Reader.queued, Reader.use]
    rcases m.input with _ | ⟨data, _ | ⟨second, others⟩⟩ <;>
      simp [Reader.Loop.afterMessage, Loop.chunk?, Item.chunk?]
  case single =>
    intro hgoing other hother
    rcases List.mem_append.mp hother with hold | hnew
    · exact hsingle other hold
    · obtain rfl := List.mem_singleton.mp hnew
      rcases hinput : other.input with _ | ⟨data, _ | ⟨second, others⟩⟩
      · simp
      · simp
      · simp [Reader.use, Reader.Loop.afterMessage, hinput, Loop.isEnding] at hgoing
  case near =>
    have hslot : (d.reader.slot.toList.filterMap Item.chunk?).length ≤ 1 :=
      Nat.le_trans (List.length_filterMap_le _ _) (by cases d.reader.slot <;> simp)
    have hlength := congrArg List.length hline
    rw [length_deliverable hsingle, List.length_append] at hlength
    rw [List.dropLast_concat, htaken]
    omega

theorem Level.loop (hd : Level size used d) (hopened : d.reader.closed = false) {reader : Reader}
    {inbox : List Feed} (hstep : d.reader.step d.inbox = some (reader, inbox)) :
    let after : Input := { d with reader, inbox }
    ∃ used', used' ++ after.unused = used ++ d.unused ∧ Level size used' after := by
  intro after
  rcases (Reader.steps_of_step hstep).use_or_pass hopened with
    ⟨m, hloop, rfl, rfl⟩ | ⟨hsize, hqueued, hending, hunused⟩
  · refine ⟨used ++ [m], ?_, hd.use hloop⟩
    have hused : d.unused = m :: after.unused := by
      simp only [after, unused, hloop, hand_use]
      rfl
    simp [hused]
  · refine ⟨used, ?_, hd.frame hsize (congrArg (d.taken ++ ·) hqueued) hending (Nat.le_refl _)⟩
    congr 1
    simp only [after, unused, feeds, ← List.append_assoc]
    rw [List.filterMap_append, hunused, ← List.filterMap_append]

theorem taken_settle (d : Input) (late : Bool) (reading : Reading) (reader : Reader) :
    (d.settle late reading reader).taken =
      d.chunks ++ reading.items.filterMap Item.chunk? := by
  cases reading <;>
    simp [settle, Reading.item?, taken, chunks, items, held, Reading.items]

theorem reader_settle (d : Input) (late : Bool) (reading : Reading) (reader : Reader) :
    (d.settle late reading reader).reader = reader := by
  unfold settle
  split <;> rfl

theorem unused_settle (d : Input) (late : Bool) (reading : Reading) {reader : Reader}
    (hloop : reader.loop = d.reader.loop) : (d.settle late reading reader).unused = d.unused := by
  unfold settle
  split <;> simp [unused, feeds, hloop]

theorem Level.call (hd : Level size used d) (hidle : d.call = none) :
    Level size used (d.settle d.reader.closed (.start d.reader) d.reader) := by
  have hitems : (Reading.start d.reader).items.filterMap Item.chunk? = [] := by
    unfold Reading.start
    split <;> rfl
  have htaken : (d.settle d.reader.closed (.start d.reader) d.reader).taken = d.taken := by
    rw [taken_settle, hitems]
    simp [taken, held, hidle]
  refine hd.frame ?_ ?_ ?_ (Nat.le_of_eq (congrArg List.length htaken.symm))
  · rw [reader_settle]
  · rw [reader_settle, htaken]
  · rw [reader_settle]
    exact id

theorem Level.read (hd : Level size used d) (hopened : d.reader.closed = false) {c : Call}
    (hcall : d.call = some c) {next : Reading} {reader : Reader}
    (hadvance : c.reading.advance d.reader = some (next, reader)) :
    Level size used (d.settle c.late next reader) := by
  have hsteps := Reading.steps_of_advance hadvance
  obtain ⟨hitems, hmore, hsize⟩ := hsteps.items_of_open hopened
  have hloop := hsteps.frame.1
  have htaken : d.taken = d.chunks ++ c.reading.items.filterMap Item.chunk? := by
    simp [taken, held, hcall]
  have hchunks := congrArg (List.filterMap Item.chunk?) hitems
  rw [List.filterMap_append, List.filterMap_append] at hchunks
  refine hd.frame ?_ ?_ ?_ ?_
  · rw [reader_settle, hsize]
  · rw [reader_settle, taken_settle, htaken]
    simp only [Reader.queued, hloop, List.append_assoc]
    rw [← List.append_assoc (List.filterMap _ next.items), hchunks, List.append_assoc]
  · rw [reader_settle, hloop]
    exact id
  · rw [taken_settle, htaken, List.length_append, List.length_append]
    exact Nat.add_le_add_left (hmore.filterMap _).length_le _

inductive Moves (d : Input) : Input → Prop
  | idle : Moves d d
  | client (feed : Feed) (coming : List Feed) (hcoming : d.coming = feed :: coming) :
    Moves d { d with coming, inbox := d.inbox ++ [feed] }
  | loop {reader : Reader} {inbox : List Feed}
    (hstep : d.reader.step d.inbox = some (reader, inbox)) : Moves d { d with reader, inbox }
  | lapse : Moves d { d with reader.loop := d.reader.loop.lapse }
  | call (hidle : d.call = none) : Moves d (d.settle d.reader.closed (.start d.reader) d.reader)
  | read {c : Call} {next : Reading} {reader : Reader} (hcall : d.call = some c)
    (hadvance : c.reading.advance d.reader = some (next, reader)) :
    Moves d (d.settle c.late next reader)
  | rest : Moves d { d with call := d.call.map fun c => { c with reading := c.reading.lapse } }
  | close : Moves d { d with reader := d.reader.close }

theorem moves_step (d : Input) (part : Part) : Moves d (d.step part) := by
  cases part with
  | client =>
      simp only [Input.step]
      split
      · exact .idle
      · rename_i feed coming hcoming
        exact .client feed coming hcoming
  | loop =>
      simp only [Input.step]
      split
      · rename_i hstep
        exact .loop hstep
      · exact .idle
  | lapse =>
      simp only [Input.step]
      split
      · exact .lapse
      · exact .idle
  | call =>
      simp only [Input.step]
      split
      · rename_i hidle
        exact .call (Option.isNone_iff_eq_none.mp hidle)
      · exact .idle
  | read =>
      simp only [Input.step, Input.read]
      split
      · exact .idle
      · rename_i hcall
        split
        · rename_i hadvance
          exact .read hcall hadvance
        · exact .idle
  | rest =>
      simp only [Input.step]
      split
      · exact .rest
      · exact .idle
  | close => exact .close

theorem Moves.closed {after : Input} (hmoves : Moves d after) (hclosed : d.reader.closed = true) :
    after.reader.closed = true := by
  cases hmoves with
  | loop hstep => exact (Reader.steps_of_step hstep).frame.1.trans hclosed
  | call _ => rwa [reader_settle]
  | read _ hadvance =>
      rw [reader_settle]
      exact (Reading.steps_of_advance hadvance).frame.2.trans hclosed
  | close => rfl
  | idle | client _ _ _ | lapse | rest => exact hclosed

theorem Moves.opened {after : Input} (hmoves : Moves d after)
    (hopened : after.reader.closed = false) : d.reader.closed = false := by
  cases hclosed : d.reader.closed with
  | false => rfl
  | true => simp [hmoves.closed hclosed] at hopened

/-- The loop uses the messages in turn. -/
theorem Moves.unused_suffix {after : Input} (hmoves : Moves d after) :
    after.unused <:+ d.unused := by
  cases hmoves with
  | client feed coming hcoming => simp [unused, feeds, hcoming]
  | loop hstep =>
      obtain ⟨before, hbefore⟩ := (Reader.steps_of_step hstep).hand_suffix
      refine List.IsSuffix.filterMap _ ⟨before, ?_⟩
      simp only [feeds, ← List.append_assoc, ← hbefore]
  | lapse => simp [unused, feeds, Loop.hand_lapse]
  | call _ => exact ⟨[], unused_settle _ _ _ rfl⟩
  | read _ hadvance =>
      exact ⟨[], unused_settle _ _ _ (Reading.steps_of_advance hadvance).frame.1⟩
  | idle | rest | close => exact List.suffix_refl _

theorem Level.moves {after : Input} (hd : Level size used d) (hmoves : Moves d after)
    (hopened : after.reader.closed = false) :
    ∃ used', used' ++ after.unused = used ++ d.unused ∧ Level size used' after := by
  have hbefore := hmoves.opened hopened
  cases hmoves with
  | idle => exact ⟨used, rfl, hd⟩
  | client feed coming hcoming =>
      refine ⟨used, ?_, hd.frame rfl rfl id (Nat.le_refl _)⟩
      simp [unused, feeds, hcoming]
  | loop hstep => exact hd.loop hbefore hstep
  | lapse =>
      refine ⟨used, by simp [unused, feeds, Loop.hand_lapse], hd.frame rfl ?_ ?_ (Nat.le_refl _)⟩
      · simp only [Reader.queued]
        cases d.reader.loop <;> rfl
      · simp [Loop.isEnding_lapse]
  | call hidle => exact ⟨used, by rw [unused_settle _ _ _ rfl], hd.call hidle⟩
  | read hcall hadvance =>
      refine ⟨used, ?_, hd.read hbefore hcall hadvance⟩
      rw [unused_settle _ _ _ (Reading.steps_of_advance hadvance).frame.1]
  | rest =>
      have htaken : ({ d with call := d.call.map fun c =>
          { c with reading := c.reading.lapse } } : Input).taken = d.taken := by
        simp only [taken, held]
        rcases d.call with _ | ⟨late, reading⟩
        · rfl
        · cases reading <;> rfl
      exact ⟨used, rfl, hd.frame rfl (by rw [htaken]) id (Nat.le_of_eq (by rw [htaken]))⟩
  | close => cases hopened

theorem level_foldl (size : Geometry) (messages : List Request) (broken : Option Failure)
    (parts : List Part) :
    let d := parts.foldl step (start size messages broken)
    d.reader.closed = false → ∃ used, used ++ d.unused = messages ∧ Level size used d := by
  refine course_invariant
    (I := fun _ d => d.reader.closed = false →
      ∃ used, used ++ d.unused = messages ∧ Level size used d) ?_ ?_ parts
  · intro _
    exact ⟨[], unused_start size messages broken, level_start size messages broken⟩
  · intro _ d part hd hopened
    have hmoves := moves_step d part
    obtain ⟨used, hall, hlevel⟩ := hd (hmoves.opened hopened)
    obtain ⟨used', hall', hlevel'⟩ := hlevel.moves hmoves hopened
    exact ⟨used', hall'.trans hall, hlevel'⟩

theorem unused_foldl_suffix (d : Input) (parts : List Part) :
    (parts.foldl step d).unused <:+ d.unused := by
  induction parts generalizing d with
  | nil => exact List.suffix_refl _
  | cons part rest ih => exact (ih (d.step part)).trans (moves_step d part).unused_suffix

theorem closed_foldl {d : Input} (hclosed : d.reader.closed = true) (parts : List Part) :
    (parts.foldl step d).reader.closed = true := by
  induction parts generalizing d with
  | nil => exact hclosed
  | cons part rest ih => exact ih ((moves_step d part).closed hclosed)

/-- The second message with input that the consumer has not taken is the last one that the
loop may have used. -/
theorem Level.length_le (hd : Level size used d) {before after : List Request} {m : Request}
    {unused : List Request} (hall : before ++ m :: after = used ++ unused) (hinput : m.input ≠ [])
    (hsecond : bearing before = d.taken.length + 1) : used.length ≤ before.length + 1 := by
  by_contra hmore
  have hwhole : before ++ [m] <+: used ++ unused :=
    ⟨after, by rw [← hall, List.append_assoc, List.singleton_append]⟩
  have hlast : used.dropLast <+: used ++ unused :=
    (List.dropLast_prefix used).trans (List.prefix_append _ _)
  have hfirst : before ++ [m] <+: used.dropLast := by
    refine List.prefix_of_prefix_length_le hwhole hlast ?_
    simp only [List.length_append, List.length_singleton, List.length_dropLast]
    omega
  have hcount := bearing_le_of_prefix hfirst
  have hbearing : bearing (before ++ [m]) = bearing before + 1 := by
    simp [bearing, List.countP_append, hinput]
  have hnear := hd.near
  omega

/-- A client sends messages, and the receive loop and one consumer go on in any order.
The loop uses ever more of the messages, the first ones sent, and the size of an open
reader is the one that they leave.  It has used the message of every chunk that the
consumer has taken out of the slot, returned or not; and it has used none behind the second
message with input whose chunk the consumer has not taken.  A closed reader has no size
any more. -/
theorem size_of_used (size : Geometry) (messages : List Request) (broken : Option Failure)
    (parts : List Part) :
    let d := parts.foldl step (start size messages broken)
    d.unused = messages.drop (d.used messages) ∧
    (∀ further : List Part, d.used messages ≤ (further.foldl step d).used messages) ∧
    (d.reader.closed = false →
      d.reader.size? = some (latest size (messages.take (d.used messages))) ∧
      d.chunks <+: d.taken ∧
      ∀ before m after, messages = before ++ m :: after → m.input ≠ [] →
        (∀ data, d.taken[bearing before]? = some data →
          before.length < d.used messages ∧ m.input = [data]) ∧
        (bearing before = d.taken.length + 1 → d.used messages ≤ before.length + 1)) ∧
    (d.reader.closed = true →
      ∀ further : List Part, (further.foldl step d).reader.size? = none) := by
  intro d
  have hsuffix : d.unused <:+ messages := by
    have hstart := unused_foldl_suffix (start size messages broken) parts
    rwa [unused_start] at hstart
  refine ⟨List.suffix_iff_eq_drop.mp hsuffix, ?_, ?_, ?_⟩
  · intro further
    exact Nat.sub_le_sub_left (unused_foldl_suffix d further).length_le _
  · intro hopened
    obtain ⟨used, (hall : used ++ d.unused = messages), hlevel⟩ :=
      level_foldl size messages broken parts hopened
    have hlength : d.used messages = used.length := by
      simp only [Input.used, ← hall, List.length_append, Nat.add_sub_cancel]
    have htake : messages.take (d.used messages) = used := by
      rw [hlength, ← hall, List.take_left]
    refine ⟨?_, List.prefix_append _ _, ?_⟩
    · rw [htake, ← hlevel.size]
      exact if_neg (by simp [hopened])
    · intro before m after hmessages hinput
      have hsplit := hmessages.symm.trans hall.symm
      rw [hlength]
      constructor
      · intro data hdata
        -- what is taken comes first of all that is on its way
        refine bearer_of_deliverable hsplit hinput ?_
        rw [← hlevel.line, List.getElem?_append_left (List.getElem?_eq_some_iff.mp hdata).1]
        exact hdata
      · exact hlevel.length_le hsplit hinput
  · intro hclosed further
    exact if_pos (closed_foldl hclosed further)

namespace Sample

def sized (width : Int) (data : Bytes) : Request :=
  { message [data] with size := some ⟨width, 24⟩ }

/-- Everything is sent, and the loop goes on until it waits for a consumer that never reads. -/
def unread : List Part := List.replicate 4 .client ++ List.replicate 12 .loop

end Sample

open Sample in
/-- The loop is two messages ahead of a consumer that has taken nothing. -/
theorem size_of_used_unread :
    let messages := [sized 100 [0x61], sized 120 [0x62], sized 140 [0x63]]
    let d := unread.foldl step (start ⟨80, 24⟩ messages none)
    d.reader.size? = some ⟨120, 24⟩ ∧ d.unused.length = 1 ∧ d.used messages ≤ 2 := by
  intro messages d
  obtain ⟨hunused, _, hopen, _⟩ := size_of_used ⟨80, 24⟩ messages none unread
  obtain ⟨hsize, _, hbounds⟩ := hopen (by decide +kernel)
  obtain ⟨_, hsecond⟩ := hbounds [sized 100 [0x61]] (sized 120 [0x62]) [sized 140 [0x63]] rfl
    (by decide)
  refine ⟨hsize.trans (by decide +kernel), ?_, hsecond (by decide +kernel)⟩
  rw [hunused]
  decide +kernel

end Input

end AttachGate.Terminal
