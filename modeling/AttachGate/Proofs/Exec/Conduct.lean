import AttachGate.Proofs.Exec.Delivery
import Mathlib.Data.List.Chain
import Mathlib.Data.List.Induction

/-!
# Conduct of the input pump

Everything that the pump does is put on record, with what comes of it: its checks, its
polls of the terminal size, the sizes that it sends, its reads, and the input that it
gives to the socket.  After each record only certain acts are due, and the surroundings
answer each as their script has it.  The law of the pump follows from the record alone.
-/

namespace AttachGate.Exec

inductive Act
  /-- Whether the socket is open and the exec still wanted. -/
  | check (goesOn : Bool)
  | poll (size : Option Geometry)
  /-- A size is sent, and fails perhaps. -/
  | resize (size : Geometry) (failure : Option Failure)
  | read (result : Except Failure Bytes)
  /-- Input is given to the socket, and fails perhaps. -/
  | give (data : Bytes) (failure : Option Failure)

namespace Act

def isCheck : Act → Bool
  | .check _ => true
  | _ => false

def isRead : Act → Bool
  | .read _ => true
  | _ => false

def polled? : Act → Option (Option Geometry)
  | .poll size => some size
  | _ => none

def shown? : Act → Option Geometry
  | .resize size none => some size
  | _ => none

def brought? : Act → Option Bytes
  | .read (.ok data) => if data.isEmpty then none else some data
  | _ => none

def given? : Act → Option Bytes
  | .give data _ => some data
  | _ => none

def failure? : Act → Option Failure
  | .resize _ f | .give _ f => f
  | .read (.error f) => some f
  | _ => none

def event? : Act → Option Event
  | .resize size none => some (.resized size)
  | .read _ => some .asked
  | .give data none => some (.sent data)
  | _ => none

def isLast : Act → Bool
  | .check goesOn => !goesOn
  | .poll size => size.isNone
  | .read (.ok data) => data.isEmpty
  | .read (.error _) => true
  | .resize _ f | .give _ f => f.isSome

/-- How a pump stands that has stopped with an act. -/
def verdict (a : Act) : Verdict :=
  match a.failure? with
  | some f => if Pump.isAbsorbed f then .stopped else .escaped f
  | none => .stopped

end Act

/-! ## The record -/

abbrev Conduct := List Act

namespace Conduct

def polled (c : Conduct) : List (Option Geometry) := c.filterMap Act.polled?

def shown (c : Conduct) : List Geometry := c.filterMap Act.shown?

def brought (c : Conduct) : List Bytes := c.filterMap Act.brought?

def given (c : Conduct) : List Bytes := c.filterMap Act.given?

/-- The acts that may follow a record. -/
def Due (past : Conduct) : Act → Prop
  | .check _ => past = [] ∨ ∃ data, past.getLast? = some (.give data none)
  | .poll _ => past.getLast? = some (.check true)
  | .resize size _ => past.getLast? = some (.poll (some size)) ∧ (shown past).getLast? ≠ some size
  | .read _ =>
    ∃ size, (shown past).getLast? = some size ∧
      (past.getLast? = some (.poll (some size)) ∨ past.getLast? = some (.resize size none))
  | .give data _ => past.getLast? = some (.read (.ok data)) ∧ data.isEmpty = false

/-- Every act of a record stands to the acts before it in a certain way. -/
def Each (P : Conduct → Act → Prop) (c : Conduct) : Prop :=
  ∀ before a after, c = before ++ a :: after → P before a

variable {P : Conduct → Act → Prop} {c : Conduct} {a : Act}

theorem each_nil : Each P [] := by simp [Each]

theorem each_snoc : Each P (c ++ [a]) ↔ Each P c ∧ P c a := by
  constructor
  · intro hc
    refine ⟨?_, hc c a [] rfl⟩
    intro before b after hsplit
    exact hc before b (after ++ [a]) (by simp [hsplit])
  · rintro ⟨hc, ha⟩ before b after hsplit
    rcases List.eq_nil_or_concat after with rfl | ⟨rest, last, rfl⟩
    · obtain ⟨rfl, hlast⟩ := List.append_inj' hsplit rfl
      obtain rfl : a = b := by simpa using hlast
      exact ha
    · have hfront : c ++ [a] = (before ++ b :: rest) ++ [last] := by simpa using hsplit
      obtain ⟨rfl, _⟩ := List.append_inj' hfront rfl
      exact hc before b rest rfl

theorem Each.front {before after : Conduct} (hc : Each P (before ++ after)) : Each P before := by
  intro first b rest hsplit
  exact hc first b (rest ++ after) (by simp [hsplit])

theorem filterMap_snoc {α : Type} (f : Act → Option α) (c : Conduct) (a : Act) :
    (c ++ [a]).filterMap f = c.filterMap f ++ (f a).toList := by
  cases h : f a <;> simp [h]

@[simp] theorem polled_snoc (c : Conduct) (a : Act) :
    polled (c ++ [a]) = polled c ++ a.polled?.toList := filterMap_snoc _ c a

@[simp] theorem shown_snoc (c : Conduct) (a : Act) :
    shown (c ++ [a]) = shown c ++ a.shown?.toList := filterMap_snoc _ c a

@[simp] theorem brought_snoc (c : Conduct) (a : Act) :
    brought (c ++ [a]) = brought c ++ a.brought?.toList := filterMap_snoc _ c a

@[simp] theorem given_snoc (c : Conduct) (a : Act) :
    given (c ++ [a]) = given c ++ a.given?.toList := filterMap_snoc _ c a

/-! ### What the order of the acts comes to -/

/-- Nothing is due after an act that the pump stops with. -/
theorem not_due_of_isLast (hlast : c.getLast? = some a) (ha : a.isLast = true) (b : Act) :
    ¬ Due c b := by
  intro hdue
  cases b <;> simp only [Due, hlast, Option.some.injEq] at hdue
  case check =>
    rcases hdue with rfl | ⟨data, rfl⟩
    · cases hlast
    · cases ha
  case poll =>
    subst hdue
    cases ha
  case resize =>
    obtain ⟨rfl, _⟩ := hdue
    cases ha
  case read =>
    obtain ⟨size, _, rfl | rfl⟩ := hdue <;> cases ha
  case give =>
    obtain ⟨rfl, hdata⟩ := hdue
    simp only [Act.isLast, hdata] at ha
    cases ha

theorem nothing_after_last {before after : Conduct} (hc : Each Due (before ++ a :: after))
    (ha : a.isLast = true) : after = [] := by
  cases after with
  | nil => rfl
  | cons b rest =>
      have hdue : Due (before ++ [a]) b := hc _ b rest (by simp)
      exact absurd hdue (not_due_of_isLast (by simp) ha b)

/-- The octets that were read last, unless they are given already. -/
def owed (c : Conduct) : List Bytes := (c.getLast?.bind Act.brought?).toList

theorem owed_of_due (hdue : Due c a) : owed c = a.given?.toList := by
  cases a with
  | check goesOn =>
      rcases hdue with rfl | ⟨data, hlast⟩
      · rfl
      · simp [owed, hlast, Act.brought?, Act.given?]
  | poll size =>
      have hlast : c.getLast? = some (.check true) := hdue
      simp [owed, hlast, Act.brought?, Act.given?]
  | resize size f => simp [owed, hdue.1, Act.brought?, Act.given?]
  | read result =>
      obtain ⟨size, _, hlast | hlast⟩ := hdue <;> simp [owed, hlast, Act.brought?, Act.given?]
  | give data f =>
      obtain ⟨hlast, hdata⟩ := hdue
      simp [owed, hlast, hdata, Act.brought?, Act.given?]

/-- What was read is given in order, and but for what was read last it is given already. -/
theorem given_owed (hc : Each Due c) : given c ++ owed c = brought c := by
  induction c using List.reverseRecOn with
  | nil => rfl
  | append_singleton c a ih =>
      obtain ⟨hfront, hdue⟩ := each_snoc.mp hc
      have hgiven : given (c ++ [a]) = given c ++ owed c := by rw [given_snoc, owed_of_due hdue]
      have hbrought : brought (c ++ [a]) = brought c ++ owed (c ++ [a]) := by simp [owed]
      rw [hgiven, hbrought, ih hfront]

/-- Sizes are sent as they change. -/
theorem isChain_shown (hc : Each Due c) : (shown c).IsChain (· ≠ ·) := by
  induction c using List.reverseRecOn with
  | nil => exact .nil
  | append_singleton c a ih =>
      obtain ⟨hfront, hdue⟩ := each_snoc.mp hc
      cases hact : a.shown? with
      | none => simpa [hact] using ih hfront
      | some size =>
          obtain rfl : a = .resize size none := by
            cases a with
            | resize other f => cases f <;> simp_all [Act.shown?]
            | _ => simp [Act.shown?] at hact
          rw [shown_snoc, hact, List.isChain_append]
          refine ⟨ih hfront, .singleton size, ?_⟩
          rintro last hlast _ ⟨⟩ rfl
          exact hdue.2 hlast

/-- At a read the size that was sent last is the one that was polled last. -/
theorem shown_of_read {result : Except Failure Bytes} (hc : Each Due (c ++ [.read result])) :
    ∃ size, (polled c).getLast? = some (some size) ∧ (shown c).getLast? = some size := by
  obtain ⟨hfront, size, hshown, hpolled | hresized⟩ := each_snoc.mp hc
  · refine ⟨size, ?_, hshown⟩
    obtain ⟨before, rfl⟩ := List.getLast?_eq_some_iff.mp hpolled
    simp [Act.polled?]
  · refine ⟨size, ?_, hshown⟩
    obtain ⟨before, rfl⟩ := List.getLast?_eq_some_iff.mp hresized
    obtain ⟨hpolled, _⟩ := (each_snoc.mp hfront).2
    obtain ⟨earlier, rfl⟩ := List.getLast?_eq_some_iff.mp hpolled
    rw [polled_snoc, polled_snoc]
    simp [Act.polled?]

/-- A size that was polled is sent next if it is not the one sent last, and else the
read comes next. -/
theorem next_of_poll {before after : Conduct} {size : Geometry} {next : Act}
    (hc : Each Due (before ++ .poll (some size) :: next :: after)) :
    ((shown before).getLast? ≠ some size ∧ ∃ f, next = .resize size f) ∨
      ((shown before).getLast? = some size ∧ ∃ result, next = .read result) := by
  have hdue : Due (before ++ [.poll (some size)]) next := hc _ next after (by simp)
  have hshown : shown (before ++ [.poll (some size)]) = shown before := by simp [Act.shown?]
  cases next with
  | resize other f =>
      obtain ⟨hlast, hother⟩ := hdue
      obtain rfl : size = other := by simpa using hlast
      rw [hshown] at hother
      exact .inl ⟨hother, f, rfl⟩
  | read result =>
      obtain ⟨other, hother, hlast⟩ := hdue
      obtain rfl : size = other := by simpa using hlast
      rw [hshown] at hother
      exact .inr ⟨hother, result, rfl⟩
  | check | poll | give => simp [Due] at hdue

end Conduct

/-! ## What the pump does -/

namespace Pump

def resizeActs (faults : PumpFaults) (size : Geometry) (p : Pump) : Conduct :=
  if p.lastSize = some size then []
  else [.resize size (WriteFault.strike? faults.resize p.resizes)]

/-- What the pump does in a round before the read. -/
def prepareActs (faults : PumpFaults) (p : Pump) : Conduct :=
  match p.verdict with
  | .running =>
    let (isOpen, p) := p.checkOpen
    if !isOpen || p.cancelled then [.check false]
    else
      match p.pollSize with
      | (none, _) => [.check true, .poll none]
      | (some size, p) => [.check true, .poll (some size)] ++ p.resizeActs faults size
  | _ => []

def sendActs (faults : PumpFaults) (data : Bytes) (p : Pump) : Conduct :=
  if data.isEmpty then [] else [.give data (WriteFault.strike? faults.send p.sends)]

/-- What the pump does with a chunk of input. -/
def relayActs (faults : PumpFaults) (chunk : Chunk) (p : Pump) : Conduct :=
  .read chunk.data ::
    match chunk.data with
    | .error _ => []
    | .ok data => p.sendActs faults data

def roundActs (faults : PumpFaults) (chunk : Chunk) (p : Pump) : Conduct :=
  match (p.prepare faults).verdict with
  | .running => p.prepareActs faults ++ (p.prepare faults).relayActs faults chunk
  | _ => p.prepareActs faults

def acts (faults : PumpFaults) : List Chunk → Pump → Conduct
  | [], _ => []
  | chunk :: rest, p => p.roundActs faults chunk ++ acts faults rest (p.round faults chunk)

end Pump

structure Script where
  faults : PumpFaults
  openChecks : Option Nat
  cancelled : Bool
  sizes : List (Option Geometry)
  chunks : List Chunk

namespace Script

open Conduct (Each Due each_nil each_snoc)

def start (s : Script) : Pump := Pump.start s.openChecks s.cancelled s.sizes

def run (s : Script) : Pump := Pump.run s.faults s.chunks s.start

def conduct (s : Script) : Conduct := Pump.acts s.faults (s.chunks ++ [Pump.lastChunk]) s.start

def isOpenAt (s : Script) (checks : Nat) : Bool := s.openChecks.all (checks < ·)

def isCancelledAt (s : Script) (reads : Nat) : Bool :=
  s.cancelled || (s.chunks.take reads).any Chunk.cancels

/-- The answer to a poll after so many polls; the last size repeats. -/
def sizeAt (s : Script) (polls : Nat) : Option Geometry :=
  (s.sizes.drop (min polls (s.sizes.length - 1))).head?.join

/-- The answer to a read after so many reads; in the end there is no more input. -/
def chunkAt (s : Script) (reads : Nat) : Chunk := s.chunks[reads]?.getD Pump.lastChunk

/-- An act comes to what the script has for it. -/
def Answers (s : Script) (past : Conduct) : Act → Prop
  | .check goesOn =>
    goesOn = (s.isOpenAt (past.countP Act.isCheck) && !s.isCancelledAt (past.countP Act.isRead))
  | .poll size => size = s.sizeAt past.polled.length
  | .resize _ f => f = WriteFault.strike? s.faults.resize past.shown.length
  | .read result => result = (s.chunkAt (past.countP Act.isRead)).data
  | .give _ f => f = WriteFault.strike? s.faults.send past.given.length

/-- How a running pump stands to the record of what it did. -/
structure Books (s : Script) (c : Conduct) (p : Pump) : Prop where
  running : p.verdict = .running
  openChecks : p.openChecks = s.openChecks.map (· - c.countP Act.isCheck)
  cancelled : p.cancelled = s.isCancelledAt (c.countP Act.isRead)
  sizes : p.sizes = s.sizes.drop (min c.polled.length (s.sizes.length - 1))
  lastSize : p.lastSize = c.shown.getLast?
  resizes : p.resizes = c.shown.length
  sends : p.sends = c.given.length

variable {s : Script} {c : Conduct} {p : Pump}

theorem books_start (s : Script) : Books s [] s.start := by
  constructor <;> simp [start, Pump.start, isCancelledAt, Conduct.polled, Conduct.shown,
    Conduct.given]

theorem Books.check (hp : Books s c p) (goesOn : Bool) :
    p.checkOpen.1 = s.isOpenAt (c.countP Act.isCheck) ∧
      Books s (c ++ [.check goesOn]) p.checkOpen.2 := by
  obtain ⟨hrunning, hopen, hcancelled, hsizes, hlast, hresizes, hsends⟩ := hp
  have hbooks : ∀ openChecks, openChecks = s.openChecks.map (· - (c.countP Act.isCheck + 1)) →
      Books s (c ++ [.check goesOn]) { p with openChecks } := by
    rintro openChecks rfl
    constructor <;>
      simp_all [Act.isCheck, Act.isRead, Act.polled?, Act.shown?, Act.given?]
  cases hchecks : s.openChecks with
  | none =>
      have hnone : p.openChecks = none := by simp [hopen, hchecks]
      simp only [Pump.checkOpen, hnone, isOpenAt, hchecks, Option.all_none, true_and]
      simpa [← hnone] using hbooks none (by simp [hchecks])
  | some checks =>
      have hleft : p.openChecks = some (checks - c.countP Act.isCheck) := by simp [hopen, hchecks]
      cases hmore : checks - c.countP Act.isCheck with
      | zero =>
          rw [hmore] at hleft
          simp only [Pump.checkOpen, hleft, isOpenAt, hchecks, Option.all_some]
          refine ⟨by simp; omega, ?_⟩
          simpa [← hleft] using hbooks (some 0) (by simp [hchecks]; omega)
      | succ more =>
          rw [hmore] at hleft
          simp only [Pump.checkOpen, hleft, isOpenAt, hchecks, Option.all_some]
          exact ⟨by simp; omega, hbooks (some more) (by simp [hchecks]; omega)⟩

theorem Books.poll (hp : Books s c p) :
    p.pollSize.1 = s.sizeAt c.polled.length ∧
      ∀ size, Books s (c ++ [.poll size]) p.pollSize.2 := by
  obtain ⟨hrunning, hopen, hcancelled, hsizes, hlast, hresizes, hsends⟩ := hp
  have hbooks : ∀ sizes size,
      sizes = s.sizes.drop (min (c.polled.length + 1) (s.sizes.length - 1)) →
      Books s (c ++ [.poll size]) { p with sizes } := by
    rintro sizes size rfl
    constructor <;>
      simp_all [Act.isCheck, Act.isRead, Act.polled?, Act.shown?, Act.given?]
  have hlength := congrArg List.length hsizes
  rw [List.length_drop] at hlength
  simp only [sizeAt, ← hsizes]
  cases hleft : p.sizes with
  | nil =>
      have hnone : s.sizes = [] := by
        rw [hleft, List.length_nil] at hlength
        exact List.eq_nil_of_length_eq_zero (by omega)
      simp only [Pump.pollSize, hleft]
      refine ⟨rfl, fun size => ?_⟩
      exact hbooks p.sizes size (by simp [hleft, hnone])
  | cons size rest =>
      rw [hleft, List.length_cons] at hlength
      cases rest with
      | nil =>
          rw [List.length_nil] at hlength
          have hlater : min (c.polled.length + 1) (s.sizes.length - 1) =
              min c.polled.length (s.sizes.length - 1) := by omega
          simp only [Pump.pollSize, hleft]
          refine ⟨rfl, fun size => ?_⟩
          exact hbooks p.sizes size (by rw [hlater, ← hsizes])
      | cons other rest =>
          rw [List.length_cons] at hlength
          have hlater : min (c.polled.length + 1) (s.sizes.length - 1) =
              min c.polled.length (s.sizes.length - 1) + 1 := by omega
          have htail : s.sizes.drop (min (c.polled.length + 1) (s.sizes.length - 1)) =
              other :: rest := by
            rw [hlater, ← List.drop_drop, ← hsizes, hleft]
            rfl
          simp only [Pump.pollSize, hleft]
          exact ⟨rfl, fun size => hbooks (other :: rest) size htail.symm⟩

theorem Books.resized (hp : Books s c p) (size : Geometry) :
    Books s (c ++ [.resize size none])
      { p with
        lastSize := some size
        resizes := p.resizes + 1
        log := p.log ++ [.resized size] } := by
  obtain ⟨hrunning, hopen, hcancelled, hsizes, hlast, hresizes, hsends⟩ := hp
  constructor <;> simp_all [Act.isCheck, Act.isRead, Act.polled?, Act.shown?, Act.given?]

/-- The record is in order, answered as the script has it, and seen as the pump's log. -/
structure Faithful (s : Script) (c : Conduct) (p : Pump) : Prop where
  due : Each Due c
  answered : Each s.Answers c
  log : p.log = c.filterMap Act.event?

theorem Faithful.snoc (hp : Faithful s c p) {a : Act} {q : Pump} (hdue : Due c a)
    (hanswers : s.Answers c a) (hlog : q.log = p.log ++ a.event?.toList) :
    Faithful s (c ++ [a]) q := by
  refine ⟨each_snoc.mpr ⟨hp.due, hdue⟩, each_snoc.mpr ⟨hp.answered, hanswers⟩, ?_⟩
  rw [hlog, hp.log, Conduct.filterMap_snoc]

theorem Faithful.of_log (hp : Faithful s c p) {q : Pump} (hlog : q.log = p.log) :
    Faithful s c q := ⟨hp.due, hp.answered, hlog.trans hp.log⟩

/-- The pump has stopped with the last act on record. -/
def Stopped (c : Conduct) (p : Pump) : Prop :=
  ∃ a, c.getLast? = some a ∧ a.isLast = true ∧ p.verdict = a.verdict

theorem stopped_snoc {a : Act} (ha : a.isLast = true) (hverdict : p.verdict = a.verdict) :
    Stopped (c ++ [a]) p := ⟨a, by simp, ha, hverdict⟩

theorem verdict_ne_running (a : Act) : a.verdict ≠ .running := by
  unfold Act.verdict
  split
  · split <;> simp
  · simp

theorem Stopped.over (hp : Stopped c p) : p.verdict ≠ .running := by
  obtain ⟨a, _, _, hverdict⟩ := hp
  rw [hverdict]
  exact verdict_ne_running a

/-! ### A round -/

/-- The record and the pump before a round and after it. -/
structure Kept (s : Script) (c : Conduct) (p : Pump) : Prop where
  faithful : Faithful s c p
  stands : (Books s c p ∧ (c = [] ∨ ∃ data, c.getLast? = some (.give data none))) ∨ Stopped c p

theorem log_checkOpen (p : Pump) : p.checkOpen.2.log = p.log := by
  unfold Pump.checkOpen
  split <;> rfl

theorem log_pollSize (p : Pump) : p.pollSize.2.log = p.log := by
  unfold Pump.pollSize
  split <;> rfl

theorem cancelled_checkOpen (p : Pump) : p.checkOpen.2.cancelled = p.cancelled := by
  unfold Pump.checkOpen
  split <;> rfl

/-- A size is sent or need not be, and a read may come; or the pump stops. -/
theorem resize_cases {size : Geometry} (hfaithful : Faithful s c p) (hbooks : Books s c p)
    (hpolled : c.getLast? = some (.poll (some size))) :
    let after := c ++ p.resizeActs s.faults size
    let q := p.resize s.faults size
    Faithful s after q ∧
      ((Books s after q ∧ ∀ result, Due after (.read result)) ∨ Stopped after q) := by
  by_cases hsame : p.lastSize = some size
  · have hshown : c.shown.getLast? = some size := hbooks.lastSize ▸ hsame
    simp only [Pump.resizeActs, Pump.resize, hsame, if_true, List.append_nil]
    exact ⟨hfaithful, .inl ⟨hbooks, fun _ => ⟨size, hshown, .inl hpolled⟩⟩⟩
  · have hshown : c.shown.getLast? ≠ some size := hbooks.lastSize ▸ hsame
    simp only [Pump.resizeActs, Pump.resize, hsame, if_false]
    have hdue : ∀ f, Due c (.resize size f) := fun _ => ⟨hpolled, hshown⟩
    cases hstrike : WriteFault.strike? s.faults.resize p.resizes with
    | some f =>
        have hanswers : s.Answers c (.resize size (some f)) := by
          rw [← hstrike, hbooks.resizes]
          rfl
        exact ⟨hfaithful.snoc (hdue _) hanswers (by simp [Pump.fail, Act.event?]),
          .inr (stopped_snoc rfl rfl)⟩
    | none =>
        have hanswers : s.Answers c (.resize size none) := by
          rw [← hstrike, hbooks.resizes]
          rfl
        refine ⟨hfaithful.snoc (hdue _) hanswers rfl, .inl ⟨hbooks.resized size, fun _ => ?_⟩⟩
        exact ⟨size, by simp [Act.shown?], .inr (by simp)⟩

/-- Before its read the pump checks, polls and sends the size; it stops or may read. -/
theorem prepare_cases (hfaithful : Faithful s c p) (hbooks : Books s c p)
    (hrest : c = [] ∨ ∃ data, c.getLast? = some (.give data none)) :
    let after := c ++ p.prepareActs s.faults
    let q := p.prepare s.faults
    Faithful s after q ∧
      ((Books s after q ∧ ∀ result, Due after (.read result)) ∨ Stopped after q) := by
  have hanswers : s.Answers c (.check (p.checkOpen.1 && !p.cancelled)) := by
    rw [(hbooks.check true).1, hbooks.cancelled]
    rfl
  have hlog : p.checkOpen.2.log = p.log := log_checkOpen p
  have hcancelled : p.checkOpen.2.cancelled = p.cancelled := cancelled_checkOpen p
  have hguard : (!p.checkOpen.1 || p.cancelled) = !(p.checkOpen.1 && !p.cancelled) := by
    cases p.checkOpen.1 <;> simp
  simp only [Pump.prepareActs, Pump.prepare, hbooks.running, hcancelled, hguard]
  cases hgoes : p.checkOpen.1 && !p.cancelled with
  | false =>
      rw [hgoes] at hanswers
      simp only [Bool.not_false, if_true]
      exact ⟨hfaithful.snoc hrest hanswers (by simp [hlog, Act.event?]),
        .inr (stopped_snoc rfl rfl)⟩
  | true =>
      rw [hgoes] at hanswers
      simp only [Bool.not_true, Bool.false_eq_true, if_false]
      have hchecked : Faithful s (c ++ [.check true]) p.checkOpen.2 :=
        hfaithful.snoc hrest hanswers (by simp [hlog, Act.event?])
      obtain ⟨hsize, hbooks⟩ := (hbooks.check true).2.poll
      have hlog := log_pollSize p.checkOpen.2
      rcases hpoll : p.checkOpen.2.pollSize with ⟨size, q⟩
      rw [hpoll] at hsize hbooks hlog
      have hpolled : Faithful s (c ++ [.check true] ++ [.poll size]) q :=
        hchecked.snoc (by simp [Due]) hsize (by simpa [Act.event?] using hlog)
      cases size with
      | none =>
          rw [List.append_cons]
          exact ⟨hpolled.of_log rfl, .inr (stopped_snoc rfl rfl)⟩
      | some size =>
          have hlast : (c ++ [Act.check true] ++ [Act.poll (some size)]).getLast? =
              some (.poll (some size)) := by simp
          simpa using resize_cases hpolled (hbooks (some size)) hlast

theorem isCancelledAt_succ (s : Script) (reads : Nat) :
    s.isCancelledAt (reads + 1) = (s.isCancelledAt reads || (s.chunkAt reads).cancels) := by
  cases hchunk : s.chunks[reads]? <;>
    simp [isCancelledAt, chunkAt, List.take_add_one, hchunk, Pump.lastChunk, Bool.or_assoc]

theorem Books.read (hp : Books s c p) (log : List Event) :
    let chunk := s.chunkAt (c.countP Act.isRead)
    Books s (c ++ [.read chunk.data])
      { p with log, cancelled := p.cancelled || chunk.cancels } := by
  obtain ⟨hrunning, hopen, hcancelled, hsizes, hlast, hresizes, hsends⟩ := hp
  constructor <;>
    simp_all [isCancelledAt_succ, Act.isCheck, Act.isRead, Act.polled?, Act.shown?, Act.given?]

theorem Books.given (hp : Books s c p) (data : Bytes) :
    Books s (c ++ [.give data none])
      { p with sends := p.sends + 1, log := p.log ++ [.sent data] } := by
  obtain ⟨hrunning, hopen, hcancelled, hsizes, hlast, hresizes, hsends⟩ := hp
  constructor <;> simp_all [Act.isCheck, Act.isRead, Act.polled?, Act.shown?, Act.given?]

/-- What was read is given to the socket unless it is empty; the pump goes on or stops. -/
theorem send_cases {data : Bytes} (hfaithful : Faithful s c p) (hbooks : Books s c p)
    (hread : c.getLast? = some (.read (.ok data))) :
    Kept s (c ++ p.sendActs s.faults data) (p.send s.faults data) := by
  cases hempty : data.isEmpty with
  | true =>
      simp only [Pump.sendActs, Pump.send, hempty, if_true, List.append_nil]
      exact ⟨hfaithful.of_log rfl, .inr ⟨_, hread, hempty, rfl⟩⟩
  | false =>
      simp only [Pump.sendActs, Pump.send, hempty, Bool.false_eq_true, if_false]
      have hdue : ∀ f, Due c (.give data f) := fun _ => ⟨hread, hempty⟩
      have hanswers : s.Answers c (.give data (WriteFault.strike? s.faults.send p.sends)) := by
        rw [hbooks.sends]
        rfl
      cases hstrike : WriteFault.strike? s.faults.send p.sends with
      | some f =>
          rw [hstrike] at hanswers
          exact ⟨hfaithful.snoc (hdue _) hanswers (by simp [Pump.fail, Act.event?]),
            .inr (stopped_snoc rfl rfl)⟩
      | none =>
          rw [hstrike] at hanswers
          exact ⟨hfaithful.snoc (hdue _) hanswers rfl,
            .inl ⟨hbooks.given data, .inr ⟨data, by simp⟩⟩⟩

theorem relay_cases (hfaithful : Faithful s c p) (hbooks : Books s c p)
    (hdue : ∀ result, Due c (.read result)) {chunk : Chunk}
    (hchunk : chunk = s.chunkAt (c.countP Act.isRead)) :
    Kept s (c ++ p.relayActs s.faults chunk) (p.relay s.faults chunk) := by
  have hanswers : s.Answers c (.read chunk.data) := by
    rw [hchunk]
    rfl
  have hread : ∀ q : Pump, q.log = p.log ++ [.asked] → Faithful s (c ++ [.read chunk.data]) q :=
    fun q hlog => hfaithful.snoc (hdue _) hanswers hlog
  have hbooks : Books s (c ++ [.read chunk.data])
      { p with log := p.log ++ [.asked], cancelled := p.cancelled || chunk.cancels } := by
    rw [hchunk]
    exact hbooks.read _
  simp only [Pump.relayActs, Pump.relay]
  rw [List.append_cons]
  cases hdata : chunk.data with
  | error f =>
      rw [hdata] at hread
      exact ⟨by simpa using hread _ rfl, .inr ⟨.read (.error f), by simp, rfl, rfl⟩⟩
  | ok data =>
      rw [hdata] at hread hbooks
      have hlast : (c ++ [Act.read (.ok data)]).getLast? = some (.read (.ok data)) := by simp
      exact send_cases (hread _ rfl) hbooks hlast

theorem countP_isRead_prepareActs (faults : PumpFaults) (p : Pump) :
    (p.prepareActs faults).countP Act.isRead = 0 := by
  unfold Pump.prepareActs
  split
  · simp only
    split
    · rfl
    · split
      · rfl
      · simp only [Pump.resizeActs]
        split <;> rfl
  · rfl

/-- A pump that has stopped does nothing in a round. -/
theorem round_of_over (hover : p.verdict ≠ .running) (faults : PumpFaults) (chunk : Chunk) :
    p.roundActs faults chunk = [] ∧ p.round faults chunk = p := by
  cases hverdict : p.verdict with
  | running => exact absurd hverdict hover
  | stopped | escaped f =>
      simp [Pump.roundActs, Pump.prepare, Pump.prepareActs, Pump.round, hverdict]

theorem Kept.round (hp : Kept s c p) {chunk : Chunk}
    (hchunk : p.verdict = .running → chunk = s.chunkAt (c.countP Act.isRead)) :
    Kept s (c ++ p.roundActs s.faults chunk) (p.round s.faults chunk) := by
  obtain ⟨hfaithful, ⟨hbooks, hrest⟩ | hstopped⟩ := hp
  · rw [Pump.round_eq]
    obtain ⟨hprepared, ⟨hready, hdue⟩ | hstopped⟩ := prepare_cases hfaithful hbooks hrest
    · have hreads : chunk =
          s.chunkAt ((c ++ p.prepareActs s.faults).countP Act.isRead) := by
        rw [List.countP_append, countP_isRead_prepareActs]
        exact hchunk hbooks.running
      simp only [Pump.roundActs, hready.running]
      rw [← List.append_assoc]
      exact relay_cases hprepared hready hdue hreads
    · have hover := hstopped.over
      cases hverdict : (p.prepare s.faults).verdict with
      | running => exact absurd hverdict hover
      | stopped | escaped f =>
          simp only [Pump.roundActs, hverdict]
          exact ⟨hprepared, .inr hstopped⟩
  · obtain ⟨hacts, hsame⟩ := round_of_over hstopped.over s.faults chunk
    rw [hacts, hsame, List.append_nil]
    exact ⟨hfaithful, .inr hstopped⟩

/-! ### A run -/

/-- A round after which the pump goes on had one read. -/
theorem countP_isRead_roundActs {faults : PumpFaults} {chunk : Chunk}
    (hrunning : (p.round faults chunk).verdict = .running) :
    p.verdict = .running ∧ (p.roundActs faults chunk).countP Act.isRead = 1 := by
  constructor
  · by_contra hover
    rw [(round_of_over hover faults chunk).2] at hrunning
    exact hover hrunning
  · rw [Pump.round_eq] at hrunning
    cases hverdict : (p.prepare faults).verdict with
    | running =>
        have hsend : ∀ data, ((p.prepare faults).sendActs faults data).countP Act.isRead = 0 := by
          intro data
          unfold Pump.sendActs
          split <;> rfl
        simp only [Pump.roundActs, hverdict, List.countP_append, countP_isRead_prepareActs,
          Pump.relayActs, List.countP_cons]
        cases chunk.data with
        | error f => rfl
        | ok data => simp [hsend, Act.isRead]
    | stopped | escaped f => simp [hverdict] at hrunning

theorem chunkAt_of_split {past rest : List Chunk} {chunk : Chunk}
    (hsplit : s.chunks ++ [Pump.lastChunk] = past ++ chunk :: rest) :
    chunk = s.chunkAt past.length := by
  have hchunk : (s.chunks ++ [Pump.lastChunk])[past.length]? = some chunk := by simp [hsplit]
  have hlength := congrArg List.length hsplit
  simp only [List.length_append, List.length_cons, List.length_nil] at hlength
  rcases Nat.lt_or_ge past.length s.chunks.length with hinside | houtside
  · rw [List.getElem?_append_left hinside] at hchunk
    simp [chunkAt, hchunk]
  · have hend : past.length - s.chunks.length = 0 := by omega
    rw [List.getElem?_append_right houtside, hend] at hchunk
    simpa [chunkAt, List.getElem?_eq_none houtside] using hchunk.symm

theorem Kept.rounds {past rest : List Chunk}
    (hsplit : s.chunks ++ [Pump.lastChunk] = past ++ rest) (hp : Kept s c p)
    (hreads : p.verdict = .running → c.countP Act.isRead = past.length) :
    Kept s (c ++ Pump.acts s.faults rest p)
      (rest.foldl (fun p chunk => p.round s.faults chunk) p) := by
  induction rest generalizing past c p with
  | nil => simpa [Pump.acts] using hp
  | cons chunk rest ih =>
      simp only [Pump.acts, List.foldl_cons]
      rw [← List.append_assoc]
      have hnext : s.chunks ++ [Pump.lastChunk] = (past ++ [chunk]) ++ rest := by
        simpa using hsplit
      refine ih hnext (hp.round ?_) ?_
      · intro hrunning
        rw [hreads hrunning]
        exact chunkAt_of_split hsplit
      · intro hrunning
        obtain ⟨hbefore, hone⟩ := countP_isRead_roundActs hrunning
        rw [List.countP_append, hreads hbefore, hone, List.length_append]
        rfl

theorem kept_conduct (s : Script) : Kept s s.conduct s.run := by
  have hstart : Kept s [] s.start := ⟨⟨each_nil, each_nil, rfl⟩, .inl ⟨books_start s, .inl rfl⟩⟩
  have hwhole : s.chunks ++ [Pump.lastChunk] = [] ++ (s.chunks ++ [Pump.lastChunk]) := rfl
  simpa [conduct, run, Pump.run] using hstart.rounds hwhole fun _ => rfl

/-- The end of the input stops the pump. -/
theorem stopped_conduct (s : Script) : Stopped s.conduct s.run := by
  rcases (kept_conduct s).stands with ⟨hbooks, _⟩ | hstopped
  · have hrunning : (Pump.round s.faults Pump.lastChunk _).verdict = .running := hbooks.running
    rw [Pump.round_eq] at hrunning
    split at hrunning
    · simp [Pump.relay, Pump.send, Pump.lastChunk] at hrunning
    · rename_i hover
      exact absurd hrunning hover
  · exact hstopped

end Script

/-! ## The law -/

namespace Conduct

/-- What holds of everything that a pump does until it stops. -/
structure Lawful (c : Conduct) : Prop where
  /-- The socket is given what reads bring, each once and in order, -/
  given_eq : given c = brought c
  /-- and before the next read. -/
  given_of_read : ∀ before result after, c = before ++ .read result :: after →
    given before = brought before
  /-- A size is sent just if it is not the one sent last; the read comes next. -/
  resize_iff : ∀ before size after, c = before ++ .poll (some size) :: after →
    ((shown before).getLast? ≠ some size ∧ ∃ f rest, after = .resize size f :: rest) ∨
      ((shown before).getLast? = some size ∧ ∃ result rest, after = .read result :: rest)
  poll_of_resize : ∀ before size f after, c = before ++ .resize size f :: after →
    before.getLast? = some (.poll (some size))
  shown_changes : (shown c).IsChain (· ≠ ·)
  /-- At a read the socket knows the size that was polled last. -/
  shown_of_read : ∀ before result after, c = before ++ .read result :: after →
    ∃ size, (polled before).getLast? = some (some size) ∧ (shown before).getLast? = some size
  nothing_after : ∀ before a after, c = before ++ a :: after → a.isLast = true → after = []

theorem owed_of_isLast (hlast : c.getLast? = some a) (ha : a.isLast = true) : owed c = [] := by
  cases a with
  | read result =>
      cases result with
      | ok data =>
          have hempty : data.isEmpty = true := ha
          simp [owed, hlast, hempty, Act.brought?]
      | error f => simp [owed, hlast, Act.brought?]
  | _ => simp [owed, hlast, Act.brought?]

theorem lawful_of_due (hc : Each Due c) (hlast : c.getLast? = some a) (ha : a.isLast = true) :
    Lawful c := by
  have hread : ∀ before result after, c = before ++ .read result :: after →
      Each Due (before ++ [.read result]) := by
    rintro before result after rfl
    rw [List.append_cons] at hc
    exact hc.front
  constructor
  case given_eq =>
    have hall := given_owed hc
    rwa [owed_of_isLast hlast ha, List.append_nil] at hall
  case given_of_read =>
    intro before result after hsplit
    obtain ⟨hfront, hdue⟩ := each_snoc.mp (hread before result after hsplit)
    have hall := given_owed hfront
    simpa [owed_of_due hdue, Act.given?] using hall
  case resize_iff =>
    rintro before size (_ | ⟨next, after⟩) rfl
    · obtain rfl : Act.poll (some size) = a := by simpa using hlast
      cases ha
    · rcases next_of_poll hc with ⟨hshown, f, rfl⟩ | ⟨hshown, result, rfl⟩
      · exact .inl ⟨hshown, f, after, rfl⟩
      · exact .inr ⟨hshown, result, after, rfl⟩
  case poll_of_resize =>
    intro before size f after hsplit
    exact (hc before _ after hsplit).1
  case shown_changes => exact isChain_shown hc
  case shown_of_read =>
    intro before result after hsplit
    exact Conduct.shown_of_read (hread before result after hsplit)
  case nothing_after =>
    rintro before a after rfl hstops
    exact nothing_after_last hc hstops

end Conduct

namespace Script

theorem not_isAbsorbed_of_escaped {a : Act} {f : Failure} (ha : a.verdict = .escaped f) :
    Pump.isAbsorbed f = false := by
  unfold Act.verdict at ha
  split at ha
  · split at ha
    · cases ha
    · rename_i hkept
      cases ha
      simpa using hkept
  · cases ha

theorem isIn_buffer_of_toBytes {item : Terminal.Item} {size : Int} {f : Failure}
    (hitem : item.toBytes size = .error f) : f.isIn .buffer = true := by
  cases item with
  | finish failure => cases hitem
  | chunk data =>
      simp only [Terminal.Item.toBytes] at hitem
      split at hitem <;> cases hitem
      rfl

/-- Whatever sizes, input, closings, cancellations and failures a script has for the pump,
the pump does what the law says, with the answers of the script, and its log is what
others see of that.  It comes to a stop, with its last act; it does nothing more after
that.  No failure of the socket, of the system or of a buffer escapes it, and a chunk too
long for the buffer is a failure of the buffer. -/
theorem conduct_of_script (s : Script) :
    s.conduct.Lawful ∧ s.conduct.Each s.Answers ∧
    s.run.log = s.conduct.filterMap Act.event? ∧
    (∃ a, s.conduct.getLast? = some a ∧ a.isLast = true ∧ s.run.verdict = a.verdict) ∧
    (∀ chunk, s.run.roundActs s.faults chunk = [] ∧ s.run.round s.faults chunk = s.run) ∧
    (∀ f, s.run.verdict = .escaped f →
      f.isIn .socket = false ∧ f.isIn .system = false ∧ f.isIn .buffer = false) ∧
    ∀ (item : Terminal.Item) (f : Failure), item.toBytes bufferSize = .error f →
      f.isIn .buffer = true := by
  obtain ⟨hdue, hanswered, hlog⟩ := (kept_conduct s).faithful
  have hover := (stopped_conduct s).over
  obtain ⟨a, hlast, ha, hverdict⟩ := stopped_conduct s
  refine ⟨Conduct.lawful_of_due hdue hlast ha, hanswered, hlog, ⟨a, hlast, ha, hverdict⟩,
    round_of_over hover s.faults, ?_, fun _ _ => isIn_buffer_of_toBytes⟩
  intro f hescaped
  have hkept := not_isAbsorbed_of_escaped (hverdict.symm.trans hescaped)
  simpa [Pump.isAbsorbed, and_assoc] using hkept

/-- A size that stays the same is sent once, and the write that fails is the last act. -/
example :
    let script : Script :=
      { faults := ⟨none, some ⟨1, .reported .socketClosed "gone"⟩⟩
        openChecks := none
        cancelled := false
        sizes := [some ⟨80, 24⟩]
        chunks := [⟨false, .ok [0x61]⟩, ⟨false, .ok [0x62]⟩, ⟨false, .ok [0x63]⟩] }
    script.run.log = [.resized ⟨80, 24⟩, .asked, .sent [0x61], .asked] ∧
      script.conduct.given = [[0x61], [0x62]] := by
  decide

end Script

end AttachGate.Exec
