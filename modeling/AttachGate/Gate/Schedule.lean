import AttachGate.Gate.Client

/-!
# Schedules of the gate

The sessions, the handlers, the readers and the clients of a gate can take their
transitions in any order.  The schedule here fixes one: workers and runners
first, then readers, commands that can start and clients that want no more, then
handlers, and last whoever waits for a session, so that nobody gives up while
anything else can go on.
-/

namespace AttachGate.Gate

inductive Turn
  /-- The worker or a runner of a session. -/
  | session (k : Nat) (turn : Session.Turn)
  | reader (i : Nat)
  /-- A command that can start. -/
  | command
  /-- A client that wants no more. -/
  | client (i : Nat)
  | handler (i : Nat)
  /-- Whoever waits for a session. -/
  | caller (k caller : Nat)
  deriving DecidableEq

/-- Sessions go on by themselves; only watches wait. -/
def pace : Session.Pace := { remote := true, notices := true }

/-- The first index below a bound at which something is found. -/
def firstBelow {α : Type} (n : Nat) (find : Nat → Option α) : Option α :=
  (List.range n).findSome? find

def sessionTurn? (g : Gate) : Option Turn :=
  firstBelow g.sessions.length fun k =>
    ((g.sessions[k]?).bind fun s => s.turn? pace g.cluster).map (.session k)

/-- The receive loop of a stream with its next transition. -/
def Stream.listen? (s : Stream) : Option Stream :=
  match s.attachment with
  | some a =>
    (a.reader.step s.inbox).map fun (reader, inbox) =>
      { s with attachment := some { a with reader }, inbox }
  | none => none

def readerTurn? (g : Gate) : Option Turn :=
  firstBelow g.streams.length fun i =>
    ((g.streams[i]?).bind Stream.listen?).map fun _ => .reader i

def commandTurn? (g : Gate) : Option Turn :=
  if !g.queue.isEmpty && (g.streams.filter Stream.isRunning).length < g.maxStreams then
    some .command
  else none

/-- Whether the client of a stream has taken all that it wants. -/
def Stream.isSated (s : Stream) : Bool :=
  match s.stage, s.limit with
  | .serving _ _, some limit => !s.passed.isEmpty && limit ≤ s.passed.length
  | _, _ => false

/-- The client that closes its stream. -/
def clientTurn? (g : Gate) : Option Turn :=
  firstBelow g.streams.length fun i =>
    if (g.streams[i]?).any Stream.isSated then some (.client i) else none

/-- Whether the handler of a stream can go on. -/
def canHandle (g : Gate) (s : Stream) : Bool :=
  match s.stage with
  | .awaiting => !s.inbox.isEmpty
  | .admitted _ | .known _ _ | .concluding _ | .leaving _ _ => true
  | .opening _ k caller | .closing k caller _ => (g.outcome? k caller).isSome
  | .serving _ .taking => s.attachment.any fun a => a.outlet.slot.isSome || a.isDone
  | .serving _ _ => true
  | .ended _ => false

def handlerTurn? (g : Gate) : Option Turn :=
  firstBelow g.streams.length fun i =>
    if (g.streams[i]?).any g.canHandle then some (.handler i) else none

/-- Whoever waits for a session and can go on. -/
def callerTurn? (g : Gate) : Option Turn :=
  firstBelow g.sessions.length fun k =>
    (g.sessions[k]?).bind fun s =>
      firstBelow s.callers.length fun caller =>
        if (s.callers[caller]?).any (Session.Caller.isReady s.outcome? g.clock) then
          some (.caller k caller)
        else none

/-- Whose turn it is, if anybody's. -/
def turn? (g : Gate) : Option Turn :=
  g.sessionTurn? <|> g.readerTurn? <|> g.commandTurn? <|> g.clientTurn? <|> g.handlerTurn? <|>
    g.callerTurn?

def takeTurn (g : Gate) : Turn → Gate
  | .session k turn =>
    match g.sessions[k]? with
    | some s =>
      let (s, cluster) := s.takeTurn g.cluster turn
      { g with sessions := g.sessions.set k s, cluster }
    | none => g
  | .reader i => g.onStream i fun s => s.listen?.getD s
  | .command => g.launch
  | .client i => g.onStream i Stream.close
  | .handler i => g.handle i
  | .caller k caller =>
    { g with sessions := g.sessions.modify k fun s => s.attend caller g.clock }

/-- More turns than there can be.  Each stream still calls a session at most
twice, and each message to a session and each of its intents takes a bounded
number of turns, as does each message of a client. -/
def turnBound (g : Gate) : Nat :=
  let calls := 2 * g.streams.length
  let sessionTurns := (g.sessions.map fun s =>
    let k := s.coordinator.intents.length + s.mailbox.length + calls + 1
    let a := s.plan.delays.length + 2
    2 * k * (16 * a + k * a) + s.callers.length + calls).foldl (· + ·) 0
  let newSessionTurns := g.streams.length * (2 * (calls + 1) * (96 + (calls + 1) * 6) + calls)
  let streamTurns := (g.streams.map fun s => 8 * s.inbox.length + 32).foldl (· + ·) 0
  sessionTurns + newSessionTurns + streamTurns

def iterate : Nat → Gate → Gate
  | 0, g => g
  | n + 1, g =>
    match g.turn? with
    | some turn => iterate n (g.takeTurn turn)
    | none => g

/-- Lets everybody go on until nothing is left to do. -/
def settle (g : Gate) : Gate := iterate g.turnBound g

def pass (g : Gate) (seconds : Number) : Gate :=
  { g with clock := (g.clock.add seconds).toOption.getD g.clock }

end AttachGate.Gate
