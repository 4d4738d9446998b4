import AttachGate.Settings
import AttachGate.Tool.Exchange
import AttachGate.Exec.Relay

/-!
# The server

Setting up the server and running it until a signal.  What the server does is
kept as a list of actions; what it listens on answers with a port or a failure.
-/

namespace AttachGate.Server

inductive Action
  /-- A server with so many workers and so many streams at once. -/
  | create (workers streams : Int)
  /-- So many services are registered. -/
  | register (services : Nat)
  | bind (address : Text)
  | start
  /-- Streams under way get so many seconds to end. -/
  | stop (grace : Nat)
  | stopped
  deriving DecidableEq

/-- Seconds that streams get to end when the server stops. -/
def grace : Nat := 5

/-- The signals that stop the server. -/
def signals : List Nat := [2, 15]

/-- A server that is set up. -/
structure Ready where
  port : Int
  /-- Seconds to wait for an app, if that is limited. -/
  openTimeout : Option Number
  maxStreams : Int
  tool : Tool.Settings
  execContext : Option Text
  container : Text

/-- How the cluster tool is run under some settings. -/
def toolSettings (s : Settings) : Tool.Settings :=
  .make s.context (some s.watchInterval) (some s.toolTimeout)

/-- Sets a server up.  `listen` is what listening on the address answers. -/
def create (s : Settings) (listen : Except Failure Int) : Except Failure Ready × List Action :=
  if s.maxWorkers ≤ 0 then (.error .emptyPool, [])
  else
    let log := [.create s.maxWorkers s.maxWorkers, .register 1, .bind s.address]
    match listen with
    | .error f =>
      (.error (if f.isIn .runtime then .cannotListen s.address f else f), log)
    | .ok port =>
      if port = 0 then (.error (.noPort s.address), log)
      else
        (.ok
          { port
            openTimeout := if s.openTimeout.isZero then none else some s.openTimeout
            maxStreams := s.maxWorkers
            tool := toolSettings s
            execContext := s.context
            container := Exec.defaultContainer },
          log)

structure Run where
  result : Except Failure Unit
  log : List Action
  exchange : Tool.Exchange
  handlers : List Nat

/-- Runs the server until a signal, after creating the namespace it wants. -/
def serve (s : Settings) (listen : Except Failure Int) (exchange : Tool.Exchange) : Run :=
  let prepare : Tool.Query Unit :=
    match s.namespaceName with
    | some name =>
      if name.isEmpty then pure () else Tool.Query.ensureNamespace (toolSettings s) name
    | none => pure ()
  match prepare.run.run exchange with
  | (.error f, exchange) => { result := .error f, log := [], exchange, handlers := [] }
  | (.ok (), exchange) =>
    match create s listen with
    | (.error f, log) => { result := .error f, log, exchange, handlers := [] }
    | (.ok _, log) =>
      { result := .ok ()
        log := log ++ [.start, .stop grace, .stopped]
        exchange
        handlers := signals }

end AttachGate.Server
