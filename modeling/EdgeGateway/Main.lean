import EdgeGateway.Gateway.Exchange
import EdgeGateway.Launch
import EdgeGateway.Route.Announcement
import Std.Async

/-!
# The command

The gateway as a program: it reads its environment and its files, listens on its
address, and puts the bytes that come in and go out, the clock and chance at the
disposal of the service.  What is done with them is decided elsewhere.
-/

namespace EdgeGateway.Command

open Std.Async (Async background sleep)
open Std.Async.TCP (Socket.Client Socket.Server)
open Observe (Counter LogRecord)

structure Logger where
  filter : Observe.LogFilter
  format : Config.LogFormat

def timestamp : IO Timestamp := do
  let nanos := (← Std.Time.Timestamp.now).toNanosecondsSinceUnixEpoch.val
  return ⟨nanos / 1000000000, (nanos % 1000000000).toNat⟩

def Logger.log (logger : Logger) (record : LogRecord) : IO Unit := do
  if logger.filter.allows record then
    let time := (← timestamp).write
    IO.println <| match logger.format with
      | .json => (record.toJson.withMember "timestamp" (.string time)).write
      | .pretty => time ++ " " ++ record.line "ThreadId"

/-- A gateway that serves. -/
structure Running where
  service : Gateway.Service
  logger : Logger
  state : IO.Ref Gateway.ServiceState
  totals : IO.Ref (List (String × Nat))
  started : Nat

namespace Running

/-- Changes the state in one step, at the time of the clock; the listener of the
refresh signals runs after it. -/
def update (running : Running)
    (change : Gateway.ServiceState →
      α × Gateway.ServiceState × List Counter) : IO α := do
  let nanos ← IO.monoNanosNow
  let (answer, counted) ← running.state.modifyGet fun state =>
    let (answer, state, counted) := change (state.atTime ⟨nanos - running.started⟩)
    let (state, more) := state.listen
    ((answer, counted ++ more), state)
  running.totals.modify fun totals =>
    counted.foldl (fun totals counter => Observe.addTotal counter.name totals) totals
  return answer

end Running

/-! ## Connections -/

/-- Receives until all is there that is waited for. -/
partial def receive (socket : Socket.Client)
    (read? : Bool → ByteArray → Option α) (bytes : ByteArray) : Async (Option α) := do
  match read? false bytes with
  | some value => return some value
  | none =>
      match ← socket.recv? 65536 with
      | some more => receive socket read? (bytes ++ more)
      | none => return read? true bytes

def connect (host : String) (number : Nat) : Async Socket.Client := do
  let name := (host.replace "[" "").replace "]" ""
  let socket ← Socket.Client.mk
  let addresses : Array Std.Net.IPAddr ← Std.Async.DNS.getAddrInfo name ""
  match addresses.toList with
  | .v4 address :: _ => socket.connect (.v4 ⟨address, number.toUInt16⟩)
  | .v6 address :: _ => socket.connect (.v6 ⟨address, number.toUInt16⟩)
  | [] => throw (IO.userError "the host has no address")
  return socket

/-- Sends a request to its backend and waits for the reply. -/
def exchange (request : Gateway.ForwardRequest) (body : ByteArray) :
    Async Gateway.Reply := do
  match Gateway.Backend.ofUrl request.url with
  | .error reason => return .failed reason
  | .ok backend =>
      try
        let socket ← connect backend.host backend.number
        socket.send (Gateway.requestMessage backend request body)
        let reply ← receive socket (Gateway.Reply.read? request.method) .empty
        return reply.getD (.failed "the connection was closed")
      catch error => return .failed error.toString

/-- Waits until a client has left. -/
partial def waitForLeave (socket : Socket.Client) : Async Unit := do
  match ← socket.recv? 4096 with
  | some _ => waitForLeave socket
  | none => return ()

instance : Inhabited Gateway.Reply := ⟨.timedOut⟩

/-- The reply of the backend, or nothing if the client leaves first. -/
def awaitReply (running : Running) (socket : Socket.Client)
    (pending : Gateway.Pending) : Async (Option Gateway.Reply) :=
  let timeout : Async Gateway.Reply := do
    sleep (.ofNat running.service.backendTimeout.millis)
    return .timedOut
  Async.race (some <$> Async.race (exchange pending.outbound pending.body) timeout)
    (try waitForLeave socket; return none catch _ => return none)

def surroundings : IO Gateway.Surroundings := do
  let bytes := (← IO.getRandomBytes 24).toList.map UInt8.toNat
  let number := (bytes.drop 16).foldl (256 * · + ·) 0
  return {
    freshId := Http.idOfBytes (bytes.take 16)
    time := (← timestamp).write
    rollBelow := (number % ·) }

/-- Takes in the request of a connection and begins to serve it. -/
def take (running : Running) (inbound : Gateway.Inbound) :
    IO (Option Gateway.Begun) := do
  let surroundings ← surroundings
  running.update fun state =>
    match running.service.begin surroundings inbound state with
    | .error _ => (none, state, [])
    | .ok (.answered served) =>
        (some (.answered served), served.state, served.counted)
    | .ok (.waiting pending state counted) =>
        (some (.waiting pending state []), state, counted)

def respond (running : Running) (socket : Socket.Client) (method : String)
    (response : Http.Response) : Async Unit := do
  socket.send (Gateway.responseMessage (← running.totals.get) method response)
  socket.shutdown

def serveConnection (running : Running) (socket : Socket.Client) : Async Unit := do
  try
    let some inbound ← receive socket Gateway.Inbound.read? .empty | return ()
    match ← take running inbound with
    | none => return ()
    | some (.answered served) => respond running socket inbound.method served.response
    | some (.waiting pending ..) =>
        match ← awaitReply running socket pending with
        | some reply =>
            let response ← running.update fun state =>
              let served := running.service.finish pending reply state
              (served.response, served.state, served.counted)
            respond running socket inbound.method response
        | none =>
            running.update fun state =>
              let (state, counted) := running.service.giveUp state
              ((), state, counted)
  catch _ => return ()

partial def acceptConnections (running : Running) (server : Socket.Server) :
    Async Unit := do
  let socket ← server.accept
  background (serveConnection running socket)
  acceptConnections running server

/-! ## Tasks -/

/-- Drops what has expired, again and again. -/
partial def sweep (running : Running) (every : Duration) : Async Unit := do
  running.update fun state => ((), state.sweep, [])
  sleep (.ofNat every.millis)
  sweep running every

/-- Passes on every announcement that comes in. -/
partial def passOn (running : Running) (topic : String) (socket : Socket.Client)
    (bytes : ByteArray) : Async Unit := do
  match Route.Announcement.read? bytes (bytes.size + 1) 0 with
  | some (announcement, next) =>
      if announcement.isMessage then
        running.update fun state =>
          let (_, channel) := state.channel.notify (Route.Bridge.sender topic)
          ((), { state with channel := channel }, [])
      passOn running topic socket (bytes.extract next bytes.size)
  | none =>
      match ← socket.recv? 4096 with
      | some more => passOn running topic socket (bytes ++ more)
      | none => return ()

/-- Listens to announcements, and begins anew whenever that ends. -/
partial def bridge (running : Running) (config : Config.Refresh) (url : String) :
    Async Unit := do
  try
    let announcer ← IO.ofExcept (Route.Announcer.ofUrl url config.channel)
    let socket ← connect announcer.host announcer.number
    for command in announcer.commands do
      socket.send (Route.commandText command).toUTF8
    passOn running config.channel socket .empty
  catch _ => pure ()
  sleep (.ofNat config.reconnectDelay.millis)
  bridge running config url

/-! ## Start and end -/

def waitForSignal : Async Launch.Signal := do
  let interrupt ← Std.Async.Signal.Waiter.mk .sigint false
  let terminate ← Std.Async.Signal.Waiter.mk .sigterm false
  Std.Async.Selectable.one #[
    .case interrupt.selector fun _ => return Launch.Signal.interrupt,
    .case terminate.selector fun _ => return Launch.Signal.terminate]

def readEnvironment : IO Config.Environment := do
  let names := ["CONTROL_PLANE_CONFIG", "RUST_LOG"] ++ Config.overrideNames
  let entries ← names.filterMapM fun name => do
    return (← IO.getEnv name).map fun value => (name, value)
  return ⟨entries⟩

/-- What lies under a path, if anything. -/
def readContent (path : String) : IO (List (String × Except String String)) := do
  try
    return [(path, .ok (← IO.FS.readFile path))]
  catch
    | .noFileOrDirectory .. => return []
    | error => return [(path, .error error.toString)]

def socketAddress (address : Net.SocketAddress) : Std.Net.SocketAddress :=
  let word (values : List Nat) (index : Nat) : Nat := values.getD index 0
  match address.address with
  | .four octets =>
      .v4 ⟨⟨Vector.ofFn fun index => (word octets index).toUInt8⟩,
        address.number.toUInt16⟩
  | .six groups =>
      .v6 ⟨⟨Vector.ofFn fun index => (word groups index).toUInt16⟩,
        address.number.toUInt16⟩

/-- Binds the address of a gateway, or says why it cannot. -/
def bind (address : Net.SocketAddress) : IO (Except String Socket.Server) := do
  try
    let server ← Socket.Server.mk
    server.bind (socketAddress address)
    server.listen 1024
    return .ok server
  catch error => return .error error.toString

/-- Serves on a bound address until a signal comes. -/
def serve (logger : Logger) (config : Config.Gateway) (prepared : Launch.Prepared)
    (server : Socket.Server) : IO Unit := do
  let running : Running := {
    service := prepared.service
    logger := logger
    state := ← IO.mkRef prepared.state
    totals := ← IO.mkRef (Observe.totals prepared.counted)
    started := ← IO.monoNanosNow }
  logger.log (Launch.listeningRecord prepared.address)
  let signal ← Async.block do
    background (sweep running config.cors.sweepInterval)
    background (sweep running config.versioning.sweepInterval)
    if let some url := config.refresh.redisUrl then
      background (bridge running config.refresh url)
    background (acceptConnections running server)
    waitForSignal
  (Launch.stoppingRecords signal).forM logger.log

/-- Prepares the gateway and serves. -/
def launch (logger : Logger) (host : Launch.Host) (config : Config.Gateway) :
    IO (Option Launch.Failure) := do
  let prepared := Launch.prepare host config
  prepared.log.forM logger.log
  match prepared.result with
  | .error failure => return some failure
  | .ok prepared =>
      match ← bind prepared.address with
      | .error reason =>
          return some ⟨(Launch.bindError prepared.address reason).explain, none⟩
      | .ok server =>
          serve logger config prepared server
          return none

/-- The exit code of a program that has ended, and its last words. -/
def exitCode (failure : Option Launch.Failure) : IO UInt32 := do
  match failure with
  | some failure =>
      IO.eprintln failure.report.full
      return 1
  | none => return 0

def run : IO UInt32 := do
  let environment ← readEnvironment
  let files ← readContent (Launch.configPath environment)
  match Launch.loadConfig ⟨environment, files⟩ with
  | .error failure => exitCode (some failure)
  | .ok config =>
      let seed ← match config.store.seedFile with
        | some path => readContent path
        | none => pure []
      let logger : Logger :=
        ⟨Launch.logFilter environment config.observability, config.observability.logFormat⟩
      (Launch.startRecords config.observability).forM logger.log
      let failure ← launch logger ⟨environment, files ++ seed⟩ config
      logger.log (Launch.endRecord failure)
      exitCode failure

end EdgeGateway.Command

def main : IO UInt32 := EdgeGateway.Command.run
