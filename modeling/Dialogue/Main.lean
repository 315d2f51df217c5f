import Std.Async.DNS
import Std.Async.TCP
import Std.Async.Timer
import Std.Sync.CancellationToken
import Std.Sync.Mutex
import Std.Time.DateTime.Timestamp
import Dialogue.Http.Download
import Dialogue.Ids.Random
import Dialogue.Terminal.Run

/-!
# The command line

The program on real files, terminals and connections. A session is shared between
the lines that are typed and the streams it opened, one task for each; whoever
changes it does to the outside what it asks for, before anybody else may change it.

Connections are plain: a server that wants them encrypted counts as one that
cannot be reached.
-/

namespace Dialogue.Terminal

open Std.Async
open Dialogue.Http

/-! ## The outside -/

/-- Milliseconds since the epoch. -/
def currentTime : IO Nat := do
  let now ← Std.Time.Timestamp.now
  return now.toMillisecondsSinceUnixEpoch.toInt.toNat

/-- A supply of identifiers that nobody else has. -/
def freshIds : IO Ids := do
  let octets ← IO.getRandomBytes 16
  return .fromSeed (octets.data.foldl (fun n b => n * 256 + b.toNat) 0)

/-- Write what is to be written. -/
def write : Output → IO Unit
  | .out text => do
    let stream ← IO.getStdout
    stream.putStr text
    stream.flush
  | .err text => IO.eprint text

/-! ## Connections -/

/-- A time as the timers want it. -/
def offset (milliseconds : Nat) : Std.Time.Millisecond.Offset :=
  .ofNat milliseconds

/-- The kind of address to look for. -/
def family : Host → Std.Net.AddressFamily
  | .pieces _ => .ipv6
  | _ => .ipv4

/-- The address to connect to for a request. -/
def resolve? (r : HttpRequest) : Async (Option Std.Net.SocketAddress) := do
  let some url := r.url? | return none
  if url.scheme ≠ "http" then return none
  let found ← DNS.getAddrInfo url.host.bareText (toString url.port) (some (family url.host))
  return found[0]?.map fun
    | .v4 addr => .v4 ⟨addr, url.port.toUInt16⟩
    | .v6 addr => .v6 ⟨addr, url.port.toUInt16⟩

/-- Connect and send a request, unless it takes longer than a time in milliseconds
    or is given up. -/
def send? (limit : Nat) (token : Std.CancellationToken) (r : HttpRequest) :
    Async (Option TCP.Socket.Client) := do
  let some address ← resolve? r | return none
  let socket ← TCP.Socket.Client.mk
  let connected : Async Bool := do
    socket.connect address
    return true
  let expired : Async Bool := do
    sleep (offset limit)
    return false
  let abandoned : Async Bool := do
    await (← token.wait)
    return false
  if ← Async.raceAll #[connected, expired, abandoned] then
    socket.send ⟨(octetsOf r).toArray⟩
    return some socket
  else
    return none

/-- The next packet of a connection, waiting for it no longer than a time in
    milliseconds; none if the connection is given up. -/
def receive? (socket : TCP.Socket.Client) (token : Std.CancellationToken) (limit : Option Nat) :
    Async (Option Packet) := do
  let before ← IO.monoMsNow
  let arriving : Selectable (Option Packet) :=
    .case (socket.recvSelector 65536) fun
      | some bytes => return some (.octets bytes.data.toList)
      | none => return some .closed
  let abandoned : Selectable (Option Packet) := .case token.selector fun _ => return none
  match limit with
  | none => Selectable.one #[abandoned, arriving]
  | some time =>
    let timer ← Selector.sleep (offset (time + 1))
    let waiting : Selectable (Option Packet) :=
      .case timer fun _ => return some (.pause ((← IO.monoMsNow) - before))
    Selectable.one #[abandoned, arriving, waiting]

/-- Read an answer to its end. -/
partial def readAnswer (socket : TCP.Socket.Client) (token : Std.CancellationToken)
    (address : String) (reading : Reading) (body : List UInt8) : Async Answer := do
  match ← receive? socket token none with
  | some (.octets bs) =>
    let (reading, more) := reading.feed bs
    if reading.isOver then return .ofReading address reading (body ++ more)
    else readAnswer socket token address reading (body ++ more)
  | _ => return .ofReading address reading body

/-- What comes back for a request. -/
def ask (c : Config) (token : Std.CancellationToken) (r : HttpRequest) : IO Answer := do
  match r.obstacle? with
  | some o => return .unsendable o
  | none =>
    try
      Async.block do
        match ← send? (c.connectTimeout.val * 1000) token r with
        | some socket => readAnswer socket token r.address (.head []) []
        | none => return .unreachable r.address
    catch _ => return .unreachable r.address

/-! ## The session -/

/-- An exchange with the server: a stream, or the request to stop a run. -/
structure Job where
  /-- The generation of a stream, and zero otherwise. -/
  generation : Nat
  /-- What gives it up. -/
  token : Std.CancellationToken
  task : Task (Except IO.Error Unit)

/-- Begin an exchange. -/
def Job.begin (generation : Nat) (work : Std.CancellationToken → IO Unit) : IO Job := do
  let token ← Std.CancellationToken.new
  return ⟨generation, token, ← IO.asTask (work token) .dedicated⟩

/-- Wait for an exchange to end by itself, up to so many hundredths of a second. -/
def Job.waitFor (job : Job) : Nat → IO Unit
  | 0 => return
  | n + 1 => do
    if !(← IO.hasFinished job.task) then
      IO.sleep 10
      job.waitFor n

/-- Give an exchange up. -/
def Job.giveUp (job : Job) : IO Unit := do
  job.token.cancel
  discard <| IO.wait job.task

/-- What the typed lines and the streams share. -/
structure Shell where
  service : Service
  renderer : Renderer := {}
  /-- The exchanges that may still go on. -/
  jobs : List Job := []

/-- Keep an exchange, and forget those that have ended. -/
def Shell.keep (shell : Shell) (job : Job) : IO Shell := do
  let going ← shell.jobs.filterM fun j => return !(← IO.hasFinished j.task)
  return { shell with jobs := job :: going }

/-- A running program. -/
structure App where
  config : Config
  shell : Std.Mutex Shell

namespace App

mutual

/-- Read the stream of a turn to its end, handing on its events. -/
partial def pump (app : App) (generation : Nat) (socket : TCP.Socket.Client)
    (token : Std.CancellationToken) (address : String) (d : Download) : Async Unit := do
  let idle := app.config.idleTimeout.val * 1000
  let before ← IO.monoMsNow
  let some packet ← receive? socket token (d.patience? idle) | return
  let elapsed := (← IO.monoMsNow) - before
  let (sent, next) :=
    match packet with
    | .octets _ =>
      match d.step idle address (.pause elapsed) with
      | (sent, none) => (sent, none)
      | (_, some d) => d.step idle address packet
    | _ => d.step idle address packet
  app.deliver generation sent
  match next with
  | some d => pump app generation socket token address d
  | none => return

/-- Open the stream of a turn and read it to its end. -/
partial def follow (app : App) (generation : Nat) (token : Std.CancellationToken)
    (r : HttpRequest) : IO Unit := do
  let fail (a : Answer) : IO Unit := app.deliver generation (a.events 0)
  match r.obstacle? with
  | some o => fail (.unsendable o)
  | none =>
    try
      Async.block do
        match ← send? (app.config.connectTimeout.val * 1000) token r with
        | some socket => app.pump generation socket token r.address {}
        | none => fail (.unreachable r.address)
    catch _ => fail (.unreachable r.address)

/-- Do to the outside what the session asks for. -/
partial def act (app : App) (shell : Shell) : Effect → IO Shell
  | .told update => do
    let (text, renderer) := shell.renderer.render update
    write (.out text)
    return { shell with renderer }
  | .opened generation request => do
    let r := HttpRequest.ofTurn app.config request
    shell.keep (← Job.begin generation fun token => app.follow generation token r)
  | .cancelled generation => do
    for job in shell.jobs.filter fun job => job.generation == generation do
      job.token.cancel
    return shell
  | .stopRequested conversationId runId => do
    let r := HttpRequest.ofStop app.config conversationId runId
    shell.keep (← Job.begin 0 fun token => discard <| ask app.config token r)

/-- Change the session at this time, write what is to be written, and do what it
    asks for. -/
partial def change {α : Type} (app : App) (f : Service → List Output × α × Service) : IO α :=
  app.shell.atomically do
    let now ← currentTime
    let shell ← get
    let session := shell.service.session
    let service := { shell.service with session := session.elapse (now - session.now) }
    let (outputs, result, service) := f service
    let (effects, session) := service.session.collect
    let shell := { shell with service := { service with session } }
    let next : IO Shell := do
      outputs.forM write
      effects.foldlM app.act shell
    set (← next)
    return result

/-- Hand on events of a stream. -/
partial def deliver (app : App) (generation : Nat) (events : List TurnEvent) : IO Unit :=
  app.change fun service =>
    ([], (), events.foldl (fun service e => service.deliver ⟨generation, e⟩) service)

end

/-- Load the conversation from the server. -/
def resume (app : App) (conversationId : String) : IO Unit := do
  let token ← Std.CancellationToken.new
  let answer ← ask app.config token (.ofConversation app.config conversationId)
  app.change fun service =>
    let (taken, service) := service.hydrate (answer.conversation conversationId)
    let (_, session) := service.session.collect
    ([resumed conversationId session.snapshot.messages taken], (), { service with session })

/-- Take lines until the input or the session ends. -/
partial def takeLines (app : App) (input : IO.FS.Stream) : IO Unit := do
  let text ← input.getLine
  if text.isEmpty then return
  let goesOn ← (linesOf text).allM fun line =>
    app.change fun service =>
      match takeLine service line with
      | (outputs, some service) => (outputs, true, service)
      | (outputs, none) => (outputs, false, service)
  if goesOn then app.takeLines input

/-- End the session, which gives up its stream, and give the request to stop its run
    a second to get through. -/
def close (app : App) : IO Unit := do
  app.change fun service => ([], (), (service.perform .shutdown).2)
  let shell ← app.shell.atomically get
  shell.jobs.forM fun job => job.waitFor 100
  shell.jobs.forM Job.giveUp

end App

/-! ## Beginning -/

/-- The folder of configurations below the home folder. -/
def homeFolder? : IO (Option String) := do
  return (← IO.getEnv "HOME").map (· ++ "/.config")

/-- The folder of configurations: the one that is named, if its path is absolute, or
    the one below the home folder. -/
def configFolder? : IO (Option String) := do
  match ← IO.getEnv "XDG_CONFIG_HOME" with
  | some folder => if folder.startsWith "/" then return some folder else homeFolder?
  | none => homeFolder?

/-- Where the configuration is looked for if no file is named. -/
def usualPath? : IO (Option String) := do
  return (← configFolder?).map (· ++ "/turnwise/config.toml")

/-- The reason why a file cannot be read. -/
def reason : IO.Error → String
  | .noFileOrDirectory .. => "No such file or directory (os error 2)"
  | .permissionDenied .. => "Permission denied (os error 13)"
  | .inappropriateType .. => "Is a directory (os error 21)"
  | e => toString e

/-- What is found at a path. -/
def readSource (path : String) : IO Config.Source := do
  try
    return .file path (← IO.FS.readBinFile path).data.toList
  catch e =>
    return .unreadable path (reason e)

/-- What is found at a path where there need not be anything. -/
def readUsual (path : String) : IO Config.Source := do
  try
    return .file path (← IO.FS.readBinFile path).data.toList
  catch
    | .noFileOrDirectory .. => return .absent
    | e => return .unreadable path (reason e)

/-- The configuration's file: the one that is named, or the one at the usual place if
    there is one. -/
def findSource : Option String → IO Config.Source
  | some path => readSource path
  | none => do
    match ← usualPath? with
    | some path => readUsual path
    | none => return .absent

/-- What the program says to arguments it cannot read. -/
def refusal : String :=
  "usage: turnwise [--config PATH] [--server URL] [--conversation ID] " ++
    "[--log-level LEVEL] [--debug]"

/-- What the program says of a file that is no configuration. -/
def notConfiguration : String :=
  "the file is no TOML document, or a setting in it has the wrong type"

/-- The variables of the environment that settings come from. -/
def environment : IO (String → Option String) := do
  let names := [Config.serverVariable, Config.tokenVariable, LogLevel.environmentName]
  let found ← names.mapM fun name => do return (name, ← IO.getEnv name)
  return fun name => (found.lookup name).join

/-- A session on the terminal, until its input ends; the exit code. -/
def hold (a : Arguments) : IO Nat := do
  let source ← findSource a.config
  let opening := prepare notConfiguration a source (← environment) 0 (← freshIds) ()
  opening.warnings.forM write
  match opening.client with
  | .error f =>
    write (.err f.text)
    return failureCode
  | .ok c =>
    let app : App := ⟨c.config, ← Std.Mutex.new { service := c.service }⟩
    if a.conversation.isSome then app.resume opening.conversationId
    write (greeting opening.conversationId)
    app.takeLines (← IO.getStdin)
    app.close
    return 0

/-- Do what the arguments ask for; the exit code. -/
def invoke (words : List String) : IO Nat := do
  match Invocation.parse? words with
  | none =>
    IO.eprintln refusal
    return usageCode
  | some .help =>
    write (.out Invocation.manual)
    return 0
  | some .version =>
    write (.out Invocation.versionLine)
    return 0
  | some (.session a) => hold a

end Dialogue.Terminal

/-- The program. -/
def main (words : List String) : IO UInt32 := do
  return (← Dialogue.Terminal.invoke words).toUInt32
