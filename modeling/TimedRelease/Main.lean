import Std.Async.DNS
import Std.Async.TCP
import Std.Time.DateTime.Timestamp
import TimedRelease.Command.Action
import TimedRelease.Command.Line
import TimedRelease.Config.Reader
import TimedRelease.Http.Message

/-!
# The program

Reads the command line and the configuration, and runs the command on the real
clock, terminal and network.
-/

namespace TimedRelease.Main

open Std.Async (Async)

/-! ## The world -/

/-- The seconds since 1970. -/
def clock : IO UInt64 := do
  let now ← Std.Time.Timestamp.now
  return UInt64.ofNat now.toSecondsSinceUnixEpoch.val.toNat

/-- Receives bytes until the connection ends. -/
partial def receiveAll (client : Std.Async.TCP.Socket.Client) (received : ByteArray) :
    Async ByteArray := do
  match ← client.recv? 65536 with
  | some bytes => receiveAll client (received ++ bytes)
  | none => return received

/-- The address of a port. -/
def socketAddress (address : Std.Net.IPAddr) (port : UInt16) : Std.Net.SocketAddress :=
  match address with
  | .v4 four => .v4 ⟨four, port⟩
  | .v6 six => .v6 ⟨six, port⟩

/-- Sends bytes to the first of some addresses, and receives what comes back. -/
def exchange (target : Http.Target) (message : ByteArray) : Async ByteArray := do
  let addresses ← Std.Async.DNS.getAddrInfo target.lookupName ""
  match addresses[0]? with
  | none => throw (IO.userError "no address found")
  | some address =>
    let client ← Std.Async.TCP.Socket.Client.mk
    client.connect (socketAddress address target.port)
    client.send message
    receiveAll client ByteArray.empty

/-- Posts over plain HTTP. -/
def reply (post : Http.Post) : IO Http.Reply := do
  match Http.Target.ofUrl? post.url with
  | none => return .unreachable ("error sending request for url (" ++ post.url ++ ")")
  | some target =>
    try
      let bytes ← (exchange target (post.message target).toUTF8).block
      return .ofBytes bytes.toList
    catch error =>
      return .unreachable
        ("error sending request for url (" ++ post.url ++ "): " ++ toString error)

/-- Does what a program asks of the world. -/
def act : (action : Action) → IO action.Answer
  | .clock => clock
  | .print line => IO.println line
  | .warn line => IO.eprintln line
  | .post post => reply post

/-- Does what posts ask of the world. -/
def posted {α : Type} (acting : Acting α) : IO α :=
  acting.answeredBy act

/-! ## Watching -/

/-- A poller on the real clock, and when it polls next. -/
structure LivePoller where
  period : Nat
  due : Nat
  poller : Poller

/-- A poller that polls at once. -/
def LivePoller.start (period now : Nat) : LivePoller :=
  ⟨period, now, .start .resolution⟩

/-- Polls if it is time to, and gives the news there is. -/
def LivePoller.poll {α : Type} (live : LivePoller) (services : Services) (now : Nat)
    (ask : Services → Acting (Except AccountError α × Services)) (write : α → Json.Value) :
    IO (LivePoller × Services × Option α) := do
  if now < live.due then return (live, services, none)
  let (answer, services) ← posted (ask services)
  let number := live.poller.issued
  let issued := (live.poller.step (PollEvent.tick : PollEvent α)).1
  let result := match answer with
    | .ok value => PollResult.resolved value (some (write value).text)
    | .error _ => .failed
  let (poller, news) := issued.step (.resolve number result false)
  let due := live.due + ((now - live.due) / live.period + 1) * live.period
  return ({ live with due, poller }, services, news)

/-- The session and its pollers while the wallet is followed. -/
structure Watch where
  session : Session
  services : Services
  accounts : LivePoller
  gasPrice : LivePoller
  chainHead : LivePoller

/-- Prints news of the wallet and takes it over. -/
def Watch.take (state : Watch) (news : Option WalletUpdate) : IO Watch := do
  match news with
  | none => return state
  | some update =>
    let (session, line) := state.session.follow update
    IO.println line
    (← IO.getStdout).flush
    return { state with session }

/-- Follows the wallet until the program is stopped. -/
partial def Watch.loop (state : Watch) : IO Unit := do
  let now ← IO.monoMsNow
  let (accounts, services, news) ← state.accounts.poll state.services now
    (·.askAccount NodeAccount.accounts) WalletSource.writeAccounts
  let state ← { state with accounts, services }.take (news.map .accounts)
  let (gasPrice, services, news) ← state.gasPrice.poll state.services now
    (·.askAccount NodeAccount.gasPrice) WalletSource.writePrice
  let state ← { state with gasPrice, services }.take (news.map .gasPrice)
  let (chainHead, services, news) ← state.chainHead.poll state.services now
    (·.askAccount NodeAccount.blockNumber) WalletSource.writeBlock
  let state ← { state with chainHead, services }.take (news.map .chainHead)
  let due := min state.accounts.due (min state.gasPrice.due state.chainHead.due)
  IO.sleep (UInt32.ofNat (due - (← IO.monoMsNow)))
  state.loop

/-- Follows the wallet from a session on. -/
def watch (context : Context) (services : Services) (session : Session) : IO Unit := do
  let now ← IO.monoMsNow
  let periods := context.config.polling.periods
  Watch.loop
    { session
      services
      accounts := .start periods.accounts now
      gasPrice := .start periods.gasPrice now
      chainHead := .start periods.chainHead now }

/-! ## The command line -/

/-- The file the configuration is read from unless another is named. -/
def defaultConfig : String := "config.toml"

/-- The options in front of the command, which name a file and a level of logging. -/
def splitOptions (config : String) : List String → String × List String
  | option :: value :: rest =>
    if option = "--config" || option = "-c" then splitOptions value rest
    else if option = "--log-level" || option = "-l" then splitOptions config rest
    else (config, option :: value :: rest)
  | words => (config, words)

/-- The configuration in a file. -/
def readConfig (path : String) : IO (Except ConfigError Config) := do
  try
    let text ← IO.FS.readFile path
    let values ← (Config.variableNames text).mapM fun name => do
      return (name, ← IO.getEnv name)
    return Config.ofText (fun name => (values.lookup name).join) text
  catch error =>
    match error with
    | .noFileOrDirectory .. =>
      return .error (.unreadable path "No such file or directory (os error 2)")
    | other => return .error (.unreadable path (toString other))

/-- Reports an error. -/
def fail (message : String) : IO UInt32 := do
  IO.eprintln ("Error: " ++ message)
  return 1

/-- Runs a command with the configuration in a file. -/
def runCommand (path : String) (command : Command) : IO UInt32 := do
  match ← readConfig path with
  | .error error => fail error.message
  | .ok config =>
    match Context.ofConfig config with
    | .error error => fail error.message
    | .ok context =>
      match ← posted (context.perform command) with
      | (.error error, _) => fail error.message
      | (.ok .done, _) => return 0
      | (.ok (.watching session), services) =>
        watch context services session
        return 0

/-- Runs the program with the words of its command line. -/
def run (words : List String) : IO UInt32 := do
  let (path, rest) := splitOptions defaultConfig words
  match CommandLine.read rest with
  | .ok command => runCommand path command
  | .error .help =>
    IO.println CommandLine.usage
    return 0
  | .error error =>
    IO.eprintln error.message
    return 2

end TimedRelease.Main

/-- The program. -/
def main (words : List String) : IO UInt32 :=
  TimedRelease.Main.run words
