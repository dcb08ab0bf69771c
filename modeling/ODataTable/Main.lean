import ODataTable.CommandLine.Run
import ODataTable.Http.Message
import Std.Async.DNS
import Std.Async.TCP
import Std.Async.Timer

/-! The program: commands that run against files, the environment and the network. -/

set_option autoImplicit false

namespace ODataTable.Program

open CommandLine
open Std.Async
open Std.Net (IPAddr SocketAddress)

def contentOf (path : String) : IO FileContent := do
  match ← EIO.toBaseIO <| IO.FS.readBinFile path with
  | .ok content => pure (.octets content.toList)
  | .error (.noFileOrDirectory ..) => pure .missing
  | .error _ => pure .unreadable

def createLog (path : String) : IO Bool := do
  match ← EIO.toBaseIO <| IO.FS.writeFile path "" with
  | .ok _ => pure true
  | .error _ => pure false

/-- Look for a file in a directory and in those above it, at most `limit` of them. -/
def findUpward (name : String) : Nat → String → IO FileContent
  | 0, _ => pure .missing
  | limit + 1, directory => do
    match ← contentOf (directory ++ "/" ++ name) with
    | .octets content => pure (.octets content)
    | _ =>
      match splitWhere (· = '/') directory.toList with
      | [] | [_] => pure .missing
      | parts =>
        findUpward name limit (String.ofList (List.intercalate ['/'] parts.dropLast))

def environmentFile : IO FileContent := do
  let directory := (← IO.currentDir).toString
  findUpward ".env" (directory.length + 1) directory

def configPath? : IO (Option String) := do
  let base ←
    match ← IO.getEnv "XDG_CONFIG_HOME" with
    | some base =>
      if base.startsWith "/" then pure (some base)
      else pure ((← IO.getEnv "HOME").map (· ++ "/.config"))
    | none => pure ((← IO.getEnv "HOME").map (· ++ "/.config"))
  pure (base.map (· ++ "/odata-datasource/config.toml"))

def now : IO Instant := do
  let time ← Std.Time.Timestamp.now
  let nanos := time.toNanosecondsSinceUnixEpoch.val
  pure { seconds := nanos / 1000000000, nanos := (nanos % 1000000000).toNat }

partial def receive (socket : TCP.Socket.Client) (received : ByteArray) : Async ByteArray := do
  match ← socket.recv? 65536 with
  | some octets => receive socket (received ++ octets)
  | none => pure received

def addressOf (port : Nat) : IPAddr → SocketAddress
  | .v4 addr => .v4 { addr, port := port.toUInt16 }
  | .v6 addr => .v6 { addr, port := port.toUInt16 }

def connect (host : UrlHost) (port : Nat) : Async TCP.Socket.Client := do
  let addresses ← DNS.getAddrInfo (String.ofList (Http.hostName host)) (toString port)
  match addresses[0]? with
  | none => throw (IO.userError "the host has no address")
  | some address => do
    let socket ← TCP.Socket.Client.mk
    socket.connect (addressOf port address)
    pure socket

def within {α : Type} (seconds : Nat) (action : Async α) : Async (Option α) := do
  if 86400 < seconds then some <$> action
  else
    Async.race (some <$> action) do
      sleep (.ofInt (seconds * 1000))
      pure none

def exchange (connection : Connection) (url : Url) (host : UrlHost) (port : Nat)
    (accept : String) : Async (Option ByteArray) := do
  match ← within connection.connectTimeoutSeconds (connect host port) with
  | none => pure none
  | some socket => do
    let text := Http.requestText url accept
    socket.send (String.ofList text).toUTF8
    some <$> receive socket ByteArray.empty

def send (connection : Connection) (request : Request) :
    IO (Except TransportFault Response) := do
  match Url.parse request.url.toList with
  | .error fault => pure (.error (.failure fault.message))
  | .ok url =>
    match Http.endpoint? url with
    | none => pure (.error (.failure "the scheme of the URL is not supported"))
    | some (host, port) =>
      let action := within connection.timeoutSeconds
        (exchange connection url host port request.accept)
      match ← EIO.toBaseIO <| Async.block action with
      | .error fault => pure (.error (.failure fault.toString))
      | .ok (some (some octets)) =>
        match Http.readResponse octets.toList with
        | some response => pure (.ok response)
        | none => pure (.error (.failure "the response is incomplete"))
      | .ok (some none) => pure (.error (.timeout "no connection in time"))
      | .ok none => pure (.error (.timeout "no response in time"))

def host : Host IO :=
  { contentOf
    createLog
    lookUp := fun name => IO.getEnv name
    environmentFile
    configPath?
    now
    send }

end ODataTable.Program

def main (arguments : List String) : IO UInt32 := do
  let outcome ← ODataTable.CommandLine.run ODataTable.Program.host arguments
  (← IO.getStdout).putStr (String.ofList outcome.output)
  (← IO.getStderr).putStr (String.ofList outcome.errors)
  pure outcome.exitCode.toUInt32
