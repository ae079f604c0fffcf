import ContainerBridge.Cli.Run
import ContainerBridge.Http.Exchange
import Std.Async.DNS
import Std.Async.TCP

/-! The program `bridgectl`: a command line runs against an agent over HTTP. -/

namespace ContainerBridge.Cli
open Std.Async Std.Net

/-- The name under which a host is looked up. -/
def lookupName : Url.Host → String
  | .name s => s
  | .ipv4 n => Url.Host.ipv4Text n
  | .ipv6 gs => Url.Host.ipv6Text gs

def socketAddress (port : UInt16) : IPAddr → SocketAddress
  | .v4 a => .v4 ⟨a, port⟩
  | .v6 a => .v6 ⟨a, port⟩

/-- All that comes until the connection ends. -/
partial def receive (c : TCP.Socket.Client) (got : ByteArray) : Async ByteArray := do
  match ← c.recv? 65536 with
  | none => return got
  | some more => receive c (got ++ more)

/-- Sends a text to the first address that takes a connection. -/
def converse (port : UInt16) (text : String) : List IPAddr → Async ByteArray
  | [] => throw (.userError "no connection")
  | address :: rest => do
    let c ← TCP.Socket.Client.mk
    let connected ← try c.connect (socketAddress port address); pure true catch _ => pure false
    if connected then
      c.send text.toUTF8
      receive c .empty
    else converse port text rest

/-- Sends a request to the server that a URL names. -/
def sendTo (url : Url) (r : Http.Request) : IO (Option Http.Response) := do
  match url.scheme, url.host with
  | "http", some host =>
    let port := url.port.getD 80
    try
      let addresses ← (DNS.getAddrInfo (lookupName host) (toString port)).block
      let text := r.written s!"{host.text}:{port}"
      let got ← (converse port text addresses.toList).block
      return Http.Response.ofWritten? (Text.ofBytesLossy got.toList)
    catch _ => return none
  | _, _ => return none

/-- The screen that standard output leads to. -/
def screen : IO Screen := do
  return .ofEnvironment (← IO.getEnv "CLICOLOR_FORCE") (← IO.getEnv "NO_COLOR")
    (← IO.getEnv "CLICOLOR") (← (← IO.getStdout).isTty)

/-- Runs a command and gives the exit code. -/
def execute (i : Invocation) : IO UInt32 := do
  let take : (q : Step) → IO q.Reply
    | .print line => IO.println line
    | .send r => match Url.parse i.apiUrl with
      | .ok url => sendTo url r
      | .error _ => return none
  match ← Program.runIn take (i.run (← screen)).run with
  | .ok _ => return 0
  | .error fault =>
    IO.eprintln ("Error: " ++ fault.message)
    return 1

end ContainerBridge.Cli

open ContainerBridge.Cli in
def main (words : List String) : IO UInt32 := do
  match parse (← IO.getEnv "BRIDGECTL_API_URL") words with
  | .ok i => execute i
  | .error .version =>
    IO.println "bridgectl 0.1.0"
    return 0
  | .error fault =>
    let text := usage fault
    if fault.exitCode = 0 then IO.println text else IO.eprintln text
    return fault.exitCode.toUInt32
