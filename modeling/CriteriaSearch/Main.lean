import CriteriaSearch.CommandLine
import CriteriaSearch.Http.Wire
import Std.Async.DNS
import Std.Async.TCP

/-!
# The program

Here the program meets its surroundings: it reads files and variables, talks to nodes and prints.
What to do is decided in `CommandLine.run`, a function of everything that was read.  The replies
of the network are found out one by one: the function is run with the replies so far, and as long
as it gets to a request that none of them answers, that request is made and its reply is added.
-/

open CriteriaSearch

namespace CriteriaSearch.Program

/-- Why a file could not be read. -/
def reason : IO.Error → String
  | .inappropriateType _ code details | .permissionDenied _ code details
  | .otherError code details | .noFileOrDirectory _ code details =>
    s!"{details} (os error {code})"
  | other => toString other

/-- Whether anything stands at a path. -/
def isThere (path : String) : IO Bool := do
  try
    discard <| IO.FS.realPath path
    return true
  catch _ => return false

/-- What stands at a path. -/
def look (path : String) : IO (Option Found) := do
  if path.isEmpty || !(← isThere path) then return none
  try
    match String.fromUTF8? (← IO.FS.readBinFile path) with
    | some content => return some (.text content)
    | none => return some (.unreadable "stream did not contain valid UTF-8")
  catch problem => return some (.unreadable (reason problem))

/-- The text on the input, if it is a text. -/
def readInput : IO (Option String) := do
  try return some (← (← IO.getStdin).readToEnd)
  catch _ => return none

/-- The variables that the program looks at. -/
def variableNames : List String := [
  "ESQUERY_SETTINGS_PATH", "ESQUERY_URLS", "ESQUERY_USERNAME", "ESQUERY_PASSWORD",
  "ESQUERY_INDEX", "ESQUERY_STREAM_WORKERS", "ESQUERY_TIME_ZONE"]

/-- Where the configuration of the user is. -/
def userDirectory : IO (Option String) := do
  match ← IO.getEnv "XDG_CONFIG_HOME" with
  | some path => if path.startsWith "/" then return some path
  | none => pure ()
  match ← IO.getEnv "HOME" with
  | some home => return if home.isEmpty then none else some (pathBelow home ".config")
  | none => return none

/-- The name of the zone that the system is set to. -/
def systemZone : IO String := do
  try
    let path := toString (← IO.FS.realPath "/etc/localtime")
    let name := (path.splitOn "/zoneinfo/").getLastD ""
    return if TimeZone.isKnown name then name else "UTC"
  catch _ => return "UTC"

/-- The bytes that a connection brings until its end. -/
partial def receive (socket : Std.Async.TCP.Socket.Client) (before : ByteArray) :
    IO ByteArray := do
  match ← (socket.recv? 65536).block with
  | some bytes => receive socket (before ++ bytes)
  | none => return before

/-- The host of a URL as a name to look up. -/
def hostName (url : Url) : String :=
  match url.host with
  | some (.ipv6 groups) => String.ofList (Host.groupsText groups)
  | some host => String.ofList host.text
  | none => ""

/-- Makes a request and waits for the reply. -/
def exchange (request : HttpRequest) : IO Reply := do
  if request.url.scheme ≠ "http".toList then
    return .error ⟨"error trying to connect: invalid URL, scheme is not http"⟩
  try
    let port := UInt16.ofNat (request.url.port.getD 80)
    let addresses ← (Std.Async.DNS.getAddrInfo (hostName request.url) (toString port)).block
    match addresses[0]? with
    | none => return .error ⟨"error trying to connect: dns error: no address"⟩
    | some address =>
      let place : Std.Net.SocketAddress := match address with
        | .v4 address => .v4 ⟨address, port⟩
        | .v6 address => .v6 ⟨address, port⟩
      let socket ← Std.Async.TCP.Socket.Client.mk
      (socket.connect place).block
      (socket.send request.bytes).block
      match HttpResponse.ofBytes? (← receive socket ByteArray.empty) with
      | some response => return .ok response
      | none => return .error ⟨"error reading a body from connection"⟩
  catch problem => return .error ⟨s!"error trying to connect: {problem}"⟩

/-- Runs the program with the replies so far, and again with one more reply for as long as a
request is left without one. -/
partial def complete (surroundings : CommandLine.Surroundings) (arguments : List String)
    (replies : List Reply) : IO CommandLine.Outcome := do
  let network := { Network.failing ⟨"no reply yet"⟩ with replies }
  let outcome := CommandLine.run { surroundings with network } arguments
  match outcome.exchanges[replies.length]? with
  | none => return outcome
  | some waiting => complete surroundings arguments (replies ++ [← exchange waiting.request])

end CriteriaSearch.Program

open CriteriaSearch.Program in
/-- The entry point. -/
def main (arguments : List String) : IO UInt32 := do
  let environment : Environment ← variableNames.filterMapM fun name => do
    return (← IO.getEnv name).map fun value => (name, value)
  let userDirectory ← userDirectory
  let file := match CommandLine.Invocation.ofArguments false none arguments with
    | .answer _ file => some file
    | .usage | .version => none
  let paths := settingsPaths environment userDirectory ++ (file.bind id).toList
  let found ← paths.mapM fun path => return (path, ← look path)
  let input ← if file = some none then readInput else pure none
  let localZone := TimeZone.localName (← IO.getEnv "TZ") (← systemZone)
  let outcome ← complete {
    files := fun path => (found.lookup path).join
    input, environment, userDirectory, localZone
    network := .unreachable } arguments []
  IO.print outcome.output
  match outcome.report with
  | some report => IO.eprintln report
  | none => pure ()
  return outcome.code
