import CriteriaSearch.Backend.Client
import CriteriaSearch.Search.Basic
import CriteriaSearch.Settings.Loading

/-!
# The command line

The program reads a request for a page and prints the page that answers it, or with an option the
query that the request compiles to.  Everything that it does is a function of its arguments and of
its surroundings: the files, the text on its input, the environment and the network.
-/

namespace CriteriaSearch.CommandLine

/-- The version of the program. -/
def version : String := "0.1.0"

/-- What the arguments ask for. -/
inductive Invocation where
  | usage
  | version
  /-- Answer the request in a file, or on the input if there is no file, or explain it. -/
  | answer (explain : Bool) (file : Option String)
  deriving DecidableEq

/-- What arguments ask for.  A later file replaces an earlier one, and a question about the program
itself goes before everything else. -/
def Invocation.ofArguments (explain : Bool) (file : Option String) : List String → Invocation
  | [] => .answer explain file
  | argument :: rest =>
    match argument with
    | "-h" | "--help" => .usage
    | "-V" | "--version" => .version
    | "-e" | "--explain" => ofArguments true file rest
    | "-" => ofArguments explain none rest
    | path => ofArguments explain (some path) rest

/-- What the program depends on besides its arguments. -/
structure Surroundings where
  files : Files
  /-- The text on the input, if it is a text. -/
  input : Option String
  environment : Environment
  /-- Where the configuration of the user is, if anywhere. -/
  userDirectory : Option String
  /-- The name of the local time zone. -/
  localZone : String
  network : Network

/-- Why the program has no answer. -/
inductive Problem where
  | unreadableFile (path : String)
  | unreadableInput
  | badRequest
  | settings (cause : ConfigError)
  | search (cause : SearchError)

/-- The wording of a problem. -/
def Problem.message : Problem → String
  | .unreadableFile path => s!"cannot read {path}"
  | .unreadableInput => "cannot read stdin"
  | .badRequest => "invalid paging request"
  | .settings cause => s!"configuration error: {cause.message}"
  | .search cause => cause.message

/-- What the program does in the end: the text that it prints or the problem that it reports, and
the exchanges that it had on the way. -/
structure Outcome where
  result : Except Problem String
  exchanges : List Exchange := []

/-- The exit code.  A search that crashed has one of its own. -/
def Outcome.code (outcome : Outcome) : UInt32 :=
  match outcome.result with
  | .ok _ => 0
  | .error (.search .crashed) => 101
  | .error _ => 1

/-- The text that is printed. -/
def Outcome.output (outcome : Outcome) : String :=
  match outcome.result with
  | .ok text => text
  | .error _ => ""

/-- The report of a problem. -/
def Outcome.report (outcome : Outcome) : Option String :=
  match outcome.result with
  | .ok _ => none
  | .error problem => some s!"Error: {problem.message}"

/-- The text about the use of the program. -/
def usage : String :=
  "\n" ++
  s!"esquery-rs v{version}\n" ++
  "Compile a condition tree into an Elasticsearch bool query and fetch the results\n" ++
  "\n" ++
  "USAGE:\n" ++
  "    esquery-rs [OPTIONS] [FILE]\n" ++
  "\n" ++
  "Reads the paging request as JSON from FILE, or stdin when FILE is omitted or -.\n" ++
  "\n" ++
  "OPTIONS:\n" ++
  "    -e, --explain          Print the compiled query instead of running it\n" ++
  "    -h, --help             Print help information\n" ++
  "    -V, --version          Print version information\n" ++
  "\n" ++
  "ENVIRONMENT VARIABLES:\n" ++
  "    ESQUERY_SETTINGS_PATH  Path to settings.yml\n" ++
  "    ESQUERY_URLS           Comma-separated node URLs\n" ++
  "    ESQUERY_INDEX          Index to query\n" ++
  "    ESQUERY_USERNAME       Basic auth user\n" ++
  "    ESQUERY_PASSWORD       Basic auth password\n" ++
  "    ESQUERY_STREAM_WORKERS Streaming worker count\n" ++
  "    ESQUERY_TIME_ZONE      Zone used when the request names none\n" ++
  "    RUST_LOG               Log filter, defaults to info\n" ++
  "\n"

/-- The text of the request. -/
def requestText (surroundings : Surroundings) : Option String → Except Problem String
  | none =>
    match surroundings.input with
    | some text => .ok text
    | none => .error .unreadableInput
  | some path =>
    match surroundings.files path with
    | some (.text text) => .ok text
    | some (.unreadable _) | none => .error (.unreadableFile path)

/-- The request for a page that the program is about. -/
def request (surroundings : Surroundings) (file : Option String) : Except Problem Paging := do
  let text ← requestText surroundings file
  match Decode.fromText Paging.decode text with
  | .ok paging => return paging
  | .error _ => .error .badRequest

/-- The settings that the program works under. -/
def settings (surroundings : Surroundings) : Except Problem Settings :=
  (Settings.load surroundings.files surroundings.environment
    surroundings.userDirectory).mapError .settings

/-- The client for settings that are complete. -/
def client (settings : Settings) : Except Problem Client :=
  (do settings.validate; Client.ofSettings settings.backend).mapError .settings

/-- The query of a request under the settings, as text. -/
def explained (surroundings : Surroundings) (settings : Settings) (paging : Paging) :
    Except Problem String :=
  match paging.explain settings.query.compiler settings.query.defaultTimeZone
      surroundings.localZone with
  | .ok text => .ok (text ++ "\n")
  | .error zone => .error (.search (.unknownTimeZone zone))

/-- The page that answers a request, as text, and the exchanges that led to it. -/
def answered (surroundings : Surroundings) (settings : Settings) (client : Client)
    (paging : Paging) : Outcome :=
  let search : Search Client.State := {
    backend := client.backend
    settings := settings.query
    localZone := surroundings.localZone }
  let (page, after) := search.page paging { network := surroundings.network }
  { result := match page with
      | .ok page => .ok ((page.toJson id).indented ++ "\n")
      | .error cause => .error (.search cause)
    exchanges := after.exchanges }

/-- Answers or explains a request. -/
def answer (surroundings : Surroundings) (explain : Bool) (file : Option String) : Outcome :=
  let prepared := do
    let paging ← request surroundings file
    let settings ← settings surroundings
    return (paging, settings)
  match prepared with
  | .error problem => { result := .error problem }
  | .ok (paging, settings) =>
    if explain then { result := explained surroundings settings paging }
    else match client settings with
      | .error problem => { result := .error problem }
      | .ok client => answered surroundings settings client paging

/-- What the program does. -/
def run (surroundings : Surroundings) (arguments : List String) : Outcome :=
  match Invocation.ofArguments false none arguments with
  | .usage => { result := .ok usage }
  | .version => { result := .ok s!"esquery-rs {version}\n" }
  | .answer explain file => answer surroundings explain file

end CriteriaSearch.CommandLine
