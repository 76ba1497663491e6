import WireScript.Network.Isolated
import WireScript.Relay.Arguments
import WireScript.Text.Lines

set_option autoImplicit false

namespace WireScript.Relay

def programName : String := "tlsn-record-proxy"

def versionText : String := programName ++ " 0.1.0-alpha.12\n"

def about : String := "Transcript-driven conformance harness for byte-level protocol testing\n"

def usageText : String := "Usage: " ++ programName ++ " [OPTIONS] --upstream <UPSTREAM>\n"

def gap : String := "          \n"

def helpText : String :=
  about ++ "\n" ++ usageText ++ "\n" ++
  "Options:\n" ++
  "      --listen <LISTEN>\n" ++
  "          Address to accept the client connection on\n" ++
  gap ++
  "          [env: LISTEN=]\n" ++
  "          [default: 127.0.0.1:10443]\n" ++
  "\n" ++
  "      --upstream <UPSTREAM>\n" ++
  "          Address of the upstream server\n" ++
  gap ++
  "          [env: UPSTREAM=]\n" ++
  "\n" ++
  "  -o, --output <OUTPUT>\n" ++
  "          Output file. Defaults to stdout\n" ++
  "\n" ++
  "      --format <FORMAT>\n" ++
  "          Output format\n" ++
  "\n" ++
  "          Possible values:\n" ++
  "          - fixture: The hex fixture format, see [`crate::fixture`]\n" ++
  "          - json:    The transcript as JSON\n" ++
  gap ++
  "          [default: fixture]\n" ++
  "\n" ++
  "  -h, --help\n" ++
  "          Print help (see a summary with '-h')\n" ++
  "\n" ++
  "  -V, --version\n" ++
  "          Print version\n"

def summaryText : String :=
  about ++ "\n" ++ usageText ++ "\n" ++
  "Options:\n" ++
  "      --listen <LISTEN>      Address to accept the client connection on [env: LISTEN=] " ++
    "[default: 127.0.0.1:10443]\n" ++
  "      --upstream <UPSTREAM>  Address of the upstream server [env: UPSTREAM=]\n" ++
  "  -o, --output <OUTPUT>      Output file. Defaults to stdout\n" ++
  "      --format <FORMAT>      Output format [default: fixture] " ++
    "[possible values: fixture, json]\n" ++
  "  -h, --help                 Print help (see more with '--help')\n" ++
  "  -V, --version              Print version\n"

structure Exit where
  code : Nat
  stdout : String
  stderr : String
deriving DecidableEq, Repr

def firstLine (report : String) : String :=
  String.ofList ((Text.lines report.toList).headD [])

def usageExit (fault : UsageFault) : Exit := ⟨2, "", firstLine fault.message⟩

def failureExit (failure : Wire.Failure) : Exit :=
  ⟨1, "", firstLine ("Error: " ++ failure.message)⟩

def prepare (env : Environment) (arguments : List String) : Exit ⊕ Arguments :=
  match Request.parse env arguments with
  | .error fault => .inl (usageExit fault)
  | .ok (.help true) => .inl ⟨0, helpText, ""⟩
  | .ok (.help false) => .inl ⟨0, summaryText, ""⟩
  | .ok .version => .inl ⟨0, versionText, ""⟩
  | .ok (.serve arguments) => .inr arguments

def runOffline (env : Environment) (arguments : List String) : Option Exit :=
  match prepare env arguments with
  | .inl result => some result
  | .inr arguments =>
    match Network.Isolated.listen arguments.listen with
    | .error failure => some (failureExit failure)
    | .ok _ => none

def playOffline (env : Environment) (arguments : List String) : Option Exit :=
  match Network.Isolated.listen Network.Isolated.loopback with
  | .error _ => none
  | .ok _ => runOffline env arguments

end WireScript.Relay
