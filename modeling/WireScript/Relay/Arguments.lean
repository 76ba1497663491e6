import WireScript.Capture.Config
import WireScript.Text.Plain

set_option autoImplicit false

namespace WireScript.Relay

open Capture (Format)

inductive Setting
  | listen
  | server
  | output
  | format
deriving DecidableEq, Repr

namespace Setting

def all : List Setting := [.listen, .server, .output, .format]

def word : Setting → String
  | .listen => "listen"
  | .server => "upstream"
  | .output => "output"
  | .format => "format"

def usage : Setting → String
  | .listen => "--listen <LISTEN>"
  | .server => "--upstream <UPSTREAM>"
  | .output => "--output <OUTPUT>"
  | .format => "--format <FORMAT>"

end Setting

inductive UsageFault
  | unexpectedArgument (text : String)
  | valueMissing (setting : Setting)
  | invalidValue (value : String) (setting : Setting)
  | repeated (setting : Setting)
  | unexpectedValue (value flag : String)
  | serverMissing
deriving DecidableEq, Repr

def shown (text : String) : String := String.ofList (Text.plain text.toList)

def UsageFault.message : UsageFault → String
  | .unexpectedArgument text => s!"error: unexpected argument '{shown text}' found"
  | .valueMissing setting =>
    s!"error: a value is required for '{setting.usage}' but none was supplied"
  | .invalidValue value setting =>
    s!"error: invalid value '{shown value}' for '{setting.usage}'"
  | .repeated setting =>
    s!"error: the argument '{setting.usage}' cannot be used multiple times"
  | .unexpectedValue value flag =>
    s!"error: unexpected value '{shown value}' for '{flag}' found; no more were expected"
  | .serverMissing => "error: the following required arguments were not provided:"

structure Arguments where
  listen : String
  server : String
  output : Option String
  format : Format
deriving DecidableEq, Repr

inductive Request
  | serve (arguments : Arguments)
  | help (full : Bool)
  | version
deriving DecidableEq, Repr

structure Environment where
  listen : Option String
  server : Option String
deriving DecidableEq, Repr

structure Given where
  values : List (Setting × String)
  pending : Option (Setting × Option String)
  closed : Bool
deriving DecidableEq, Repr

namespace Given

def nothing : Given := ⟨[], none, false⟩

def admits (setting : Setting) (value : String) : Except UsageFault Unit :=
  match setting with
  | .output => if value.isEmpty then .error (.valueMissing setting) else .ok ()
  | .format =>
    if value.isEmpty then .error (.valueMissing setting)
    else if (Format.parse? false value).isSome then .ok ()
    else .error (.invalidValue value setting)
  | _ => .ok ()

def resolve (g : Given) : Except UsageFault Given :=
  match g.pending with
  | none => .ok g
  | some (setting, none) => .error (.valueMissing setting)
  | some (setting, some value) => do
    if (g.values.lookup setting).isSome then throw (.repeated setting)
    admits setting value
    pure { g with values := g.values ++ [(setting, value)], pending := none }

def addSetting (g : Given) (setting : Setting) (value : Option String) : Except UsageFault Given :=
  do
    let g ← g.resolve
    let g := { g with pending := some (setting, value) }
    if value.isSome then g.resolve else pure g

end Given

inductive Reading
  | more (given : Given)
  | request (request : Request)

def splitValue (text : List Char) : String × Option String :=
  let name := String.ofList (text.takeWhile (· != '='))
  match text.dropWhile (· != '=') with
  | [] => (name, none)
  | _ :: value => (name, some (String.ofList value))

def readFlag (g : Given) (flag : String) (value : Option String) (request : Request) :
    Except UsageFault Reading :=
  match value with
  | some value => .error (.unexpectedValue value flag)
  | none => g.resolve.map (fun _ => .request request)

def readLong (g : Given) (text : List Char) : Except UsageFault Reading :=
  let (name, value) := splitValue text
  if name = "help" then readFlag g "--help" value (.help true)
  else if name = "version" then readFlag g "--version" value .version
  else
    match Setting.all.find? (fun s => s.word = name) with
    | some setting => (g.addSetting setting value).map .more
    | none => .error (.unexpectedArgument ("--" ++ name))

def readShort (g : Given) (first : Char) (rest : List Char) : Except UsageFault Reading :=
  match first with
  | 'h' => g.resolve.map (fun _ => .request (.help false))
  | 'V' => g.resolve.map (fun _ => .request .version)
  | 'o' =>
    let value :=
      match rest with
      | [] => none
      | '=' :: value => some (String.ofList value)
      | value => some (String.ofList value)
    (g.addSetting .output value).map .more
  | c => .error (.unexpectedArgument (String.ofList ['-', c]))

def readPlain (g : Given) (text : String) : Except UsageFault Reading :=
  match g.pending with
  | some (setting, none) => .ok (.more { g with pending := some (setting, some text) })
  | _ => .error (.unexpectedArgument text)

def readArgument (g : Given) (text : String) : Except UsageFault Reading :=
  if g.closed then .error (.unexpectedArgument text)
  else
    match text.toList with
    | ['-', '-'] => .ok (.more { g with closed := true })
    | '-' :: '-' :: rest => readLong g rest
    | '-' :: first :: rest => readShort g first rest
    | _ => readPlain g text

def Given.finish (g : Given) (env : Environment) : Except UsageFault Request := do
  let g ← g.resolve
  let listen := (g.values.lookup .listen <|> env.listen).getD Capture.Config.defaultAddress
  let format := ((g.values.lookup .format).bind (Format.parse? false)).getD .fixture
  match g.values.lookup .server <|> env.server with
  | some server => pure (.serve ⟨listen, server, g.values.lookup .output, format⟩)
  | none => throw .serverMissing

def readArguments (env : Environment) (g : Given) : List String → Except UsageFault Request
  | [] => g.finish env
  | text :: rest =>
    match readArgument g text with
    | .error e => .error e
    | .ok (.request request) => .ok request
    | .ok (.more g) => readArguments env g rest

def Request.parse (env : Environment) (arguments : List String) : Except UsageFault Request :=
  readArguments env .nothing arguments

end WireScript.Relay
