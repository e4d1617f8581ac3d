import DecodeProbe.Text.Terminal
import DecodeProbe.Text.Utf8
import DecodeProbe.Tool

/-!
# Command lines

Both tools take options only.  An option has a long name after two dashes and
may have a letter after one dash; the value of an option stands in the same
argument or is the next one.  A value in an argument of its own is accepted only
when the next option is read or the arguments end, so that an argument that is
no option at all is complained about first.
-/

namespace DecodeProbe.CommandLine

open DecodeProbe.Text.Utf8 (Bytes)

inductive Flag where
  | device
  | json
  | help
  | version
  deriving DecidableEq, Repr

namespace Flag

def long : Flag → String
  | .device => "device"
  | .json => "json"
  | .help => "help"
  | .version => "version"

def letter? : Flag → Option Char
  | .device => some 'd'
  | .json => none
  | .help => some 'h'
  | .version => some 'V'

def valueName? : Flag → Option String
  | .device => some "DEVICE"
  | .json | .help | .version => none

def shown (flag : Flag) : String :=
  match flag.valueName? with
  | some value => s!"--{flag.long} <{value}>"
  | none => "--" ++ flag.long

end Flag

def flags : Tool → List Flag
  | .v4l2test => [.device, .json, .help, .version]
  | .mpptest => [.json, .help, .version]

inductive UsageError where
  | unexpectedArgument (argument : String)
  | valueRequired (flag : Flag)
  | repeated (flag : Flag)
  | unexpectedValue (flag : Flag) (value : String)
  deriving DecidableEq, Repr

/-- What was typed, without the control sequences in it. -/
def typed (text : String) : String := String.ofList (Text.Terminal.plain text.toList)

def UsageError.message : UsageError → String
  | .unexpectedArgument argument => s!"error: unexpected argument '{typed argument}' found"
  | .valueRequired flag =>
      s!"error: a value is required for '{flag.shown}' but none was supplied"
  | .repeated flag => s!"error: the argument '{flag.shown}' cannot be used multiple times"
  | .unexpectedValue flag value =>
      s!"error: unexpected value '{typed value}' for '{flag.shown}' found; no more were expected"

structure Settings where
  device : Option Bytes := none
  json : Bool := false
  deriving DecidableEq, Repr

inductive Request where
  | run (settings : Settings)
  | help (long : Bool)
  | version
  deriving DecidableEq, Repr

/-- A device option whose value is still to come, or has come and is not accepted yet. -/
inductive Pending where
  | nothing
  | awaited
  | given (value : Bytes)
  deriving DecidableEq, Repr

structure Progress where
  settings : Settings := {}
  pending : Pending := .nothing
  deriving DecidableEq, Repr

/-- Accepts a device; it must be the only one and must not be empty. -/
def acceptDevice (settings : Settings) (value : Bytes) : Except UsageError Settings :=
  if settings.device.isSome then .error (.repeated .device)
  else if value = [] then .error (.valueRequired .device)
  else .ok { settings with device := some value }

def settle (progress : Progress) : Except UsageError Settings :=
  match progress.pending with
  | .nothing => .ok progress.settings
  | .awaited => .error (.valueRequired .device)
  | .given value => acceptDevice progress.settings value

inductive Next where
  | more (progress : Progress)
  | done (request : Request)
  deriving DecidableEq, Repr

def readFlag (progress : Progress) (flag : Flag) (attached : Option Bytes)
    (long : Bool) : Except UsageError Next :=
  match flag, attached with
  | .device, some value => do
      let settings ← settle progress
      return .more { settings := ← acceptDevice settings value }
  | .device, none => do
      return .more { settings := ← settle progress, pending := .awaited }
  | flag, some value => throw (.unexpectedValue flag (Text.Utf8.shown value))
  | .json, none => do
      let settings ← settle progress
      if settings.json then throw (.repeated .json)
      return .more { settings := { settings with json := true } }
  | .help, none => do
      let _ ← settle progress
      return .done (.help long)
  | .version, none => do
      let _ ← settle progress
      return .done .version

def dash : UInt8 := 0x2D
def equalsSign : UInt8 := 0x3D

def readLong (tool : Tool) (progress : Progress) (body : Bytes) : Except UsageError Next :=
  let name := body.takeWhile (· ≠ equalsSign)
  let attached := if equalsSign ∈ body then some (body.drop (name.length + 1)) else none
  match (flags tool).find? fun flag => Text.Utf8.bytes flag.long = name with
  | some flag => readFlag progress flag attached true
  | none => .error (.unexpectedArgument ("--" ++ Text.Utf8.shown name))

/--
What follows one dash: the letter of an option, and its value if it takes one.
An option without a value ends the reading, so the letters after it do not
matter.
-/
def readLetters (tool : Tool) (progress : Progress) (body : Bytes) : Except UsageError Next :=
  match Text.Utf8.pieces body with
  | .char c :: _ =>
      match (flags tool).find? fun flag => flag.letter? = some c with
      | some flag =>
          let attached :=
            match flag.valueName?, body.drop 1 with
            | none, _ | some _, [] => none
            | some _, first :: rest => some (if first = equalsSign then rest else first :: rest)
          readFlag progress flag attached false
      | none => .error (.unexpectedArgument (String.ofList ['-', c]))
  | _ => .error (.unexpectedArgument ("-" ++ Text.Utf8.shown body))

/-- An argument that is no option can only be a value that is awaited. -/
def readValue (progress : Progress) (argument : Bytes) : Except UsageError Next :=
  match progress.pending with
  | .awaited => .ok (.more { progress with pending := .given argument })
  | _ => .error (.unexpectedArgument (Text.Utf8.shown argument))

def readArgument (tool : Tool) (progress : Progress) (argument : Bytes) :
    Except UsageError Next :=
  match argument with
  | first :: second :: rest =>
      if first = dash ∧ second = dash then readLong tool progress rest
      else if first = dash then readLetters tool progress (second :: rest)
      else readValue progress argument
  | _ => readValue progress argument

/-- After two dashes alone only values may follow, and neither tool takes any. -/
def readTrailing (progress : Progress) : List Bytes → Except UsageError Request
  | [] => Request.run <$> settle progress
  | argument :: _ => .error (.unexpectedArgument (Text.Utf8.shown argument))

def readFrom (tool : Tool) : Progress → List Bytes → Except UsageError Request
  | progress, [] => Request.run <$> settle progress
  | progress, argument :: rest =>
      if argument = [dash, dash] then readTrailing progress rest
      else do
        match ← readArgument tool progress argument with
        | .more progress => readFrom tool progress rest
        | .done request => return request

def read (tool : Tool) (arguments : List Bytes) : Except UsageError Request :=
  readFrom tool {} arguments

end DecodeProbe.CommandLine
