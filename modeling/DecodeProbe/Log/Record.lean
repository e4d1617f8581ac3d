import DecodeProbe.Text.Terminal
import DecodeProbe.Tool

/-!
# Log records

What the tools and the probes tell about their work.  A record has a level, the
part that wrote it and a message.
-/

namespace DecodeProbe.Log

inductive Level where
  | error
  | warn
  | info
  | debug
  | trace
  deriving DecidableEq, Repr

namespace Level

/-- Grows from grave to chatty. -/
def rank : Level → Nat
  | .error => 1
  | .warn => 2
  | .info => 3
  | .debug => 4
  | .trace => 5

def name : Level → String
  | .error => "ERROR"
  | .warn => "WARN"
  | .info => "INFO"
  | .debug => "DEBUG"
  | .trace => "TRACE"

def all : List Level := [.error, .warn, .info, .debug, .trace]

end Level

inductive Target where
  | device
  | formats
  | library
  | report
  | tool (name : Tool)
  | logging (name : Tool)
  | failure (name : Tool)
  deriving DecidableEq, Repr

def Target.path : Target → String
  | .device => "hwprobe::v4l2::device"
  | .formats => "hwprobe::v4l2::enumerator"
  | .library => "hwprobe::mpp"
  | .report => "hwprobe::report"
  | .tool t => t.name
  | .logging t => t.name ++ "::logging"
  | .failure t => t.name ++ "::error"

structure Record where
  level : Level
  target : Target
  message : String
  deriving DecidableEq, Repr

/-- A record without its target, level first. -/
def Record.text (record : Record) : String := record.level.name ++ ": " ++ record.message

/-- The line of a record, further lines of the message indented. -/
def Record.lineChars (record : Record) : List Char :=
  let indented := record.message.toList.flatMap fun c =>
    if c = '\n' then ['\n', ' ', ' ', ' ', ' '] else [c]
  let level := "[" ++ record.level.name.pushn ' ' (5 - record.level.name.length) ++ "] "
  level.toList ++ indented ++ ['\n']

def Record.line (record : Record) : String :=
  String.ofList (Text.Terminal.plain record.lineChars)

end DecodeProbe.Log
