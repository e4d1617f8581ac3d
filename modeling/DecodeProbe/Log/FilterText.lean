import DecodeProbe.Log.Filter
import DecodeProbe.Pattern.Compile
import DecodeProbe.Text.Blank
import DecodeProbe.Text.Fields

/-!
# Filters from text

A filter text holds directives with commas between them, and after a slash it
may hold a pattern.  What cannot be understood is left out, with a warning.
-/

namespace DecodeProbe.Log

inductive Warning where
  | unknownLevel (level : List Char)
  | secondEquals (directive : List Char)
  | secondSlash (text : List Char)
  | invalidPattern (pattern : List Char) (error : PatternError)
  deriving DecidableEq, Repr

namespace Warning

def cause : Warning → String
  | .unknownLevel level => s!"invalid logging spec '{String.ofList level}'"
  | .secondEquals directive => s!"invalid logging spec '{String.ofList directive}'"
  | .secondSlash text => s!"invalid logging spec '{String.ofList text}' (too many '/'s)"
  | .invalidPattern pattern error => "invalid regex filter - " ++ error.text pattern

def line (warning : Warning) : String := s!"warning: {warning.cause}, ignoring it\n"

end Warning

/-- A level name in any case, or `off`. -/
def Threshold.read? (text : List Char) : Option Threshold :=
  let upper := text.map Char.toUpper
  if upper = "OFF".toList then some none
  else (Level.all.find? fun level => level.name.toList = upper).map some

/-- A level for everything, a name for everything below it, or a name with its level. -/
def Directive.read (part : List Char) : Except Warning Directive :=
  match Text.fields '=' part with
  | [only] =>
      match Threshold.read? only with
      | some threshold => .ok ⟨none, threshold⟩
      | none => .ok ⟨some only, some .trace⟩
  | [name, level] =>
      match Text.trim level with
      | [] => .ok ⟨some name, some .trace⟩
      | level =>
          match Threshold.read? level with
          | some threshold => .ok ⟨some name, threshold⟩
          | none => .error (.unknownLevel level)
  | _ => .error (.secondEquals part)

structure Reading where
  filter : Filter
  warnings : List Warning := []
  deriving DecidableEq, Repr

namespace Reading

def ofDirectives (text : List Char) : Reading :=
  let parts := ((Text.fields ',' text).map Text.trim).filter fun part => !part.isEmpty
  let read := parts.map Directive.read
  { filter := ⟨Filter.directed (read.filterMap Except.toOption), none⟩,
    warnings := read.filterMap fun
      | .ok _ => none
      | .error warning => some warning }

def ask (reading : Reading) (pattern : List Char) : Reading :=
  match Pattern.ofText pattern with
  | .ok asked => { reading with filter := { reading.filter with pattern := some asked } }
  | .error error =>
      { reading with warnings := reading.warnings ++ [.invalidPattern pattern error] }

/-- With two slashes or more nothing of the text counts. -/
def ofText (text : List Char) : Reading :=
  match Text.fields '/' text with
  | [directives] => ofDirectives directives
  | [directives, pattern] => (ofDirectives directives).ask pattern
  | _ => { ofDirectives [] with warnings := [.secondSlash text] }

end Reading

example : (Reading.ofText "hwprobe=debug,hwprobe::v4l2=off".toList).filter.selects
    ⟨.debug, .device, ""⟩ = false := by decide +kernel

example : (Reading.ofText "hwprobe=debug,hwprobe::v4l2=off".toList).filter.selects
    ⟨.debug, .report, ""⟩ = true := by decide +kernel

example : (Reading.ofText "debug/VP[89]".toList).filter.selects
    ⟨.debug, .report, "no codec VP7"⟩ = false := by decide +kernel

example : (Reading.ofText "hwprobe=loud,debug".toList).warnings.map Warning.line =
    ["warning: invalid logging spec 'loud', ignoring it\n"] := by decide +kernel

end DecodeProbe.Log
