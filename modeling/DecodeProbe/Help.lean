import DecodeProbe.CommandLine

/-!
# Help texts

The short help has one line for each option, with the texts in one column.  The
long help gives each option a paragraph of its own.
-/

namespace DecodeProbe.Help

open CommandLine (Flag flags)

def versionNumber : String := "0.1.0"

def version (tool : Tool) : String := s!"{tool.name} {versionNumber}\n"

def summary : Tool → String
  | .v4l2test => "V4L2-M2M hardware decode probe utility"
  | .mpptest => "Rockchip MPP hardware decode probe utility"

def description : Tool → List String
  | .v4l2test =>
      ["V4L2-M2M probe utility",
       "",
       "Checks whether a V4L2 device node is a usable stateful hardware decoder " ++
         "and prints the result to",
       "stdout."]
  | .mpptest =>
      ["Rockchip MPP probe utility",
       "",
       "Loads librockchip_mpp.so and reports which codecs it can decode."]

/-- What an option does; each layout points to the other one. -/
def purpose (long : Bool) : Flag → String
  | .device => "Probe a V4L2 device (e.g. /dev/video10)"
  | .json => "Write the result as a JSON object"
  | .help =>
      if long then "Print help (see a summary with '-h')" else "Print help (see more with '--help')"
  | .version => "Print version"

def heading (flag : Flag) : String :=
  let letter :=
    match flag.letter? with
    | some letter => String.ofList ['-', letter, ',', ' ']
    | none => "    "
  letter ++ flag.shown

def usage (tool : Tool) : String := s!"Usage: {tool.name} [OPTIONS]"

def columnWidth (tool : Tool) : Nat :=
  (flags tool).foldl (fun width flag => max width (heading flag).length) 0

def shortLine (width : Nat) (flag : Flag) : String :=
  let heading := heading flag
  "  " ++ heading.pushn ' ' (width - heading.length) ++ "  " ++ purpose false flag

def short (tool : Tool) : List String :=
  [summary tool, "", usage tool, "", "Options:"] ++
    (flags tool).map (shortLine (columnWidth tool))

def paragraph (flag : Flag) : List String :=
  ["  " ++ heading flag, "          " ++ purpose true flag]

def long (tool : Tool) : List String :=
  description tool ++ ["", usage tool, "", "Options:"] ++
    [""].intercalate ((flags tool).map paragraph)

def text (tool : Tool) (isLong : Bool) : String :=
  String.join ((if isLong then long tool else short tool).map (· ++ "\n"))

end DecodeProbe.Help
