/-!
# The two tools

`v4l2test` probes a video device node and `mpptest` the codec library.
-/

namespace DecodeProbe

inductive Tool where
  | v4l2test
  | mpptest
  deriving DecidableEq, Repr

namespace Tool

def name : Tool → String
  | .v4l2test => "v4l2test"
  | .mpptest => "mpptest"

def all : List Tool := [.v4l2test, .mpptest]

def ofName? (text : String) : Option Tool := all.find? fun tool => tool.name = text

end Tool

end DecodeProbe
