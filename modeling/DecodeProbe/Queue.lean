/-!
# Buffer queues

A decoder takes the compressed stream in on its output queue and hands decoded
frames back on its capture queue.  Either exists for single-planar and for
multi-planar buffers.
-/

namespace DecodeProbe

inductive Queue where
  | capture (mplane : Bool)
  | output (mplane : Bool)
  deriving DecidableEq, Repr

namespace Queue

def name : Queue → String
  | .capture false => "CAPTURE"
  | .output false => "OUTPUT"
  | .capture true => "CAPTURE_MPLANE"
  | .output true => "OUTPUT_MPLANE"

def label : Queue → String
  | .capture false => "VideoCapture"
  | .output false => "VideoOutput"
  | .capture true => "VideoCaptureMplane"
  | .output true => "VideoOutputMplane"

def code : Queue → Nat
  | .capture false => 1
  | .output false => 2
  | .capture true => 9
  | .output true => 10

def isCapture : Queue → Bool
  | .capture _ => true
  | .output _ => false

def all : List Queue := [.capture false, .output false, .capture true, .output true]

def ofName? (text : String) : Option Queue := all.find? fun queue => queue.name = text

end Queue

end DecodeProbe
