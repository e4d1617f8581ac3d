/-!
# Failures of the dynamic loader

Why a shared library could not be loaded.
-/

namespace DecodeProbe

inductive LoadError where
  | notFound (file : String)
  | tooShort (file : String)
  | invalidHeader (file : String)
  /-- A library name with a NUL byte inside. -/
  | nulInName
  /-- The loader failed and left no message. -/
  | unreported
  | other (text : String)
  deriving DecidableEq, Repr

def LoadError.text : LoadError → String
  | .notFound file => file ++ ": cannot open shared object file: No such file or directory"
  | .tooShort file => file ++ ": file too short"
  | .invalidHeader file => file ++ ": invalid ELF header"
  | .nulInName => "could not create a C string from bytes"
  | .unreported => "dlopen failed, but system did not report the error"
  | .other text => text

end DecodeProbe
