import DecodeProbe.Run

/-!
# The command

The first argument names the tool, the others are its own.  The command runs on
a bare machine, where no video node and no codec library can be reached.
-/

open DecodeProbe

def variableBytes (name : String) : IO (Option Text.Utf8.Bytes) := do
  return (← IO.getEnv name).map Text.Utf8.bytes

def main (arguments : List String) : IO UInt32 := do
  match arguments with
  | name :: rest =>
      match Tool.ofName? name with
      | some tool =>
          let environment : Log.Environment :=
            { debugSwitch := ← variableBytes Log.debugVariable,
              filterText := ← variableBytes Log.filterVariable }
          let outcome := run tool (rest.map Text.Utf8.bytes) environment .bare .writable
          (← IO.getStderr).putStr outcome.stderr
          let stdout ← IO.getStdout
          stdout.write ⟨outcome.ending.stdout.toArray⟩
          stdout.flush
          return UInt32.ofNat outcome.ending.exitCode
      | none =>
          (← IO.getStderr).putStrLn ("error: no tool is named " ++ name)
          return 2
  | [] =>
      (← IO.getStderr).putStrLn "error: the first argument names the tool"
      return 2
