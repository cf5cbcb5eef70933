import SlotAsm.Console

/-!
The command line as a program. It reads the file and writes each piece of output as soon as the
machine has come so far; what it writes is determined by `Console.start` and `Console.proceed`.
-/

namespace SlotAsm.Console

/-- The system's report of a file that cannot be read. -/
def ReadError.ofError : IO.Error → ReadError
  | .noFileOrDirectory _ code details => .system details code.toNat
  | .inappropriateType _ code details => .system details code.toNat
  | .permissionDenied _ code details => .system details code.toNat
  | .resourceExhausted _ code details => .system details code.toNat
  | .invalidArgument _ code details => .system details code.toNat
  | error => .system (toString error) 5

/-- Reads what the first argument names; the other arguments are ignored. -/
def readInput : List String → IO Input
  | [] => return .sample
  | path :: _ => do
    match ← (IO.FS.withFile path .read fun file => file.readBinToEnd).toBaseIO with
    | .error error => return .file path (.error (.ofError error))
    | .ok bytes =>
      match String.fromUTF8? bytes with
      | none => return .file path (.error .notUnicode)
      | some text => return .file path (.ok text)

/-- Writes a piece of output and goes on to the end of the run. -/
partial def play (progress : Progress) : IO UInt32 := do
  IO.print progress.output
  match progress.stage with
  | .running machine => play (proceed machine)
  | .done errors exitCode =>
    IO.eprint errors
    return exitCode.toUInt32
  | .aborted errors =>
    IO.eprint errors
    return abortCode.toUInt32

end SlotAsm.Console

/-- Runs the program that the arguments name. -/
def main (args : List String) : IO UInt32 := do
  let input ← SlotAsm.Console.readInput args
  SlotAsm.Console.play (SlotAsm.Console.start input)
