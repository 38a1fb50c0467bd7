import CircuitSheet.CommandLine.Run

/-!
# The program

The outermost layer: files of the system, and the streams of the process.
-/

namespace CircuitSheet

/-- Why an operation of the system failed. -/
def systemReason (cause : IO.Error) : String :=
  match cause with
  | .noFileOrDirectory _ code details => details ++ " (os error " ++ toString code ++ ")"
  | .noSuchThing _ code details => details ++ " (os error " ++ toString code ++ ")"
  | .permissionDenied _ code details => details ++ " (os error " ++ toString code ++ ")"
  | .inappropriateType _ code details => details ++ " (os error " ++ toString code ++ ")"
  | .resourceExhausted _ code details => details ++ " (os error " ++ toString code ++ ")"
  | other => toString other

/-- Access to the files of the system. -/
def systemFiles : FileAccess IO where
  read path := do
    match ← (IO.FS.readBinFile path).toBaseIO with
    | .error cause => return .error (systemReason cause)
    | .ok bytes =>
        match String.fromUTF8? bytes with
        | some text => return .ok text.toList
        | none => return .error "stream did not contain valid UTF-8"
  write path text := do
    match ← (IO.FS.writeFile path (String.ofList text)).toBaseIO with
    | .error cause => return .error (systemReason cause)
    | .ok () => return .ok ()

end CircuitSheet

/-- Run the command line of the process. -/
def main (arguments : List String) : IO UInt32 := do
  let outcome ← CircuitSheet.CommandLine.run CircuitSheet.systemFiles arguments
  IO.print outcome.output
  IO.eprint outcome.errors
  return outcome.code.toUInt32
