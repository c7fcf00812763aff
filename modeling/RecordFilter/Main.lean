import RecordFilter.Command.Run

/-!
# The program

Arguments, the environment and files come in, and an outcome goes out. What is done with them is
`Command.run`.
-/

namespace RecordFilter

/-- Why the system did not read or write a file. Codes come with either sign. -/
def FileFault.ofError : IO.Error → FileFault
  | .noFileOrDirectory .. => .missing
  | .inappropriateType _ code _ =>
    if code = 20 ∨ code = 0 - 20 then .notDirectory else .isDirectory
  | e@(.invalidArgument _ code _) =>
    if code = 36 ∨ code = 0 - 36 then .nameTooLong else .other (toString e)
  | e => .other (toString e)

namespace Command

/-- The system of the process. -/
def host : System IO where
  read path := return (← (IO.FS.readBinFile path).toBaseIO).mapError .ofError
  write path bytes := return (← (IO.FS.writeBinFile path bytes).toBaseIO).mapError .ofError
  print text := do
    let stdout ← IO.getStdout
    match ← (do stdout.putStr text; stdout.flush : IO Unit).toBaseIO with
    -- an output that is not open takes everything
    | .ok () | .error (.invalidArgument ..) => return .ok ()
    | .error e => return .error (.ofError e)

/-- Shows what else there is to an outcome, and what the program returns for it. -/
def Outcome.emit (o : Outcome) : IO UInt32 := do
  for e in o.events do
    IO.eprintln e.toJson.compact
  if let some f := o.failure? then
    IO.eprintln f.report
  if o.code = 2 then
    IO.eprintln usage
  return UInt32.ofNat o.code

end Command

end RecordFilter

/-- Runs the program with the arguments of the process. -/
def main (args : List String) : IO UInt32 := do
  let terminal ← (← IO.getStdout).isTty
  let settings? ← IO.getEnv "REST_FILTER_CONFIG"
  let outcome ← RecordFilter.Command.run RecordFilter.Command.host ⟨settings?, terminal⟩ args
  outcome.emit
