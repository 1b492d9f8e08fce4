import ContactHistory.CommandLine.Run

namespace ContactHistory

/-- The variables that the settings are read from. -/
def readEnvironment : IO Environment := do
  let known ← Settings.names.mapM fun n => return (n, ← IO.getEnv n)
  return fun n =>
    match known.lookup n with
    | some (some s) => .text s
    | _ => .unset

end ContactHistory

open ContactHistory in
/-- No server of a database is known, so every command that needs one fails to connect. -/
def main (args : List String) : IO UInt32 := do
  let network : Network := ⟨[], fun _ => .poolTimedOut⟩
  let ending := CommandLine.run ⟨← readEnvironment, network, Instant.epoch⟩ args
  IO.print ending.output
  IO.eprint ending.errors
  return .ofNat (ending.code?.getD 0)
