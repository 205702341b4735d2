import SqlBuilder.CommandLine.Run

/-! # The program -/

/-- Runs the command line and prints what it reports. -/
def main (arguments : List String) : IO UInt32 := do
  let report := SqlBuilder.CommandLine.run arguments
  for line in report.output do
    IO.println line
  for line in report.complaint do
    IO.eprintln line
  return UInt32.ofNat report.exit
