import ChartLint.Command

/-!
The command line.
-/
namespace ChartLint

def usage : String :=
  "usage: chartlint [--output pretty|json] [--catalog FILE] " ++
    "(lint FILE | tree FILE | strip-comments FILE | explain ID)\n"

/-- The text of a file, or why it can not be read. -/
def readFile (file : String) : IO (Except String String) := do
  try
    return .ok (← IO.FS.readFile file)
  catch
    | .noFileOrDirectory .. => return .error "No such file or directory (os error 2)"
    | error => return .error (toString error)

/-- The files that an invocation may read. -/
def openFiles (invocation : Invocation) : IO Files := do
  let stdin ←
    if invocation.inputFile? == some "-" then (← IO.getStdin).readToEnd else pure ""
  let names := invocation.inputFile?.toList.filter (· != "-") ++ invocation.catalogFile.toList
  let texts ← names.mapM fun name => return (name, ← readFile name)
  return {
    stdin
    read := fun name => ((texts.find? fun entry => entry.1 == name).map Prod.snd).getD (.error "") }

def printReport (report : Report) : IO Unit := do
  IO.eprintln report.head
  IO.eprintln s!"  at {report.place}: {report.label}"
  if let some help := report.help then IO.eprintln s!"  help: {help}"

end ChartLint

open ChartLint in
def main (arguments : List String) : IO UInt32 := do
  match Invocation.ofWords? arguments with
  | none =>
    IO.eprint usage
    return 2
  | some invocation =>
    let files ← openFiles invocation
    let output := invocation.run files (← (← IO.getStdout).isTty)
    IO.print output.stdout
    output.reports.forM printReport
    IO.eprint output.stderr
    return output.exitCode.toUInt32
