import Balancer.Cli.Run
import Balancer.Document.Script
import Balancer.Json.Reader

/-!
The program: runs its command line against the provider that a script on the standard input tells.
Without a script the provider answers every request with an empty record.
-/

namespace Balancer.Program

/-- The script that a document tells. -/
def readScript (document : String) : Except String Script :=
  if (Json.skipBlanks document.toList).isEmpty then .ok ⟨[], none, none⟩
  else
    match Json.read document with
    | none => .error "the script is no JSON document"
    | some v =>
      match Script.ofDocument v with
      | .ok script => .ok script
      | .error r => .error r.message

/-- The log of a run as far as it has a text and the weight that was asked for. -/
def logText (report : Cli.Report) : String :=
  let shown := report.logs.filter fun entry =>
    report.logLevels.any fun level => level.weight ≤ entry.level.weight
  Cli.lines (shown.filterMap fun entry =>
    entry.text?.map fun s => entry.level.name ++ " " ++ LogEntry.source ++ ": " ++ s)

/-- All that a run writes about errors. -/
def errorText (report : Cli.Report) : String :=
  logText report ++ report.printed.errors ++
    (report.printed.escaped.map fun f => Cli.line f.text).getD ""

end Balancer.Program

open Balancer in
def main (words : List String) : IO UInt32 := do
  let env : Cli.Environment :=
    ⟨← IO.getEnv Name.environmentVariable, ← IO.getEnv "APILB_REGION",
      ← IO.getEnv "APILB_ENDPOINT_URL"⟩
  let document ← (← IO.getStdin).readToEnd
  match Program.readScript document with
  | .error reason =>
    (← IO.getStderr).putStrLn reason
    return 1
  | .ok script =>
    let report := Cli.run env script words
    (← IO.getStdout).putStr report.printed.output
    (← IO.getStderr).putStr (Program.errorText report)
    return report.printed.exitCode.toUInt32
