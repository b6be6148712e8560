import CellScript.Command.Convert
import CellScript.Command.Help
import CellScript.Config.Schema
import CellScript.Config.Write

set_option autoImplicit false

/-! # The program

`run` carries out what the arguments ask for and gives the exit status: `0` for success, `1` for a
command that failed, `2` for arguments that are not understood. -/

namespace CellScript.Command

variable {m : Type → Type} [Monad m]

/-- Carry out `init`: write a sample configuration, or print the schema of configurations. -/
def runInit (h : Host m) (r : Report) (q : InitRequest) : ExceptT Failure m Unit := do
  if q.schema then h.print (Config.schema.write ++ ['\n'])
  else
    let present := (← h.isFile q.output) || (← h.isDirectory q.output)
    if present && !q.force then throw (.configPresent q.output)
    writeFile h q.output Config.sample.text
    ExceptT.lift (printLine h r q.output)

/-- Carry out a request. -/
def carryOut (h : Host m) (r : Report) : Request → ExceptT Failure m Unit
  | .convert q => runConvert h r q
  | .init q => runInit h r q

/-- The exit status of a request, after its failure was reported. -/
def finish (h : Host m) (result : Except Failure Unit) : m Nat :=
  match result with
  | .ok () => pure 0
  | .error e => do
    h.printError ("Error: ".toList ++ e.message ++ ['\n'])
    pure 1

/-- Run the program. -/
def run (h : Host m) (args : List Text) : m Nat :=
  match Arguments.parse args with
  | .error .usage => do
    h.printError usageText
    pure 2
  | .error .help => do
    h.print helpText
    pure 0
  | .error .version => do
    h.print versionText
    pure 0
  | .ok a => do
    let result ← (carryOut h a.report a.request).run
    finish h result

end CellScript.Command
