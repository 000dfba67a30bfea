import ClusterOperator.Definition.Entity
import ClusterOperator.Startup

/-!
# The command line

Without arguments the operator starts under the environment of the process, and ends when it finds
no cluster to work on. With the argument `definitions` the definitions of the managed entities are
printed.
-/

namespace ClusterOperator

def readEnvironment : IO (Dict String String) := do
  let values ← environmentNames.filterMapM fun name => do
    return (← IO.getEnv name).map fun value => (name, value)
  return Dict.ofList values

def runOperator : IO UInt32 := do
  let start := startUp (← readEnvironment).get?
  if start.announced then IO.println startRecord
  IO.eprintln (start.line?.getD "Error: no cluster found")
  return UInt32.ofNat start.exitCode

def printDefinitions : IO UInt32 := do
  IO.print definitionStream
  return 0

end ClusterOperator

def main (args : List String) : IO UInt32 :=
  match args with
  | ["definitions"] => ClusterOperator.printDefinitions
  | _ => ClusterOperator.runOperator
