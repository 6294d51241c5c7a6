import StagedLoad.Demo

/-!
# The command line

Prints the demonstration.
-/

def main : IO UInt32 := do
  match StagedLoad.Demo.text.outcome with
  | .ok text =>
    IO.print text
    return 0
  | .error problem =>
    IO.eprintln ("Error: " ++ problem.message)
    return 1
