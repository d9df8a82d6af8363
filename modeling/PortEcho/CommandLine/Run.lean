import PortEcho.Journal

/-!
What a program leaves when it runs: its journal, the text on its error output, and the status that
it ends with. Its standard output is the lines of its journal.
-/

namespace PortEcho.CommandLine

structure Run where
  journal : Journal := []
  errors : String := ""
  /-- None while the program still runs. -/
  status : Option Nat
  deriving Inhabited

namespace Run

def output (r : Run) : String := String.join r.journal.lines

/-- A program that ends because of an error, which it shows. -/
def failed (j : Journal) (detail : String) : Run := ⟨j, "Error: " ++ detail ++ "\n", some 1⟩

end Run

end PortEcho.CommandLine
