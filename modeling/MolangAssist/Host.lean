import MolangAssist.Files.Uri
import MolangAssist.Stack

/-!
# The host of the program

The program runs on an interpreter and leaves the reading of URIs to a library.
-/
namespace MolangAssist

open Files

/-- What the program runs on. -/
structure Host where
  stack : Stack
  uris : UriReader

/-- The usual stack, and URIs that are read by their parts. -/
def Host.usual : Host := ⟨.usual, Uri.reader⟩

end MolangAssist
