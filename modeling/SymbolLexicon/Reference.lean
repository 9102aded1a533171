/-
# SymbolLexicon.Reference — a field or method as code refers to it.

Code names a member by its class, its own name and its descriptor. The three parts of a reference
are always meant in ONE namespace, which the reference itself does not say.
-/
import SymbolLexicon.Text.Quoted

namespace SymbolLexicon

/-- The class, the name and the descriptor of a member. -/
structure Reference where
  owner : Text
  name : Text
  descriptor : Text
deriving DecidableEq

/-- The three parts of a reference in messages. -/
def Reference.shown (sought : Reference) : String :=
  s!"{Text.quoted sought.owner} {Text.quoted sought.name} {Text.quoted sought.descriptor}"

end SymbolLexicon
