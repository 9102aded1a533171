/-
# SymbolLexicon.Lexicon.Find — members by owner, name and descriptor, in any namespace.

A reference gives all its parts in ONE namespace. In the first namespace, where descriptors are
stored, the descriptor is only checked; from any other it is renamed to the first namespace before
the member is sought by its name there and that descriptor. A class that is not there is recorded
and answered with no member, whatever the rest of the reference.
-/
import SymbolLexicon.Lexicon.Rename
import SymbolLexicon.Log

namespace SymbolLexicon.Lexicon

/-- The descriptor in the first namespace of a member that is sought with the given reference. -/
def storedDescriptor (l : Lexicon) (kind : MemberKind) (sought : Reference) (ns : Namespace) :
    Except Error Text :=
  if ns = .first then
    match Descriptor.check sought.descriptor with
    | .ok _ => .ok sought.descriptor
    | .error e => .error (e.within (.lookingUp kind sought.name sought.owner))
  else l.renameDescriptor sought.descriptor ns .first

/-- The member of the given kind with the given reference in a namespace. -/
def findMember (l : Lexicon) (kind : MemberKind) (sought : Reference) (ns : Namespace) :
    Traced (Option MemberEntry) := do
  match ← l.findClass sought.owner ns with
  | none =>
    Traced.emit (.ownerMissing kind sought ns)
    return none
  | some entry =>
    let descriptor ← l.storedDescriptor kind sought ns
    return (entry.members kind).find? ns ⟨sought.name, descriptor⟩

end SymbolLexicon.Lexicon
