/-
# SymbolLexicon.Renaming — everything that code names, from a source to a target namespace.

A RENAMING is a lexicon with a source and a target namespace. It renames classes and descriptors
in both directions, member names, and whole references to members. Making one checks nothing:
namespaces that the lexicon does not have are refused by the first request that needs them.

A member that is not found, or that has no name in the target, keeps its name; either case is
recorded. So a name is lost in no case, and the only errors are those of the lexicon.
-/
import SymbolLexicon.Lexicon.Find

namespace SymbolLexicon

/-- A lexicon, read from a source to a target namespace. -/
structure Renaming where
  lexicon : Lexicon
  source : Namespace
  target : Namespace

namespace Renaming

/-! ## Making renamings -/

/-- The renaming from one namespace to another. -/
def between (l : Lexicon) (source target : Namespace) : Traced Renaming := do
  Traced.emit (.created source target)
  return ⟨l, source, target⟩

/-- The renaming between the namespaces with the given names. -/
def betweenNamed (l : Lexicon) (source target : String) : Traced Renaming := do
  let source ← l.namespaces.find source
  let target ← l.namespaces.find target
  between l source target

/-- The renaming in the opposite direction. -/
def reversed (r : Renaming) : Traced Renaming := between r.lexicon r.target r.source

/-! ## Classes and descriptors -/

/-- Rename a class. -/
def className (r : Renaming) (name : Text) : Except Error Text :=
  r.lexicon.renameClass name r.source r.target

/-- Rename a class in the opposite direction. -/
def classNameBack (r : Renaming) (name : Text) : Except Error Text :=
  r.lexicon.renameClass name r.target r.source

/-- Rename the classes in a descriptor. -/
def descriptor (r : Renaming) (descriptor : Text) : Except Error Text :=
  r.lexicon.renameDescriptor descriptor r.source r.target

/-- Rename the classes in a descriptor in the opposite direction. -/
def descriptorBack (r : Renaming) (descriptor : Text) : Except Error Text :=
  r.lexicon.renameDescriptor descriptor r.target r.source

/-! ## Members -/

/-- The name that a member has in the target, if it was found and has one there; else the name it
was sought by. -/
def targetName (r : Renaming) (sought : Reference) : Option MemberEntry → Traced Text
  | none => do
    Traced.emit (.memberMissing sought r.source)
    return sought.name
  | some member => do
    match ← member.naming.get r.target with
    | some name => return name
    | none =>
      Traced.emit (.nameMissing sought r.target)
      return sought.name

/-- Rename a member. The reference is in the source namespace. -/
def memberName (r : Renaming) (kind : MemberKind) (sought : Reference) : Traced Text := do
  r.targetName sought (← r.lexicon.findMember kind sought r.source)

/-- Rename a reference to a member: the name first, then the owner, then the descriptor. -/
def reference (r : Renaming) (kind : MemberKind) (sought : Reference) : Traced Reference := do
  let name ← r.memberName kind sought
  let owner ← r.className sought.owner
  let descriptor ← r.descriptor sought.descriptor
  return ⟨owner, name, descriptor⟩

end Renaming

end SymbolLexicon
