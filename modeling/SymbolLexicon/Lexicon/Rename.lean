/-
# SymbolLexicon.Lexicon.Rename — class names and descriptors, from one namespace to another.

A class name without an entry, or whose class has no name in the target, stays as it is: this is
no error. An array class name starts with `[` and is renamed as the field descriptor that it is.

The class names inside a descriptor never start with `[`, so renaming a descriptor never comes
back to renaming a descriptor. `renameElement` is the renaming of names that are no arrays; both
`renameDescriptor` and `renameClass` rest on it, and neither rests on the other in a circle.
-/
import SymbolLexicon.Lexicon.Basic

namespace SymbolLexicon.Lexicon

/-! ## Classes by name -/

/-- The class with the given name in a namespace. -/
def findClass (l : Lexicon) (name : Text) (ns : Namespace) : Except Error (Option ClassEntry) := do
  l.namespaces.check ns
  return l.classes.find? ns name

/-- In a namespace of the lexicon, the answer is that of the register. -/
theorem findClass_eq_ok {l : Lexicon} {ns : Namespace} (h : l.namespaces.Has ns) (name : Text) :
    l.findClass name ns = .ok (l.classes.find? ns name) := by
  rw [findClass, Namespaces.check_eq_ok h]
  rfl

/-- In any other namespace no class is sought. -/
theorem findClass_eq_error {l : Lexicon} {ns : Namespace} (h : ¬ l.namespaces.Has ns)
    (name : Text) :
    l.findClass name ns = .error (.of (.namespaceOutOfRange ns l.namespaces.names)) := by
  rw [findClass, Namespaces.check_eq_error h]
  rfl

/-! ## Renaming -/

/-- Rename a class that is no array. -/
def renameElement (l : Lexicon) (name : Text) (source target : Namespace) : Except Error Text := do
  if source = target then
    return name
  match ← l.findClass name source with
  | none => return name
  | some entry => return (← entry.naming.get target).getD name

/-- Rename the classes in a descriptor. -/
def renameDescriptor (l : Lexicon) (descriptor : Text) (source target : Namespace) :
    Except Error Text := do
  l.namespaces.check source
  l.namespaces.check target
  (Descriptor.rename (fun name => l.renameElement name source target) descriptor).mapError
    (Error.within (.renamingClasses descriptor source target))

/-- A class name that is really the descriptor of an array. -/
def isArrayName (name : Text) : Bool := name.head? = some (CodePoint.ofChar '[')

/-- Rename a class, array or not. -/
def renameClass (l : Lexicon) (name : Text) (source target : Namespace) : Except Error Text := do
  l.namespaces.check source
  l.namespaces.check target
  if isArrayName name then
    l.renameDescriptor name source target
  else
    l.renameElement name source target

end SymbolLexicon.Lexicon
