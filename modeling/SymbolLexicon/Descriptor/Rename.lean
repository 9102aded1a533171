/-
# SymbolLexicon.Descriptor.Rename — checking a descriptor, and replacing the class names in it.

`renameM` hands each class name to an action and puts the answer in its place. The action may fail
and may have effects of its own, and it is run on a class name as soon as that is complete: on a
text that turns out to be no descriptor, it has been run on the names `asked` before the fault. A
failure of the action ends the work at once and is seen from the place of the name.

`rename` is the case of an action without effects. `check` and `classNames` only read.
-/
import SymbolLexicon.Error

namespace SymbolLexicon.Descriptor

/-! ## Reading only -/

/-- The kind of the members that have the descriptor. -/
def check (s : Text) : Except Error MemberKind :=
  match read s with
  | .ok d => .ok d.kind
  | .error refusal => .error (refusal.reason.error s)

/-- The class names in the descriptor that the text is, left to right, one for each occurrence. -/
def classNamesOf (s : Text) : Except Error (List Text) :=
  match read s with
  | .ok d => .ok d.classNames
  | .error refusal => .error (refusal.reason.error s)

/-! ## Replacing class names -/

section Effects

variable {m : Type → Type} [Monad m]

/-- Run the action on a class name of the descriptor `s`. Its failure is seen from the place of the
name. -/
def ask (f : Text → ExceptT Error m Text) (s : Text) (place : Place) (name : Text) :
    ExceptT Error m Text :=
  ExceptT.adapt (Error.within (.reading place s)) (f name)

/-- The text of the descriptor with each class name replaced by the outcome of the action. -/
def renameM (f : Text → ExceptT Error m Text) (s : Text) : ExceptT Error m Text :=
  match read s with
  | .ok d => do return (← d.mapNamesM (ask f s)).text
  | .error refusal => do
    refusal.asked.forM fun (place, name) => do
      let _ ← ask f s place name
    throw (refusal.reason.error s)

end Effects

/-- The text of the descriptor with each class name replaced by the answer of the function. -/
def rename (f : Text → Except Error Text) (s : Text) : Except Error Text :=
  (renameM (m := Id) (fun name => ExceptT.mk (f name)) s).run

end SymbolLexicon.Descriptor
