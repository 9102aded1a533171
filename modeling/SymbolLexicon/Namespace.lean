/-
# SymbolLexicon.Namespace — a namespace is an index, and slots hold one optional name for each.

The same class or member goes by different names in different NAMESPACES. A namespace is only an
index: naming one never fails, and it is the use of an index that checks its range. The names of
one thing are a list of SLOTS, one for each namespace in order; an empty slot means that the thing
has no name there.
-/
import SymbolLexicon.Text.Quoted

namespace SymbolLexicon

/-! ## Namespaces -/

/-- The position of a namespace among all of them. -/
structure Namespace where
  index : Nat
deriving DecidableEq

namespace Namespace

/-- The namespace in which every class and member must have a name, and in which descriptors are
stored. -/
def first : Namespace := ⟨0⟩

/-- A namespace in messages. -/
def shown (ns : Namespace) : String := s!"Namespace({ns.index})"

end Namespace

/-! ## Slots -/

/-- For each namespace, in order, a name or none. -/
abbrev Slots := List (Option Text)

namespace Slots

/-- The name in a namespace. There is none where the slot is empty or missing. -/
def name? (slots : Slots) (ns : Namespace) : Option Text := slots[ns.index]?.join

/-- One slot in messages. -/
def shownSlot : Option Text → String
  | none => "None"
  | some name => "Some(" ++ Text.quoted name ++ ")"

/-- Slots in messages. -/
def shown (slots : Slots) : String := bracketed (slots.map shownSlot)

/-- A name stands in a namespace exactly when its slot is there and holds it. -/
theorem name?_eq_some_iff {slots : Slots} {ns : Namespace} {name : Text} :
    name? slots ns = some name ↔ slots[ns.index]? = some (some name) := by
  simp [name?, Option.join_eq_some_iff]

end Slots

end SymbolLexicon
