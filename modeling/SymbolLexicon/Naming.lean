/-
# SymbolLexicon.Naming — the names of one class, field or method.

A naming is a list of slots in which no name is empty. It knows nothing of the namespaces that it
is meant for; `checkFor` compares the two when an entry is about to be added.
-/
import SymbolLexicon.Namespaces

namespace SymbolLexicon

/-! ## Namings -/

/-- Slots in which no name is empty. -/
structure Naming where
  slots : Slots
  forall_ne_empty : some [] ∉ slots
deriving DecidableEq

namespace Naming

/-- A naming with the given slots, if none of them holds an empty name. -/
def ofSlots (slots : Slots) : Except Error Naming :=
  if h : some [] ∈ slots then .error (.of (.emptyName slots)) else .ok ⟨slots, h⟩

/-- A string as a slot: the empty string is an empty slot. -/
def slotOf (s : String) : Option Text :=
  match Text.ofString s with
  | [] => none
  | c :: rest => some (c :: rest)

theorem slotOf_ne (s : String) : slotOf s ≠ some [] := by
  unfold slotOf
  split <;> simp

/-- A naming with one slot for each string. -/
def ofStrings (ss : List String) : Naming where
  slots := ss.map slotOf
  forall_ne_empty h := by
    obtain ⟨s, -, hs⟩ := List.mem_map.mp h
    exact slotOf_ne s hs

/-- The name in a namespace. There is none where the slot is empty or missing. -/
def name? (n : Naming) (ns : Namespace) : Option Text := Slots.name? n.slots ns

/-- The name in a namespace, if there is one; a missing slot is refused. -/
def get (n : Naming) (ns : Namespace) : Except Error (Option Text) :=
  match n.slots[ns.index]? with
  | some slot => .ok slot
  | none => .error (.of (.slotOutOfRange ns n.slots))

/-- The naming in messages. -/
def shown (n : Naming) : String := Slots.shown n.slots

/-- Refuse a naming that has not one slot for each namespace or has no name in the first one. -/
def checkFor (n : Naming) (nss : Namespaces) : Except Error Unit :=
  if n.slots.length ≠ nss.size then .error (.of (.slotCount nss.names n.slots))
  else if n.name? .first = none then .error (.of (.noFirstName n.slots))
  else .ok ()

/-- A slot that is there is answered by the name in it. -/
theorem get_eq_ok {n : Naming} {ns : Namespace} (h : ns.index < n.slots.length) :
    n.get ns = .ok (n.name? ns) := by
  simp [get, name?, Slots.name?, List.getElem?_eq_getElem h]

theorem get_eq_error {n : Naming} {ns : Namespace} (h : ¬ ns.index < n.slots.length) :
    n.get ns = .error (.of (.slotOutOfRange ns n.slots)) := by
  simp [get, List.getElem?_eq_none (Nat.le_of_not_lt h)]

theorem get_of_name? {n : Naming} {ns : Namespace} {name : Text} (h : n.name? ns = some name) :
    n.get ns = .ok (some name) := by
  have hslot : n.slots[ns.index]? = some (some name) := Slots.name?_eq_some_iff.mp h
  simp [get, hslot]

/-- A naming fits the namespaces when it has one slot for each and a name in the first. -/
theorem checkFor_eq_ok_iff {n : Naming} {nss : Namespaces} :
    n.checkFor nss = .ok () ↔ n.slots.length = nss.size ∧ n.name? .first ≠ none := by
  unfold checkFor
  split
  · simp_all
  · split <;> simp_all

end Naming

end SymbolLexicon
