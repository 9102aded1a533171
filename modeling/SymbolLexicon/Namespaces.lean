/-
# SymbolLexicon.Namespaces — the namespaces of a lexicon, by index and by name.

There are at least two namespaces, each has a name, and no two have the same name. The type
carries these facts, and `ofList` establishes them or says which of them fails first. Hence names
and indices determine each other: `find` and `get` are inverse to each other.
-/
import SymbolLexicon.Error

namespace SymbolLexicon

/-! ## Repetitions in a list -/

/-- The first item that is among the `seen` ones or repeats an item before it. -/
def firstRepeat? {α : Type} [DecidableEq α] (seen : List α) : List α → Option α
  | [] => none
  | x :: xs => if x ∈ seen then some x else firstRepeat? (x :: seen) xs

/-- No item is found exactly when all are distinct and none is among the seen ones. -/
theorem firstRepeat?_eq_none_iff {α : Type} [DecidableEq α] {seen xs : List α} :
    firstRepeat? seen xs = none ↔ xs.Nodup ∧ ∀ x ∈ xs, x ∉ seen := by
  induction xs generalizing seen with
  | nil => simp [firstRepeat?]
  | cons x xs ih =>
    by_cases h : x ∈ seen
    · simp [firstRepeat?, h]
    · simp only [firstRepeat?, h, if_false, ih, List.nodup_cons, List.mem_cons]
      grind

/-! ## Namespaces -/

/-- The names of the namespaces, in the order of their indices. -/
structure Namespaces where
  names : List String
  two_le_length : 2 ≤ names.length
  forall_ne_empty : "" ∉ names
  nodup : names.Nodup
deriving DecidableEq

namespace Namespaces

/-- Namespaces with the given names. Too few names are reported before an empty one, and that before
the first repeated one. -/
def ofList (names : List String) : Except Error Namespaces :=
  if hlen : names.length < 2 then .error (.of (.tooFewNamespaces names))
  else if hempty : "" ∈ names then .error (.of (.unnamedNamespace names))
  else
    match hrep : firstRepeat? [] names with
    | some name => .error (.of (.repeatedNamespace name names))
    | none => .ok ⟨names, Nat.le_of_not_lt hlen, hempty, (firstRepeat?_eq_none_iff.mp hrep).1⟩

/-- The number of namespaces. -/
def size (nss : Namespaces) : Nat := nss.names.length

/-- The namespaces in messages. -/
def shown (nss : Namespaces) : String := quotedStrings nss.names

/-- The namespace is one of these. -/
def Has (nss : Namespaces) (ns : Namespace) : Prop := ns.index < nss.size

instance (nss : Namespaces) (ns : Namespace) : Decidable (nss.Has ns) :=
  inferInstanceAs (Decidable (_ < _))

/-- The name of a namespace. -/
def get (nss : Namespaces) (ns : Namespace) : Except Error String :=
  match nss.names[ns.index]? with
  | some name => .ok name
  | none => .error (.of (.namespaceOutOfRange ns nss.names))

/-- The namespace with the given name. -/
def find (nss : Namespaces) (name : String) : Except Error Namespace :=
  match nss.names.idxOf? name with
  | some i => .ok ⟨i⟩
  | none => .error (.of (.unknownNamespace name nss.names))

/-- Refuse a namespace that is none of these. -/
def check (nss : Namespaces) (ns : Namespace) : Except Error Unit :=
  if nss.Has ns then .ok () else .error (.of (.namespaceOutOfRange ns nss.names))

/-- Refuse these namespaces unless their names are the given ones, in order. -/
def expect (nss : Namespaces) (names : List String) : Except Error Unit :=
  if nss.names = names then .ok () else .error (.of (.otherNamespaces names nss.names))

/-- The check lets pass what is one of these. -/
theorem check_eq_ok {nss : Namespaces} {ns : Namespace} (h : nss.Has ns) : nss.check ns = .ok () :=
  if_pos h

/-- The check refuses everything else. -/
theorem check_eq_error {nss : Namespaces} {ns : Namespace} (h : ¬ nss.Has ns) :
    nss.check ns = .error (.of (.namespaceOutOfRange ns nss.names)) :=
  if_neg h

/-- The first namespace is always there. -/
theorem has_first (nss : Namespaces) : nss.Has .first :=
  Nat.lt_of_lt_of_le Nat.zero_lt_two nss.two_le_length

end Namespaces

end SymbolLexicon
