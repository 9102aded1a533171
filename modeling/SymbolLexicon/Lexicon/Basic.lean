/-
# SymbolLexicon.Lexicon.Basic — classes and their members, and how they are added.

A LEXICON holds classes and, in each class, fields and methods. Each of them has a naming: one
slot for each namespace of the lexicon, with a name in the first one. A class is known by its name
in any namespace; a member of a class by its name in any namespace together with its descriptor.
Descriptors are stored in the first namespace only.

An addition is refused when it does not fit the namespaces or takes a key that is taken, and a
refused addition leaves no trace. `ofHistory` is the lexicon after a list of attempts, the refused
ones among them included.
-/
import SymbolLexicon.Descriptor.Rename
import SymbolLexicon.Naming
import SymbolLexicon.Register

namespace SymbolLexicon

/-! ## Entries -/

/-- A field or method: its descriptor in the first namespace, and its names. -/
structure MemberEntry where
  descriptor : Text
  naming : Naming
deriving DecidableEq

/-- A name with a descriptor. Within a class and a kind, a signature identifies a member. -/
structure Signature where
  name : Text
  descriptor : Text
deriving DecidableEq

namespace Signature

/-- Signatures are ordered by name, then by descriptor. -/
instance : Ord Signature :=
  ⟨compareLex (compareOn Signature.name) (compareOn Signature.descriptor)⟩

instance : Std.TransOrd Signature :=
  inferInstanceAs
    (Std.TransCmp (compareLex (compareOn Signature.name) (compareOn Signature.descriptor)))

instance : Std.LawfulEqOrd Signature where
  compare_self {s} := by
    change (compare s.name s.name).then (compare s.descriptor s.descriptor) = .eq
    simp
  eq_of_compare {s t} h := by
    obtain ⟨n, d⟩ := s
    obtain ⟨n', d'⟩ := t
    replace h : (compare n n').then (compare d d') = .eq := h
    obtain ⟨hn, hd⟩ := Ordering.then_eq_eq.mp h
    cases Std.LawfulEqOrd.eq_of_compare hn
    cases Std.LawfulEqOrd.eq_of_compare hd
    rfl

end Signature

/-- The keys of a member are its signatures: each of its names with the stored descriptor. -/
instance : Keyed Signature MemberEntry where
  keys e := e.naming.slots.map (Option.map fun name => ⟨name, e.descriptor⟩)

/-- The fields or the methods of one class. -/
abbrev Members := Register Signature MemberEntry

/-- A class: its names, its fields and its methods. -/
structure ClassEntry where
  naming : Naming
  fields : Members
  methods : Members

/-- A class is found by each of its names. -/
instance : Keyed Text ClassEntry where
  keys e := e.naming.slots

namespace ClassEntry

/-- A class without members. -/
def ofNaming (naming : Naming) : ClassEntry := ⟨naming, .empty, .empty⟩

/-- The members of one kind. -/
def members (e : ClassEntry) : MemberKind → Members
  | .field => e.fields
  | .method => e.methods

/-- The class with other members of one kind. -/
def withMembers (e : ClassEntry) : MemberKind → Members → ClassEntry
  | .field, ms => ⟨e.naming, ms, e.methods⟩
  | .method, ms => ⟨e.naming, e.fields, ms⟩

/-- Other members do not change the names. -/
theorem naming_withMembers (e : ClassEntry) (kind : MemberKind) (ms : Members) :
    (e.withMembers kind ms).naming = e.naming := by
  cases kind <;> rfl

/-- The members of a kind are those that were put there. -/
theorem members_withMembers (e : ClassEntry) (kind : MemberKind) (ms : Members) :
    (e.withMembers kind ms).members kind = ms := by
  cases kind <;> rfl

/-- The members of the other kind stay. -/
theorem members_withMembers_of_ne (e : ClassEntry) {kind other : MemberKind} (h : other ≠ kind)
    (ms : Members) : (e.withMembers kind ms).members other = e.members other := by
  cases kind with
  | field =>
    cases other with
    | field => exact absurd rfl h
    | method => rfl
  | method =>
    cases other with
    | field => rfl
    | method => exact absurd rfl h

end ClassEntry

/-! ## Lexicons -/

/-- Namespaces, and classes with names in them. -/
structure Lexicon where
  namespaces : Namespaces
  classes : Register Text ClassEntry

/-- A request to add something. -/
inductive Addition where
  /-- Add a class with these names. -/
  | ofClass (naming : Naming)
  /-- Add a member to the class `owner`. Owner and descriptor are in the first namespace. -/
  | ofMember (kind : MemberKind) (owner : Text) (naming : Naming) (descriptor : Text)
deriving DecidableEq

namespace Lexicon

/-- A lexicon without classes. -/
def empty (nss : Namespaces) : Lexicon := ⟨nss, .empty⟩

/-- Add a class. Its naming must fit, and none of its names may be taken by another class in the
same namespace. -/
def addClass (l : Lexicon) (naming : Naming) : Except Error Lexicon := do
  naming.checkFor l.namespaces
  match l.classes.add (ClassEntry.ofNaming naming) with
  | .ok classes => return ⟨l.namespaces, classes⟩
  | .error clash =>
    throw (.of (.classExists naming.slots clash.key clash.held.naming.slots))

/-- Put a member into a class that is already there. The naming must fit, the descriptor must be one
of the right kind, and none of its signatures may be taken by another member of that kind in the
class. -/
def putMember (l : Lexicon) (kind : MemberKind) (owner : Text) (naming : Naming)
    (descriptor : Text) : Except Error Lexicon := do
  naming.checkFor l.namespaces
  let found ← Descriptor.check descriptor
  if found ≠ kind then
    throw (.of (.wrongKind kind descriptor))
  match l.classes.find? .first owner with
  | none => throw (.of (.unknownOwner owner))
  | some entry =>
    match (entry.members kind).add ⟨descriptor, naming⟩ with
    | .ok ms =>
      return ⟨l.namespaces, l.classes.replace .first owner (entry.withMembers kind ms)⟩
    | .error clash =>
      throw (.of (.memberExists clash.key.name descriptor clash.held.descriptor
        clash.held.naming.slots))

/-- Add a member to a class. A refusal is reported in the context of the owner. -/
def addMember (l : Lexicon) (kind : MemberKind) (owner : Text) (naming : Naming)
    (descriptor : Text) : Except Error Lexicon :=
  (l.putMember kind owner naming descriptor).mapError (Error.within (.adding kind owner))

/-- Carry out an addition. -/
def add (l : Lexicon) : Addition → Except Error Lexicon
  | .ofClass naming => l.addClass naming
  | .ofMember kind owner naming descriptor => l.addMember kind owner naming descriptor

/-! ## Histories -/

/-- The lexicon after an attempt to add something. -/
def attempt (l : Lexicon) (a : Addition) : Lexicon :=
  match l.add a with
  | .ok l' => l'
  | .error _ => l

/-- The lexicon after a list of attempts. -/
def ofHistory (nss : Namespaces) (as : List Addition) : Lexicon :=
  as.foldl attempt (empty nss)

/-- A lexicon that some list of attempts leads to. -/
def Reachable (l : Lexicon) : Prop := ∃ nss as, ofHistory nss as = l

/-- An empty lexicon is reached by no attempt at all. -/
theorem reachable_empty (nss : Namespaces) : (empty nss).Reachable := ⟨nss, [], rfl⟩

/-- One more attempt leads from a reachable lexicon to a reachable one. -/
theorem Reachable.attempt {l : Lexicon} (h : l.Reachable) (a : Addition) :
    (l.attempt a).Reachable := by
  obtain ⟨nss, as, rfl⟩ := h
  exact ⟨nss, as ++ [a], by simp [ofHistory]⟩

end Lexicon

end SymbolLexicon
