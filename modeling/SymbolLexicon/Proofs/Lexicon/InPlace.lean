/-
# SymbolLexicon.Proofs.Lexicon.InPlace — additions carried out write by write.

`Register.add` and `Lexicon.add` answer the changed value or an error, so that an error cannot leave
anything behind. Here the same additions are carried out on a value that is CHANGED as they go:
first a pass that searches every slot of the new entry, then a pass that files its slots one after
the other, then the entry itself; and a member is put into the register of its class where that
stands.
An error ends the work and leaves what was written before it.

`Lexicon.addInPlace_atomic` says that the two ways agree. So every refusal comes before the first
write, the lexicon is left as it was, and a session of such additions leaves the lexicon that its
history describes.
-/
import SymbolLexicon.Lexicon.Basic
import SymbolLexicon.Proofs.InPlace

namespace SymbolLexicon

/-! ## Registers -/

namespace Register

variable {κ α : Type} [Ord κ]

/-- Refuse the first of the slots that is taken. -/
def searchInPlace : List (Slot κ) → InPlace (Register κ α) (Clash κ α) Unit
  | [] => pure ()
  | s :: slots => do
    match (← get).find? s.space s.key with
    | some held => throw ⟨s.key, held⟩
    | none => searchInPlace slots

/-- File the slots at one position, one after the other. -/
def fileInPlace (position : Nat) : List (Slot κ) → InPlace (Register κ α) (Clash κ α) Unit
  | [] => pure ()
  | s :: slots => do
    modify fun r => ⟨r.entries, r.index.insert s position⟩
    fileInPlace position slots

/-- Add an entry: search all its slots, file them, and put the entry at the end. -/
def addInPlace [Keyed κ α] (e : α) : InPlace (Register κ α) (Clash κ α) Unit := do
  searchInPlace (Keyed.slots e)
  fileInPlace (← get).entries.size (Keyed.slots e)
  modify fun r => ⟨r.entries.push e, r.index⟩

/-- The search writes nothing. -/
theorem searchInPlace_on (slots : List (Slot κ)) (r : Register κ α) :
    (searchInPlace slots).on r =
      match r.clash? slots with
      | some clash => (.error clash, r)
      | none => (.ok (), r) := by
  induction slots with
  | nil => rfl
  | cons s slots ih =>
    simp only [searchInPlace, InPlace.on_get_bind]
    cases hfind : r.find? s.space s.key with
    | some held =>
      simp only [clash?, List.findSome?_cons, hfind]
      rfl
    | none => simpa [clash?, hfind] using ih

theorem fileInPlace_on (position : Nat) (slots : List (Slot κ)) (r : Register κ α) :
    (fileInPlace position slots).on r =
      (.ok (), ⟨r.entries, indexAt r.index slots position⟩) := by
  induction slots generalizing r with
  | nil => rfl
  | cons s slots ih =>
    simp only [fileInPlace, InPlace.on_modify_bind, ih]
    rfl

/-- In place, an addition to a register ends as `add` says; a refused one has written nothing. -/
theorem addInPlace_atomic [Keyed κ α] (e : α) (r : Register κ α) :
    (addInPlace e).Atomic r (r.add e) := by
  simp only [InPlace.Atomic, addInPlace, add, InPlace.on_bind, searchInPlace_on]
  cases r.clash? (Keyed.slots e) with
  | some clash => rfl
  | none =>
    simp only [fileInPlace_on]
    rfl

/-- An entry in its own place changes nothing. -/
theorem replace_self {r : Register κ α} {ns : Namespace} {key : κ} {e : α}
    (h : r.find? ns key = some e) : r.replace ns key e = r := by
  obtain ⟨p, hpos, he⟩ := Option.bind_eq_some_iff.mp h
  obtain ⟨hlt, rfl⟩ := Array.getElem?_eq_some_iff.mp he
  unfold replace
  rw [hpos]
  simp [Array.setIfInBounds, hlt]

end Register

/-- The members that a class has are no change. -/
theorem ClassEntry.withMembers_self (c : ClassEntry) (kind : MemberKind) :
    c.withMembers kind (c.members kind) = c := by
  cases kind <;> rfl

/-! ## Lexicons -/

namespace Lexicon

/-- Add a class in place. -/
def addClassInPlace (naming : Naming) : InPlace Lexicon Error Unit := do
  naming.checkFor (← get).namespaces
  InPlace.focus (← get).classes (fun classes l => ⟨l.namespaces, classes⟩)
    (fun clash => .of (.classExists naming.slots clash.key clash.held.naming.slots))
    (Register.addInPlace (ClassEntry.ofNaming naming))

/-- Put a member into its class in place. The register of the class is changed where it stands, so
that the class keeps whatever a refusal leaves there. -/
def putMemberInPlace (kind : MemberKind) (owner : Text) (naming : Naming) (descriptor : Text) :
    InPlace Lexicon Error Unit := do
  naming.checkFor (← get).namespaces
  let found ← Descriptor.check descriptor
  if found ≠ kind then
    throw (.of (.wrongKind kind descriptor))
  match (← get).classes.find? .first owner with
  | none => throw (.of (.unknownOwner owner))
  | some entry =>
    InPlace.focus (entry.members kind)
      (fun ms l => ⟨l.namespaces, l.classes.replace .first owner (entry.withMembers kind ms)⟩)
      (fun clash => .of (.memberExists clash.key.name descriptor clash.held.descriptor
        clash.held.naming.slots))
      (Register.addInPlace ⟨descriptor, naming⟩)

/-- Carry out an addition in place. -/
def addInPlace : Addition → InPlace Lexicon Error Unit
  | .ofClass naming => addClassInPlace naming
  | .ofMember kind owner naming descriptor =>
    ExceptT.adapt (Error.within (.adding kind owner))
      (putMemberInPlace kind owner naming descriptor)

theorem addClassInPlace_atomic (l : Lexicon) (naming : Naming) :
    (addClassInPlace naming).Atomic l (l.addClass naming) := by
  apply InPlace.Atomic.after_get
  apply InPlace.Atomic.after_test
  intro _ _
  apply InPlace.Atomic.after_get
  refine (Register.addInPlace_atomic _ l.classes).focus rfl ?_ ?_
  · intro classes h
    simp only [h, Error.pure_eq]
  · intro clash h
    simp only [h, Error.throw_eq]

theorem putMemberInPlace_atomic (l : Lexicon) (kind : MemberKind) (owner : Text) (naming : Naming)
    (descriptor : Text) :
    (putMemberInPlace kind owner naming descriptor).Atomic l
      (l.putMember kind owner naming descriptor) := by
  apply InPlace.Atomic.after_get
  apply InPlace.Atomic.after_test
  intro _ _
  apply InPlace.Atomic.after_test
  intro found _
  by_cases hkind : found = kind
  · rw [if_neg fun h => h hkind, if_neg fun h => h hkind]
    apply InPlace.Atomic.after_get
    cases hfind : l.classes.find? .first owner with
    | none => exact InPlace.atomic_throw _ l
    | some c =>
      -- after a refusal, the class is put back with the members that it had
      have hback : (⟨l.namespaces,
          l.classes.replace .first owner (c.withMembers kind (c.members kind))⟩ : Lexicon) = l := by
        rw [ClassEntry.withMembers_self, Register.replace_self hfind]
      refine (Register.addInPlace_atomic _ (c.members kind)).focus hback ?_ ?_
      · intro ms h
        simp only [h, Error.pure_eq]
      · intro clash h
        simp only [h, Error.throw_eq]
  · rw [if_pos hkind, if_pos hkind]
    exact InPlace.atomic_throw _ l

/-- An addition in place ends as `add` says, and a refused one leaves the lexicon as it was. -/
theorem addInPlace_atomic (l : Lexicon) (a : Addition) : (addInPlace a).Atomic l (l.add a) := by
  cases a with
  | ofClass naming => exact addClassInPlace_atomic l naming
  | ofMember kind owner naming descriptor =>
    exact (putMemberInPlace_atomic l kind owner naming descriptor).adapt _

theorem addInPlace_of_ok {l l' : Lexicon} {a : Addition} (h : l.add a = .ok l') :
    (addInPlace a).on l = (.ok (), l') := by
  have hatomic := addInPlace_atomic l a
  rw [h] at hatomic
  exact hatomic

theorem addInPlace_of_error {l : Lexicon} {a : Addition} {e : Error} (h : l.add a = .error e) :
    (addInPlace a).on l = (.error e, l) := by
  have hatomic := addInPlace_atomic l a
  rw [h] at hatomic
  exact hatomic

/-! ## Sessions -/

/-- Carry out additions in place, one after the other and whatever the outcome of those before. The
outcomes come first, then the lexicon that is left. -/
def session (l : Lexicon) : List Addition → List (Except Error Unit) × Lexicon
  | [] => ([], l)
  | a :: as =>
    let (outcome, next) := (addInPlace a).on l
    let (outcomes, last) := session next as
    (outcome :: outcomes, last)

/-- A session leaves the lexicon that its history describes. -/
theorem session_snd (l : Lexicon) (as : List Addition) :
    (l.session as).2 = as.foldl attempt l := by
  induction as generalizing l with
  | nil => rfl
  | cons a as ih =>
    have hnext : ((addInPlace a).on l).2 = l.attempt a := by
      unfold attempt
      cases hadd : l.add a with
      | ok l' => rw [addInPlace_of_ok hadd]
      | error e => rw [addInPlace_of_error hadd]
    rw [List.foldl_cons, ← hnext]
    exact ih _

/-- After a refusal a session goes on as if the refused addition had not been attempted. -/
theorem session_cons_of_error {l : Lexicon} {a : Addition} {e : Error} (h : l.add a = .error e)
    (later : List Addition) :
    l.session (a :: later) = (.error e :: (l.session later).1, (l.session later).2) := by
  simp only [session, addInPlace_of_error h]

end Lexicon

end SymbolLexicon
