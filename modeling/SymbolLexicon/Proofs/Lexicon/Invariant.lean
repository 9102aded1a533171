/-
# SymbolLexicon.Proofs.Lexicon.Invariant — what holds of every lexicon that attempts lead to.

A lexicon is VALID when its classes are indexed and each class is: every naming fits the namespaces,
the members of each kind are indexed, and every descriptor that is stored is well-formed and of the
kind it is stored under.

`addClass_eq_ok_iff` and `addMember_eq_ok_iff` say once all that an accepted addition does, guards
included. From them each addition keeps validity, and `Reachable.induct` carries any property that
accepted additions keep to every reachable lexicon.
-/
import SymbolLexicon.Lexicon.Basic
import SymbolLexicon.Proofs.Descriptor.Grammar
import SymbolLexicon.Proofs.Register

namespace SymbolLexicon

/-! ## Keys of entries -/

/-- A class is found in a namespace by its name there. -/
theorem ClassEntry.key?_eq (c : ClassEntry) (ns : Namespace) :
    Keyed.key? c ns = c.naming.name? ns := rfl

/-- A member is found in a namespace by its name there with the stored descriptor. -/
theorem MemberEntry.key?_eq_some_iff {m : MemberEntry} {ns : Namespace} {sig : Signature} :
    Keyed.key? m ns = some sig ↔
      m.naming.name? ns = some sig.name ∧ m.descriptor = sig.descriptor := by
  have hkey : Keyed.key? m ns =
      (m.naming.name? ns).map fun name => Signature.mk name m.descriptor := by
    simp only [Keyed.key?, Keyed.keys, Naming.name?, Slots.name?, List.getElem?_map]
    cases m.naming.slots[ns.index]? <;> rfl
  rw [hkey, Option.map_eq_some_iff]
  refine ⟨?_, ?_⟩
  · rintro ⟨name, hname, rfl⟩
    exact ⟨hname, rfl⟩
  · rintro ⟨hname, hdescriptor⟩
    refine ⟨sig.name, hname, ?_⟩
    rw [hdescriptor]

/-! ## Validity -/

/-- One slot for each namespace, and a name in the first. -/
def Naming.Fits (n : Naming) (nss : Namespaces) : Prop :=
  n.slots.length = nss.size ∧ n.name? .first ≠ none

/-- A naming that fits has a slot for every namespace that there is. -/
theorem Naming.Fits.get_eq_ok {n : Naming} {nss : Namespaces} (h : n.Fits nss) {ns : Namespace}
    (hns : nss.Has ns) : n.get ns = .ok (n.name? ns) :=
  Naming.get_eq_ok (h.1 ▸ hns)

/-- A naming that fits has no slot for any other namespace. -/
theorem Naming.Fits.get_eq_error {n : Naming} {nss : Namespaces} (h : n.Fits nss) {ns : Namespace}
    (hns : ¬ nss.Has ns) : n.get ns = .error (.of (.slotOutOfRange ns n.slots)) :=
  Naming.get_eq_error (h.1 ▸ hns)

/-- A member of the given kind: its naming fits, and its descriptor is one of that kind. -/
structure MemberEntry.Valid (m : MemberEntry) (nss : Namespaces) (kind : MemberKind) : Prop where
  fits : m.naming.Fits nss
  descriptor : ∃ d : Descriptor, d.WellFormed ∧ d.text = m.descriptor ∧ d.kind = kind

/-- A class whose naming fits and whose members of each kind are valid and indexed. -/
structure ClassEntry.Valid (c : ClassEntry) (nss : Namespaces) : Prop where
  fits : c.naming.Fits nss
  indexed : ∀ kind, (c.members kind).Indexed
  members : ∀ kind, ∀ m ∈ (c.members kind).entries, m.Valid nss kind

/-- A lexicon whose classes are valid and indexed. -/
structure Lexicon.Valid (l : Lexicon) : Prop where
  indexed : l.classes.Indexed
  classes : ∀ c ∈ l.classes.entries, c.Valid l.namespaces

/-- A new class has no members, so only its naming matters. -/
theorem ClassEntry.valid_ofNaming {naming : Naming} {nss : Namespaces} (h : naming.Fits nss) :
    (ClassEntry.ofNaming naming).Valid nss where
  fits := h
  indexed kind := by
    cases kind <;> exact Register.indexed_empty
  members kind m hm := by
    cases kind <;> simp [members, ofNaming, Register.empty] at hm

/-- A member of a valid class is found by its name and its stored descriptor. -/
theorem ClassEntry.Valid.find?_eq_some_iff {c : ClassEntry} {nss : Namespaces} (hc : c.Valid nss)
    {kind : MemberKind} {name descriptor : Text} {m : MemberEntry} :
    (c.members kind).find? ns ⟨name, descriptor⟩ = some m ↔
      m ∈ (c.members kind).entries ∧ m.naming.name? ns = some name ∧
        m.descriptor = descriptor := by
  rw [(hc.indexed kind).find?_eq_some_iff, MemberEntry.key?_eq_some_iff]

/-- In every namespace, its name and its stored descriptor identify a member of a valid class. -/
theorem ClassEntry.Valid.position_unique {c : ClassEntry} {nss : Namespaces} (hc : c.Valid nss)
    {kind : MemberKind} {i j : Nat} {m m' : MemberEntry}
    (hi : (c.members kind).entries[i]? = some m) (hj : (c.members kind).entries[j]? = some m')
    {ns : Namespace} {name : Text} (hname : m.naming.name? ns = some name)
    (hname' : m'.naming.name? ns = some name) (hdescriptor : m.descriptor = m'.descriptor) :
    i = j := by
  have hkey : Keyed.key? m ns = some (⟨name, m.descriptor⟩ : Signature) :=
    MemberEntry.key?_eq_some_iff.mpr ⟨hname, rfl⟩
  have hkey' : Keyed.key? m' ns = some (⟨name, m.descriptor⟩ : Signature) :=
    MemberEntry.key?_eq_some_iff.mpr ⟨hname', hdescriptor.symm⟩
  exact (hc.indexed kind).position_unique hi hj hkey hkey'

/-- Other members of one kind keep a class valid when they are valid and indexed themselves. -/
theorem ClassEntry.Valid.withMembers {c : ClassEntry} {nss : Namespaces} (hc : c.Valid nss)
    {kind : MemberKind} {ms : Members} (hindexed : ms.Indexed)
    (hms : ∀ m ∈ ms.entries, m.Valid nss kind) : (c.withMembers kind ms).Valid nss where
  fits := by
    rw [ClassEntry.naming_withMembers]
    exact hc.fits
  indexed other := by
    by_cases hother : other = kind
    · rw [hother, ClassEntry.members_withMembers]
      exact hindexed
    · rw [ClassEntry.members_withMembers_of_ne c hother]
      exact hc.indexed other
  members other m hm := by
    by_cases hother : other = kind
    · subst hother
      rw [ClassEntry.members_withMembers] at hm
      exact hms m hm
    · rw [ClassEntry.members_withMembers_of_ne c hother] at hm
      exact hc.members other m hm

namespace Lexicon

variable {l l' : Lexicon}

/-! ## What an accepted addition does -/

theorem addClass_eq_ok_iff {naming : Naming} :
    l.addClass naming = .ok l' ↔
      naming.Fits l.namespaces ∧ ∃ classes,
        l.classes.add (ClassEntry.ofNaming naming) = .ok classes ∧
          l' = ⟨l.namespaces, classes⟩ := by
  rw [Naming.Fits, ← Naming.checkFor_eq_ok_iff]
  unfold addClass
  cases naming.checkFor l.namespaces with
  | error e => simp
  | ok u =>
    cases l.classes.add (ClassEntry.ofNaming naming) with
    | error clash => simp
    | ok classes => simp [eq_comm]

theorem addMember_eq_ok_iff {kind : MemberKind} {owner : Text} {naming : Naming}
    {descriptor : Text} :
    l.addMember kind owner naming descriptor = .ok l' ↔
      naming.Fits l.namespaces ∧ Descriptor.check descriptor = .ok kind ∧
        ∃ c ms, l.classes.find? .first owner = some c ∧
          (c.members kind).add ⟨descriptor, naming⟩ = .ok ms ∧
            l' = ⟨l.namespaces, l.classes.replace .first owner (c.withMembers kind ms)⟩ := by
  rw [Naming.Fits, ← Naming.checkFor_eq_ok_iff, addMember, Error.mapError_eq_ok_iff]
  unfold putMember
  cases naming.checkFor l.namespaces with
  | error e => simp
  | ok u =>
    cases Descriptor.check descriptor with
    | error e => simp
    | ok found =>
      by_cases hkind : found = kind
      · cases l.classes.find? .first owner with
        | none => simp [hkind]
        | some c =>
          cases hadd : (c.members kind).add ⟨descriptor, naming⟩ with
          | error clash => simp [hkind, hadd]
          | ok ms => simp [hkind, hadd, eq_comm]
      · simp [hkind]

/-- An addition keeps the namespaces. -/
theorem namespaces_of_add {a : Addition} (h : l.add a = .ok l') :
    l'.namespaces = l.namespaces := by
  cases a with
  | ofClass naming =>
    obtain ⟨-, classes, -, rfl⟩ := addClass_eq_ok_iff.mp h
    rfl
  | ofMember kind owner naming descriptor =>
    obtain ⟨-, -, c, ms, -, -, rfl⟩ := addMember_eq_ok_iff.mp h
    rfl

/-! ## Validity is kept -/

theorem valid_empty (nss : Namespaces) : (empty nss).Valid where
  indexed := Register.indexed_empty
  classes c hc := by
    simp [empty, Register.empty] at hc

theorem Valid.addClass (hl : l.Valid) {naming : Naming} (h : l.addClass naming = .ok l') :
    l'.Valid := by
  obtain ⟨hfits, classes, hadd, rfl⟩ := addClass_eq_ok_iff.mp h
  refine ⟨hl.indexed.add hadd, ?_⟩
  intro c hc
  rw [Register.entries_of_add hadd, Array.mem_push] at hc
  rcases hc with hc | rfl
  · exact hl.classes c hc
  · exact ClassEntry.valid_ofNaming hfits

theorem Valid.addMember (hl : l.Valid) {kind : MemberKind} {owner : Text} {naming : Naming}
    {descriptor : Text} (h : l.addMember kind owner naming descriptor = .ok l') : l'.Valid := by
  obtain ⟨hfits, hcheck, c, ms, hfind, hadd, rfl⟩ := addMember_eq_ok_iff.mp h
  obtain ⟨hc, -⟩ := hl.indexed.find?_eq_some_iff.mp hfind
  have hcValid := hl.classes c hc
  have hms : ∀ m ∈ ms.entries, m.Valid l.namespaces kind := by
    intro m hm
    rw [Register.entries_of_add hadd, Array.mem_push] at hm
    rcases hm with hm | rfl
    · exact hcValid.members kind m hm
    · exact ⟨hfits, Descriptor.check_eq_ok_iff.mp hcheck⟩
  refine ⟨?_, ?_⟩
  · -- the class with the new member has the names that the class had
    apply hl.indexed.replace
    intro c₀ hc₀
    obtain rfl := Option.some.inj (hfind.symm.trans hc₀)
    show (c.withMembers kind ms).naming.slots = c.naming.slots
    rw [ClassEntry.naming_withMembers]
  · intro c' hc'
    rcases Register.mem_entries_replace hc' with rfl | hc'
    · exact hcValid.withMembers ((hcValid.indexed kind).add hadd) hms
    · exact hl.classes c' hc'

/-- An accepted addition of either kind keeps a lexicon valid. -/
theorem Valid.add (hl : l.Valid) {a : Addition} (h : l.add a = .ok l') : l'.Valid := by
  cases a with
  | ofClass naming => exact hl.addClass h
  | ofMember kind owner naming descriptor => exact hl.addMember h

/-! ## Reachable lexicons -/

/-- What every accepted addition keeps is kept by a list of attempts: a refused one changes
nothing. -/
theorem foldl_attempt_induct {P : Lexicon → Prop} (hadd : ∀ l a l', P l → l.add a = .ok l' → P l')
    (hl : P l) (as : List Addition) : P (as.foldl attempt l) := by
  have hattempt : ∀ l a, P l → P (l.attempt a) := by
    intro l a hl
    unfold attempt
    split
    · rename_i l' hok
      exact hadd l a l' hl hok
    · exact hl
  -- the lexicon is general in the induction, since each attempt starts from another one
  induction as generalizing l with
  | nil => exact hl
  | cons a as ih => exact ih (hattempt l a hl)

/-- What holds of every empty lexicon and is kept by every accepted addition holds of every
reachable lexicon. -/
theorem Reachable.induct {P : Lexicon → Prop} (hempty : ∀ nss, P (Lexicon.empty nss))
    (hadd : ∀ l a l', P l → l.add a = .ok l' → P l') (h : l.Reachable) : P l := by
  obtain ⟨nss, as, rfl⟩ := h
  exact foldl_attempt_induct hadd (hempty nss) as

theorem Reachable.valid (h : l.Reachable) : l.Valid :=
  h.induct valid_empty fun _ _ _ hl hok => hl.add hok

/-- A history has the namespaces that it started with. -/
theorem namespaces_ofHistory (nss : Namespaces) (as : List Addition) :
    (ofHistory nss as).namespaces = nss :=
  foldl_attempt_induct (P := fun l => l.namespaces = nss)
    (fun _ _ _ hl hok => (namespaces_of_add hok).trans hl) rfl as

end Lexicon

end SymbolLexicon
