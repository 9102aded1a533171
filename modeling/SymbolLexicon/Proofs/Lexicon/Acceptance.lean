/-
# SymbolLexicon.Proofs.Lexicon.Acceptance — what is accepted, why the rest is refused, and what a
refusal leaves.

Everything here is said by scanning the entries, without an index. An addition is accepted exactly
if its naming fits and it SHARES no name with an entry that it could be confused with: a class with
any class, a member with any member of its class and kind that has the same stored descriptor.

`Refuses` says which error every other addition ends with. Its cases exclude each other and come in
the order in which the conditions are tested; of several shared names, the one in the lowest
namespace is reported, together with the entry that has it.
-/
import SymbolLexicon.Proofs.Lexicon.InPlace
import SymbolLexicon.Proofs.Lexicon.Representation

namespace SymbolLexicon

/-! ## Shared names -/

/-- Both namings have the name in the namespace. -/
def Naming.Share (n n' : Naming) (ns : Namespace) (name : Text) : Prop :=
  n.name? ns = some name ∧ n'.name? ns = some name

/-- A well-formed descriptor of members of the kind. -/
def IsDescriptorOf (kind : MemberKind) (s : Text) : Prop :=
  ∃ d : Descriptor, d.WellFormed ∧ d.text = s ∧ d.kind = kind

/-- A new class meets no clash exactly if it shares no name with any class. -/
theorem free_class_iff {classes : Register Text ClassEntry} {naming : Naming} :
    classes.Free (ClassEntry.ofNaming naming) ↔
      ∀ c ∈ classes.entries, ∀ ns name, ¬ naming.Share c.naming ns name := by
  refine ⟨?_, ?_⟩
  · intro h c hc ns name hshare
    exact h ns name hshare.1 c hc hshare.2
  · intro h ns name hname c hc hname'
    exact h c hc ns name ⟨hname, hname'⟩

/-- A new member meets no clash exactly if it shares no name with a member of the same stored
descriptor. -/
theorem free_member_iff {ms : Members} {naming : Naming} {descriptor : Text} :
    ms.Free ⟨descriptor, naming⟩ ↔
      ∀ m ∈ ms.entries, m.descriptor = descriptor →
        ∀ ns name, ¬ naming.Share m.naming ns name := by
  refine ⟨?_, ?_⟩
  · intro h m hm hdescriptor ns name hshare
    exact h ns ⟨name, descriptor⟩ (MemberEntry.key?_eq_some_iff.mpr ⟨hshare.1, rfl⟩) m hm
      (MemberEntry.key?_eq_some_iff.mpr ⟨hshare.2, hdescriptor⟩)
  · intro h ns sig hkey m hm hkey'
    obtain ⟨hname, hsig⟩ := MemberEntry.key?_eq_some_iff.mp hkey
    obtain ⟨hname', hdescriptor⟩ := MemberEntry.key?_eq_some_iff.mp hkey'
    exact h m hm (hdescriptor.trans hsig.symm) ns sig.name ⟨hname, hname'⟩

/-- The first clash of a new class is the shared name in the lowest namespace. -/
theorem firstClash_class_iff {classes : Register Text ClassEntry} {naming : Naming}
    {ns : Namespace} {clash : Clash Text ClassEntry} :
    classes.FirstClash (ClassEntry.ofNaming naming) ns clash ↔
      clash.held ∈ classes.entries ∧ naming.Share clash.held.naming ns clash.key ∧
        ∀ c ∈ classes.entries, ∀ ns' name, ns'.index < ns.index →
          ¬ naming.Share c.naming ns' name := by
  refine ⟨?_, ?_⟩
  · intro h
    refine ⟨h.mem, ⟨h.key, h.held⟩, ?_⟩
    intro c hc ns' name hlt hshare
    exact h.lower ns' name hlt hshare.1 c hc hshare.2
  · rintro ⟨hmem, hshare, hlower⟩
    refine ⟨hshare.1, hmem, hshare.2, ?_⟩
    intro ns' name hlt hname c hc hname'
    exact hlower c hc ns' name hlt ⟨hname, hname'⟩

/-- The first clash of a new member is the name in the lowest namespace that it shares with a member
of the same stored descriptor. -/
theorem firstClash_member_iff {ms : Members} {naming : Naming} {descriptor : Text}
    {ns : Namespace} {clash : Clash Signature MemberEntry} :
    ms.FirstClash ⟨descriptor, naming⟩ ns clash ↔
      clash.held ∈ ms.entries ∧ clash.held.descriptor = descriptor ∧
        clash.key.descriptor = descriptor ∧ naming.Share clash.held.naming ns clash.key.name ∧
          ∀ m ∈ ms.entries, m.descriptor = descriptor → ∀ ns' name, ns'.index < ns.index →
            ¬ naming.Share m.naming ns' name := by
  refine ⟨?_, ?_⟩
  · intro h
    obtain ⟨hname, hsig⟩ := MemberEntry.key?_eq_some_iff.mp h.key
    obtain ⟨hname', hdescriptor⟩ := MemberEntry.key?_eq_some_iff.mp h.held
    refine ⟨h.mem, hdescriptor.trans hsig.symm, hsig.symm, ⟨hname, hname'⟩, ?_⟩
    intro m hm hm' ns' name hlt hshare
    exact h.lower ns' ⟨name, descriptor⟩ hlt (MemberEntry.key?_eq_some_iff.mpr ⟨hshare.1, rfl⟩) m hm
      (MemberEntry.key?_eq_some_iff.mpr ⟨hshare.2, hm'⟩)
  · rintro ⟨hmem, hdescriptor, hsig, hshare, hlower⟩
    refine ⟨MemberEntry.key?_eq_some_iff.mpr ⟨hshare.1, hsig.symm⟩, hmem,
      MemberEntry.key?_eq_some_iff.mpr ⟨hshare.2, hdescriptor.trans hsig.symm⟩, ?_⟩
    intro ns' sig hlt hkey m hm hkey'
    obtain ⟨hname, hsig'⟩ := MemberEntry.key?_eq_some_iff.mp hkey
    obtain ⟨hname', hm'⟩ := MemberEntry.key?_eq_some_iff.mp hkey'
    exact hlower m hm (hm'.trans hsig'.symm) ns' sig.name hlt ⟨hname, hname'⟩

/-! ## Refusals -/

/-- The errors of a naming that does not fit: the number of slots first, then the first name. -/
inductive Naming.Refused (nss : Namespaces) (naming : Naming) : Error → Prop
  | slotCount : naming.slots.length ≠ nss.size →
      Naming.Refused nss naming (.of (.slotCount nss.names naming.slots))
  | noFirstName : naming.slots.length = nss.size → naming.name? .first = none →
      Naming.Refused nss naming (.of (.noFirstName naming.slots))

theorem Naming.checkFor_eq_error_iff {naming : Naming} {nss : Namespaces} {e : Error} :
    naming.checkFor nss = .error e ↔ naming.Refused nss e := by
  refine ⟨?_, ?_⟩
  · intro h
    unfold checkFor at h
    split at h
    · rename_i hlength
      cases h
      exact .slotCount hlength
    · rename_i hlength
      split at h
      · rename_i hfirst
        cases h
        exact .noFirstName (Decidable.not_not.mp hlength) hfirst
      · cases h
  · rintro (hlength | ⟨hlength, hfirst⟩)
    · simp [checkFor, hlength]
    · simp [checkFor, hlength, hfirst]

namespace Lexicon

variable {l l' : Lexicon}

/-- The errors of a refused class: those of its naming, then a name that is taken. -/
inductive RefusesClass (l : Lexicon) (naming : Naming) : Error → Prop
  | naming {e : Error} : naming.Refused l.namespaces e → l.RefusesClass naming e
  | taken {held : ClassEntry} {ns : Namespace} {name : Text} : naming.Fits l.namespaces →
      held ∈ l.classes.entries → naming.Share held.naming ns name →
      (∀ c ∈ l.classes.entries, ∀ ns' name', ns'.index < ns.index →
        ¬ naming.Share c.naming ns' name') →
      l.RefusesClass naming (.of (.classExists naming.slots name held.naming.slots))

theorem Valid.addClass_eq_error_iff (hl : l.Valid) {naming : Naming} {e : Error} :
    l.addClass naming = .error e ↔ l.RefusesClass naming e := by
  rw [Lexicon.addClass, Error.bind_eq_error_iff, Naming.checkFor_eq_error_iff]
  refine ⟨?_, ?_⟩
  · rintro (hnaming | ⟨⟨⟩, hfits, h⟩)
    · exact .naming hnaming
    cases hadd : l.classes.add (ClassEntry.ofNaming naming) with
    | ok classes => simp [hadd] at h
    | error clash =>
      rw [hadd] at h
      cases h
      obtain ⟨ns, hfirst⟩ := hl.indexed.add_eq_error_iff.mp hadd
      obtain ⟨hmem, hshare, hlower⟩ := firstClash_class_iff.mp hfirst
      exact .taken (Naming.checkFor_eq_ok_iff.mp hfits) hmem hshare hlower
  · intro h
    cases h with
    | naming hnaming => exact .inl hnaming
    | @taken held ns name hfits hmem hshare hlower =>
      have hadd : l.classes.add (ClassEntry.ofNaming naming) = .error ⟨name, held⟩ :=
        hl.indexed.add_eq_error_iff.mpr ⟨ns, firstClash_class_iff.mpr ⟨hmem, hshare, hlower⟩⟩
      exact .inr ⟨(), Naming.checkFor_eq_ok_iff.mpr hfits, by rw [hadd]; rfl⟩

/-- The errors of a refused member, below the context of the owner: those of its naming, those of
its descriptor, an owner that is not there, then a name that is taken. -/
inductive RefusesMember (l : Lexicon) (kind : MemberKind) (owner : Text) (naming : Naming)
    (descriptor : Text) : Error → Prop
  | naming {e : Error} : naming.Refused l.namespaces e →
      l.RefusesMember kind owner naming descriptor e
  | malformed {e : Error} : naming.Fits l.namespaces → Descriptor.check descriptor = .error e →
      l.RefusesMember kind owner naming descriptor e
  | wrongKind {other : MemberKind} : naming.Fits l.namespaces → IsDescriptorOf other descriptor →
      other ≠ kind →
      l.RefusesMember kind owner naming descriptor (.of (.wrongKind kind descriptor))
  | unknownOwner : naming.Fits l.namespaces → IsDescriptorOf kind descriptor →
      (∀ c ∈ l.classes.entries, c.naming.name? .first ≠ some owner) →
      l.RefusesMember kind owner naming descriptor (.of (.unknownOwner owner))
  | taken {c : ClassEntry} {held : MemberEntry} {ns : Namespace} {name : Text} :
      naming.Fits l.namespaces → IsDescriptorOf kind descriptor → c ∈ l.classes.entries →
      c.naming.name? .first = some owner → held ∈ (c.members kind).entries →
      held.descriptor = descriptor → naming.Share held.naming ns name →
      (∀ m ∈ (c.members kind).entries, m.descriptor = descriptor → ∀ ns' name',
        ns'.index < ns.index → ¬ naming.Share m.naming ns' name') →
      l.RefusesMember kind owner naming descriptor
        (.of (.memberExists name descriptor held.descriptor held.naming.slots))

/-- With a naming that fits and a descriptor of the kind, what is left to see is the owner and its
members. -/
theorem putMember_eq {kind : MemberKind} {owner : Text} {naming : Naming} {descriptor : Text}
    (hfits : naming.Fits l.namespaces) (hdescriptor : IsDescriptorOf kind descriptor) :
    l.putMember kind owner naming descriptor =
      match l.classes.find? .first owner with
      | none => .error (.of (.unknownOwner owner))
      | some c =>
        match (c.members kind).add ⟨descriptor, naming⟩ with
        | .ok ms => .ok ⟨l.namespaces, l.classes.replace .first owner (c.withMembers kind ms)⟩
        | .error clash => .error (.of (.memberExists clash.key.name descriptor
            clash.held.descriptor clash.held.naming.slots)) := by
  have hnaming := Naming.checkFor_eq_ok_iff.mpr hfits
  have hcheck := Descriptor.check_eq_ok_iff.mpr hdescriptor
  simp only [putMember, hnaming, hcheck, Error.ok_bind]
  rw [if_neg fun hne => hne rfl]
  rfl

/-- A refused member is refused for the first condition that fails. -/
theorem Valid.refusesMember_of_putMember (hl : l.Valid) {kind : MemberKind} {owner : Text}
    {naming : Naming} {descriptor : Text} {e : Error}
    (h : l.putMember kind owner naming descriptor = .error e) :
    l.RefusesMember kind owner naming descriptor e := by
  rcases Error.bind_eq_error_iff.mp h with hnaming | ⟨⟨⟩, hnaming, hrest⟩
  · exact .naming (Naming.checkFor_eq_error_iff.mp hnaming)
  have hfits : naming.Fits l.namespaces := Naming.checkFor_eq_ok_iff.mp hnaming
  rcases Error.bind_eq_error_iff.mp hrest with hcheck | ⟨found, hcheck, hrest⟩
  · exact .malformed hfits hcheck
  have hdescriptor : IsDescriptorOf found descriptor := Descriptor.check_eq_ok_iff.mp hcheck
  by_cases hkind : found = kind
  · subst hkind
    rw [putMember_eq hfits hdescriptor] at h
    cases hfind : l.classes.find? .first owner with
    | none =>
      rw [hfind] at h
      cases h
      exact .unknownOwner hfits hdescriptor (hl.indexed.find?_eq_none_iff.mp hfind)
    | some c =>
      obtain ⟨hc, howner⟩ := hl.indexed.find?_eq_some_iff.mp hfind
      rw [hfind] at h
      cases hadd : (c.members found).add ⟨descriptor, naming⟩ with
      | ok ms => simp [hadd] at h
      | error clash =>
        simp only [hadd] at h
        cases h
        obtain ⟨ns, hfirst⟩ := ((hl.classes c hc).indexed found).add_eq_error_iff.mp hadd
        obtain ⟨hmem, hheld, -, hshare, hlower⟩ := firstClash_member_iff.mp hfirst
        exact .taken hfits hdescriptor hc howner hmem hheld hshare hlower
  · rw [if_pos hkind] at hrest
    cases hrest
    exact .wrongKind hfits hdescriptor hkind

/-- A member that fails a condition is refused. -/
theorem Valid.putMember_of_refusesMember (hl : l.Valid) {kind : MemberKind} {owner : Text}
    {naming : Naming} {descriptor : Text} {e : Error}
    (h : l.RefusesMember kind owner naming descriptor e) :
    l.putMember kind owner naming descriptor = .error e := by
  cases h with
  | naming hnaming =>
    exact Error.bind_eq_error_iff.mpr (.inl (Naming.checkFor_eq_error_iff.mpr hnaming))
  | malformed hfits hcheck =>
    simp only [putMember, Naming.checkFor_eq_ok_iff.mpr hfits, hcheck, Error.ok_bind,
      Error.error_bind]
  | wrongKind hfits hdescriptor hkind =>
    have hcheck := Descriptor.check_eq_ok_iff.mpr hdescriptor
    simp only [putMember, Naming.checkFor_eq_ok_iff.mpr hfits, hcheck, Error.ok_bind]
    rw [if_pos hkind]
    rfl
  | unknownOwner hfits hdescriptor hnone =>
    rw [putMember_eq hfits hdescriptor, hl.indexed.find?_eq_none_iff.mpr hnone]
  | @taken c held ns name hfits hdescriptor hc howner hmem hheld hshare hlower =>
    have hfind := hl.indexed.find?_eq_some_iff.mpr ⟨hc, howner⟩
    have hfirst : (c.members kind).FirstClash ⟨descriptor, naming⟩ ns
        ⟨⟨name, descriptor⟩, held⟩ :=
      firstClash_member_iff.mpr ⟨hmem, hheld, rfl, hshare, hlower⟩
    have hadd := ((hl.classes c hc).indexed kind).add_eq_error_iff.mpr ⟨ns, hfirst⟩
    rw [putMember_eq hfits hdescriptor, hfind]
    simp only [hadd]

/-- The errors of a refused addition. Those of a member carry the context that names the owner. -/
def Refuses (l : Lexicon) : Addition → Error → Prop
  | .ofClass naming, e => l.RefusesClass naming e
  | .ofMember kind owner naming descriptor, e => ∃ below,
    l.RefusesMember kind owner naming descriptor below ∧ e = below.within (.adding kind owner)

theorem Valid.add_eq_error_iff (hl : l.Valid) {a : Addition} {e : Error} :
    l.add a = .error e ↔ l.Refuses a e := by
  cases a with
  | ofClass naming => exact hl.addClass_eq_error_iff
  | ofMember kind owner naming descriptor =>
    show l.addMember kind owner naming descriptor = .error e ↔ _
    rw [Lexicon.addMember, Error.mapError_eq_error_iff]
    refine exists_congr fun below => ?_
    exact and_congr ⟨hl.refusesMember_of_putMember, hl.putMember_of_refusesMember⟩ eq_comm

/-! ## Acceptance -/

/-- A class is accepted exactly if its naming fits and shares no name with any class. -/
theorem Valid.accepts_class_iff (hl : l.Valid) {naming : Naming} :
    (∃ l', l.addClass naming = .ok l') ↔
      naming.Fits l.namespaces ∧
        ∀ c ∈ l.classes.entries, ∀ ns name, ¬ naming.Share c.naming ns name := by
  rw [← free_class_iff, ← hl.indexed.exists_add_iff]
  simp only [addClass_eq_ok_iff]
  refine ⟨?_, ?_⟩
  · rintro ⟨-, hfits, classes, hadd, -⟩
    exact ⟨hfits, classes, hadd⟩
  · rintro ⟨hfits, classes, hadd⟩
    exact ⟨_, hfits, classes, hadd, rfl⟩

/-- A member is accepted exactly if its naming fits, its descriptor is one of its kind, and its
owner is a class in which it shares no name with a member of the same stored descriptor. -/
theorem Valid.accepts_member_iff (hl : l.Valid) {kind : MemberKind} {owner : Text}
    {naming : Naming} {descriptor : Text} :
    (∃ l', l.addMember kind owner naming descriptor = .ok l') ↔
      naming.Fits l.namespaces ∧ IsDescriptorOf kind descriptor ∧
        ∃ c ∈ l.classes.entries, c.naming.name? .first = some owner ∧
          ∀ m ∈ (c.members kind).entries, m.descriptor = descriptor →
            ∀ ns name, ¬ naming.Share m.naming ns name := by
  simp only [addMember_eq_ok_iff, Descriptor.check_eq_ok_iff]
  refine ⟨?_, ?_⟩
  · rintro ⟨-, hfits, hdescriptor, c, ms, hfind, hadd, -⟩
    obtain ⟨hc, howner⟩ := hl.indexed.find?_eq_some_iff.mp hfind
    have hfree := ((hl.classes c hc).indexed kind).exists_add_iff.mp ⟨ms, hadd⟩
    exact ⟨hfits, hdescriptor, c, hc, howner, free_member_iff.mp hfree⟩
  · rintro ⟨hfits, hdescriptor, c, hc, howner, hfree⟩
    obtain ⟨ms, hadd⟩ :=
      ((hl.classes c hc).indexed kind).exists_add_iff.mpr (free_member_iff.mpr hfree)
    have hfind := hl.indexed.find?_eq_some_iff.mpr ⟨hc, howner⟩
    exact ⟨_, hfits, hdescriptor, c, ms, hfind, hadd, rfl⟩

/-- **Exactly the additions that fit and share no name are accepted.** Every other one ends with the
error of the first condition that fails, a member with its owner in the outermost context, and it
leaves nothing behind: carried out in place, all that comes later goes on as if it had not been
attempted. -/
theorem Reachable.accepts_exactly (hl : l.Reachable) :
    (∀ naming, (∃ l', l.add (.ofClass naming) = .ok l') ↔
      naming.Fits l.namespaces ∧
        ∀ c ∈ l.classes.entries, ∀ ns name, ¬ naming.Share c.naming ns name) ∧
    (∀ kind owner naming descriptor,
      (∃ l', l.add (.ofMember kind owner naming descriptor) = .ok l') ↔
        naming.Fits l.namespaces ∧ IsDescriptorOf kind descriptor ∧
          ∃ c ∈ l.classes.entries, c.naming.name? .first = some owner ∧
            ∀ m ∈ (c.members kind).entries, m.descriptor = descriptor →
              ∀ ns name, ¬ naming.Share m.naming ns name) ∧
    (∀ a e, l.add a = .error e ↔ l.Refuses a e) ∧
    (∀ kind owner naming descriptor e, l.add (.ofMember kind owner naming descriptor) = .error e →
      e.message = (Context.adding kind owner).text) ∧
    (∀ a l', l.add a = .ok l' → (addInPlace a).on l = (.ok (), l')) ∧
    ∀ a e, l.add a = .error e → (addInPlace a).on l = (.error e, l) ∧
      ∀ later, l.session (a :: later) = (.error e :: (l.session later).1, (l.session later).2) := by
  have hv := hl.valid
  refine ⟨fun _ => hv.accepts_class_iff, fun _ _ _ _ => hv.accepts_member_iff,
    fun _ _ => hv.add_eq_error_iff, ?_, fun _ _ => addInPlace_of_ok, ?_⟩
  · intro kind owner naming descriptor e h
    obtain ⟨below, -, rfl⟩ := hv.add_eq_error_iff.mp h
    rfl
  · intro a e h
    exact ⟨addInPlace_of_error h, session_cons_of_error h⟩

/-- A third field `m` of the type of the first is refused, for the name that it shares with that in
the second namespace, and the session goes on with one of another type. -/
theorem contested_accepts_exactly :
    let l := ofHistory sourceTarget contested
    let third : Addition := .ofMember .field "A" (.ofStrings ["z", "m"]) "I"
    let error : Error :=
      ⟨[.adding .field "A"], .memberExists "m" "I" "I" (Naming.ofStrings ["x", "m"]).slots⟩
    l.Reachable ∧ l.add third = .error error ∧ l.Refuses third error ∧
      (∃ l', l.add (.ofMember .field "A" (.ofStrings ["z", "m"]) "S") = .ok l') ∧
      ∀ later, l.session (third :: later) =
        (.error error :: (l.session later).1, (l.session later).2) := by
  intro l third error
  have hl : l.Reachable := ⟨_, _, rfl⟩
  have hthird : l.add third = .error error := rfl
  obtain ⟨-, -, hrefuses, -, -, hnothing⟩ := hl.accepts_exactly
  exact ⟨hl, hthird, (hrefuses third error).mp hthird, ⟨_, rfl⟩, (hnothing third error hthird).2⟩

end Lexicon

end SymbolLexicon
