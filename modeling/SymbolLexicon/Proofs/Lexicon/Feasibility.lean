/-
# SymbolLexicon.Proofs.Lexicon.Feasibility — which lists of additions can be carried out.

Additions are carried out one after the other from an empty lexicon, and each is judged by all that
came before it. Yet whether ALL of them are accepted can be read off the list alone: each addition
is ADMISSIBLE by itself, any two are COMPATIBLE, and each member has its OWNER among the additions
before it (`exists_addAll_iff`). The first two conditions do not depend on the order and the third
says all that the order has to do with it; so any order of feasible additions with the owners first
is feasible.

One step is `Mirrors.exists_add_iff`: of a lexicon that mirrors the additions `done`, the next one
needs exactly its share of the three conditions. A run follows by induction on the last addition.
-/
import SymbolLexicon.Proofs.Lexicon.Acceptance
import SymbolLexicon.Proofs.Lexicon.Listing
import Mathlib.Data.List.Induction

namespace SymbolLexicon

namespace Addition

/-! ## Conditions on additions -/

/-- The naming fits the namespaces, and the descriptor of a member is one of its kind. -/
def Admissible (nss : Namespaces) : Addition → Prop
  | .ofClass naming => naming.Fits nss
  | .ofMember kind _ naming descriptor => naming.Fits nss ∧ IsDescriptorOf kind descriptor

/-- The additions do not take the same name: classes share none, and neither do members of one kind,
one owner and one descriptor. -/
def Compatible : Addition → Addition → Prop
  | .ofClass naming, .ofClass naming' => ∀ ns name, ¬ naming.Share naming' ns name
  | .ofMember kind owner naming descriptor, .ofMember kind' owner' naming' descriptor' =>
    kind = kind' → owner = owner' → descriptor = descriptor' →
      ∀ ns name, ¬ naming.Share naming' ns name
  | .ofClass _, .ofMember _ _ _ _ => True
  | .ofMember _ _ _ _, .ofClass _ => True

/-- A member has a class with the owner's name in the first namespace among the additions. -/
def OwnerAmong (done : List Addition) : Addition → Prop
  | .ofClass _ => True
  | .ofMember _ owner _ _ => ∃ host ∈ done.filterMap class?, host.name? .first = some owner

instance (done : List Addition) : (a : Addition) → Decidable (a.OwnerAmong done)
  | .ofClass _ => inferInstanceAs (Decidable True)
  | .ofMember _ owner _ _ =>
    inferInstanceAs (Decidable (∃ host ∈ done.filterMap class?, host.name? .first = some owner))

theorem Compatible.symm {a b : Addition} (h : a.Compatible b) : b.Compatible a := by
  cases a with
  | ofClass naming =>
    cases b with
    | ofClass naming' => exact fun ns name hshare => h ns name hshare.symm
    | ofMember kind owner naming' descriptor => trivial
  | ofMember kind owner naming descriptor =>
    cases b with
    | ofClass naming' => trivial
    | ofMember kind' owner' naming' descriptor' =>
      intro hkind howner hdescriptor ns name hshare
      exact h hkind.symm howner.symm hdescriptor.symm ns name hshare.symm

end Addition

/-- Each addition has its owner among those before it. -/
def OwnersFirst (as : List Addition) : Prop :=
  ∀ j, ∀ h : j < as.length, as[j].OwnerAmong (as.take j)

instance (as : List Addition) : Decidable (OwnersFirst as) :=
  inferInstanceAs (Decidable (∀ j, ∀ h : j < as.length, as[j].OwnerAmong (as.take j)))

/-- One more addition needs its owner among all those before it. -/
theorem ownersFirst_append_singleton {as : List Addition} {a : Addition} :
    OwnersFirst (as ++ [a]) ↔ OwnersFirst as ∧ a.OwnerAmong as := by
  -- the earlier additions keep their places, and so does what stands before them
  have hearlier : ∀ j, ∀ hj : j < as.length, ∀ hj' : j < (as ++ [a]).length,
      (as ++ [a])[j] = as[j] ∧ (as ++ [a]).take j = as.take j := by
    intro j hj hj'
    exact ⟨List.getElem_append_left hj, List.take_append_of_le_length (Nat.le_of_lt hj)⟩
  have hlength : (as ++ [a]).length = as.length + 1 := List.length_append
  refine ⟨?_, ?_⟩
  · intro h
    refine ⟨?_, ?_⟩
    · intro j hj
      have hj' : j < (as ++ [a]).length := by omega
      obtain ⟨hget, htake⟩ := hearlier j hj hj'
      rw [← hget, ← htake]
      exact h j hj'
    · simpa using h as.length (by omega)
  · rintro ⟨has, ha⟩ j hj
    by_cases hlt : j < as.length
    · obtain ⟨hget, htake⟩ := hearlier j hlt hj
      rw [hget, htake]
      exact has j hlt
    · obtain rfl : j = as.length := by omega
      simpa using ha

namespace Lexicon

variable {l l' : Lexicon} {done as bs : List Addition} {nss : Namespaces}

/-! ## One addition -/

/-- The members of a class are those that were added under its name in the first namespace. -/
theorem Mirrors.mem_members_iff (h : l.Mirrors done) {c : ClassEntry}
    (hc : c ∈ l.classes.entries) {owner : Text} (howner : c.naming.name? .first = some owner)
    {kind : MemberKind} {m : MemberEntry} :
    m ∈ (c.members kind).entries ↔ .ofMember kind owner m.naming m.descriptor ∈ done := by
  have hlisted : c.listed ∈ listing done := by
    rw [← h.classes]
    exact List.mem_map_of_mem (Array.mem_def.mp hc)
  obtain ⟨host, -, hhost⟩ := List.mem_map.mp hlisted
  obtain ⟨rfl, hfields, hmethods⟩ := ListedClass.mk.inj hhost
  have hmembers : (c.members kind).entries.toList =
      done.filterMap (Addition.member? kind c.naming) := by
    cases kind with
    | field => exact hfields.symm
    | method => exact hmethods.symm
  rw [Array.mem_def, hmembers, List.mem_filterMap]
  refine ⟨?_, ?_⟩
  · rintro ⟨a, ha, hmember⟩
    cases a with
    | ofClass naming => cases hmember
    | ofMember kind' owner' naming descriptor =>
      simp only [Addition.member?, howner] at hmember
      split at hmember
      · rename_i hmatch
        obtain ⟨rfl, howner'⟩ := hmatch
        obtain rfl := Option.some.inj howner'
        obtain rfl := Option.some.inj hmember
        exact ha
      · cases hmember
  · intro ha
    exact ⟨_, ha, by simp [Addition.member?, howner]⟩

/-- A class is accepted after the additions `done` exactly if it fits and is compatible with all of
them. -/
theorem Mirrors.exists_addClass_iff (hl : l.Valid) (h : l.Mirrors done) {naming : Naming} :
    (∃ l', l.addClass naming = .ok l') ↔
      naming.Fits l.namespaces ∧ ∀ a ∈ done, a.Compatible (.ofClass naming) := by
  rw [hl.accepts_class_iff]
  refine and_congr_right fun _ => ⟨?_, ?_⟩
  · intro hfree a ha
    cases a with
    | ofClass host =>
      obtain ⟨c, hc, rfl⟩ :=
        h.mem_class?_iff.mp (List.mem_filterMap.mpr ⟨.ofClass host, ha, rfl⟩)
      exact fun ns name hshare => hfree c hc ns name hshare.symm
    | ofMember kind owner naming' descriptor => trivial
  · intro hcompatible c hc ns name hshare
    obtain ⟨a, ha, hclass⟩ := List.mem_filterMap.mp (h.mem_class?_iff.mpr ⟨c, hc, rfl⟩)
    cases a with
    | ofClass host =>
      obtain rfl := Option.some.inj hclass
      exact hcompatible _ ha ns name hshare.symm
    | ofMember kind owner naming' descriptor => cases hclass

/-- A member is accepted after the additions `done` exactly if it is admissible and compatible with
them, and its owner is among them. -/
theorem Mirrors.exists_addMember_iff (hl : l.Valid) (h : l.Mirrors done) {kind : MemberKind}
    {owner : Text} {naming : Naming} {descriptor : Text} :
    (∃ l', l.addMember kind owner naming descriptor = .ok l') ↔
      (naming.Fits l.namespaces ∧ IsDescriptorOf kind descriptor) ∧
        (∀ a ∈ done, a.Compatible (.ofMember kind owner naming descriptor)) ∧
          ∃ host ∈ done.filterMap Addition.class?, host.name? .first = some owner := by
  rw [hl.accepts_member_iff, and_assoc]
  refine and_congr_right fun _ => and_congr_right fun _ => ⟨?_, ?_⟩
  · rintro ⟨c, hc, howner, hfree⟩
    refine ⟨?_, c.naming, h.mem_class?_iff.mpr ⟨c, hc, rfl⟩, howner⟩
    intro a ha
    cases a with
    | ofClass host => trivial
    | ofMember kind' owner' naming' descriptor' =>
      rintro rfl rfl rfl ns name hshare
      exact hfree ⟨_, naming'⟩ ((h.mem_members_iff hc howner).mpr ha) rfl ns name hshare.symm
  · rintro ⟨hcompatible, host, hhost, howner⟩
    obtain ⟨c, hc, rfl⟩ := h.mem_class?_iff.mp hhost
    refine ⟨c, hc, howner, ?_⟩
    rintro m hm rfl ns name hshare
    exact hcompatible _ ((h.mem_members_iff hc howner).mp hm) rfl rfl rfl ns name hshare.symm

theorem Mirrors.exists_add_iff (hl : l.Valid) (h : l.Mirrors done) {a : Addition} :
    (∃ l', l.add a = .ok l') ↔
      a.Admissible l.namespaces ∧ (∀ b ∈ done, b.Compatible a) ∧ a.OwnerAmong done := by
  cases a with
  | ofClass naming =>
    show (∃ l', l.addClass naming = .ok l') ↔
      naming.Fits l.namespaces ∧ (∀ b ∈ done, b.Compatible (.ofClass naming)) ∧ True
    rw [and_true]
    exact h.exists_addClass_iff hl
  | ofMember kind owner naming descriptor => exact h.exists_addMember_iff hl

/-! ## Whole lists -/

/-- Carry out additions one after the other. The first refusal ends it. -/
def addAll (l : Lexicon) (as : List Addition) : Except Error Lexicon := as.foldlM add l

theorem addAll_append_singleton (l : Lexicon) (as : List Addition) (a : Addition) :
    l.addAll (as ++ [a]) = l.addAll as >>= fun l' => l'.add a := by
  simp only [addAll, List.foldlM_append, List.foldlM_cons, List.foldlM_nil, bind_pure]

/-- A lexicon that all the additions lead to is valid and mirrors them. -/
theorem mirrors_of_addAll (h : (empty nss).addAll as = .ok l) :
    l.Valid ∧ l.Mirrors as ∧ l.namespaces = nss := by
  induction as using List.reverseRecOn generalizing l with
  | nil =>
    obtain rfl := Except.ok.inj h
    exact ⟨valid_empty nss, mirrors_empty nss, rfl⟩
  | append_singleton as a ih =>
    rw [addAll_append_singleton] at h
    obtain ⟨before, hbefore, hadd⟩ := Error.bind_eq_ok_iff.mp h
    obtain ⟨hvalid, hmirrors, hns⟩ := ih hbefore
    exact ⟨hvalid.add hadd, hmirrors.add hvalid hadd, (namespaces_of_add hadd).trans hns⟩

/-- **All additions of a list are accepted, in order, exactly if each is admissible, any two are
compatible, and the owners come first.** -/
theorem exists_addAll_iff :
    (∃ l, (empty nss).addAll as = .ok l) ↔
      (∀ a ∈ as, a.Admissible nss) ∧ as.Pairwise Addition.Compatible ∧ OwnersFirst as := by
  induction as using List.reverseRecOn with
  | nil =>
    have hnil : OwnersFirst [] := fun j hj => absurd hj (Nat.not_lt_zero j)
    simp [addAll, hnil]
  | append_singleton as a ih =>
    -- the last addition meets a lexicon that mirrors those before it
    have hstep : ∀ l, (empty nss).addAll as = .ok l →
        ((∃ l', l.add a = .ok l') ↔
          a.Admissible nss ∧ (∀ b ∈ as, b.Compatible a) ∧ a.OwnerAmong as) := by
      intro l hl
      obtain ⟨hvalid, hmirrors, rfl⟩ := mirrors_of_addAll hl
      exact hmirrors.exists_add_iff hvalid
    have hsplit : (∃ l', (empty nss).addAll (as ++ [a]) = .ok l') ↔
        (∃ l, (empty nss).addAll as = .ok l) ∧
          a.Admissible nss ∧ (∀ b ∈ as, b.Compatible a) ∧ a.OwnerAmong as := by
      simp only [addAll_append_singleton, Error.bind_eq_ok_iff]
      refine ⟨?_, ?_⟩
      · rintro ⟨l', l, hl, hadd⟩
        exact ⟨⟨l, hl⟩, (hstep l hl).mp ⟨l', hadd⟩⟩
      · rintro ⟨⟨l, hl⟩, ha⟩
        obtain ⟨l', hadd⟩ := (hstep l hl).mpr ha
        exact ⟨l', l, hl, hadd⟩
    rw [hsplit, ih, ownersFirst_append_singleton, List.pairwise_append]
    simp only [List.mem_append, List.mem_singleton, or_imp, forall_and, forall_eq,
      List.pairwise_singleton, true_and]
    tauto

/-- Feasible additions are feasible in every order with the owners first. -/
theorem exists_addAll_of_perm (h : ∃ l, (empty nss).addAll as = .ok l) (hperm : as.Perm bs)
    (howners : OwnersFirst bs) : ∃ l', (empty nss).addAll bs = .ok l' := by
  obtain ⟨hadmissible, hcompatible, -⟩ := exists_addAll_iff.mp h
  refine exists_addAll_iff.mpr ⟨?_, ?_, howners⟩
  · intro b hb
    exact hadmissible b (hperm.mem_iff.mpr hb)
  · exact (hperm.pairwise_iff Addition.Compatible.symm).mp hcompatible

end Lexicon

end SymbolLexicon
