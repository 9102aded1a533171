/-
# SymbolLexicon.Proofs.Lexicon.Rearrangement — the same classes and members in another order.

A lexicon REARRANGES another one when it has the same classes with the same members, both possibly
in another order. Positions then differ everywhere, in the entries and in all indices; but a look-up
answers an entry and not its position, and which entry that is depends on the entries alone. So no
answer depends on the order: `findMember`, `renameClass` and `renameDescriptor` are equal as
functions, with their errors and records, and `findClass` is equal up to the order of the members.

Additions in another order lead to rearranged lexicons, for what a lexicon lists is what was added.
-/
import SymbolLexicon.Proofs.Lexicon.Feasibility
import SymbolLexicon.Proofs.Lexicon.MemberLookup
import Mathlib.Data.List.Perm.Basic

namespace SymbolLexicon

/-! ## Lists of classes -/

/-- The same class, possibly with its members in another order. -/
structure ListedClass.SameUpToOrder (c c' : ListedClass) : Prop where
  naming : c.naming = c'.naming
  fields : c.fields.Perm c'.fields
  methods : c.methods.Perm c'.methods

theorem ListedClass.SameUpToOrder.symm {c c' : ListedClass} (h : c.SameUpToOrder c') :
    c'.SameUpToOrder c :=
  ⟨h.naming.symm, h.fields.symm, h.methods.symm⟩

/-- The same classes up to the order of classes and of members. -/
def SameListing : List ListedClass → List ListedClass → Prop :=
  Relation.Comp List.Perm (List.Forall₂ ListedClass.SameUpToOrder)

theorem SameListing.symm {cs cs' : List ListedClass} (h : SameListing cs cs') :
    SameListing cs' cs := by
  obtain ⟨between, hperm, hsame⟩ := h
  have hback : List.Forall₂ ListedClass.SameUpToOrder cs' between :=
    List.Forall₂.flip (hsame.imp fun _ _ h => h.symm)
  -- the order of classes and that of members can be changed one after the other either way
  have hcomp : Relation.Comp (List.Forall₂ ListedClass.SameUpToOrder) List.Perm cs' cs :=
    ⟨between, hback, hperm.symm⟩
  rwa [List.forall₂_comp_perm_eq_perm_comp_forall₂] at hcomp

theorem SameListing.exists_of_mem {cs cs' : List ListedClass} (h : SameListing cs cs')
    {c : ListedClass} (hc : c ∈ cs) : ∃ c' ∈ cs', c.SameUpToOrder c' := by
  obtain ⟨between, hperm, hsame⟩ := h
  replace hc := hperm.mem_iff.mp hc
  clear hperm
  induction hsame with
  | nil => cases hc
  | @cons x y xs ys hxy hrest ih =>
    rcases List.mem_cons.mp hc with rfl | hc
    · exact ⟨y, List.mem_cons_self, hxy⟩
    · obtain ⟨c', hc', hsame'⟩ := ih hc
      exact ⟨c', List.mem_cons_of_mem _ hc', hsame'⟩

/-- Additions in another order add the same classes with the same members. -/
theorem sameListing_of_perm {as bs : List Addition} (h : as.Perm bs) :
    SameListing (listing as) (listing bs) := by
  refine ⟨(bs.filterMap Addition.class?).map fun naming =>
    ⟨naming, as.filterMap (Addition.member? .field naming),
      as.filterMap (Addition.member? .method naming)⟩, ?_, ?_⟩
  · exact (h.filterMap _).map _
  · rw [listing, List.forall₂_map_left_iff, List.forall₂_map_right_iff, List.forall₂_same]
    intro naming _
    exact ⟨rfl, h.filterMap _, h.filterMap _⟩

/-- The members of a class are in the class with its members in another order. -/
theorem ListedClass.SameUpToOrder.mem_members_iff {c c' : ClassEntry}
    (h : c.listed.SameUpToOrder c'.listed) {kind : MemberKind} {m : MemberEntry} :
    m ∈ (c.members kind).entries ↔ m ∈ (c'.members kind).entries := by
  rw [Array.mem_def, Array.mem_def]
  cases kind with
  | field => exact h.fields.mem_iff
  | method => exact h.methods.mem_iff

theorem ListedClass.SameUpToOrder.find?_eq {c c' : ClassEntry}
    (h : c.listed.SameUpToOrder c'.listed) {nss : Namespaces} (hc : c.Valid nss)
    (hc' : c'.Valid nss) (kind : MemberKind) (ns : Namespace) (sig : Signature) :
    (c.members kind).find? ns sig = (c'.members kind).find? ns sig :=
  (hc.indexed kind).find?_congr (hc'.indexed kind) fun _ => h.mem_members_iff

/-! ## Lexicons -/

/-- Both requests fail with the same error, or both succeed and their answers are related. -/
inductive OutcomeRel {α : Type} (R : α → α → Prop) : Except Error α → Except Error α → Prop
  | ok {x y : α} : R x y → OutcomeRel R (.ok x) (.ok y)
  | error (e : Error) : OutcomeRel R (.error e) (.error e)

namespace Lexicon

variable {l l' : Lexicon}

/-- The same namespaces, and the same classes up to the order of classes and of members. -/
structure Rearranges (l l' : Lexicon) : Prop where
  namespaces : l.namespaces = l'.namespaces
  classes : SameListing (l.classes.entries.toList.map ClassEntry.listed)
    (l'.classes.entries.toList.map ClassEntry.listed)

namespace Rearranges

theorem symm (h : l.Rearranges l') : l'.Rearranges l :=
  ⟨h.namespaces.symm, h.classes.symm⟩

theorem exists_find? (h : l.Rearranges l') (hl : l.Valid) (hl' : l'.Valid) {ns : Namespace}
    {name : Text} {c : ClassEntry} (hfind : l.classes.find? ns name = some c) :
    ∃ c', l'.classes.find? ns name = some c' ∧ c.listed.SameUpToOrder c'.listed := by
  obtain ⟨hc, hname⟩ := hl.indexed.find?_eq_some_iff.mp hfind
  have hlisted : c.listed ∈ l.classes.entries.toList.map ClassEntry.listed :=
    List.mem_map_of_mem (Array.mem_def.mp hc)
  obtain ⟨_, hmem, hsame⟩ := h.classes.exists_of_mem hlisted
  obtain ⟨c', hc', rfl⟩ := List.mem_map.mp hmem
  refine ⟨c', hl'.indexed.find?_eq_some_iff.mpr ⟨Array.mem_def.mpr hc', ?_⟩, hsame⟩
  have hnaming : c.naming = c'.naming := hsame.naming
  rw [ClassEntry.key?_eq, ← hnaming]
  exact hname

theorem find?_eq_none (h : l.Rearranges l') (hl : l.Valid) (hl' : l'.Valid) {ns : Namespace}
    {name : Text} (hfind : l.classes.find? ns name = none) : l'.classes.find? ns name = none := by
  cases hfind' : l'.classes.find? ns name with
  | none => rfl
  | some c' =>
    obtain ⟨c, hfound, -⟩ := h.symm.exists_find? hl' hl hfind'
    rw [hfind] at hfound
    cases hfound

/-- A name finds the same class in both lexicons, up to the order of its members, or none. -/
theorem find?_rel (h : l.Rearranges l') (hl : l.Valid) (hl' : l'.Valid) (ns : Namespace)
    (name : Text) :
    Option.Rel (fun c c' => c.listed.SameUpToOrder c'.listed) (l.classes.find? ns name)
      (l'.classes.find? ns name) := by
  cases hfind : l.classes.find? ns name with
  | none =>
    rw [h.find?_eq_none hl hl' hfind]
    exact .none
  | some c =>
    obtain ⟨c', hfind', hsame⟩ := h.exists_find? hl hl' hfind
    rw [hfind']
    exact .some hsame

theorem findClass_rel (h : l.Rearranges l') (hl : l.Valid) (hl' : l'.Valid) (name : Text)
    (ns : Namespace) :
    OutcomeRel (Option.Rel fun c c' => c.listed.SameUpToOrder c'.listed) (l.findClass name ns)
      (l'.findClass name ns) := by
  unfold findClass
  rw [h.namespaces]
  cases l'.namespaces.check ns with
  | error e => exact .error e
  | ok _ => exact .ok (h.find?_rel hl hl' ns name)

theorem namesAlike (h : l.Rearranges l') (hl : l.Valid) (hl' : l'.Valid) : l.NamesAlike l' := by
  refine ⟨h.namespaces, ?_⟩
  intro ns name
  cases hfind : l.classes.find? ns name with
  | none => rw [h.find?_eq_none hl hl' hfind]
  | some c =>
    obtain ⟨c', hfind', hsame⟩ := h.exists_find? hl hl' hfind
    have hnaming : c.naming = c'.naming := hsame.naming
    rw [hfind', Option.map_some, Option.map_some, hnaming]

/-- Every look-up of a member answers, fails and records alike. -/
theorem findMember_eq (h : l.Rearranges l') (hl : l.Valid) (hl' : l'.Valid) (kind : MemberKind)
    (sought : Reference) (ns : Namespace) :
    l.findMember kind sought ns = l'.findMember kind sought ns := by
  by_cases hns : l.namespaces.Has ns
  · have hns' : l'.namespaces.Has ns := h.namespaces ▸ hns
    rw [Lexicon.findMember_eq hns, Lexicon.findMember_eq hns',
      (h.namesAlike hl hl').storedDescriptor]
    cases hfind : l.classes.find? ns sought.owner with
    | none => rw [h.find?_eq_none hl hl' hfind]
    | some c =>
      obtain ⟨c', hfind', hsame⟩ := h.exists_find? hl hl' hfind
      have hc := hl.classes c (hl.indexed.find?_eq_some_iff.mp hfind).1
      have hc' := hl'.classes c' (hl'.indexed.find?_eq_some_iff.mp hfind').1
      rw [h.namespaces] at hc
      simp only [hfind', hsame.find?_eq hc hc']
  · have hns' : ¬ l'.namespaces.Has ns := h.namespaces ▸ hns
    rw [findMember_of_not_has hns, findMember_of_not_has hns', h.namespaces]

end Rearranges

/-- Lexicons that mirror the same additions in different orders are rearranged. -/
theorem Mirrors.rearranges {as bs : List Addition} (h : l.Mirrors as) (h' : l'.Mirrors bs)
    (hns : l.namespaces = l'.namespaces) (hperm : as.Perm bs) : l.Rearranges l' := by
  refine ⟨hns, ?_⟩
  rw [h.classes, h'.classes]
  exact sameListing_of_perm hperm

end Lexicon

end SymbolLexicon
