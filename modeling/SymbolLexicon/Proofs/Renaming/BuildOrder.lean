/-
# SymbolLexicon.Proofs.Renaming.BuildOrder — the order of additions makes no difference.

Two lexicons ANSWER ALIKE when every look-up of a member and every renaming, direct or through a
`Renaming` made in them, gives the same result, the same error or the same records. Only the
classes that are listed or handed out tell them apart, by the order of their members.

Additions that can be carried out in one order can be carried out in every order with the owners
first, and the lexicons that they lead to are rearranged; and rearranged lexicons answer alike.
-/
import SymbolLexicon.Renaming
import SymbolLexicon.Proofs.Lexicon.Rearrangement

namespace SymbolLexicon

/-! ## Renamings in two lexicons -/

namespace Renaming

/-- The same renaming in another lexicon. -/
def inLexicon (r : Renaming) (l : Lexicon) : Renaming := ⟨l, r.source, r.target⟩

/-- The name in the target is read off the member, whatever the lexicon. -/
theorem targetName_inLexicon (r : Renaming) (l l' : Lexicon) (sought : Reference)
    (found : Option MemberEntry) :
    (r.inLexicon l).targetName sought found = (r.inLexicon l').targetName sought found := by
  cases found <;> rfl

end Renaming

namespace Lexicon

/-- Both lexicons give the same answers, texts of errors and records included: look-ups of members,
renamings of classes and descriptors, and what renamings in them are made by and asked for. -/
structure AnswersAlike (l l' : Lexicon) : Prop where
  findMember : ∀ kind sought ns, l.findMember kind sought ns = l'.findMember kind sought ns
  renameClass : ∀ name source target,
    l.renameClass name source target = l'.renameClass name source target
  renameDescriptor : ∀ s source target,
    l.renameDescriptor s source target = l'.renameDescriptor s source target
  between : ∀ source target, Renaming.between l' source target =
    (do return (← Renaming.between l source target).inLexicon l')
  betweenNamed : ∀ source target, Renaming.betweenNamed l' source target =
    (do return (← Renaming.betweenNamed l source target).inLexicon l')
  reversed : ∀ r : Renaming, (r.inLexicon l').reversed =
    (do return (← (r.inLexicon l).reversed).inLexicon l')
  className : ∀ (r : Renaming) name,
    (r.inLexicon l).className name = (r.inLexicon l').className name
  classNameBack : ∀ (r : Renaming) name,
    (r.inLexicon l).classNameBack name = (r.inLexicon l').classNameBack name
  descriptor : ∀ (r : Renaming) s, (r.inLexicon l).descriptor s = (r.inLexicon l').descriptor s
  descriptorBack : ∀ (r : Renaming) s,
    (r.inLexicon l).descriptorBack s = (r.inLexicon l').descriptorBack s
  memberName : ∀ (r : Renaming) kind sought,
    (r.inLexicon l).memberName kind sought = (r.inLexicon l').memberName kind sought
  reference : ∀ (r : Renaming) kind sought,
    (r.inLexicon l).reference kind sought = (r.inLexicon l').reference kind sought

variable {l l' : Lexicon}

theorem Rearranges.memberName_eq (h : l.Rearranges l') (hl : l.Valid) (hl' : l'.Valid)
    (r : Renaming) (kind : MemberKind) (sought : Reference) :
    (r.inLexicon l).memberName kind sought = (r.inLexicon l').memberName kind sought := by
  have hfound : (r.inLexicon l).lexicon.findMember kind sought (r.inLexicon l).source =
      (r.inLexicon l').lexicon.findMember kind sought (r.inLexicon l').source :=
    h.findMember_eq hl hl' kind sought r.source
  unfold Renaming.memberName
  rw [hfound]
  simp only [Renaming.targetName_inLexicon r l l']

theorem Rearranges.betweenNamed_eq (h : l.Rearranges l') (source target : String) :
    Renaming.betweenNamed l' source target =
      (do return (← Renaming.betweenNamed l source target).inLexicon l') := by
  unfold Renaming.betweenNamed
  rw [h.namespaces]
  cases l'.namespaces.find source with
  | error e => rfl
  | ok ns => cases l'.namespaces.find target <;> rfl

theorem Rearranges.answersAlike (h : l.Rearranges l') (hl : l.Valid) (hl' : l'.Valid) :
    l.AnswersAlike l' := by
  have hnames := h.namesAlike hl hl'
  have hmember := h.memberName_eq hl hl'
  refine
    { findMember := h.findMember_eq hl hl'
      renameClass := hnames.renameClass
      renameDescriptor := hnames.renameDescriptor
      between := fun _ _ => rfl
      betweenNamed := h.betweenNamed_eq
      reversed := fun _ => rfl
      className := fun r name => hnames.renameClass name r.source r.target
      classNameBack := fun r name => hnames.renameClass name r.target r.source
      descriptor := fun r s => hnames.renameDescriptor s r.source r.target
      descriptorBack := fun r s => hnames.renameDescriptor s r.target r.source
      memberName := hmember
      reference := ?_ }
  intro r kind sought
  have hclass : ∀ name, (r.inLexicon l).className name = (r.inLexicon l').className name :=
    fun name => hnames.renameClass name r.source r.target
  have hdescriptor : ∀ s, (r.inLexicon l).descriptor s = (r.inLexicon l').descriptor s :=
    fun s => hnames.renameDescriptor s r.source r.target
  unfold Renaming.reference
  rw [hmember, hclass, hdescriptor]

/-! ## Any order -/

/-- **The order of additions makes no difference.** Additions that are all accepted in one order are
all accepted in every other order with the owners first, and the two lexicons have the same classes
with the same members up to the order of either, find the same class under every name up to the
order of its members, and give the same answer to everything else that they and the renamings in
them can be asked. -/
theorem build_order_irrelevant {nss : Namespaces} {as bs : List Addition}
    (h : (empty nss).addAll as = .ok l) (hperm : as.Perm bs) (howners : OwnersFirst bs) :
    ∃ l', (empty nss).addAll bs = .ok l' ∧
      SameListing (l.classes.entries.toList.map ClassEntry.listed)
        (l'.classes.entries.toList.map ClassEntry.listed) ∧
      (∀ name ns, OutcomeRel (Option.Rel fun c c' => c.listed.SameUpToOrder c'.listed)
        (l.findClass name ns) (l'.findClass name ns)) ∧
      l.AnswersAlike l' := by
  obtain ⟨l', h'⟩ := exists_addAll_of_perm ⟨l, h⟩ hperm howners
  obtain ⟨hl, hmirrors, hns⟩ := mirrors_of_addAll h
  obtain ⟨hl', hmirrors', hns'⟩ := mirrors_of_addAll h'
  have hrearranges := hmirrors.rearranges hmirrors' (hns.trans hns'.symm) hperm
  exact ⟨l', h', hrearranges.classes, hrearranges.findClass_rel hl hl',
    hrearranges.answersAlike hl hl'⟩

/-- Two classes and two fields of the first one. The first field is added before its type. -/
def typeLast : List Addition :=
  [.ofClass (.ofStrings ["A", "Main"]),
    .ofMember .field "A" (.ofStrings ["x", "m"]) "LB;",
    .ofMember .field "A" (.ofStrings ["y", "m"]) "LA;",
    .ofClass (.ofStrings ["B", "Helper"])]

/-- The same additions, with the type first and the fields the other way around. -/
def typeFirst : List Addition :=
  [.ofClass (.ofStrings ["B", "Helper"]),
    .ofClass (.ofStrings ["A", "Main"]),
    .ofMember .field "A" (.ofStrings ["y", "m"]) "LA;",
    .ofMember .field "A" (.ofStrings ["x", "m"]) "LB;"]

/-- In either order the field of type `Helper` is found in the second namespace and is renamed
alike. -/
theorem typeFirst_build_order :
    typeLast.Perm typeFirst ∧ OwnersFirst typeFirst ∧ typeLast ≠ typeFirst ∧
      ∃ l l', (empty sourceTarget).addAll typeLast = .ok l ∧
        (empty sourceTarget).addAll typeFirst = .ok l' ∧
        l.findMember .field ⟨"Main", "m", "LHelper;"⟩ ⟨1⟩ =
          ⟨.ok (some ⟨"LB;", .ofStrings ["x", "m"]⟩), []⟩ ∧
        l'.findMember .field ⟨"Main", "m", "LHelper;"⟩ ⟨1⟩ =
          ⟨.ok (some ⟨"LB;", .ofStrings ["x", "m"]⟩), []⟩ ∧
        (⟨l, ⟨1⟩, .first⟩ : Renaming).reference .field ⟨"Main", "m", "LHelper;"⟩ =
          (⟨l', ⟨1⟩, .first⟩ : Renaming).reference .field ⟨"Main", "m", "LHelper;"⟩ := by
  have hperm : typeLast.Perm typeFirst := by decide
  have howners : OwnersFirst typeFirst := by decide
  obtain ⟨l, hl, hfound⟩ : ∃ l, (empty sourceTarget).addAll typeLast = .ok l ∧
      l.findMember .field ⟨"Main", "m", "LHelper;"⟩ ⟨1⟩ =
        ⟨.ok (some ⟨"LB;", .ofStrings ["x", "m"]⟩), []⟩ := ⟨_, rfl, rfl⟩
  obtain ⟨l', hl', -, -, halike⟩ := build_order_irrelevant hl hperm howners
  have hreference :=
    halike.reference ⟨l, ⟨1⟩, .first⟩ .field ⟨"Main", "m", "LHelper;"⟩
  exact ⟨hperm, howners, by decide, l, l', hl, hl', hfound,
    (halike.findMember _ _ _).symm.trans hfound, hreference⟩

end Lexicon

end SymbolLexicon
