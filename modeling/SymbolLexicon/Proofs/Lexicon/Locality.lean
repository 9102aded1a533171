/-
# SymbolLexicon.Proofs.Lexicon.Locality — an addition changes only the answers that are about it.

A new class changes what its own name answers in a namespace, and nothing else. Descriptors carry
this further than it seems: outside the first namespace a member is sought by a descriptor that is
renamed first, so a new class also changes look-ups in OTHER classes, but only those whose
descriptor mentions the name of the new class there. What is no descriptor mentions no class, and is
refused as before.

A new member changes the answer to the references that MEET it, that is, which name its class and
itself in a namespace and whose descriptor comes to the stored one in the first. Those found nothing
before, so no older member is hidden, and every other look-up, in any class, of any kind and in any
namespace, answers and records what it did before.
-/
import SymbolLexicon.Proofs.Lexicon.MemberLookup

namespace SymbolLexicon

/-- The text is a descriptor in which the class name occurs. -/
def Descriptor.Mentions (s name : Text) : Prop :=
  ∃ names, Descriptor.classNamesOf s = .ok names ∧ name ∈ names

namespace Lexicon

variable {l l' : Lexicon} {a b ns : Namespace}

/-! ## New classes -/

section NewClass

variable {naming : Naming} {name s : Text}

/-- A new class is found by its names, and every other name finds what it found before. -/
theorem Valid.find?_of_addClass (hl : l.Valid) (h : l.addClass naming = .ok l') (ns : Namespace)
    (name : Text) :
    l'.classes.find? ns name =
      if naming.name? ns = some name then some (ClassEntry.ofNaming naming)
      else l.classes.find? ns name := by
  obtain ⟨-, classes, hadd, rfl⟩ := addClass_eq_ok_iff.mp h
  exact hl.indexed.find?_of_add hadd ns name

theorem namespaces_of_addClass (h : l.addClass naming = .ok l') :
    l'.namespaces = l.namespaces :=
  namespaces_of_add (a := .ofClass naming) h

theorem Valid.findClass_of_addClass (hl : l.Valid) (h : l.addClass naming = .ok l')
    (hname : naming.name? ns ≠ some name) : l'.findClass name ns = l.findClass name ns := by
  rw [findClass, findClass, namespaces_of_addClass h, hl.find?_of_addClass h, if_neg hname]

/-- Only the name of the new class may be renamed otherwise than before. -/
theorem Valid.renamed_of_addClass (hl : l.Valid) (h : l.addClass naming = .ok l')
    (hname : naming.name? a ≠ some name) : l'.renamed a b name = l.renamed a b name := by
  rw [renamed, renamed, hl.find?_of_addClass h, if_neg hname]

/-- The name of the new class is renamed to its name in the target, if it has one there. -/
theorem Valid.renamed_new_class (hl : l.Valid) (h : l.addClass naming = .ok l')
    (hname : naming.name? a = some name) :
    l'.renamed a b name = (naming.name? b).getD name := by
  rw [renamed, hl.find?_of_addClass h, if_pos hname]
  split
  · rename_i hab
    rw [← hab, hname]
    rfl
  · rfl

theorem Valid.renameClass_of_addClass (hl : l.Valid) (h : l.addClass naming = .ok l')
    (ha : l.namespaces.Has a) (hb : l.namespaces.Has b) (harray : isArrayName name = false)
    (hname : naming.name? a ≠ some name) : l'.renameClass name a b = l.renameClass name a b := by
  have hns := namespaces_of_addClass h
  rw [(hl.addClass h).renameClass_eq (hns ▸ ha) (hns ▸ hb) harray, hl.renameClass_eq ha hb harray,
    hl.renamed_of_addClass h hname]

theorem Valid.renameClass_new_class (hl : l.Valid) (h : l.addClass naming = .ok l')
    (ha : l.namespaces.Has a) (hb : l.namespaces.Has b) (harray : isArrayName name = false)
    (hname : naming.name? a = some name) :
    l'.renameClass name a b = .ok ((naming.name? b).getD name) := by
  have hns := namespaces_of_addClass h
  rw [(hl.addClass h).renameClass_eq (hns ▸ ha) (hns ▸ hb) harray, hl.renamed_new_class h hname]

/-- A text that does not mention the new class is renamed, or refused, as before. -/
theorem Valid.renameDescriptor_of_addClass (hl : l.Valid) (h : l.addClass naming = .ok l')
    (ha : l.namespaces.Has a) (hb : l.namespaces.Has b)
    (hs : ∀ name ∈ naming.name? a, ¬ Descriptor.Mentions s name) :
    l'.renameDescriptor s a b = l.renameDescriptor s a b := by
  have hns := namespaces_of_addClass h
  rw [(hl.addClass h).renameDescriptor_eq (hns ▸ ha) (hns ▸ hb), hl.renameDescriptor_eq ha hb]
  cases hread : Descriptor.read s with
  | error refusal => rfl
  | ok d =>
    have hnames : Descriptor.classNamesOf s = .ok d.classNames := by
      simp only [Descriptor.classNamesOf, hread]
    have hsame : d.mapNames (l'.renamed a b) = d.mapNames (l.renamed a b) := by
      rw [Descriptor.mapNames_congr_iff]
      intro x hx
      exact hl.renamed_of_addClass h fun hxa => hs x hxa ⟨_, hnames, hx⟩
    simp only [hsame]

/-- The stored descriptor is the same for a reference that does not mention the new class, and for
every one in the first namespace, where nothing is renamed. -/
theorem Valid.storedDescriptor_of_addClass (hl : l.Valid) (h : l.addClass naming = .ok l')
    (hns : l.namespaces.Has ns) (kind : MemberKind) {sought : Reference}
    (hdescriptor : ns = .first ∨
      ∀ name ∈ naming.name? ns, ¬ Descriptor.Mentions sought.descriptor name) :
    l'.storedDescriptor kind sought ns = l.storedDescriptor kind sought ns := by
  unfold storedDescriptor
  split
  · rfl
  · rename_i hfirst
    have hs := hdescriptor.resolve_left hfirst
    exact hl.renameDescriptor_of_addClass h hns l.namespaces.has_first hs

theorem Valid.findMember_of_addClass (hl : l.Valid) (h : l.addClass naming = .ok l')
    (hns : l.namespaces.Has ns) (kind : MemberKind) {sought : Reference}
    (howner : naming.name? ns ≠ some sought.owner)
    (hdescriptor : ns = .first ∨
      ∀ name ∈ naming.name? ns, ¬ Descriptor.Mentions sought.descriptor name) :
    l'.findMember kind sought ns = l.findMember kind sought ns := by
  have hns' : l'.namespaces.Has ns := namespaces_of_addClass h ▸ hns
  rw [findMember_eq hns', findMember_eq hns, hl.find?_of_addClass h, if_neg howner,
    hl.storedDescriptor_of_addClass h hns kind hdescriptor]

end NewClass

/-- **A new class changes only the answers that mention its name.** From a namespace in which it is
called otherwise or not at all, class names and descriptors are renamed as before, errors included;
classes are found as before; and so are members of other classes, with the same records, by
references that do not mention it or are in the first namespace. Its own name becomes its name in
the target, if it has one there. -/
theorem Reachable.addClass_local (hl : l.Reachable) {naming : Naming}
    (hadd : l.add (.ofClass naming) = .ok l') {source target : Namespace}
    (hsource : l.namespaces.Has source) (htarget : l.namespaces.Has target) :
    (∀ name, isArrayName name = false → naming.name? source ≠ some name →
      l'.renameClass name source target = l.renameClass name source target) ∧
    (∀ s, (∀ name ∈ naming.name? source, ¬ Descriptor.Mentions s name) →
      l'.renameDescriptor s source target = l.renameDescriptor s source target) ∧
    (∀ name, naming.name? source ≠ some name →
      l'.findClass name source = l.findClass name source) ∧
    (∀ kind sought, naming.name? source ≠ some sought.owner →
      (source = .first ∨
        ∀ name ∈ naming.name? source, ¬ Descriptor.Mentions sought.descriptor name) →
      l'.findMember kind sought source = l.findMember kind sought source) ∧
    ∀ name, isArrayName name = false → naming.name? source = some name →
      l'.renameClass name source target = .ok ((naming.name? target).getD name) := by
  have hv := hl.valid
  have h : l.addClass naming = .ok l' := hadd
  refine ⟨?_, ?_, ?_, ?_, ?_⟩
  · intro name harray hname
    exact hv.renameClass_of_addClass h hsource htarget harray hname
  · intro s hs
    exact hv.renameDescriptor_of_addClass h hsource htarget hs
  · intro name hname
    exact hv.findClass_of_addClass h hname
  · intro kind sought howner hdescriptor
    exact hv.findMember_of_addClass h hsource kind howner hdescriptor
  · intro name harray hname
    exact hv.renameClass_new_class h hsource htarget harray hname

/-- A class that is called `E` in the second namespace leaves the field `m` of `Main` there, whose
descriptor mentions `B`, and is the answer for `E`. -/
theorem crossed_new_class :
    crossed.Reachable ∧ crossed.namespaces.Has ⟨1⟩ ∧ crossed.namespaces.Has .first ∧
      (Naming.ofStrings ["D", "E"]).name? ⟨1⟩ ≠ some "Main" ∧
      (∀ name ∈ (Naming.ofStrings ["D", "E"]).name? ⟨1⟩, ¬ Descriptor.Mentions "LB;" name) ∧
      ∃ l', crossed.add (.ofClass (.ofStrings ["D", "E"])) = .ok l' ∧
        l'.renameDescriptor "LB;" ⟨1⟩ .first = crossed.renameDescriptor "LB;" ⟨1⟩ .first ∧
        l'.findMember .field ⟨"Main", "m", "LB;"⟩ ⟨1⟩ =
          crossed.findMember .field ⟨"Main", "m", "LB;"⟩ ⟨1⟩ ∧
        crossed.renameClass "E" ⟨1⟩ .first = .ok "E" ∧
        l'.renameClass "E" ⟨1⟩ .first = .ok "D" := by
  have hl : crossed.Reachable := ⟨_, _, rfl⟩
  have hsecond : crossed.namespaces.Has ⟨1⟩ := by decide +kernel
  have hfirst := crossed.namespaces.has_first
  have howner : (Naming.ofStrings ["D", "E"]).name? ⟨1⟩ ≠ some "Main" := by decide
  have hnames : Descriptor.classNamesOf "LB;" = .ok ["B"] := rfl
  have hmentions :
      ∀ name ∈ (Naming.ofStrings ["D", "E"]).name? ⟨1⟩, ¬ Descriptor.Mentions "LB;" name := by
    rintro name hname ⟨names, h, hmem⟩
    obtain rfl : "E" = name := Option.some.inj hname
    obtain rfl := Except.ok.inj (hnames.symm.trans h)
    exact absurd hmem (by decide)
  obtain ⟨l', hadd⟩ : ∃ l', crossed.add (.ofClass (.ofStrings ["D", "E"])) = .ok l' := ⟨_, rfl⟩
  obtain ⟨-, hdescriptor, -, hmember, hnew⟩ := hl.addClass_local hadd hsecond hfirst
  exact ⟨hl, hsecond, hfirst, howner, hmentions, l', hadd, hdescriptor "LB;" hmentions,
    hmember .field ⟨"Main", "m", "LB;"⟩ howner (.inr hmentions), rfl, hnew "E" rfl rfl⟩

/-! ## New members -/

section NewMember

variable {kind : MemberKind} {owner : Text} {naming : Naming} {descriptor : Text}

/-- The reference names the class `owner` and the member in the namespace, and its descriptor is
renamed to the one that the member is stored with. -/
structure Meets (l : Lexicon) (owner : Text) (m : MemberEntry) (sought : Reference)
    (ns : Namespace) : Prop where
  owner : l.Links .first owner ns sought.owner
  name : m.naming.name? ns = some sought.name
  descriptor : l.renameDescriptor sought.descriptor ns .first = .ok m.descriptor

/-- The owner with the new member is found by the names of the owner, and every other name finds
what it found before. -/
theorem Valid.exists_find?_of_addMember (hl : l.Valid)
    (h : l.addMember kind owner naming descriptor = .ok l') :
    ∃ c ms, c ∈ l.classes.entries ∧ c.naming.name? .first = some owner ∧
      (c.members kind).add ⟨descriptor, naming⟩ = .ok ms ∧
        ∀ ns name, l'.classes.find? ns name =
          if c.naming.name? ns = some name then some (c.withMembers kind ms)
          else l.classes.find? ns name := by
  obtain ⟨-, -, c, ms, hfind, hadd, rfl⟩ := addMember_eq_ok_iff.mp h
  obtain ⟨hc, howner⟩ := hl.indexed.find?_eq_some_iff.mp hfind
  exact ⟨c, ms, hc, howner, hadd, hl.indexed.find?_replace hfind⟩

/-- A new member leaves the names of all classes. -/
theorem Valid.namesAlike_of_addMember (hl : l.Valid)
    (h : l.addMember kind owner naming descriptor = .ok l') : l'.NamesAlike l := by
  obtain ⟨c, ms, hc, -, -, hfind⟩ := hl.exists_find?_of_addMember h
  refine ⟨namespaces_of_add (a := .ofMember kind owner naming descriptor) h, ?_⟩
  intro ns name
  rw [hfind]
  split
  · rename_i hname
    rw [hl.indexed.find?_eq_some_iff.mpr ⟨hc, hname⟩, Option.map_some, Option.map_some,
      ClassEntry.naming_withMembers]
  · rfl

theorem Valid.map_naming_of_addMember (hl : l.Valid)
    (h : l.addMember kind owner naming descriptor = .ok l') :
    l'.classes.entries.map ClassEntry.naming = l.classes.entries.map ClassEntry.naming := by
  obtain ⟨-, -, c, ms, hfind, -, rfl⟩ := addMember_eq_ok_iff.mp h
  obtain ⟨hc, hkey⟩ := hl.indexed.find?_eq_some_iff.mp hfind
  rw [hl.indexed.entries_replace, Array.map_map]
  apply Array.map_congr_left
  intro c' hc'
  by_cases hkey' : Keyed.key? c' .first = some owner
  · obtain rfl := hl.indexed.eq_of_key? hc' hc hkey' hkey
    simp only [Function.comp_apply, hkey', if_true, ClassEntry.naming_withMembers]
  · simp only [Function.comp_apply, hkey', if_false]

/-- A reference that meets the new member found nothing before and finds the member now. -/
theorem Valid.findMember_of_meets (hl : l.Valid) (hns : l.namespaces.Has ns)
    (h : l.addMember kind owner naming descriptor = .ok l') {sought : Reference}
    (hmeets : l.Meets owner ⟨descriptor, naming⟩ sought ns) :
    l.findMember kind sought ns = ⟨.ok none, []⟩ ∧
      l'.findMember kind sought ns = ⟨.ok (some ⟨descriptor, naming⟩), []⟩ := by
  obtain ⟨c, ms, hc, howner, hadd, hfind⟩ := hl.exists_find?_of_addMember h
  have halike := hl.namesAlike_of_addMember h
  have hns' : l'.namespaces.Has ns := halike.namespaces ▸ hns
  obtain ⟨⟨c', hc', howner', hname'⟩, hname, hdescriptor⟩ := hmeets
  obtain rfl := hl.indexed.eq_of_key? hc' hc howner' howner
  have hstored := (hl.storedDescriptor_eq_ok_iff hns kind sought).mpr hdescriptor
  have hkey : Keyed.key? (⟨descriptor, naming⟩ : MemberEntry) ns =
      some (⟨sought.name, descriptor⟩ : Signature) :=
    MemberEntry.key?_eq_some_iff.mpr ⟨hname, rfl⟩
  refine ⟨?_, ?_⟩
  · -- the signature was free, for the member was accepted
    have hfree := (Register.add_eq_ok_iff.mp hadd).1 ns _ hkey
    rw [findMember_eq hns, hl.indexed.find?_eq_some_iff.mpr ⟨hc', hname'⟩]
    simp only [hstored, Except.map, hfree]
  · rw [findMember_eq hns', hfind, if_pos hname', halike.storedDescriptor]
    simp only [hstored, Except.map, ClassEntry.members_withMembers,
      ((hl.classes _ hc').indexed kind).find?_of_add hadd, hkey, if_true]

/-- Every other look-up answers and records what it did before. -/
theorem Valid.findMember_of_not_meets (hl : l.Valid) (hns : l.namespaces.Has ns)
    (h : l.addMember kind owner naming descriptor = .ok l') {kind' : MemberKind}
    {sought : Reference}
    (hmeets : ¬ (kind' = kind ∧ l.Meets owner ⟨descriptor, naming⟩ sought ns)) :
    l'.findMember kind' sought ns = l.findMember kind' sought ns := by
  obtain ⟨c, ms, hc, howner, hadd, hfind⟩ := hl.exists_find?_of_addMember h
  have halike := hl.namesAlike_of_addMember h
  have hns' : l'.namespaces.Has ns := halike.namespaces ▸ hns
  rw [findMember_eq hns', findMember_eq hns, hfind, halike.storedDescriptor]
  by_cases hname : c.naming.name? ns = some sought.owner
  · rw [if_pos hname, hl.indexed.find?_eq_some_iff.mpr ⟨hc, hname⟩]
    cases hstored : l.storedDescriptor kind' sought ns with
    | error e => rfl
    | ok t =>
      by_cases hkind : kind' = kind
      · subst hkind
        have hkey : Keyed.key? (⟨descriptor, naming⟩ : MemberEntry) ns ≠
            some (⟨sought.name, t⟩ : Signature) := by
          intro hkey
          obtain ⟨hmember, rfl⟩ := MemberEntry.key?_eq_some_iff.mp hkey
          have hrename := (hl.storedDescriptor_eq_ok_iff hns kind' sought).mp hstored
          exact hmeets ⟨rfl, ⟨c, hc, howner, hname⟩, hmember, hrename⟩
        simp only [Except.map, ClassEntry.members_withMembers,
          ((hl.classes c hc).indexed kind').find?_of_add hadd, hkey, if_false]
      · simp only [Except.map, ClassEntry.members_withMembers_of_ne c hkind]
  · rw [if_neg hname]

end NewMember

/-- **A new member is a new answer to the references that meet it, and changes no other.** Those
found nothing before and find the member afterwards; a look-up of the other kind or by any other
reference keeps its answer, its error and its records. Classes keep their names, so that class names
and descriptors are renamed as before. -/
theorem Reachable.addMember_local (hl : l.Reachable) {kind : MemberKind} {owner : Text}
    {naming : Naming} {descriptor : Text}
    (hadd : l.add (.ofMember kind owner naming descriptor) = .ok l') :
    (∀ kind' sought ns, l.namespaces.Has ns →
      (kind' = kind ∧ l.Meets owner ⟨descriptor, naming⟩ sought ns →
        l.findMember kind' sought ns = ⟨.ok none, []⟩ ∧
          l'.findMember kind' sought ns = ⟨.ok (some ⟨descriptor, naming⟩), []⟩) ∧
      (¬ (kind' = kind ∧ l.Meets owner ⟨descriptor, naming⟩ sought ns) →
        l'.findMember kind' sought ns = l.findMember kind' sought ns)) ∧
    (∀ name source target, l'.renameClass name source target = l.renameClass name source target) ∧
    (∀ s source target,
      l'.renameDescriptor s source target = l.renameDescriptor s source target) ∧
    l'.classes.entries.map ClassEntry.naming = l.classes.entries.map ClassEntry.naming ∧
    ∀ name ns, (l'.findClass name ns).map (Option.map ClassEntry.naming) =
      (l.findClass name ns).map (Option.map ClassEntry.naming) := by
  have hv := hl.valid
  have halike := hv.namesAlike_of_addMember hadd
  refine ⟨?_, halike.renameClass, halike.renameDescriptor, hv.map_naming_of_addMember hadd,
    halike.findClass⟩
  intro kind' sought ns hns
  refine ⟨?_, hv.findMember_of_not_meets hns hadd⟩
  rintro ⟨rfl, hmeets⟩
  exact hv.findMember_of_meets hns hadd hmeets

/-- A field of type `C` is found in the second namespace as one of type `B`, and the fields that are
called `m` there are found as before. -/
theorem crossed_new_member :
    crossed.Reachable ∧ crossed.namespaces.Has ⟨1⟩ ∧
      crossed.Meets "A" ⟨"LC;", .ofStrings ["w", "q"]⟩ ⟨"Main", "q", "LB;"⟩ ⟨1⟩ ∧
      ¬ crossed.Meets "A" ⟨"LC;", .ofStrings ["w", "q"]⟩ ⟨"Main", "m", "LB;"⟩ ⟨1⟩ ∧
      ∃ l', crossed.add (.ofMember .field "A" (.ofStrings ["w", "q"]) "LC;") = .ok l' ∧
        crossed.findMember .field ⟨"Main", "q", "LB;"⟩ ⟨1⟩ = ⟨.ok none, []⟩ ∧
        l'.findMember .field ⟨"Main", "q", "LB;"⟩ ⟨1⟩ =
          ⟨.ok (some ⟨"LC;", .ofStrings ["w", "q"]⟩), []⟩ ∧
        l'.findMember .field ⟨"Main", "m", "LB;"⟩ ⟨1⟩ =
          crossed.findMember .field ⟨"Main", "m", "LB;"⟩ ⟨1⟩ := by
  have hl : crossed.Reachable := ⟨_, _, rfl⟩
  have hsecond : crossed.namespaces.Has ⟨1⟩ := by decide +kernel
  obtain ⟨c, hc⟩ : ∃ c, crossed.classes.entries[0]? = some c := ⟨_, rfl⟩
  have hlinks : crossed.Links .first "A" ⟨1⟩ "Main" := by
    refine ⟨c, Array.mem_of_getElem? hc, ?_⟩
    cases hc
    exact ⟨rfl, rfl⟩
  have hmeets : crossed.Meets "A" ⟨"LC;", .ofStrings ["w", "q"]⟩ ⟨"Main", "q", "LB;"⟩ ⟨1⟩ :=
    ⟨hlinks, rfl, rfl⟩
  have hmisses :
      ¬ crossed.Meets "A" ⟨"LC;", .ofStrings ["w", "q"]⟩ ⟨"Main", "m", "LB;"⟩ ⟨1⟩ := by
    intro h
    exact absurd h.name (by decide)
  obtain ⟨l', hadd⟩ :
      ∃ l', crossed.add (.ofMember .field "A" (.ofStrings ["w", "q"]) "LC;") = .ok l' := ⟨_, rfl⟩
  obtain ⟨hlookups, -⟩ := hl.addMember_local hadd
  obtain ⟨hbefore, hafter⟩ := (hlookups .field _ _ hsecond).1 ⟨rfl, hmeets⟩
  have hother := (hlookups .field _ _ hsecond).2 fun h => hmisses h.2
  exact ⟨hl, hsecond, hmeets, hmisses, l', hadd, hbefore, hafter, hother⟩

end Lexicon

end SymbolLexicon
