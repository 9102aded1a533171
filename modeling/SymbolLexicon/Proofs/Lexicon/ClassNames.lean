/-
# SymbolLexicon.Proofs.Lexicon.ClassNames — class names there and back.

In a valid lexicon a class that is no array is renamed by a total function, `renamed`: to the
class's name in the target where there is one, else to itself. Classes LINK names of two namespaces,
one to one in either direction, so `renamed` is a partial bijection completed by the identity. It is
the completion that loses information: a name may stay as it is and then be taken for the name of
another class in the target.

`RoundTrips` is the exact condition under which a name comes back. It lifts to descriptors, because
class names without delimiters leave the structure of a descriptor alone.
-/
import SymbolLexicon.Lexicon.Rename
import SymbolLexicon.Proofs.Descriptor.Substitution
import SymbolLexicon.Proofs.Lexicon.Invariant

namespace SymbolLexicon

namespace Lexicon

variable {l : Lexicon} {a b : Namespace}

/-! ## Links -/

/-- Some class is called `name` in `a` and `other` in `b`. -/
def Links (l : Lexicon) (a : Namespace) (name : Text) (b : Namespace) (other : Text) : Prop :=
  ∃ c ∈ l.classes.entries, c.naming.name? a = some name ∧ c.naming.name? b = some other

theorem Links.symm {name other : Text} (h : l.Links a name b other) : l.Links b other a name := by
  obtain ⟨c, hc, ha, hb⟩ := h
  exact ⟨c, hc, hb, ha⟩

/-- A name in `a` is linked to one name in `b` at most, since only one class has it. -/
theorem Valid.links_unique (hl : l.Valid) {name other other' : Text} (h : l.Links a name b other)
    (h' : l.Links a name b other') : other = other' := by
  obtain ⟨c, hc, ha, hb⟩ := h
  obtain ⟨c', hc', ha', hb'⟩ := h'
  obtain rfl : c = c' := hl.indexed.eq_of_key? hc hc' ha ha'
  exact Option.some.inj (hb.symm.trans hb')

/-! ## Renaming as a function -/

/-- What a class that is no array is renamed to: its name in the target, if it is known in the
source and has one there, else the name itself. -/
def renamed (l : Lexicon) (source target : Namespace) (name : Text) : Text :=
  if source = target then name
  else ((l.classes.find? source name).bind fun c => c.naming.name? target).getD name

theorem Valid.find?_bind_eq_some_iff (hl : l.Valid) {name other : Text} :
    ((l.classes.find? a name).bind fun c => c.naming.name? b) = some other ↔
      l.Links a name b other := by
  rw [Option.bind_eq_some_iff]
  simp only [hl.indexed.find?_eq_some_iff, ClassEntry.key?_eq, and_assoc]
  rfl

/-- A linked name becomes the name that it is linked to. -/
theorem Valid.renamed_of_links (hl : l.Valid) {name other : Text} (h : l.Links a name b other) :
    l.renamed a b name = other := by
  unfold renamed
  split
  · rename_i hab
    subst hab
    obtain ⟨c, -, hname, hother⟩ := h
    exact Option.some.inj (hname.symm.trans hother)
  · rw [hl.find?_bind_eq_some_iff.mpr h]
    rfl

/-- A name that is not linked stays as it is. -/
theorem Valid.renamed_of_not_links (hl : l.Valid) {name : Text}
    (h : ¬ ∃ other, l.Links a name b other) : l.renamed a b name = name := by
  unfold renamed
  split
  · rfl
  · cases hfind : (l.classes.find? a name).bind fun c => c.naming.name? b with
    | none => rfl
    | some other => exact absurd ⟨other, hl.find?_bind_eq_some_iff.mp hfind⟩ h

theorem renamed_self (name : Text) : l.renamed a a name = name := by
  simp [renamed]

/-- Renaming the name of a class that is no array never fails in namespaces of the lexicon. -/
theorem Valid.renameElement_eq (hl : l.Valid) (ha : l.namespaces.Has a) (hb : l.namespaces.Has b)
    (name : Text) : l.renameElement name a b = .ok (l.renamed a b name) := by
  unfold renameElement renamed
  split
  · rfl
  · simp only [findClass_eq_ok ha, Error.ok_bind]
    cases hfind : l.classes.find? a name with
    | none => rfl
    | some c =>
      -- a class of a valid lexicon has a slot for each of its namespaces
      obtain ⟨hc, -⟩ := hl.indexed.find?_eq_some_iff.mp hfind
      simp [(hl.classes c hc).fits.get_eq_ok hb]

theorem Valid.renameClass_eq (hl : l.Valid) (ha : l.namespaces.Has a) (hb : l.namespaces.Has b)
    {name : Text} (hname : isArrayName name = false) :
    l.renameClass name a b = .ok (l.renamed a b name) := by
  simp [renameClass, Namespaces.check_eq_ok ha, Namespaces.check_eq_ok hb, hname,
    hl.renameElement_eq ha hb]

/-- A well-formed descriptor is renamed by renaming each of its class names. -/
theorem Valid.renameDescriptor_text (hl : l.Valid) (ha : l.namespaces.Has a)
    (hb : l.namespaces.Has b) {d : Descriptor} (hd : d.WellFormed) :
    l.renameDescriptor d.text a b = .ok (d.mapNames (l.renamed a b)).text := by
  have hrename : Descriptor.rename (fun name => l.renameElement name a b) d.text =
      .ok (d.mapNames (l.renamed a b)).text :=
    Descriptor.rename_text hd fun name _ => hl.renameElement_eq ha hb name
  simp [renameDescriptor, Namespaces.check_eq_ok ha, Namespaces.check_eq_ok hb, hrename]

/-- All that renaming a descriptor does in namespaces of the lexicon: the classes it has make no
difference to what is refused and why. -/
theorem Valid.renameDescriptor_eq (hl : l.Valid) (ha : l.namespaces.Has a)
    (hb : l.namespaces.Has b) (s : Text) :
    l.renameDescriptor s a b =
      match Descriptor.read s with
      | .ok d => .ok (d.mapNames (l.renamed a b)).text
      | .error refusal =>
        .error ((refusal.reason.error s).within (.renamingClasses s a b)) := by
  cases hread : Descriptor.read s with
  | ok d =>
    obtain ⟨hd, rfl⟩ := Descriptor.read_eq_ok_iff.mp hread
    exact hl.renameDescriptor_text ha hb hd
  | error refusal =>
    have hrename : Descriptor.rename (fun name => l.renameElement name a b) s =
        .error (refusal.reason.error s) :=
      Descriptor.rename_of_refused hread fun p _ => ⟨_, hl.renameElement_eq ha hb p.2⟩
    simp [renameDescriptor, Namespaces.check_eq_ok ha, Namespaces.check_eq_ok hb, hrename]

/-- Whatever the namespaces, only descriptors are renamed. -/
theorem isDescriptor_of_renameDescriptor {s t : Text} (h : l.renameDescriptor s a b = .ok t) :
    IsDescriptor s := by
  obtain ⟨-, -, h⟩ := Error.bind_eq_ok_iff.mp h
  obtain ⟨-, -, h⟩ := Error.bind_eq_ok_iff.mp h
  exact Descriptor.isDescriptor_of_rename (Error.mapError_eq_ok_iff.mp h)

/-- In namespaces of the lexicon, exactly the descriptors are renamed. -/
theorem Valid.exists_renameDescriptor_iff (hl : l.Valid) (ha : l.namespaces.Has a)
    (hb : l.namespaces.Has b) {s : Text} :
    (∃ t, l.renameDescriptor s a b = .ok t) ↔ IsDescriptor s := by
  refine ⟨?_, ?_⟩
  · rintro ⟨t, h⟩
    exact isDescriptor_of_renameDescriptor h
  · rintro ⟨d, hd, rfl⟩
    exact ⟨_, hl.renameDescriptor_text ha hb hd⟩

theorem mapNames_renamed_self (d : Descriptor) : d.mapNames (l.renamed a a) = d :=
  Descriptor.mapNames_eq_self_iff.mpr fun x _ => renamed_self x

/-- From a namespace to itself, a descriptor stays as it is. -/
theorem Valid.renameDescriptor_self_eq_ok_iff (hl : l.Valid) (ha : l.namespaces.Has a)
    {s t : Text} : l.renameDescriptor s a a = .ok t ↔ IsDescriptor s ∧ s = t := by
  refine ⟨?_, ?_⟩
  · intro h
    have hs := isDescriptor_of_renameDescriptor h
    refine ⟨hs, ?_⟩
    obtain ⟨d, hd, rfl⟩ := hs
    rw [hl.renameDescriptor_text ha ha hd, mapNames_renamed_self] at h
    exact Except.ok.inj h
  · rintro ⟨⟨d, hd, rfl⟩, rfl⟩
    rw [hl.renameDescriptor_text ha ha hd, mapNames_renamed_self]

/-! ## What renaming depends on -/

/-- The lexicons have the same namespaces, and a name finds a class in both or in neither, with the
same naming. -/
structure NamesAlike (l l' : Lexicon) : Prop where
  namespaces : l.namespaces = l'.namespaces
  classes : ∀ ns name, (l.classes.find? ns name).map ClassEntry.naming =
    (l'.classes.find? ns name).map ClassEntry.naming

/-- Renaming asks a class for nothing but its naming. -/
theorem renameElement_eq_of_naming (name : Text) (source target : Namespace) :
    l.renameElement name source target =
      if source = target then .ok name
      else do
        match ← (l.findClass name source).map (Option.map ClassEntry.naming) with
        | none => return name
        | some naming => return (← naming.get target).getD name := by
  unfold renameElement
  split
  · rfl
  · cases l.findClass name source with
    | error e => rfl
    | ok found => cases found <;> rfl

namespace NamesAlike

variable {l' : Lexicon}

theorem findClass (h : l.NamesAlike l') (name : Text) (ns : Namespace) :
    (l.findClass name ns).map (Option.map ClassEntry.naming) =
      (l'.findClass name ns).map (Option.map ClassEntry.naming) := by
  unfold Lexicon.findClass
  rw [h.namespaces]
  cases l'.namespaces.check ns with
  | error e => rfl
  | ok _ => exact congrArg Except.ok (h.classes ns name)

theorem renameElement (h : l.NamesAlike l') (name : Text) (source target : Namespace) :
    l.renameElement name source target = l'.renameElement name source target := by
  rw [renameElement_eq_of_naming, renameElement_eq_of_naming, h.findClass]

theorem renameDescriptor (h : l.NamesAlike l') (s : Text) (source target : Namespace) :
    l.renameDescriptor s source target = l'.renameDescriptor s source target := by
  simp only [Lexicon.renameDescriptor, h.namespaces, h.renameElement]

theorem renameClass (h : l.NamesAlike l') (name : Text) (source target : Namespace) :
    l.renameClass name source target = l'.renameClass name source target := by
  simp only [Lexicon.renameClass, h.namespaces, h.renameElement, h.renameDescriptor]

end NamesAlike

/-! ## There and back -/

/-- The condition under which a class name comes back from `b` to `a`: there is no way to go, or the
name is linked to one in `b`, or no class takes the unchanged name back to another one. -/
def RoundTrips (l : Lexicon) (a b : Namespace) (name : Text) : Prop :=
  a = b ∨ (∃ other, l.Links a name b other) ∨ ¬ ∃ other, l.Links b name a other

theorem Valid.renamed_renamed_eq_iff (hl : l.Valid) {name : Text} :
    l.renamed b a (l.renamed a b name) = name ↔ l.RoundTrips a b name := by
  by_cases hab : a = b
  · subst hab
    simp [renamed_self, RoundTrips]
  by_cases hthere : ∃ other, l.Links a name b other
  · -- the class that leads there also leads back
    obtain ⟨other, hother⟩ := hthere
    rw [hl.renamed_of_links hother, hl.renamed_of_links hother.symm]
    exact iff_of_true rfl (.inr (.inl ⟨other, hother⟩))
  -- otherwise the name stays, and only the way back can change it
  rw [hl.renamed_of_not_links hthere]
  by_cases hback : ∃ other, l.Links b name a other
  · obtain ⟨other, hother⟩ := hback
    rw [hl.renamed_of_links hother]
    refine iff_of_false ?_ ?_
    · -- a class that is called `name` in both would be a link after all
      rintro rfl
      exact hthere ⟨other, hother.symm⟩
    · rintro (heq | hlinks | hnone)
      · exact hab heq
      · exact hthere hlinks
      · exact hnone ⟨other, hother⟩
  · rw [hl.renamed_of_not_links hback]
    exact iff_of_true rfl (.inr (.inr hback))

/-! ## Names without delimiters -/

/-- No name of a class holds a delimiter. -/
def PlainNames (l : Lexicon) : Prop :=
  ∀ c ∈ l.classes.entries, ∀ slot ∈ c.naming.slots, ∀ name ∈ slot, ∀ x ∈ name,
    x.isDelimiter = false

instance (l : Lexicon) : Decidable l.PlainNames :=
  inferInstanceAs (Decidable (∀ c ∈ l.classes.entries, ∀ slot ∈ c.naming.slots, ∀ name ∈ slot, _))

/-- A plain name can stand in a descriptor, for it is not empty either. -/
theorem PlainNames.isClassName (h : l.PlainNames) {c : ClassEntry} (hc : c ∈ l.classes.entries)
    {ns : Namespace} {name : Text} (hname : c.naming.name? ns = some name) : IsClassName name := by
  have hslot : some name ∈ c.naming.slots :=
    List.mem_of_getElem? (Slots.name?_eq_some_iff.mp hname)
  refine ⟨?_, h c hc _ hslot name rfl⟩
  rintro rfl
  exact c.naming.forall_ne_empty hslot

theorem isArrayName_eq_false {name : Text} (h : IsClassName name) : isArrayName name = false := by
  obtain ⟨hne, hplain⟩ := h
  cases name with
  | nil => exact absurd rfl hne
  | cons x rest =>
    have hx := (CodePoint.isDelimiter_eq_false_iff.mp (hplain x List.mem_cons_self)).2.2
    simpa [isArrayName] using hx

/-- Renaming either leaves a name alone or answers the name of a class. -/
theorem Valid.renamed_eq_or_links (hl : l.Valid) (a b : Namespace) (name : Text) :
    l.renamed a b name = name ∨ l.Links a name b (l.renamed a b name) := by
  by_cases h : ∃ other, l.Links a name b other
  · obtain ⟨other, hother⟩ := h
    rw [hl.renamed_of_links hother]
    exact .inr hother
  · exact .inl (hl.renamed_of_not_links h)

theorem Valid.isClassName_renamed (hl : l.Valid) (hplain : l.PlainNames) {name : Text}
    (hname : IsClassName name) : IsClassName (l.renamed a b name) := by
  rcases hl.renamed_eq_or_links a b name with hself | ⟨c, hc, -, hother⟩
  · rw [hself]
    exact hname
  · exact hplain.isClassName hc hother

theorem Valid.isArrayName_renamed (hl : l.Valid) (hplain : l.PlainNames) {name : Text}
    (hname : isArrayName name = false) : isArrayName (l.renamed a b name) = false := by
  rcases hl.renamed_eq_or_links a b name with hself | ⟨c, hc, -, hother⟩
  · rw [hself]
    exact hname
  · exact isArrayName_eq_false (hplain.isClassName hc hother)

/-! ## Two renamings in a row -/

theorem Valid.renameClass_twice (hl : l.Valid) (hplain : l.PlainNames) {c : Namespace}
    (ha : l.namespaces.Has a) (hb : l.namespaces.Has b) (hc : l.namespaces.Has c) {name : Text}
    (hname : isArrayName name = false) :
    (do l.renameClass (← l.renameClass name a b) b c) =
      .ok (l.renamed b c (l.renamed a b name)) := by
  rw [hl.renameClass_eq ha hb hname, Error.ok_bind,
    hl.renameClass_eq hb hc (hl.isArrayName_renamed hplain hname)]

theorem Valid.wellFormed_renamed (hl : l.Valid) (hplain : l.PlainNames) {d : Descriptor}
    (hd : d.WellFormed) : (d.mapNames (l.renamed a b)).WellFormed :=
  hd.mapNames fun _ hx => hl.isClassName_renamed hplain (hd.isClassName hx)

/-- The outcome of one renaming is read again with the same structure, so that two renamings in a
row rename each class name twice. -/
theorem Valid.renameDescriptor_twice (hl : l.Valid) (hplain : l.PlainNames) {c : Namespace}
    (ha : l.namespaces.Has a) (hb : l.namespaces.Has b) (hc : l.namespaces.Has c) {d : Descriptor}
    (hd : d.WellFormed) :
    (do l.renameDescriptor (← l.renameDescriptor d.text a b) b c) =
      .ok (d.mapNames fun x => l.renamed b c (l.renamed a b x)).text := by
  rw [hl.renameDescriptor_text ha hb hd, Error.ok_bind,
    hl.renameDescriptor_text hb hc (hl.wellFormed_renamed hplain hd), Descriptor.mapNames_mapNames]

/-- A descriptor is the same after going there and back exactly when all its class names are. -/
theorem Valid.text_there_and_back_iff (hl : l.Valid) (hplain : l.PlainNames) {d : Descriptor}
    (hd : d.WellFormed) :
    (d.mapNames fun x => l.renamed b a (l.renamed a b x)).text = d.text ↔
      ∀ x ∈ d.classNames, l.RoundTrips a b x := by
  have hwf : (d.mapNames fun x => l.renamed b a (l.renamed a b x)).WellFormed := by
    rw [← Descriptor.mapNames_mapNames]
    exact hl.wellFormed_renamed hplain (hl.wellFormed_renamed hplain hd)
  simp only [Descriptor.text_inj hwf hd, Descriptor.mapNames_eq_self_iff,
    hl.renamed_renamed_eq_iff]

/-- **A class name comes back exactly when it round-trips, and a descriptor exactly when all its
class names do.** No request on the way fails. -/
theorem Reachable.there_and_back (hl : l.Reachable) (hplain : l.PlainNames)
    (ha : l.namespaces.Has a) (hb : l.namespaces.Has b) :
    (∀ name, isArrayName name = false → ∃ back,
      (do l.renameClass (← l.renameClass name a b) b a) = .ok back ∧
        (back = name ↔ l.RoundTrips a b name)) ∧
    ∀ s, IsDescriptor s → ∃ names back, Descriptor.classNamesOf s = .ok names ∧
      (do l.renameDescriptor (← l.renameDescriptor s a b) b a) = .ok back ∧
        (back = s ↔ ∀ name ∈ names, l.RoundTrips a b name) := by
  have hv := hl.valid
  refine ⟨?_, ?_⟩
  · intro name hname
    exact ⟨_, hv.renameClass_twice hplain ha hb ha hname, hv.renamed_renamed_eq_iff⟩
  · rintro s ⟨d, hd, rfl⟩
    exact ⟨d.classNames, _, Descriptor.classNamesOf_text hd,
      hv.renameDescriptor_twice hplain ha hb ha hd, hv.text_there_and_back_iff hplain hd⟩

/-- A lexicon in which names cross: `B` has no name in the second namespace, where `C` is called
`B`. -/
def crossed : Lexicon :=
  ofHistory ⟨["official", "named"], by decide, by decide, by decide⟩
    [.ofClass (.ofStrings ["A", "Main"]),
      .ofClass (.ofStrings ["B", ""]),
      .ofClass (.ofStrings ["C", "B"]),
      .ofMember .field "A" (.ofStrings ["x", "m"]) "LB;",
      .ofMember .field "A" (.ofStrings ["y", "m"]) "LC;",
      .ofMember .field "A" (.ofStrings ["z", "p"]) "LA;"]

/-- Both fields that are called `m` in the second namespace are there, with different
descriptors. -/
theorem crossed_fields : ∃ c ∈ crossed.classes.entries, c.naming.name? ⟨1⟩ = some "Main" ∧
    (c.members .field).entries[0]? = some ⟨"LB;", .ofStrings ["x", "m"]⟩ ∧
    (c.members .field).entries[1]? = some ⟨"LC;", .ofStrings ["y", "m"]⟩ := by
  obtain ⟨c, hc⟩ : ∃ c, crossed.classes.entries[0]? = some c := ⟨_, rfl⟩
  refine ⟨c, Array.mem_of_getElem? hc, ?_⟩
  cases hc
  exact ⟨rfl, rfl, rfl⟩

theorem crossed_there_and_back :
    crossed.Reachable ∧ crossed.PlainNames ∧ crossed.namespaces.Has .first ∧
      crossed.namespaces.Has ⟨1⟩ ∧ isArrayName "B" = false ∧ IsDescriptor "LC;" ∧
      (∃ back, (do crossed.renameClass (← crossed.renameClass "B" .first ⟨1⟩) ⟨1⟩ .first) =
          .ok back ∧ (back = ("B" : Text) ↔ crossed.RoundTrips .first ⟨1⟩ "B")) ∧
      ∃ names back, Descriptor.classNamesOf "LC;" = .ok names ∧
        (do crossed.renameDescriptor (← crossed.renameDescriptor "LC;" .first ⟨1⟩) ⟨1⟩ .first) =
          .ok back ∧
        (back = ("LC;" : Text) ↔ ∀ name ∈ names, crossed.RoundTrips .first ⟨1⟩ name) := by
  have hl : crossed.Reachable := ⟨_, _, rfl⟩
  have hplain : crossed.PlainNames := by decide +kernel
  have hfirst : crossed.namespaces.Has .first := Namespaces.has_first _
  have hsecond : crossed.namespaces.Has ⟨1⟩ := by decide +kernel
  have hC : IsDescriptor "LC;" := isDescriptor_iff_read.mpr ⟨_, rfl⟩
  obtain ⟨hnames, hdescriptors⟩ := hl.there_and_back hplain hfirst hsecond
  exact ⟨hl, hplain, hfirst, hsecond, rfl, hC, hnames "B" rfl, hdescriptors "LC;" hC⟩

end Lexicon

end SymbolLexicon
