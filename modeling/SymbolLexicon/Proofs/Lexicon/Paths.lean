/-
# SymbolLexicon.Proofs.Lexicon.Paths — class names by way of a namespace in between.

From `a` to `c` a class name may go directly or by way of `b`. The class that leads from `a` to `b`
leads on to `c`, since no other class has its name in `b`. The direct way and the way through `b`
can only part where a name stays as it is although it should not: the class has no name in `b` or
in `c`, or a name that is unknown in `a` is that of a class in `b`. `Passes` excludes both.

It lifts to descriptors as in `ClassNames`: plain names leave the structure of a descriptor alone,
so what the first renaming writes is read again by the second one as the same descriptor.
-/
import SymbolLexicon.Proofs.Lexicon.ClassNames

namespace SymbolLexicon

namespace Lexicon

variable {l : Lexicon} {a b c : Namespace}

/-! ## Names that pass -/

/-- Some class is called `name` in `a` and has names in `b` and in `c`. -/
def Connects (l : Lexicon) (a b c : Namespace) (name : Text) : Prop :=
  ∃ entry ∈ l.classes.entries, entry.naming.name? a = some name ∧
    entry.naming.name? b ≠ none ∧ entry.naming.name? c ≠ none

/-- No class is called `name` in the namespace. -/
def Unknown (l : Lexicon) (ns : Namespace) (name : Text) : Prop :=
  ∀ entry ∈ l.classes.entries, entry.naming.name? ns ≠ some name

instance (name : Text) : Decidable (l.Connects a b c name) :=
  inferInstanceAs (Decidable (∃ entry ∈ l.classes.entries, _))

instance (name : Text) : Decidable (l.Unknown a name) :=
  inferInstanceAs (Decidable (∀ entry ∈ l.classes.entries, _))

/-- The name is that of a class all along the way from `a` through `b` to `c`, or it is the name of
no class in `a` and in `b`, from where it is renamed. -/
def Passes (l : Lexicon) (a b c : Namespace) (name : Text) : Prop :=
  l.Connects a b c name ∨ l.Unknown a name ∧ l.Unknown b name

instance (name : Text) : Decidable (l.Passes a b c name) :=
  inferInstanceAs (Decidable (_ ∨ _ ∧ _))

/-- A class that connects names links them, two by two. -/
theorem Connects.exists_links {name : Text} (h : l.Connects a b c name) :
    ∃ other last, l.Links a name b other ∧ l.Links b other c last ∧ l.Links a name c last := by
  obtain ⟨entry, hentry, hname, hb, hc⟩ := h
  obtain ⟨other, hother⟩ := Option.ne_none_iff_exists'.mp hb
  obtain ⟨last, hlast⟩ := Option.ne_none_iff_exists'.mp hc
  exact ⟨other, last, ⟨entry, hentry, hname, hother⟩, ⟨entry, hentry, hother, hlast⟩,
    ⟨entry, hentry, hname, hlast⟩⟩

/-- Every class of a valid lexicon has a name in the first namespace. -/
theorem Valid.connects_first (hl : l.Valid) {name : Text} (h : l.Connects a b c name) :
    l.Connects a b .first name := by
  obtain ⟨entry, hentry, hname, hb, -⟩ := h
  exact ⟨entry, hentry, hname, hb, (hl.classes entry hentry).fits.2⟩

theorem Valid.passes_first (hl : l.Valid) {name : Text} (h : l.Passes a b c name) :
    l.Passes a b .first name :=
  h.imp_left hl.connects_first

/-- An unknown name stays as it is. -/
theorem Valid.renamed_of_unknown (hl : l.Valid) {name : Text} (h : l.Unknown a name) :
    l.renamed a b name = name := by
  apply hl.renamed_of_not_links
  rintro ⟨-, entry, hentry, hname, -⟩
  exact h entry hentry hname

/-! ## The way through another namespace -/

/-- A name that passes is renamed alike on either way. -/
theorem Valid.renamed_renamed (hl : l.Valid) {name : Text} (h : l.Passes a b c name) :
    l.renamed b c (l.renamed a b name) = l.renamed a c name := by
  rcases h with hconnects | ⟨hunknown, hunknown'⟩
  · obtain ⟨other, last, hthere, hon, hdirect⟩ := hconnects.exists_links
    rw [hl.renamed_of_links hthere, hl.renamed_of_links hon, hl.renamed_of_links hdirect]
  · rw [hl.renamed_of_unknown hunknown, hl.renamed_of_unknown hunknown',
      hl.renamed_of_unknown hunknown]

theorem Valid.mapNames_renamed_renamed (hl : l.Valid) {d : Descriptor}
    (h : ∀ name ∈ d.classNames, l.Passes a b c name) :
    (d.mapNames (l.renamed a b)).mapNames (l.renamed b c) = d.mapNames (l.renamed a c) := by
  rw [Descriptor.mapNames_mapNames, Descriptor.mapNames_congr_iff]
  exact fun name hname => hl.renamed_renamed (h name hname)

/-- What a descriptor becomes in `b` is renamed from there to what it becomes in `c`. -/
theorem Valid.renameDescriptor_renamed (hl : l.Valid) (hplain : l.PlainNames)
    (hb : l.namespaces.Has b) (hc : l.namespaces.Has c) {d : Descriptor} (hd : d.WellFormed)
    (h : ∀ name ∈ d.classNames, l.Passes a b c name) :
    l.renameDescriptor (d.mapNames (l.renamed a b)).text b c =
      .ok (d.mapNames (l.renamed a c)).text := by
  rw [hl.renameDescriptor_text hb hc (hl.wellFormed_renamed hplain hd),
    hl.mapNames_renamed_renamed h]

/-- **A descriptor is renamed alike on every way.** If each of its class names passes from `a`
through `b` to `c`, it can be renamed from `a` to `b` and on from there to `c`, where it becomes
what renaming it from `a` to `c` makes of it. -/
theorem Reachable.descriptor_path_independent (hl : l.Reachable) (hplain : l.PlainNames)
    (ha : l.namespaces.Has a) (hb : l.namespaces.Has b) (hc : l.namespaces.Has c) {s : Text}
    (hs : IsDescriptor s)
    (hnames : ∀ names, Descriptor.classNamesOf s = .ok names →
      ∀ name ∈ names, l.Passes a b c name) :
    ∃ between target, l.renameDescriptor s a b = .ok between ∧
      l.renameDescriptor between b c = .ok target ∧ l.renameDescriptor s a c = .ok target := by
  have hv := hl.valid
  obtain ⟨d, hd, rfl⟩ := hs
  have hpasses := hnames d.classNames (Descriptor.classNamesOf_text hd)
  refine ⟨(d.mapNames (l.renamed a b)).text, (d.mapNames (l.renamed a c)).text, ?_, ?_, ?_⟩
  · exact hv.renameDescriptor_text ha hb hd
  · exact hv.renameDescriptor_renamed hplain hb hc hd hpasses
  · exact hv.renameDescriptor_text ha hc hd

/-- Two classes with names in three namespaces, and a method of the first one whose descriptor names
the second one and a class that the lexicon does not know. -/
def threefold : Lexicon :=
  ofHistory ⟨["official", "intermediary", "named"], by decide, by decide, by decide⟩
    [.ofClass (.ofStrings ["A", "i/A", "Main"]),
      .ofClass (.ofStrings ["B", "i/B", "Helper"]),
      .ofMember .method "A" (.ofStrings ["x", "m", "run"]) "(LB;Lext/O;)V"]

/-- From the last namespace to the second, by way of the first one and directly. -/
theorem threefold_descriptor_paths :
    threefold.Reachable ∧ threefold.PlainNames ∧ threefold.namespaces.Has ⟨2⟩ ∧
      threefold.namespaces.Has .first ∧ threefold.namespaces.Has ⟨1⟩ ∧
      IsDescriptor "(LHelper;[Lext/O;I)LMain;" ∧
      (∀ names, Descriptor.classNamesOf "(LHelper;[Lext/O;I)LMain;" = .ok names →
        ∀ name ∈ names, threefold.Passes ⟨2⟩ .first ⟨1⟩ name) ∧
      threefold.renameDescriptor "(LHelper;[Lext/O;I)LMain;" ⟨2⟩ .first =
        .ok "(LB;[Lext/O;I)LA;" ∧
      ∃ target, threefold.renameDescriptor "(LB;[Lext/O;I)LA;" .first ⟨1⟩ = .ok target ∧
        threefold.renameDescriptor "(LHelper;[Lext/O;I)LMain;" ⟨2⟩ ⟨1⟩ = .ok target := by
  have hl : threefold.Reachable := ⟨_, _, rfl⟩
  have hplain : threefold.PlainNames := by decide +kernel
  have hlast : threefold.namespaces.Has ⟨2⟩ := by decide +kernel
  have hfirst := threefold.namespaces.has_first
  have hsecond : threefold.namespaces.Has ⟨1⟩ := by decide +kernel
  have hthere : threefold.renameDescriptor "(LHelper;[Lext/O;I)LMain;" ⟨2⟩ .first =
      .ok "(LB;[Lext/O;I)LA;" := by
    decide +kernel
  have hs := isDescriptor_of_renameDescriptor hthere
  have hclassNames : Descriptor.classNamesOf "(LHelper;[Lext/O;I)LMain;" =
      .ok ["Helper", "ext/O", "Main"] := by
    decide +kernel
  have hpasses : ∀ name ∈ (["Helper", "ext/O", "Main"] : List Text),
      threefold.Passes ⟨2⟩ .first ⟨1⟩ name := by decide +kernel
  have hnames : ∀ names, Descriptor.classNamesOf "(LHelper;[Lext/O;I)LMain;" = .ok names →
      ∀ name ∈ names, threefold.Passes ⟨2⟩ .first ⟨1⟩ name := by
    intro names h
    rw [hclassNames] at h
    exact Except.ok.inj h ▸ hpasses
  obtain ⟨between, target, hbetween, hon, hdirect⟩ :=
    hl.descriptor_path_independent hplain hlast hfirst hsecond hs hnames
  obtain rfl := Except.ok.inj (hthere.symm.trans hbetween)
  exact ⟨hl, hplain, hlast, hfirst, hsecond, hs, hnames, hthere, target, hon, hdirect⟩

end Lexicon

end SymbolLexicon
