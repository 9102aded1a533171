/-
# SymbolLexicon.Proofs.Renaming.Paths — references by way of a namespace in between.

A reference that denotes a member is renamed part by part: the owner and the descriptor by what they
are, the name by the member. In the namespace it arrives at it denotes the SAME member, at the same
position, although it is sought there by another owner, another name and another descriptor, and
although one of the two namespaces may be the first, where no descriptor is renamed. So a reference
can be renamed on from there, and what it becomes does not depend on the way.
-/
import SymbolLexicon.Renaming
import SymbolLexicon.Proofs.Lexicon.MemberLookup
import SymbolLexicon.Proofs.Lexicon.Paths

namespace SymbolLexicon

namespace Lexicon

variable {l : Lexicon} {a b c : Namespace} {kind : MemberKind}

/-! ## One renaming -/

section

variable {owner name other : Text} {d : Descriptor} {i j : Nat} {m : MemberEntry}

/-- A reference to a member with a name in the target is renamed without any record: its owner and
the class names of its descriptor as class names are, its name to that of the member. -/
theorem Valid.reference_of_denotes (hl : l.Valid) (hplain : l.PlainNames)
    (ha : l.namespaces.Has a) (hb : l.namespaces.Has b) (hd : d.WellFormed)
    (h : l.Denotes kind ⟨owner, name, d.text⟩ a i j m) (hother : m.naming.name? b = some other) :
    (⟨l, a, b⟩ : Renaming).reference kind ⟨owner, name, d.text⟩ =
      ⟨.ok ⟨l.renamed a b owner, other, (d.mapNames (l.renamed a b)).text⟩, []⟩ := by
  have hname : (⟨l, a, b⟩ : Renaming).memberName kind ⟨owner, name, d.text⟩ = ⟨.ok other, []⟩ := by
    simp only [Renaming.memberName, hl.findMember_of_denotes ha h, Traced.bind_ok,
      Renaming.targetName, Naming.get_of_name? hother]
    rfl
  obtain ⟨entry, hi, howner, -⟩ := h
  have harray : isArrayName owner = false :=
    isArrayName_eq_false (hplain.isClassName (Array.mem_of_getElem? hi) howner)
  simp only [Renaming.reference, hname, Renaming.className, hl.renameClass_eq ha hb harray,
    Renaming.descriptor, hl.renameDescriptor_text ha hb hd]
  rfl

/-- From a namespace to itself, a reference to a member stays as it is. -/
theorem Valid.reference_self_of_denotes (hl : l.Valid) (hplain : l.PlainNames)
    (ha : l.namespaces.Has a) (hd : d.WellFormed)
    (h : l.Denotes kind ⟨owner, name, d.text⟩ a i j m) :
    (⟨l, a, a⟩ : Renaming).reference kind ⟨owner, name, d.text⟩ =
      ⟨.ok ⟨owner, name, d.text⟩, []⟩ := by
  have hname : m.naming.name? a = some name := by
    obtain ⟨entry, -, -, -, hname, -⟩ := h
    exact hname
  rw [hl.reference_of_denotes hplain ha ha hd h hname, renamed_self, mapNames_renamed_self]

/-- The renamed reference denotes the same member as the reference. -/
theorem Valid.denotes_renamed (hl : l.Valid) (hplain : l.PlainNames) (ha : l.namespaces.Has a)
    (hb : l.namespaces.Has b) (hd : d.WellFormed) (h : l.Denotes kind ⟨owner, name, d.text⟩ a i j m)
    (hother : m.naming.name? b = some other) (howner : l.Connects a b .first owner)
    (hnames : ∀ x ∈ d.classNames, l.Passes a b .first x) :
    l.Denotes kind ⟨l.renamed a b owner, other, (d.mapNames (l.renamed a b)).text⟩ b i j m := by
  have hfirst := l.namespaces.has_first
  obtain ⟨entry, hi, hentry, hj, -, hstored⟩ := h
  refine ⟨entry, hi, ?_, hj, hother, ?_⟩
  · -- the class that connects the names of the owner is the one at this position
    obtain ⟨entry', hentry', hname', hb', -⟩ := howner
    obtain rfl := hl.indexed.eq_of_key? (Array.mem_of_getElem? hi) hentry' hentry hname'
    obtain ⟨there, hthere⟩ := Option.ne_none_iff_exists'.mp hb'
    rw [hl.renamed_of_links ⟨entry, hentry', hname', hthere⟩, hthere]
  · -- the descriptor reaches the first namespace by way of `b`
    rw [hl.renameDescriptor_renamed hplain hb hfirst hd hnames,
      ← hl.renameDescriptor_text ha hfirst hd]
    exact hstored

end

/-! ## Two renamings in a row -/

/-- **A reference is renamed alike on every way.** Let its owner and its member have names in `a`,
`b` and `c`, and let each class name of its descriptor pass from `a` through `b` to `c`. Then it can
be renamed from `a` to `b`, where it denotes the same member, and on from `b` to `c`, where it
becomes what renaming it from `a` to `c` makes of it. Nothing is recorded on either way. In
particular the reversed renaming takes it back. -/
theorem Reachable.reference_path_independent (hl : l.Reachable) (hplain : l.PlainNames)
    (ha : l.namespaces.Has a) (hb : l.namespaces.Has b) (hc : l.namespaces.Has c)
    {sought : Reference} (howner : l.Connects a b c sought.owner) {m : MemberEntry}
    (hfound : (l.findMember kind sought a).result = .ok (some m))
    (hmb : m.naming.name? b ≠ none) (hmc : m.naming.name? c ≠ none)
    (hnames : ∀ names, Descriptor.classNamesOf sought.descriptor = .ok names →
      ∀ x ∈ names, l.Passes a b c x) :
    ∃ between target,
      (⟨l, a, b⟩ : Renaming).reference kind sought = ⟨.ok between, []⟩ ∧
      (l.findMember kind between b).result = .ok (some m) ∧
      (⟨l, b, c⟩ : Renaming).reference kind between = ⟨.ok target, []⟩ ∧
      (⟨l, a, c⟩ : Renaming).reference kind sought = ⟨.ok target, []⟩ ∧
      (c = a → target = sought ∧
        (do (← (⟨l, a, b⟩ : Renaming).reversed).reference kind between) =
          ⟨.ok sought, [.created b a]⟩) := by
  have hv := hl.valid
  obtain ⟨i, j, hdenotes⟩ := (hv.result_findMember_eq_some_iff kind sought ha).mp hfound
  obtain ⟨owner, name, descriptor⟩ := sought
  obtain ⟨d, hd, rfl⟩ : IsDescriptor descriptor := by
    obtain ⟨entry, -, -, -, -, hstored⟩ := hdenotes
    exact isDescriptor_of_renameDescriptor hstored
  have hpasses := hnames d.classNames (Descriptor.classNamesOf_text hd)
  obtain ⟨nameB, hnameB⟩ := Option.ne_none_iff_exists'.mp hmb
  obtain ⟨nameC, hnameC⟩ := Option.ne_none_iff_exists'.mp hmc
  -- the first renaming leads to a reference that denotes the same member in `b`
  have hthere := hv.reference_of_denotes hplain ha hb hd hdenotes hnameB
  have hdenotesB := hv.denotes_renamed hplain ha hb hd hdenotes hnameB
    (hv.connects_first howner) fun x hx => hv.passes_first (hpasses x hx)
  have hfoundB := (hv.result_findMember_eq_some_iff _ _ hb).mpr ⟨i, j, hdenotesB⟩
  -- so the second one goes on from there as the first one would have gone to `c`
  have hon := hv.reference_of_denotes hplain hb hc (hv.wellFormed_renamed hplain hd)
    hdenotesB hnameC
  rw [hv.renamed_renamed (.inl howner), hv.mapNames_renamed_renamed hpasses] at hon
  have hdirect := hv.reference_of_denotes hplain ha hc hd hdenotes hnameC
  refine ⟨_, _, hthere, hfoundB, hon, hdirect, ?_⟩
  rintro rfl
  -- back where it came from, the direct way is no way at all
  have hstays := hv.reference_self_of_denotes hplain ha hd hdenotes
  have htarget := Except.ok.inj (congrArg Traced.result (hdirect.symm.trans hstays))
  refine ⟨htarget, ?_⟩
  rw [htarget] at hon
  simp only [Renaming.reversed, Renaming.between, Traced.emit, Traced.pure_eq, Traced.bind_ok, hon]
  rfl

/-- From the last namespace to the second by way of the first one. -/
theorem threefold_path_independent :
    threefold.Reachable ∧ threefold.PlainNames ∧ threefold.namespaces.Has ⟨2⟩ ∧
      threefold.namespaces.Has .first ∧ threefold.namespaces.Has ⟨1⟩ ∧
      threefold.Connects ⟨2⟩ .first ⟨1⟩ "Main" ∧
      (threefold.findMember .method ⟨"Main", "run", "(LHelper;Lext/O;)V"⟩ ⟨2⟩).result =
        .ok (some ⟨"(LB;Lext/O;)V", .ofStrings ["x", "m", "run"]⟩) ∧
      (Naming.ofStrings ["x", "m", "run"]).name? .first ≠ none ∧
      (Naming.ofStrings ["x", "m", "run"]).name? ⟨1⟩ ≠ none ∧
      (∀ names, Descriptor.classNamesOf "(LHelper;Lext/O;)V" = .ok names →
        ∀ x ∈ names, threefold.Passes ⟨2⟩ .first ⟨1⟩ x) ∧
      ∃ between target,
        (⟨threefold, ⟨2⟩, .first⟩ : Renaming).reference .method
          ⟨"Main", "run", "(LHelper;Lext/O;)V"⟩ = ⟨.ok between, []⟩ ∧
        (threefold.findMember .method between .first).result =
          .ok (some ⟨"(LB;Lext/O;)V", .ofStrings ["x", "m", "run"]⟩) ∧
        (⟨threefold, .first, ⟨1⟩⟩ : Renaming).reference .method between = ⟨.ok target, []⟩ ∧
        (⟨threefold, ⟨2⟩, ⟨1⟩⟩ : Renaming).reference .method
          ⟨"Main", "run", "(LHelper;Lext/O;)V"⟩ = ⟨.ok target, []⟩ := by
  have hl : threefold.Reachable := ⟨_, _, rfl⟩
  have hplain : threefold.PlainNames := by decide +kernel
  have hlast : threefold.namespaces.Has ⟨2⟩ := by decide +kernel
  have hfirst := threefold.namespaces.has_first
  have hsecond : threefold.namespaces.Has ⟨1⟩ := by decide +kernel
  have howner : threefold.Connects ⟨2⟩ .first ⟨1⟩ "Main" := by decide +kernel
  have hfound : (threefold.findMember .method ⟨"Main", "run", "(LHelper;Lext/O;)V"⟩ ⟨2⟩).result =
      .ok (some ⟨"(LB;Lext/O;)V", .ofStrings ["x", "m", "run"]⟩) := by decide +kernel
  have hclassNames : Descriptor.classNamesOf "(LHelper;Lext/O;)V" = .ok ["Helper", "ext/O"] := by
    decide +kernel
  have hpasses : ∀ x ∈ (["Helper", "ext/O"] : List Text),
      threefold.Passes ⟨2⟩ .first ⟨1⟩ x := by decide +kernel
  have hnames : ∀ names, Descriptor.classNamesOf "(LHelper;Lext/O;)V" = .ok names →
      ∀ x ∈ names, threefold.Passes ⟨2⟩ .first ⟨1⟩ x := by
    intro names h
    rw [hclassNames] at h
    exact Except.ok.inj h ▸ hpasses
  obtain ⟨between, target, hthere, hbetween, hon, hdirect, -⟩ :=
    hl.reference_path_independent hplain hlast hfirst hsecond howner hfound (by decide)
      (by decide) hnames
  exact ⟨hl, hplain, hlast, hfirst, hsecond, howner, hfound, by decide, by decide, hnames,
    between, target, hthere, hbetween, hon, hdirect⟩

end Lexicon

end SymbolLexicon
