/-
# SymbolLexicon.Proofs.Lexicon.MemberIdentity — when two members look alike in a namespace.

Within a class and a kind, a name and the STORED descriptor identify a member in every namespace. A
name and the descriptor as it reads in that namespace need not: descriptors are renamed by a
function that need not be injective. Two class names of the first namespace COLLIDE in another one
when one of them has the other for its name there while the other has none and stays. That is the
only way in which different names become equal. Delimiters in names apart, it is therefore the only
way in which different members look alike.
-/
import SymbolLexicon.Proofs.Lexicon.ClassNames

namespace SymbolLexicon.Lexicon

variable {l : Lexicon} {ns a b : Namespace} {kind : MemberKind}

/-! ## Collisions -/

/-- One of two names of `a` is linked to the other in `b`, and the other is linked to none. -/
def Collide (l : Lexicon) (a b : Namespace) (x y : Text) : Prop :=
  (l.Links a x b y ∧ ¬ ∃ z, l.Links a y b z) ∨ (l.Links a y b x ∧ ¬ ∃ z, l.Links a x b z)

/-- A linked name becomes the same as one that stays exactly when it is linked to that. -/
theorem Valid.renamed_eq_of_linked (hl : l.Valid) {x y : Text} (hx : ∃ u, l.Links a x b u)
    (hy : ¬ ∃ v, l.Links a y b v) :
    l.renamed a b x = l.renamed a b y ↔ l.Links a x b y := by
  obtain ⟨u, hu⟩ := hx
  rw [hl.renamed_of_links hu, hl.renamed_of_not_links hy]
  refine ⟨?_, hl.links_unique hu⟩
  rintro rfl
  exact hu

/-- Different names become equal exactly when they collide. -/
theorem Valid.renamed_eq_renamed_iff (hl : l.Valid) {x y : Text} :
    l.renamed a b x = l.renamed a b y ↔ x = y ∨ l.Collide a b x y := by
  by_cases hx : ∃ u, l.Links a x b u
  · by_cases hy : ∃ v, l.Links a y b v
    · -- both are linked, and links are one to one in either direction
      refine ⟨fun h => .inl ?_, ?_⟩
      · obtain ⟨u, hu⟩ := hx
        obtain ⟨v, hv⟩ := hy
        rw [hl.renamed_of_links hu, hl.renamed_of_links hv] at h
        subst h
        exact hl.links_unique hu.symm hv.symm
      · rintro (rfl | ⟨-, hnone⟩ | ⟨-, hnone⟩)
        · rfl
        · exact absurd hy hnone
        · exact absurd hx hnone
    · rw [hl.renamed_eq_of_linked hx hy]
      refine ⟨fun h => .inr (.inl ⟨h, hy⟩), ?_⟩
      rintro (rfl | ⟨hxy, -⟩ | ⟨-, hnone⟩)
      · exact absurd hx hy
      · exact hxy
      · exact absurd hx hnone
  · by_cases hy : ∃ v, l.Links a y b v
    · rw [eq_comm, hl.renamed_eq_of_linked hy hx]
      refine ⟨fun h => .inr (.inr ⟨h, hx⟩), ?_⟩
      rintro (rfl | ⟨-, hnone⟩ | ⟨hyx, -⟩)
      · exact absurd hy hx
      · exact absurd hy hnone
      · exact hyx
    · rw [hl.renamed_of_not_links hx, hl.renamed_of_not_links hy]
      refine ⟨.inl, ?_⟩
      rintro (rfl | ⟨hxy, -⟩ | ⟨hyx, -⟩)
      · rfl
      · exact absurd ⟨y, hxy⟩ hx
      · exact absurd ⟨x, hyx⟩ hy

/-- Descriptors of one shape, in which class names at the same place are equal or collide. -/
def AgreeUpToCollisions (l : Lexicon) (a b : Namespace) (d e : Descriptor) : Prop :=
  Descriptor.Rel (fun x y => x = y ∨ l.Collide a b x y) d e

/-- Descriptors are replaced by equal ones exactly when they agree up to collisions. -/
theorem Valid.mapNames_renamed_eq_iff (hl : l.Valid) {d e : Descriptor} :
    d.mapNames (l.renamed a b) = e.mapNames (l.renamed a b) ↔ l.AgreeUpToCollisions a b d e := by
  rw [Descriptor.mapNames_eq_mapNames_iff]
  simp only [hl.renamed_eq_renamed_iff]
  rfl

/-- Two well-formed descriptors get equal texts exactly when they agree up to collisions, as long as
the names that they receive are class names. -/
theorem Valid.text_mapNames_eq_iff (hl : l.Valid) {d e : Descriptor} (hd : d.WellFormed)
    (he : e.WellFormed)
    (hplain : ∀ x ∈ d.classNames ++ e.classNames, ∀ y, l.Links a x b y → IsClassName y) :
    (d.mapNames (l.renamed a b)).text = (e.mapNames (l.renamed a b)).text ↔
      l.AgreeUpToCollisions a b d e := by
  have hname : ∀ x ∈ d.classNames ++ e.classNames, IsClassName x →
      IsClassName (l.renamed a b x) := by
    intro x hx hclass
    rcases hl.renamed_eq_or_links a b x with hself | hlinks
    · rw [hself]
      exact hclass
    · exact hplain x hx _ hlinks
  have hd' : (d.mapNames (l.renamed a b)).WellFormed :=
    hd.mapNames fun x hx => hname x (List.mem_append_left _ hx) (hd.isClassName hx)
  have he' : (e.mapNames (l.renamed a b)).WellFormed :=
    he.mapNames fun x hx => hname x (List.mem_append_right _ hx) (he.isClassName hx)
  rw [Descriptor.text_inj hd' he', hl.mapNames_renamed_eq_iff]

-- A name with a delimiter may supply the structure that the other descriptor has of its own.
example :
    let l := ofHistory ⟨["official", "named"], by decide, by decide, by decide⟩
      [.ofClass (.ofStrings ["A", "X;LY"])]
    (l.renameDescriptor "(LA;)V" .first ⟨1⟩).toOption = some "(LX;LY;)V" ∧
      (l.renameDescriptor "(LX;LY;)V" .first ⟨1⟩).toOption = some "(LX;LY;)V" := by
  decide +kernel

/-! ## Members that look alike -/

/-- **Different members of one class and kind with a common name differ in their stored descriptors.
Where those agree up to collisions they read alike, and only there** as long as the class names in
them have names without delimiters in the namespace. -/
theorem Reachable.alike_iff_collide (hl : l.Reachable) (hns : l.namespaces.Has ns) {c : ClassEntry}
    (hc : c ∈ l.classes.entries) {i j : Nat} (hij : i ≠ j) {m m' : MemberEntry}
    (hi : (c.members kind).entries[i]? = some m) (hj : (c.members kind).entries[j]? = some m')
    {name : Text} (hname : m.naming.name? ns = some name)
    (hname' : m'.naming.name? ns = some name) :
    m.descriptor ≠ m'.descriptor ∧
      ∃ d d' : Descriptor, d.WellFormed ∧ d.text = m.descriptor ∧ d'.WellFormed ∧
        d'.text = m'.descriptor ∧
        ∃ t t', l.renameDescriptor m.descriptor .first ns = .ok t ∧
          l.renameDescriptor m'.descriptor .first ns = .ok t' ∧
          (l.AgreeUpToCollisions .first ns d d' → t = t') ∧
          ((∀ x ∈ d.classNames ++ d'.classNames, ∀ y, l.Links .first x ns y → IsClassName y) →
            t = t' → l.AgreeUpToCollisions .first ns d d') := by
  have hv := hl.valid
  have hcv := hv.classes c hc
  have hfirst := l.namespaces.has_first
  obtain ⟨d, hd, htext, -⟩ := (hcv.members kind m (Array.mem_of_getElem? hi)).descriptor
  obtain ⟨d', hd', htext', -⟩ := (hcv.members kind m' (Array.mem_of_getElem? hj)).descriptor
  -- with equal stored descriptors, the common name would be one key of both
  refine ⟨fun heq => hij (hcv.position_unique hi hj hname hname' heq), d, d', hd, htext, hd',
    htext', (d.mapNames (l.renamed .first ns)).text, (d'.mapNames (l.renamed .first ns)).text,
    ?_, ?_, ?_, ?_⟩
  · rw [← htext, hv.renameDescriptor_text hfirst hns hd]
  · rw [← htext', hv.renameDescriptor_text hfirst hns hd']
  · intro hagree
    rw [hv.mapNames_renamed_eq_iff.mpr hagree]
  · intro hplain
    exact (hv.text_mapNames_eq_iff hd hd' hplain).mp

/-- Both fields of `crossed` that are called `m` have the descriptor `LB;` in the second
namespace. -/
theorem crossed_alike :
    crossed.Reachable ∧ crossed.namespaces.Has ⟨1⟩ ∧
      ∃ c ∈ crossed.classes.entries, (0 : Nat) ≠ 1 ∧
        (c.members .field).entries[0]? = some ⟨"LB;", .ofStrings ["x", "m"]⟩ ∧
        (c.members .field).entries[1]? = some ⟨"LC;", .ofStrings ["y", "m"]⟩ ∧
        (Naming.ofStrings ["x", "m"]).name? ⟨1⟩ = some "m" ∧
        (Naming.ofStrings ["y", "m"]).name? ⟨1⟩ = some "m" ∧
        ∃ d d' : Descriptor, d.text = ("LB;" : Text) ∧ d'.text = ("LC;" : Text) ∧
          crossed.AgreeUpToCollisions .first ⟨1⟩ d d' := by
  have hl : crossed.Reachable := ⟨_, _, rfl⟩
  have hsecond : crossed.namespaces.Has ⟨1⟩ := by decide +kernel
  have hplain : crossed.PlainNames := by decide +kernel
  have hB : crossed.renameDescriptor "LB;" .first ⟨1⟩ = .ok "LB;" := rfl
  have hC : crossed.renameDescriptor "LC;" .first ⟨1⟩ = .ok "LB;" := rfl
  obtain ⟨c, hc, -, hx, hy⟩ := crossed_fields
  obtain ⟨-, d, d', -, htext, -, htext', t, t', ht, ht', -, honly⟩ :=
    hl.alike_iff_collide hsecond hc (by decide) hx hy rfl rfl
  have htt' : t = t' := Except.ok.inj (ht.symm.trans (hB.trans (hC.symm.trans ht')))
  refine ⟨hl, hsecond, c, hc, by decide, hx, hy, rfl, rfl, d, d', htext, htext', ?_⟩
  exact honly (fun _ _ _ ⟨_, hc', _, hother⟩ => hplain.isClassName hc' hother) htt'

/-- **A name and the descriptor as it reads in a namespace do not identify a member there.** -/
theorem not_identified_by_renamed_descriptor :
    ¬ ∀ l : Lexicon, l.Reachable → ∀ ns, l.namespaces.Has ns → ∀ c ∈ l.classes.entries, ∀ kind,
      ∀ m ∈ (c.members kind).entries, ∀ m' ∈ (c.members kind).entries, ∀ name,
        m.naming.name? ns = some name → m'.naming.name? ns = some name →
          ∀ t, l.renameDescriptor m.descriptor .first ns = .ok t →
            l.renameDescriptor m'.descriptor .first ns = .ok t → m = m' := by
  intro h
  have hsecond : crossed.namespaces.Has ⟨1⟩ := by decide +kernel
  obtain ⟨c, hc, -, hx, hy⟩ := crossed_fields
  have heq := h crossed ⟨_, _, rfl⟩ ⟨1⟩ hsecond c hc .field _ (Array.mem_of_getElem? hx)
    _ (Array.mem_of_getElem? hy) "m" rfl rfl "LB;" rfl rfl
  exact absurd (congrArg MemberEntry.descriptor heq) (by decide)

end SymbolLexicon.Lexicon
