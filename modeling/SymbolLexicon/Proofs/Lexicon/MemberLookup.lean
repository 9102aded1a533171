/-
# SymbolLexicon.Proofs.Lexicon.MemberLookup — a look-up finds the member that a reference denotes.

A reference DENOTES a member in a namespace when its parts are the names of the class and of the
member there, and its descriptor, renamed to the first namespace, is the stored one. `Denotes` says
so of positions, by a scan of the entries; it knows nothing of the index. The look-up is sound and
complete for it, and no reference denotes two members.

A member need not be found under its own reference, that is, by its names in a namespace and its
descriptor renamed to there: this is so exactly when the class names of the descriptor come back.
-/
import SymbolLexicon.Lexicon.Find
import SymbolLexicon.Proofs.Lexicon.ClassNames

namespace SymbolLexicon

namespace Lexicon

variable {l : Lexicon} {ns : Namespace}

/-! ## The look-up and the scan -/

/-- The short way that the first namespace takes leads to the same descriptor as renaming. -/
theorem Valid.storedDescriptor_eq_ok_iff (hl : l.Valid) (hns : l.namespaces.Has ns)
    (kind : MemberKind) (sought : Reference) {t : Text} :
    l.storedDescriptor kind sought ns = .ok t ↔
      l.renameDescriptor sought.descriptor ns .first = .ok t := by
  unfold storedDescriptor
  split
  · rename_i hfirst
    subst hfirst
    rw [hl.renameDescriptor_self_eq_ok_iff hns, isDescriptor_iff_read]
    cases hread : Descriptor.read sought.descriptor with
    | ok d => simp [Descriptor.check, hread]
    | error refusal => simp [Descriptor.check, hread]
  · rfl

theorem NamesAlike.storedDescriptor {l' : Lexicon} (h : l.NamesAlike l') (kind : MemberKind)
    (sought : Reference) (ns : Namespace) :
    l.storedDescriptor kind sought ns = l'.storedDescriptor kind sought ns := by
  unfold Lexicon.storedDescriptor
  rw [h.renameDescriptor]

/-- All that a look-up in a namespace of the lexicon does. -/
theorem findMember_eq (hns : l.namespaces.Has ns) (kind : MemberKind) (sought : Reference) :
    l.findMember kind sought ns =
      match l.classes.find? ns sought.owner with
      | none => ⟨.ok none, [.ownerMissing kind sought ns]⟩
      | some c => ⟨(l.storedDescriptor kind sought ns).map fun t =>
          (c.members kind).find? ns ⟨sought.name, t⟩, []⟩ := by
  unfold findMember
  rw [findClass_eq_ok hns]
  cases l.classes.find? ns sought.owner with
  | none => rfl
  | some c =>
    cases l.storedDescriptor kind sought ns with
    | error e => rfl
    | ok t => rfl

/-- A look-up in any other namespace is refused. -/
theorem findMember_of_not_has (hns : ¬ l.namespaces.Has ns) (kind : MemberKind)
    (sought : Reference) :
    l.findMember kind sought ns =
      ⟨.error (.of (.namespaceOutOfRange ns l.namespaces.names)), []⟩ := by
  unfold findMember
  rw [findClass_eq_error hns]
  rfl

/-- The reference denotes the member `m` at position `j` of the class at position `i`. -/
def Denotes (l : Lexicon) (kind : MemberKind) (sought : Reference) (ns : Namespace) (i j : Nat)
    (m : MemberEntry) : Prop :=
  ∃ c, l.classes.entries[i]? = some c ∧ c.naming.name? ns = some sought.owner ∧
    (c.members kind).entries[j]? = some m ∧ m.naming.name? ns = some sought.name ∧
      l.renameDescriptor sought.descriptor ns .first = .ok m.descriptor

variable (kind : MemberKind) (sought : Reference)

/-- A denoted member is found, and nothing is recorded. -/
theorem Valid.findMember_of_denotes {kind : MemberKind} {sought : Reference} (hl : l.Valid)
    (hns : l.namespaces.Has ns) {i j : Nat} {m : MemberEntry}
    (h : l.Denotes kind sought ns i j m) :
    l.findMember kind sought ns = ⟨.ok (some m), []⟩ := by
  obtain ⟨c, hi, howner, hj, hname, hrename⟩ := h
  have hc : c ∈ l.classes.entries := Array.mem_of_getElem? hi
  have hfind := hl.indexed.find?_eq_some_iff.mpr ⟨hc, howner⟩
  have hmember := (hl.classes c hc).find?_eq_some_iff.mpr
    ⟨Array.mem_of_getElem? hj, hname, rfl⟩
  have hstored := (hl.storedDescriptor_eq_ok_iff hns kind sought).mpr hrename
  simp only [findMember_eq hns, hfind, hstored, Except.map, hmember]

theorem Valid.result_findMember_eq_some_iff (hl : l.Valid) (hns : l.namespaces.Has ns)
    {m : MemberEntry} :
    (l.findMember kind sought ns).result = .ok (some m) ↔
      ∃ i j, l.Denotes kind sought ns i j m := by
  refine ⟨?_, ?_⟩
  · intro h
    rw [findMember_eq hns] at h
    cases hfind : l.classes.find? ns sought.owner with
    | none => simp [hfind] at h
    | some c =>
      obtain ⟨hc, howner⟩ := hl.indexed.find?_eq_some_iff.mp hfind
      rw [hfind] at h
      obtain ⟨t, hstored, hmember⟩ := map_eq_ok_iff.mp h
      obtain ⟨hm, hname, rfl⟩ := (hl.classes c hc).find?_eq_some_iff.mp hmember
      -- both entries are found, so each of them is at some position
      obtain ⟨i, hi⟩ := Array.mem_iff_getElem?.mp hc
      obtain ⟨j, hj⟩ := Array.mem_iff_getElem?.mp hm
      have hrename := (hl.storedDescriptor_eq_ok_iff hns kind sought).mp hstored
      exact ⟨i, j, c, hi, howner, hj, hname, hrename⟩
  · rintro ⟨i, j, hdenotes⟩
    rw [hl.findMember_of_denotes hns hdenotes]

/-- With a known owner and a well-formed descriptor, the class answers for the stored descriptor. -/
theorem Valid.result_findMember_of_owner (hl : l.Valid) (hns : l.namespaces.Has ns)
    {c : ClassEntry} (hc : c ∈ l.classes.entries) {owner : Text}
    (howner : c.naming.name? ns = some owner) {d : Descriptor} (hd : d.WellFormed) (name : Text) :
    (l.findMember kind ⟨owner, name, d.text⟩ ns).result =
      .ok ((c.members kind).find? ns ⟨name, (d.mapNames (l.renamed ns .first)).text⟩) := by
  have hfind := hl.indexed.find?_eq_some_iff.mpr ⟨hc, howner⟩
  have hstored : l.storedDescriptor kind ⟨owner, name, d.text⟩ ns =
      .ok (d.mapNames (l.renamed ns .first)).text := by
    rw [hl.storedDescriptor_eq_ok_iff hns,
      hl.renameDescriptor_text hns l.namespaces.has_first hd]
  rw [findMember_eq hns]
  simp only [hfind, hstored, Except.map]

/-- A look-up fails exactly for a known owner with a text that is no descriptor. -/
theorem Valid.findMember_fails_iff (hl : l.Valid) (hns : l.namespaces.Has ns) :
    (∃ e, (l.findMember kind sought ns).result = .error e) ↔
      (∃ c ∈ l.classes.entries, c.naming.name? ns = some sought.owner) ∧
        ¬ IsDescriptor sought.descriptor := by
  have hstored : (∃ t, l.storedDescriptor kind sought ns = .ok t) ↔
      IsDescriptor sought.descriptor := by
    simp only [hl.storedDescriptor_eq_ok_iff hns,
      hl.exists_renameDescriptor_iff hns l.namespaces.has_first]
  have howner : (∃ c ∈ l.classes.entries, c.naming.name? ns = some sought.owner) ↔
      ∃ c, l.classes.find? ns sought.owner = some c := by
    simp only [hl.indexed.find?_eq_some_iff, ClassEntry.key?_eq]
  rw [findMember_eq hns, howner, ← hstored]
  cases l.classes.find? ns sought.owner with
  | none => simp
  | some c =>
    cases l.storedDescriptor kind sought ns <;> simp [Except.map]

/-- No reference denotes members at two positions. -/
theorem Valid.denotes_unique {kind : MemberKind} {sought : Reference} (hl : l.Valid)
    {i j i' j' : Nat} {m m' : MemberEntry} (h : l.Denotes kind sought ns i j m)
    (h' : l.Denotes kind sought ns i' j' m') : i = i' ∧ j = j' ∧ m = m' := by
  obtain ⟨c, hi, howner, hj, hname, hrename⟩ := h
  obtain ⟨c', hi', howner', hj', hname', hrename'⟩ := h'
  -- the owner fixes the class, and within it the name and the stored descriptor fix the member
  obtain rfl := hl.indexed.position_unique hi hi' howner howner'
  obtain rfl := Option.some.inj (hi.symm.trans hi')
  have hc := hl.classes c (Array.mem_of_getElem? hi)
  obtain rfl := hc.position_unique hj hj' hname hname'
    (Except.ok.inj (hrename.symm.trans hrename'))
  exact ⟨rfl, rfl, Option.some.inj (hj.symm.trans hj')⟩

/-- **Member look-up is sound and complete.** It fails exactly for a known owner with a text that is
no descriptor, it answers a member exactly if the reference denotes it, and else it answers none. No
reference denotes members at two positions, and the first namespace, where the descriptor is only
checked, is no exception. -/
theorem Reachable.findMember_sound_complete (hl : l.Reachable) (hns : l.namespaces.Has ns) :
    ((∃ e, (l.findMember kind sought ns).result = .error e) ↔
      (∃ c ∈ l.classes.entries, c.naming.name? ns = some sought.owner) ∧
        ¬ IsDescriptor sought.descriptor) ∧
    (∀ m, (l.findMember kind sought ns).result = .ok (some m) ↔
      ∃ i j, l.Denotes kind sought ns i j m) ∧
    ((l.findMember kind sought ns).result = .ok none ↔
      ((∃ c ∈ l.classes.entries, c.naming.name? ns = some sought.owner) →
        IsDescriptor sought.descriptor) ∧ ¬ ∃ i j m, l.Denotes kind sought ns i j m) ∧
    (∀ i j m i' j' m', l.Denotes kind sought ns i j m → l.Denotes kind sought ns i' j' m' →
      i = i' ∧ j = j' ∧ m = m') ∧
    ∀ t, l.storedDescriptor kind sought .first = .ok t ↔
      l.renameDescriptor sought.descriptor .first .first = .ok t := by
  have hv := hl.valid
  have hfails := hv.findMember_fails_iff kind sought hns
  have hfound := fun m => hv.result_findMember_eq_some_iff kind sought (m := m) hns
  refine ⟨hfails, hfound, ?_, fun _ _ _ _ _ _ => hv.denotes_unique,
    fun t => hv.storedDescriptor_eq_ok_iff l.namespaces.has_first kind sought⟩
  -- none is what is left when a look-up neither fails nor finds a member
  have hnone : (∃ i j m, l.Denotes kind sought ns i j m) ↔
      ∃ m, (l.findMember kind sought ns).result = .ok (some m) := by
    simp only [hfound]
    exact ⟨fun ⟨i, j, m, h⟩ => ⟨m, i, j, h⟩, fun ⟨m, i, j, h⟩ => ⟨i, j, m, h⟩⟩
  have hleft : (l.findMember kind sought ns).result = .ok none ↔
      (¬ ∃ e, (l.findMember kind sought ns).result = .error e) ∧
        ¬ ∃ m, (l.findMember kind sought ns).result = .ok (some m) := by
    rcases (l.findMember kind sought ns).result with e | (- | m) <;> simp
  rw [hleft, hfails, not_and_not_right, hnone]

/-- In the second namespace the reference to `m` with `LB;` denotes the field that is stored with
`LC;`. -/
theorem crossed_sound_complete :
    crossed.Reachable ∧ crossed.namespaces.Has ⟨1⟩ ∧
      (crossed.Denotes .field ⟨"Main", "m", "LB;"⟩ ⟨1⟩ 0 1 ⟨"LC;", .ofStrings ["y", "m"]⟩ ∧
        (crossed.findMember .field ⟨"Main", "m", "LB;"⟩ ⟨1⟩).result =
          .ok (some ⟨"LC;", .ofStrings ["y", "m"]⟩)) := by
  have hl : crossed.Reachable := ⟨_, _, rfl⟩
  have hsecond : crossed.namespaces.Has ⟨1⟩ := by decide +kernel
  have hdenotes :
      crossed.Denotes .field ⟨"Main", "m", "LB;"⟩ ⟨1⟩ 0 1 ⟨"LC;", .ofStrings ["y", "m"]⟩ :=
    ⟨_, rfl, rfl, rfl, rfl, rfl⟩
  obtain ⟨-, hfound, -⟩ := hl.findMember_sound_complete .field ⟨"Main", "m", "LB;"⟩ hsecond
  exact ⟨hl, hsecond, hdenotes, (hfound _).mpr ⟨0, 1, hdenotes⟩⟩

/-! ## Members under their own reference -/

/-- **A member is found under its own reference in a namespace exactly when every class name of its
descriptor comes back from there.** -/
theorem Reachable.findMember_own_reference_iff {kind : MemberKind} (hl : l.Reachable)
    (hplain : l.PlainNames) (hns : l.namespaces.Has ns) {c : ClassEntry}
    (hc : c ∈ l.classes.entries) {owner : Text} (howner : c.naming.name? ns = some owner)
    {m : MemberEntry} (hm : m ∈ (c.members kind).entries) {name : Text}
    (hname : m.naming.name? ns = some name) :
    ∃ names translated, Descriptor.classNamesOf m.descriptor = .ok names ∧
      l.renameDescriptor m.descriptor .first ns = .ok translated ∧
      ((l.findMember kind ⟨owner, name, translated⟩ ns).result = .ok (some m) ↔
        ∀ x ∈ names, (do l.renameClass (← l.renameClass x .first ns) ns .first) = .ok x) := by
  have hv := hl.valid
  have hfirst := l.namespaces.has_first
  obtain ⟨d, hd, htext, -⟩ := ((hv.classes c hc).members kind m hm).descriptor
  rw [← htext]
  refine ⟨d.classNames, _, Descriptor.classNamesOf_text hd,
    hv.renameDescriptor_text hfirst hns hd, ?_⟩
  -- the class is found again, and the member is sought by what comes back of its descriptor
  have hwf : (d.mapNames (l.renamed .first ns)).WellFormed := hv.wellFormed_renamed hplain hd
  have hresult := hv.result_findMember_of_owner kind hns hc howner hwf name
  rw [Descriptor.mapNames_mapNames] at hresult
  have hback : ∀ x ∈ d.classNames,
      ((do l.renameClass (← l.renameClass x .first ns) ns .first) = .ok x ↔
        l.RoundTrips .first ns x) := by
    intro x hx
    rw [hv.renameClass_twice hplain hfirst hns hfirst (isArrayName_eq_false (hd.isClassName hx)),
      ← hv.renamed_renamed_eq_iff]
    exact ⟨Except.ok.inj, congrArg Except.ok⟩
  rw [hresult, Except.ok.injEq, (hv.classes c hc).find?_eq_some_iff, ← htext]
  calc _ ↔ (d.mapNames fun x => l.renamed ns .first (l.renamed .first ns x)).text = d.text :=
        ⟨fun h => h.2.2.symm, fun h => ⟨hm, hname, h.symm⟩⟩
    _ ↔ ∀ x ∈ d.classNames, l.RoundTrips .first ns x := hv.text_there_and_back_iff hplain hd
    _ ↔ _ := forall₂_congr fun x hx => (hback x hx).symm

theorem crossed_own_reference :
    crossed.Reachable ∧ crossed.PlainNames ∧ crossed.namespaces.Has ⟨1⟩ ∧
      ∃ c ∈ crossed.classes.entries, c.naming.name? ⟨1⟩ = some "Main" ∧
        ⟨"LB;", .ofStrings ["x", "m"]⟩ ∈ (c.members .field).entries ∧
        (Naming.ofStrings ["x", "m"]).name? ⟨1⟩ = some "m" ∧
        ∃ names translated, Descriptor.classNamesOf "LB;" = .ok names ∧
          crossed.renameDescriptor "LB;" .first ⟨1⟩ = .ok translated ∧
          ((crossed.findMember .field ⟨"Main", "m", translated⟩ ⟨1⟩).result =
              .ok (some ⟨"LB;", .ofStrings ["x", "m"]⟩) ↔
            ∀ x ∈ names,
              (do crossed.renameClass (← crossed.renameClass x .first ⟨1⟩) ⟨1⟩ .first) =
                .ok x) := by
  have hl : crossed.Reachable := ⟨_, _, rfl⟩
  have hplain : crossed.PlainNames := by decide +kernel
  have hsecond : crossed.namespaces.Has ⟨1⟩ := by decide +kernel
  obtain ⟨c, hc, howner, hx, -⟩ := crossed_fields
  have hm := Array.mem_of_getElem? hx
  exact ⟨hl, hplain, hsecond, c, hc, howner, hm, rfl,
    hl.findMember_own_reference_iff hplain hsecond hc howner hm rfl⟩

end Lexicon

end SymbolLexicon
