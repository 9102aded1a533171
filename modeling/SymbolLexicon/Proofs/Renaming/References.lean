/-
# SymbolLexicon.Proofs.Renaming.References — a reference is renamed as a whole or not at all.

The three parts of a reference are looked at by three requests, and none of them looks at all that
must hold. The name looks at the descriptor only for a known owner, and at the target only for a
member that is found; the owner and the descriptor look at both namespaces, but of the text each
sees its own part. Together they ask for two namespaces, a descriptor, and an owner that is either
no array or a descriptor itself.

The first error in the order name, owner, descriptor is that of the reference. So one and the same
target that is not there is reported in two ways, by the names of a member that is found and by the
namespaces of the lexicon otherwise.
-/
import SymbolLexicon.Proofs.Renaming.Members

namespace SymbolLexicon.Renaming

variable {r : Renaming} {kind : MemberKind} {sought : Reference}

/-! ## The three parts -/

/-- The owner and the descriptor leave the records of the name as they are. -/
theorem reference_eq (r : Renaming) (kind : MemberKind) (sought : Reference) :
    r.reference kind sought =
      ⟨do
        let name ← (r.memberName kind sought).result
        let owner ← r.className sought.owner
        let descriptor ← r.descriptor sought.descriptor
        return ⟨owner, name, descriptor⟩,
      (r.memberName kind sought).log⟩ := by
  unfold reference
  rcases r.memberName kind sought with ⟨e | name, log⟩
  · rfl
  · cases r.className sought.owner with
    | error e => simp [Traced.lift]
    | ok owner =>
      cases r.descriptor sought.descriptor with
      | error e => simp [Traced.lift]
      | ok descriptor => simp

theorem log_reference (r : Renaming) (kind : MemberKind) (sought : Reference) :
    (r.reference kind sought).log = (r.memberName kind sought).log := by
  rw [reference_eq]

/-- The parts of a reference that was renamed are the parts that were renamed. -/
theorem reference_eq_ok_iff {target : Reference} :
    (r.reference kind sought).result = .ok target ↔
      (r.memberName kind sought).result = .ok target.name ∧
        r.className sought.owner = .ok target.owner ∧
        r.descriptor sought.descriptor = .ok target.descriptor := by
  rw [reference_eq]
  simp only [Error.bind_eq_ok_iff, Error.pure_eq, Except.ok.injEq]
  constructor
  · rintro ⟨name, hname, owner, howner, descriptor, hdescriptor, rfl⟩
    exact ⟨hname, howner, hdescriptor⟩
  · rintro ⟨hname, howner, hdescriptor⟩
    exact ⟨_, hname, _, howner, _, hdescriptor, rfl⟩

/-- The error of a reference is the first one of its parts: the name, the owner, the descriptor. -/
theorem reference_eq_error_iff {e : Error} :
    (r.reference kind sought).result = .error e ↔
      (r.memberName kind sought).result = .error e ∨
      (∃ name, (r.memberName kind sought).result = .ok name) ∧
        (r.className sought.owner = .error e ∨
        (∃ owner, r.className sought.owner = .ok owner) ∧
          r.descriptor sought.descriptor = .error e) := by
  rw [reference_eq]
  simp only [Error.bind_eq_error_iff, Error.pure_eq, reduceCtorEq, and_false, exists_false,
    or_false, exists_and_right]

/-! ## When a reference is renamed -/

/-- What no part sees by itself, all parts see together. -/
theorem reference_succeeds_iff (hl : r.lexicon.Valid) :
    (∃ target, (r.reference kind sought).result = .ok target) ↔
      r.lexicon.namespaces.Has r.source ∧ r.lexicon.namespaces.Has r.target ∧
        IsDescriptor sought.descriptor ∧
        (Lexicon.isArrayName sought.owner = true → IsDescriptor sought.owner) := by
  have hparts : (∃ target, (r.reference kind sought).result = .ok target) ↔
      (∃ name, (r.memberName kind sought).result = .ok name) ∧
        (∃ owner, r.className sought.owner = .ok owner) ∧
        ∃ descriptor, r.descriptor sought.descriptor = .ok descriptor := by
    simp only [reference_eq_ok_iff]
    constructor
    · rintro ⟨target, hname, howner, hdescriptor⟩
      exact ⟨⟨_, hname⟩, ⟨_, howner⟩, ⟨_, hdescriptor⟩⟩
    · rintro ⟨⟨name, hname⟩, ⟨owner, howner⟩, ⟨descriptor, hdescriptor⟩⟩
      exact ⟨⟨owner, name, descriptor⟩, hname, howner, hdescriptor⟩
  rw [hparts, Error.exists_eq_ok_iff, Error.exists_eq_ok_iff, Error.exists_eq_ok_iff,
    memberName_fails_iff hl, className, hl.renameClass_fails_iff, descriptor,
    hl.renameDescriptor_fails_iff]
  constructor
  · rintro ⟨-, howner, hdescriptor⟩
    simp only [not_or, not_and, not_not] at howner hdescriptor
    exact ⟨howner.1, howner.2.1, hdescriptor.2.2, howner.2.2⟩
  · rintro ⟨hsource, htarget, hdescriptor, howner⟩
    -- the owner and the descriptor refuse all that the name refuses
    simpa [hsource, htarget, hdescriptor] using howner

/-! ## A target that is not there -/

/-- What the name is refused for, the reference is refused for. -/
theorem reference_of_memberEnd (hl : r.lexicon.Valid) {e : Error}
    (h : r.MemberEnd kind sought ⟨.error e, []⟩) :
    r.reference kind sought = ⟨.error e, []⟩ := by
  rw [reference_eq, memberName_of_memberEnd hl h]
  rfl

/-- Behind a member that is missing, the owner is the first to look at the target. -/
theorem reference_of_missing (hl : r.lexicon.Valid)
    (hsource : r.lexicon.namespaces.Has r.source) (htarget : ¬ r.lexicon.namespaces.Has r.target)
    (h : (r.lexicon.findMember kind sought r.source).result = .ok none) :
    (r.reference kind sought).result =
      .error (.of (.namespaceOutOfRange r.target r.lexicon.namespaces.names)) := by
  have howner : r.className sought.owner =
      .error (.of (.namespaceOutOfRange r.target r.lexicon.namespaces.names)) :=
    hl.renameClass_eq_error_iff.mpr (.inl (.target hsource htarget))
  rw [reference_eq, memberName_of_missing hl h, howner]
  rfl

/-- **A reference is renamed as a whole or refused for its first error.** It is renamed exactly if
both namespaces are there, its descriptor is one, and its owner is no array or a descriptor. Then
its parts are what its own parts become: the name that of the member, sought by the owner and the
descriptor as they were. Else the error is that of the name, or else of the owner, or else of the
descriptor. So from a source that is there, a target that is not is reported with the names of the
member when it is found and with the namespaces of the lexicon when it is missing; only a text that
is no descriptor, with a known owner, is reported before. -/
theorem reference_whole_or_first_error (hl : r.lexicon.Reachable) (kind : MemberKind)
    (sought : Reference) :
    ((∃ target, (r.reference kind sought).result = .ok target) ↔
      r.lexicon.namespaces.Has r.source ∧ r.lexicon.namespaces.Has r.target ∧
        IsDescriptor sought.descriptor ∧
        (Lexicon.isArrayName sought.owner = true → IsDescriptor sought.owner)) ∧
    (∀ target, (r.reference kind sought).result = .ok target ↔
      (r.memberName kind sought).result = .ok target.name ∧
        r.className sought.owner = .ok target.owner ∧
        r.descriptor sought.descriptor = .ok target.descriptor) ∧
    (∀ e, (r.reference kind sought).result = .error e ↔
      (r.memberName kind sought).result = .error e ∨
      (∃ name, (r.memberName kind sought).result = .ok name) ∧
        (r.className sought.owner = .error e ∨
        (∃ owner, r.className sought.owner = .ok owner) ∧
          r.descriptor sought.descriptor = .error e)) ∧
    (r.reference kind sought).log = (r.memberName kind sought).log ∧
    (r.lexicon.namespaces.Has r.source → ¬ r.lexicon.namespaces.Has r.target →
      (∀ m, (r.lexicon.findMember kind sought r.source).result = .ok (some m) →
        (r.reference kind sought).result =
          .error (.of (.slotOutOfRange r.target m.naming.slots))) ∧
      ((r.lexicon.findMember kind sought r.source).result = .ok none →
        (r.reference kind sought).result =
          .error (.of (.namespaceOutOfRange r.target r.lexicon.namespaces.names))) ∧
      (¬ r.lexicon.Unknown r.source sought.owner →
        ∀ e, Descriptor.check sought.descriptor = .error e →
          (r.reference kind sought).result =
            .error (e.within (Lexicon.lookupContext kind sought r.source)))) := by
  have hv := hl.valid
  refine ⟨reference_succeeds_iff hv, fun _ => reference_eq_ok_iff,
    fun _ => reference_eq_error_iff, log_reference r kind sought, ?_⟩
  intro hsource htarget
  refine ⟨?_, reference_of_missing hv hsource htarget, ?_⟩
  · intro m hm
    obtain ⟨i, j, hdenotes⟩ := hv.result_findMember_iff_denotes.mp hm
    rw [reference_of_memberEnd hv (.foreignTarget hdenotes htarget)]
  · intro howner e he
    rw [reference_of_memberEnd hv (.refused (.malformed hsource howner he))]

/-- A reference to a method of an array is renamed. A target that is not there is reported by the
names of a method that is found, and by the namespaces for one that is missing; of a text that is no
descriptor and a target that is not there, the text is reported. -/
theorem halfNamed_references :
    halfNamed.Reachable ∧
      (∃ target, ((⟨halfNamed, .first, ⟨1⟩⟩ : Renaming).reference .method
        ⟨"[LA;", "clone", "()LB;"⟩).result = .ok target) ∧
      ((⟨halfNamed, .first, ⟨7⟩⟩ : Renaming).reference .method ⟨"A", "g", "(LA;)V"⟩).result =
        .error (.of (.slotOutOfRange ⟨7⟩ (Naming.ofStrings ["g", ""]).slots)) ∧
      ((⟨halfNamed, .first, ⟨7⟩⟩ : Renaming).reference .method ⟨"A", "h", "()V"⟩).result =
        .error (.of (.namespaceOutOfRange ⟨7⟩ halfNamed.namespaces.names)) ∧
      ((⟨halfNamed, .first, ⟨7⟩⟩ : Renaming).reference .method ⟨"A", "g", "["⟩).result =
        .error ⟨[.lookingUp .method "g" "A", .reading .field "["], .fieldType .truncated⟩ := by
  have hl : halfNamed.Reachable := ⟨_, _, rfl⟩
  have hfirst := halfNamed.namespaces.has_first
  have hsecond : halfNamed.namespaces.Has ⟨1⟩ := by decide +kernel
  have heighth : ¬ halfNamed.namespaces.Has ⟨7⟩ := by decide +kernel
  have hdescriptor : IsDescriptor "()LB;" :=
    Lexicon.isDescriptor_of_renameDescriptor (l := halfNamed) (a := .first) (b := .first)
      (t := "()LB;") (by decide +kernel)
  have harray : IsDescriptor "[LA;" :=
    Lexicon.isDescriptor_of_renameDescriptor (l := halfNamed) (a := .first) (b := .first)
      (t := "[LA;") (by decide +kernel)
  have hfound : (halfNamed.findMember .method ⟨"A", "g", "(LA;)V"⟩ .first).result =
      .ok (some ⟨"(LA;)V", .ofStrings ["g", ""]⟩) := by decide +kernel
  have hmissing : (halfNamed.findMember .method ⟨"A", "h", "()V"⟩ .first).result = .ok none := by
    decide +kernel
  have hknown : ¬ halfNamed.Unknown .first "A" := by decide +kernel
  have hcheck : Descriptor.check "[" = .error ⟨[.reading .field "["], .fieldType .truncated⟩ := by
    decide +kernel
  obtain ⟨hsucceeds, -⟩ := reference_whole_or_first_error (r := ⟨halfNamed, .first, ⟨1⟩⟩) hl .method
    ⟨"[LA;", "clone", "()LB;"⟩
  obtain ⟨-, -, -, -, hg⟩ := reference_whole_or_first_error (r := ⟨halfNamed, .first, ⟨7⟩⟩) hl
    .method ⟨"A", "g", "(LA;)V"⟩
  obtain ⟨-, -, -, -, hh⟩ := reference_whole_or_first_error (r := ⟨halfNamed, .first, ⟨7⟩⟩) hl
    .method ⟨"A", "h", "()V"⟩
  obtain ⟨-, -, -, -, hmalformed⟩ := reference_whole_or_first_error
    (r := ⟨halfNamed, .first, ⟨7⟩⟩) hl .method ⟨"A", "g", "["⟩
  exact ⟨hl, hsucceeds.mpr ⟨hfirst, hsecond, hdescriptor, fun _ => harray⟩,
    (hg hfirst heighth).1 _ hfound, (hh hfirst heighth).2.1 hmissing,
    (hmalformed hfirst heighth).2.2 hknown _ hcheck⟩

end SymbolLexicon.Renaming
