/-
# SymbolLexicon.Proofs.Renaming.Members — every end of renaming a member name, with its records.

Renaming a member name goes on where the look-up ends. A member that is found has its name in the
target, or keeps the one it was sought by, or is asked for a slot that it does not have; this is the
only place where the target is looked at, so that a target which is no namespace at all does no harm
to a member that is missing. In the same way a text that is no descriptor does none to a reference
whose owner is unknown.

An error is that of the lexicon as it is, and then nothing is recorded. Each record is that of a
fallback, and a name that is kept has been recorded.
-/
import SymbolLexicon.Renaming
import SymbolLexicon.Proofs.Lexicon.Lookup

namespace SymbolLexicon

/-! ## Every end of renaming a member name -/

namespace Renaming

variable {r : Renaming} {kind : MemberKind} {sought : Reference}

/-- The ends of renaming a member name. -/
inductive MemberEnd (r : Renaming) (kind : MemberKind) (sought : Reference) : Traced Text → Prop
  | refused {e : Error} : r.lexicon.LookupEnd kind sought r.source ⟨.error e, []⟩ →
      MemberEnd r kind sought ⟨.error e, []⟩
  | foreignTarget {i j : Nat} {m : MemberEntry} :
      r.lexicon.Denotes kind sought r.source i j m → ¬ r.lexicon.namespaces.Has r.target →
      MemberEnd r kind sought ⟨.error (.of (.slotOutOfRange r.target m.naming.slots)), []⟩
  | named {i j : Nat} {m : MemberEntry} {name : Text} :
      r.lexicon.Denotes kind sought r.source i j m → m.naming.name? r.target = some name →
      MemberEnd r kind sought ⟨.ok name, []⟩
  | unnamed {i j : Nat} {m : MemberEntry} :
      r.lexicon.Denotes kind sought r.source i j m → r.lexicon.namespaces.Has r.target →
      m.naming.name? r.target = none →
      MemberEnd r kind sought ⟨.ok sought.name, [.nameMissing sought r.target]⟩
  | missing {log : List Record} : r.lexicon.LookupEnd kind sought r.source ⟨.ok none, log⟩ →
      MemberEnd r kind sought ⟨.ok sought.name, log ++ [.memberMissing sought r.source]⟩

/-- The name is read off the naming of the member that was found. -/
theorem targetName_some (r : Renaming) (sought : Reference) (m : MemberEntry) :
    r.targetName sought (some m) =
      match m.naming.get r.target with
      | .ok (some name) => ⟨.ok name, []⟩
      | .ok none => ⟨.ok sought.name, [.nameMissing sought r.target]⟩
      | .error e => ⟨.error e, []⟩ := by
  unfold targetName
  dsimp only
  rcases m.naming.get r.target with e | (- | name) <;> rfl

/-- What follows a look-up: its error as it is, the name of the member, or the name that it was
sought by. -/
theorem memberName_of_findMember {log : List Record} {found : Option MemberEntry}
    (h : r.lexicon.findMember kind sought r.source = ⟨.ok found, log⟩) :
    r.memberName kind sought =
      ⟨(r.targetName sought found).result, log ++ (r.targetName sought found).log⟩ := by
  unfold memberName
  rw [h, Traced.bind_ok]

theorem memberName_of_error {log : List Record} {e : Error}
    (h : r.lexicon.findMember kind sought r.source = ⟨.error e, log⟩) :
    r.memberName kind sought = ⟨.error e, log⟩ := by
  unfold memberName
  rw [h, Traced.bind_error]

/-- Each of these ends is what the renaming comes to. -/
theorem memberName_of_memberEnd (hl : r.lexicon.Valid) {outcome : Traced Text}
    (h : r.MemberEnd kind sought outcome) : r.memberName kind sought = outcome := by
  cases h with
  | refused hend => exact memberName_of_error (hl.findMember_eq_iff.mpr hend)
  | missing hend => exact memberName_of_findMember (hl.findMember_eq_iff.mpr hend)
  | foreignTarget hdenotes htarget =>
    rw [memberName_of_findMember (hl.findMember_eq_iff.mpr (.found hdenotes)), targetName_some,
      (hl.fits_of_denotes hdenotes).get_eq_error htarget]
    rfl
  | named hdenotes hname =>
    rw [memberName_of_findMember (hl.findMember_eq_iff.mpr (.found hdenotes)), targetName_some,
      Naming.get_of_name? hname]
    rfl
  | unnamed hdenotes htarget hname =>
    rw [memberName_of_findMember (hl.findMember_eq_iff.mpr (.found hdenotes)), targetName_some,
      (hl.fits_of_denotes hdenotes).get_eq_ok htarget, hname]
    rfl

/-- The renaming comes to one of these ends. -/
theorem memberEnd_memberName (hl : r.lexicon.Valid) (kind : MemberKind) (sought : Reference) :
    r.MemberEnd kind sought (r.memberName kind sought) := by
  have hend := hl.lookupEnd_findMember kind sought r.source
  suffices h : ∃ outcome, r.MemberEnd kind sought outcome by
    obtain ⟨outcome, h⟩ := h
    rw [memberName_of_memberEnd hl h]
    exact h
  rcases hfind : r.lexicon.findMember kind sought r.source with ⟨e | (- | m), log⟩
  all_goals rw [hfind] at hend
  · cases hend with
    | foreign hns => exact ⟨_, .refused (.foreign hns)⟩
    | malformed hns howner hcheck => exact ⟨_, .refused (.malformed hns howner hcheck)⟩
  · exact ⟨_, .missing hend⟩
  · cases hend with
    | found hdenotes =>
      by_cases htarget : r.lexicon.namespaces.Has r.target
      · cases hname : m.naming.name? r.target with
        | none => exact ⟨_, .unnamed hdenotes htarget hname⟩
        | some name => exact ⟨_, .named hdenotes hname⟩
      · exact ⟨_, .foreignTarget hdenotes htarget⟩

theorem memberName_eq_iff (hl : r.lexicon.Valid) {outcome : Traced Text} :
    r.memberName kind sought = outcome ↔ r.MemberEnd kind sought outcome := by
  constructor
  · rintro rfl
    exact memberEnd_memberName hl kind sought
  · exact memberName_of_memberEnd hl

/-- Renaming a member name fails exactly for a source that is not there, for a known owner with a
text that is no descriptor, and for a target that is not there when the member is. -/
theorem memberName_fails_iff (hl : r.lexicon.Valid) :
    (∃ e, (r.memberName kind sought).result = .error e) ↔
      ¬ r.lexicon.namespaces.Has r.source ∨
      ¬ r.lexicon.Unknown r.source sought.owner ∧ ¬ IsDescriptor sought.descriptor ∨
      (∃ m, (r.lexicon.findMember kind sought r.source).result = .ok (some m)) ∧
        ¬ r.lexicon.namespaces.Has r.target := by
  constructor
  · rintro ⟨e, he⟩
    have hend := memberEnd_memberName hl kind sought
    generalize r.memberName kind sought = outcome at hend he
    cases hend with
    | refused hlookup =>
      cases hlookup with
      | foreign hsource => exact .inl hsource
      | malformed _ howner hcheck =>
        exact .inr (.inl ⟨howner, Descriptor.exists_check_error_iff.mp ⟨_, hcheck⟩⟩)
    | foreignTarget hdenotes htarget =>
      exact .inr (.inr ⟨⟨_, hl.result_findMember_iff_denotes.mpr ⟨_, _, hdenotes⟩⟩, htarget⟩)
    | _ => cases he
  · intro h
    suffices hend : ∃ e, r.MemberEnd kind sought ⟨.error e, []⟩ by
      obtain ⟨e, he⟩ := hend
      exact ⟨e, by rw [memberName_of_memberEnd hl he]⟩
    by_cases hsource : r.lexicon.namespaces.Has r.source
    · rcases h with hsource' | ⟨howner, hdescriptor⟩ | ⟨⟨m, hm⟩, htarget⟩
      · exact absurd hsource hsource'
      · obtain ⟨e, he⟩ := Descriptor.exists_check_error_iff.mpr hdescriptor
        exact ⟨_, .refused (.malformed hsource howner he)⟩
      · obtain ⟨i, j, hdenotes⟩ := hl.result_findMember_iff_denotes.mp hm
        exact ⟨_, .foreignTarget hdenotes htarget⟩
    · exact ⟨_, .refused (.foreign hsource)⟩

/-- An error is that of the look-up or of the naming of the member, and nothing is recorded. -/
theorem memberName_eq_of_error (hl : r.lexicon.Valid) {e : Error}
    (h : (r.memberName kind sought).result = .error e) :
    (r.memberName kind sought).log = [] ∧
      ((r.lexicon.findMember kind sought r.source).result = .error e ∨
        ∃ m, (r.lexicon.findMember kind sought r.source).result = .ok (some m) ∧
          m.naming.get r.target = .error e) := by
  have hend := memberEnd_memberName hl kind sought
  generalize r.memberName kind sought = outcome at hend h
  cases hend with
  | refused hlookup =>
    obtain rfl := Except.error.inj h
    rw [hl.findMember_eq_iff.mpr hlookup]
    exact ⟨rfl, .inl rfl⟩
  | foreignTarget hdenotes htarget =>
    obtain rfl := Except.error.inj h
    exact ⟨rfl, .inr ⟨_, hl.result_findMember_iff_denotes.mpr ⟨_, _, hdenotes⟩,
      (hl.fits_of_denotes hdenotes).get_eq_error htarget⟩⟩
  | _ => cases h

/-- A member that is missing keeps its name, and so is recorded, behind its owner if that is
missing too. -/
theorem memberName_of_missing (hl : r.lexicon.Valid)
    (h : (r.lexicon.findMember kind sought r.source).result = .ok none) :
    r.memberName kind sought =
      ⟨.ok sought.name,
        (if r.lexicon.Unknown r.source sought.owner then [.ownerMissing kind sought r.source]
          else []) ++ [.memberMissing sought r.source]⟩ :=
  memberName_of_findMember (hl.findMember_of_result_none h)

/-- All records are of the finest level. -/
theorem level_of_mem_memberName_log (hl : r.lexicon.Valid) {x : Record}
    (h : x ∈ (r.memberName kind sought).log) : x.level = .trace := by
  have hend := memberEnd_memberName hl kind sought
  generalize r.memberName kind sought = outcome at hend h
  cases hend with
  | refused _ | foreignTarget _ _ | named _ _ => cases h
  | unnamed _ _ _ =>
    obtain rfl := List.mem_singleton.mp h
    rfl
  | missing hlookup =>
    rcases List.mem_append.mp h with hx | hx
    · cases hlookup with
      | unknownOwner _ _ =>
        obtain rfl := List.mem_singleton.mp hx
        rfl
      | unknownMember _ _ _ _ => cases hx
    · obtain rfl := List.mem_singleton.mp hx
      rfl

/-- **A member name is renamed, kept or refused, and each name that is kept is recorded.** The ends
are those of `MemberEnd`, exactly one for each reference. It is refused for a source that is not
there, for a known owner with a text that is no descriptor, and for a target that is not there when
the member is found; the error is then that of the look-up or of the naming, unchanged, and nothing
is recorded. A member that is found has its name in the target without any record. It keeps the name
that it was sought by if it has none there, and so does a member that is missing; of both there is
one record, behind that of the owner exactly if the owner is missing as well. -/
theorem memberName_renamed_kept_or_refused (hl : r.lexicon.Reachable) (kind : MemberKind)
    (sought : Reference) :
    (∀ outcome, r.memberName kind sought = outcome ↔ r.MemberEnd kind sought outcome) ∧
    ((∃ e, (r.memberName kind sought).result = .error e) ↔
      ¬ r.lexicon.namespaces.Has r.source ∨
      ¬ r.lexicon.Unknown r.source sought.owner ∧ ¬ IsDescriptor sought.descriptor ∨
      (∃ m, (r.lexicon.findMember kind sought r.source).result = .ok (some m)) ∧
        ¬ r.lexicon.namespaces.Has r.target) ∧
    (∀ e, (r.memberName kind sought).result = .error e →
      (r.memberName kind sought).log = [] ∧
        ((r.lexicon.findMember kind sought r.source).result = .error e ∨
          ∃ m, (r.lexicon.findMember kind sought r.source).result = .ok (some m) ∧
            m.naming.get r.target = .error e)) ∧
    (∀ m, (r.lexicon.findMember kind sought r.source).result = .ok (some m) →
      (∀ name, m.naming.name? r.target = some name →
        r.memberName kind sought = ⟨.ok name, []⟩) ∧
      (r.lexicon.namespaces.Has r.target → m.naming.name? r.target = none →
        r.memberName kind sought = ⟨.ok sought.name, [.nameMissing sought r.target]⟩)) ∧
    ((r.lexicon.findMember kind sought r.source).result = .ok none →
      r.memberName kind sought =
        ⟨.ok sought.name,
          (if r.lexicon.Unknown r.source sought.owner then [.ownerMissing kind sought r.source]
            else []) ++ [.memberMissing sought r.source]⟩) ∧
    ∀ x ∈ (r.memberName kind sought).log, x.level = .trace := by
  have hv := hl.valid
  refine ⟨fun _ => memberName_eq_iff hv, memberName_fails_iff hv,
    fun _ => memberName_eq_of_error hv, ?_, memberName_of_missing hv,
    fun _ => level_of_mem_memberName_log hv⟩
  intro m hm
  obtain ⟨i, j, hdenotes⟩ := hv.result_findMember_iff_denotes.mp hm
  exact ⟨fun name hname => memberName_of_memberEnd hv (.named hdenotes hname),
    fun htarget hname => memberName_of_memberEnd hv (.unnamed hdenotes htarget hname)⟩

/-- A class with a method that has a name in both namespaces and one that has none in the second. -/
def halfNamed : Lexicon :=
  .ofHistory ⟨["short", "long"], by decide, by decide, by decide⟩
    [.ofClass (.ofStrings ["A", "Main"]),
      .ofMember .method "A" (.ofStrings ["f", "run"]) "()V",
      .ofMember .method "A" (.ofStrings ["g", ""]) "(LA;)V"]

/-- One method has a name and the other keeps its own. A target that is not there is reported for a
method that is found; a field that is sought in no class keeps its name there, although what it is
sought with is no descriptor either. -/
theorem halfNamed_members :
    halfNamed.Reachable ∧
      (⟨halfNamed, .first, ⟨1⟩⟩ : Renaming).memberName .method ⟨"A", "f", "()V"⟩ =
        ⟨.ok "run", []⟩ ∧
      (⟨halfNamed, .first, ⟨1⟩⟩ : Renaming).memberName .method ⟨"A", "g", "(LA;)V"⟩ =
        ⟨.ok "g", [.nameMissing ⟨"A", "g", "(LA;)V"⟩ ⟨1⟩]⟩ ∧
      (∃ e, ((⟨halfNamed, .first, ⟨7⟩⟩ : Renaming).memberName .method ⟨"A", "f", "()V"⟩).result =
        .error e) ∧
      (⟨halfNamed, .first, ⟨7⟩⟩ : Renaming).memberName .field ⟨"Z", "q", "(("⟩ =
        ⟨.ok "q", [.ownerMissing .field ⟨"Z", "q", "(("⟩ .first,
          .memberMissing ⟨"Z", "q", "(("⟩ .first]⟩ := by
  have hl : halfNamed.Reachable := ⟨_, _, rfl⟩
  have hsecond : halfNamed.namespaces.Has ⟨1⟩ := by decide +kernel
  have heighth : ¬ halfNamed.namespaces.Has ⟨7⟩ := by decide +kernel
  have hf : (halfNamed.findMember .method ⟨"A", "f", "()V"⟩ .first).result =
      .ok (some ⟨"()V", .ofStrings ["f", "run"]⟩) := by decide +kernel
  have hg : (halfNamed.findMember .method ⟨"A", "g", "(LA;)V"⟩ .first).result =
      .ok (some ⟨"(LA;)V", .ofStrings ["g", ""]⟩) := by decide +kernel
  have hq : (halfNamed.findMember .field ⟨"Z", "q", "(("⟩ .first).result = .ok none := by
    decide +kernel
  have hunknown : halfNamed.Unknown .first "Z" := by decide +kernel
  obtain ⟨-, -, -, hfound, -⟩ := memberName_renamed_kept_or_refused
    (r := ⟨halfNamed, .first, ⟨1⟩⟩) hl .method ⟨"A", "f", "()V"⟩
  obtain ⟨-, -, -, hfound', -⟩ := memberName_renamed_kept_or_refused
    (r := ⟨halfNamed, .first, ⟨1⟩⟩) hl .method ⟨"A", "g", "(LA;)V"⟩
  obtain ⟨-, hfails, -⟩ := memberName_renamed_kept_or_refused
    (r := ⟨halfNamed, .first, ⟨7⟩⟩) hl .method ⟨"A", "f", "()V"⟩
  obtain ⟨-, -, -, -, hmissing, -⟩ := memberName_renamed_kept_or_refused
    (r := ⟨halfNamed, .first, ⟨7⟩⟩) hl .field ⟨"Z", "q", "(("⟩
  refine ⟨hl, (hfound _ hf).1 _ rfl, (hfound' _ hg).2 hsecond rfl,
    hfails.mpr (.inr (.inr ⟨⟨_, hf⟩, heighth⟩)), ?_⟩
  rw [if_pos hunknown] at hmissing
  exact hmissing hq

end Renaming

end SymbolLexicon
