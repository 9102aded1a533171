/-
# SymbolLexicon.Proofs.Lexicon.Representation — entries and indices after any history.

A lexicon keeps a list of classes with an index and, in each class, a list of members with an index
for either kind. Look-ups trust the indices and never scan. `ofHistory_representation` says what
they may trust, after any list of attempts, refused ones among them: every naming fits the
namespaces, every descriptor is one of its kind, no two entries share a key, and an index files a
key at a position exactly if the entry at that position has the key. A session of additions in
place, write by write, leaves the same lexicon.
-/
import SymbolLexicon.Proofs.Lexicon.InPlace
import SymbolLexicon.Proofs.Lexicon.Invariant

namespace SymbolLexicon

/-! ## Keys and positions -/

/-- A naming that fits has names only in namespaces that there are. -/
theorem Naming.Fits.has {n : Naming} {nss : Namespaces} (h : n.Fits nss) {ns : Namespace}
    {name : Text} (hname : n.name? ns = some name) : nss.Has ns := by
  obtain ⟨hlt, -⟩ := List.getElem?_eq_some_iff.mp (Slots.name?_eq_some_iff.mp hname)
  rw [h.1] at hlt
  exact hlt

/-- A member is filed by each of its names with the stored descriptor, and by nothing else. -/
theorem ClassEntry.Valid.position?_eq_some_iff {c : ClassEntry} {nss : Namespaces}
    (hc : c.Valid nss) {kind : MemberKind} {ns : Namespace} {sig : Signature} {i : Nat} :
    (c.members kind).position? ns sig = some i ↔
      ∃ m, (c.members kind).entries[i]? = some m ∧ m.naming.name? ns = some sig.name ∧
        m.descriptor = sig.descriptor := by
  rw [hc.indexed kind ns sig i]
  simp only [MemberEntry.key?_eq_some_iff]

/-! ## Whole histories -/

namespace Lexicon

/-- **After any history the indices mirror the entries.** Classes and members have one slot for each
namespace, a name in the first and no empty name; descriptors are well-formed and of the kind they
are stored under; names identify classes, and names with stored descriptors identify members of one
class and kind; and a key is filed at a position exactly if the entry there has it, so that no
position is missing, stale or out of bounds. All this holds as well where the additions are carried
out in place, for no refusal comes after a write. -/
theorem ofHistory_representation (nss : Namespaces) (as : List Addition) :
    let classes := (ofHistory nss as).classes
    ((empty nss).session as).2 = ofHistory nss as ∧
    (∀ c ∈ classes.entries, c.naming.Fits nss ∧ some [] ∉ c.naming.slots) ∧
    (∀ (i j : Nat) (c c' : ClassEntry) ns name,
      classes.entries[i]? = some c → classes.entries[j]? = some c' →
        c.naming.name? ns = some name → c'.naming.name? ns = some name → i = j) ∧
    (∀ ns name i, classes.position? ns name = some i ↔
      ∃ c, classes.entries[i]? = some c ∧ c.naming.name? ns = some name) ∧
    (∀ ns name i, classes.position? ns name = some i → nss.Has ns ∧ i < classes.size) ∧
    ∀ c ∈ classes.entries, ∀ kind,
      let members := c.members kind
      (∀ m ∈ members.entries, m.naming.Fits nss ∧ some [] ∉ m.naming.slots ∧
        ∃ d : Descriptor, d.WellFormed ∧ d.text = m.descriptor ∧ d.kind = kind) ∧
      (∀ (i j : Nat) (m m' : MemberEntry) ns name,
        members.entries[i]? = some m → members.entries[j]? = some m' →
          m.naming.name? ns = some name → m'.naming.name? ns = some name →
            m.descriptor = m'.descriptor → i = j) ∧
      (∀ ns sig i, members.position? ns sig = some i ↔
        ∃ m, members.entries[i]? = some m ∧ m.naming.name? ns = some sig.name ∧
          m.descriptor = sig.descriptor) ∧
      ∀ ns sig i, members.position? ns sig = some i → nss.Has ns ∧ i < members.size := by
  have hl : (ofHistory nss as).Valid := Reachable.valid ⟨nss, as, rfl⟩
  have hclasses := hl.classes
  rw [namespaces_ofHistory] at hclasses
  refine ⟨session_snd (empty nss) as, ?_, ?_, hl.indexed, ?_, ?_⟩
  · intro c hc
    exact ⟨(hclasses c hc).fits, c.naming.forall_ne_empty⟩
  · intro i j c c' ns name hi hj hname hname'
    exact hl.indexed.position_unique hi hj hname hname'
  · intro ns name i hi
    obtain ⟨c, hc, hname⟩ := (hl.indexed ns name i).mp hi
    exact ⟨(hclasses c (Array.mem_of_getElem? hc)).fits.has hname, hl.indexed.lt_size hi⟩
  intro c hc kind
  have hcv := hclasses c hc
  refine ⟨?_, ?_, fun _ _ _ => hcv.position?_eq_some_iff, ?_⟩
  · intro m hm
    have hmv := hcv.members kind m hm
    exact ⟨hmv.fits, m.naming.forall_ne_empty, hmv.descriptor⟩
  · intro i j m m' ns name hi hj hname hname' hdescriptor
    exact hcv.position_unique hi hj hname hname' hdescriptor
  · intro ns sig i hi
    obtain ⟨m, hm, hname, -⟩ := hcv.position?_eq_some_iff.mp hi
    have hmv := hcv.members kind m (Array.mem_of_getElem? hm)
    exact ⟨hmv.fits.has hname, (hcv.indexed kind).lt_size hi⟩

/-- Two namespaces for the samples. -/
def sourceTarget : Namespaces := ⟨["source", "target"], by decide, by decide, by decide⟩

/-- A history in which the second, third, fourth and sixth attempt are refused: the owner is not
there yet, a class name is taken in the second namespace, the descriptor is malformed, and a member
name is taken there with the same descriptor. -/
def contested : List Addition :=
  [.ofClass (.ofStrings ["A", "Main"]),
    .ofMember .field "B" (.ofStrings ["x", "m"]) "I",
    .ofClass (.ofStrings ["B", "Main"]),
    .ofMember .field "A" (.ofStrings ["x", "m"]) "V",
    .ofMember .field "A" (.ofStrings ["x", "m"]) "I",
    .ofMember .field "A" (.ofStrings ["y", "m"]) "I",
    .ofClass (.ofStrings ["B", ""]),
    .ofMember .field "A" (.ofStrings ["y", "m"]) "J"]

/-- Of the three fields that were to be called `m` in the second namespace, two are filed there,
each at its own position, and the classes stand at the positions of their names. -/
theorem contested_representation :
    ∃ c, (ofHistory sourceTarget contested).classes.entries[0]? = some c ∧
      (ofHistory sourceTarget contested).classes.position? ⟨1⟩ "Main" = some 0 ∧
      (ofHistory sourceTarget contested).classes.position? .first "B" = some 1 ∧
      (c.members .field).position? ⟨1⟩ ⟨"m", "I"⟩ = some 0 ∧
      (c.members .field).position? ⟨1⟩ ⟨"m", "J"⟩ = some 1 := by
  obtain ⟨-, -, -, hindex, -, hmembers⟩ := ofHistory_representation sourceTarget contested
  obtain ⟨c, hc⟩ : ∃ c, (ofHistory sourceTarget contested).classes.entries[0]? = some c :=
    ⟨_, rfl⟩
  obtain ⟨-, -, hfields, -⟩ := hmembers c (Array.mem_of_getElem? hc) .field
  refine ⟨c, hc, (hindex ⟨1⟩ "Main" 0).mpr ⟨c, hc, ?_⟩, (hindex .first "B" 1).mpr ⟨_, rfl, rfl⟩,
    (hfields ⟨1⟩ ⟨"m", "I"⟩ 0).mpr ?_, (hfields ⟨1⟩ ⟨"m", "J"⟩ 1).mpr ?_⟩
  all_goals cases hc
  · rfl
  · exact ⟨_, rfl, rfl, rfl⟩
  · exact ⟨_, rfl, rfl, rfl⟩

end Lexicon

end SymbolLexicon
