/-
# SymbolLexicon.Proofs.Lexicon.Listing — a lexicon is the plain list of what was added to it.

Of a history only the ACCEPTED additions count. Their LISTING has one class for each accepted class,
in order, and gives to each class the members that were added under its name in the first namespace,
in order. It is computed from the additions alone and knows neither indices nor positions.

`Mirrors` says that a lexicon holds exactly the listing of some additions. One accepted addition
keeps it (`Mirrors.add`), and so does a whole history (`Mirrors.run`). Since an index answers what a
scan would, looking a class up in the lexicon is scanning the listing.
-/
import SymbolLexicon.Lexicon.Rename
import SymbolLexicon.Proofs.Lexicon.Representation

namespace SymbolLexicon

/-! ## Listings -/

/-- A class as a plain record of lists. -/
structure ListedClass where
  naming : Naming
  fields : List MemberEntry
  methods : List MemberEntry
deriving DecidableEq

/-- The class without its indices. -/
def ClassEntry.listed (c : ClassEntry) : ListedClass :=
  ⟨c.naming, c.fields.entries.toList, c.methods.entries.toList⟩

/-- The class that an addition adds. -/
def Addition.class? : Addition → Option Naming
  | .ofClass naming => some naming
  | .ofMember _ _ _ _ => none

/-- The member of the given kind that an addition adds to the class with the given naming. -/
def Addition.member? (kind : MemberKind) (host : Naming) : Addition → Option MemberEntry
  | .ofClass _ => none
  | .ofMember kind' owner naming descriptor =>
    if kind' = kind ∧ host.name? .first = some owner then some ⟨descriptor, naming⟩ else none

/-- What additions add, as a plain list of classes. -/
def listing (as : List Addition) : List ListedClass :=
  (as.filterMap Addition.class?).map fun naming =>
    ⟨naming, as.filterMap (Addition.member? .field naming),
      as.filterMap (Addition.member? .method naming)⟩

namespace ListedClass

/-- One more member at the end of the list of its kind. -/
def push (c : ListedClass) (m : MemberEntry) : MemberKind → ListedClass
  | .field => ⟨c.naming, c.fields ++ [m], c.methods⟩
  | .method => ⟨c.naming, c.fields, c.methods ++ [m]⟩

end ListedClass

/-- A member that is added to its class is listed at the end. -/
theorem ClassEntry.listed_withMembers {c : ClassEntry} {kind : MemberKind} {m : MemberEntry}
    {ms : Members} (h : (c.members kind).add m = .ok ms) :
    (c.withMembers kind ms).listed = c.listed.push m kind := by
  have hentries := Register.entries_of_add h
  cases kind with
  | field => simp [listed, withMembers, ListedClass.push, hentries, members]
  | method => simp [listed, withMembers, ListedClass.push, hentries, members]

/-- The listed classes are those that were added. -/
theorem map_naming_listing (as : List Addition) :
    (listing as).map ListedClass.naming = as.filterMap Addition.class? := by
  simp [listing, Function.comp_def]

/-- A class that no member was added to is listed without members. -/
theorem listing_append_class {as : List Addition} {naming : Naming}
    (h : ∀ kind, ∀ a ∈ as, a.member? kind naming = none) :
    listing (as ++ [.ofClass naming]) = listing as ++ [⟨naming, [], []⟩] := by
  have hnone : ∀ kind, as.filterMap (Addition.member? kind naming) = [] :=
    fun kind => List.filterMap_eq_nil_iff.mpr (h kind)
  simp [listing, Addition.class?, Addition.member?, hnone]

/-- A member is listed at the end of its kind in the class with the owner's name. -/
theorem listing_append_member (as : List Addition) (kind : MemberKind) (owner : Text)
    (naming : Naming) (descriptor : Text) :
    listing (as ++ [.ofMember kind owner naming descriptor]) =
      (listing as).map fun c =>
        if c.naming.name? .first = some owner then c.push ⟨descriptor, naming⟩ kind else c := by
  have hclasses : (as ++ [Addition.ofMember kind owner naming descriptor]).filterMap
      Addition.class? = as.filterMap Addition.class? := by
    simp [Addition.class?]
  rw [listing, listing, hclasses, List.map_map]
  apply List.map_congr_left
  intro host _
  by_cases hhost : host.name? .first = some owner
  · cases kind <;> simp [Addition.member?, ListedClass.push, hhost]
  · simp [Addition.member?, hhost]

namespace Lexicon

variable {l l' : Lexicon} {done : List Addition}

/-- The attempts that succeed, in order. -/
def accepted (l : Lexicon) : List Addition → List Addition
  | [] => []
  | a :: as =>
    match l.add a with
    | .ok l' => a :: accepted l' as
    | .error _ => accepted l as

/-! ## One accepted addition -/

/-- The lexicon holds exactly what the additions add, and each member among them has its owner
among them. -/
structure Mirrors (l : Lexicon) (done : List Addition) : Prop where
  classes : l.classes.entries.toList.map ClassEntry.listed = listing done
  owners : ∀ kind owner naming descriptor, .ofMember kind owner naming descriptor ∈ done →
    ∃ host ∈ done.filterMap Addition.class?, host.name? .first = some owner

theorem mirrors_empty (nss : Namespaces) : (empty nss).Mirrors [] where
  classes := rfl
  owners _ _ _ _ h := by cases h

theorem Mirrors.mem_class?_iff (h : l.Mirrors done) {host : Naming} :
    host ∈ done.filterMap Addition.class? ↔ ∃ c ∈ l.classes.entries, c.naming = host := by
  rw [← map_naming_listing, ← h.classes, List.map_map, List.mem_map]
  simp only [Array.mem_def]
  rfl

theorem Mirrors.addClass (hl : l.Valid) (h : l.Mirrors done) {naming : Naming}
    (hadd : l.addClass naming = .ok l') : l'.Mirrors (done ++ [.ofClass naming]) := by
  obtain ⟨-, classes, hclasses, rfl⟩ := addClass_eq_ok_iff.mp hadd
  have hfree := hl.indexed.exists_add_iff.mp ⟨classes, hclasses⟩
  -- the owner of an older member is there, and so it has another name than the new class
  have hnone : ∀ kind, ∀ a ∈ done, a.member? kind naming = none := by
    intro kind a ha
    cases a with
    | ofClass _ => rfl
    | ofMember kind' owner naming' descriptor =>
      obtain ⟨host, hhost, howner⟩ := h.owners kind' owner naming' descriptor ha
      obtain ⟨c, hc, rfl⟩ := h.mem_class?_iff.mp hhost
      have hne : naming.name? .first ≠ some owner := by
        intro hname
        exact hfree .first owner hname c hc howner
      simp [Addition.member?, hne]
  refine ⟨?_, ?_⟩
  · rw [listing_append_class hnone, ← h.classes, Register.entries_of_add hclasses,
      Array.toList_push, List.map_append]
    rfl
  · intro kind owner naming' descriptor hmem
    have hold : Addition.ofMember kind owner naming' descriptor ∈ done := by simpa using hmem
    obtain ⟨host, hhost, howner⟩ := h.owners kind owner naming' descriptor hold
    rw [List.filterMap_append]
    exact ⟨host, List.mem_append_left _ hhost, howner⟩

/-- Replacing a class by the same class with one more member changes the list of its kind only. -/
theorem Valid.listed_replace (hl : l.Valid) {owner : Text} {c : ClassEntry}
    (hfind : l.classes.find? .first owner = some c) {kind : MemberKind} {m : MemberEntry}
    {ms : Members} (hms : (c.members kind).add m = .ok ms) :
    (l.classes.replace .first owner (c.withMembers kind ms)).entries.toList.map ClassEntry.listed =
      (l.classes.entries.toList.map ClassEntry.listed).map fun c =>
        if c.naming.name? .first = some owner then c.push m kind else c := by
  obtain ⟨hc, hkey⟩ := hl.indexed.find?_eq_some_iff.mp hfind
  rw [hl.indexed.entries_replace, Array.toList_map, List.map_map, List.map_map]
  apply List.map_congr_left
  intro c' hc'
  by_cases hkey' : Keyed.key? c' .first = some owner
  · -- only the owner has the owner's name
    obtain rfl : c' = c := hl.indexed.eq_of_key? (Array.mem_def.mpr hc') hc hkey' hkey
    have hname : c'.listed.naming.name? .first = some owner := hkey'
    simp only [Function.comp_apply, hkey', hname, if_true, ClassEntry.listed_withMembers hms]
  · have hname : c'.listed.naming.name? .first ≠ some owner := hkey'
    simp only [Function.comp_apply, hkey', hname, if_false]

theorem Mirrors.addMember (hl : l.Valid) (h : l.Mirrors done) {kind : MemberKind} {owner : Text}
    {naming : Naming} {descriptor : Text}
    (hadd : l.addMember kind owner naming descriptor = .ok l') :
    l'.Mirrors (done ++ [.ofMember kind owner naming descriptor]) := by
  obtain ⟨-, -, c, ms, hfind, hms, rfl⟩ := addMember_eq_ok_iff.mp hadd
  obtain ⟨hc, howner⟩ := hl.indexed.find?_eq_some_iff.mp hfind
  refine ⟨?_, ?_⟩
  · rw [listing_append_member, ← h.classes]
    exact hl.listed_replace hfind hms
  · intro kind' owner' naming' descriptor' hmem
    rw [List.filterMap_append]
    rcases List.mem_append.mp hmem with hmem | hmem
    · obtain ⟨host, hhost, howner'⟩ := h.owners kind' owner' naming' descriptor' hmem
      exact ⟨host, List.mem_append_left _ hhost, howner'⟩
    · cases List.mem_singleton.mp hmem
      exact ⟨c.naming, List.mem_append_left _ (h.mem_class?_iff.mpr ⟨c, hc, rfl⟩), howner⟩

theorem Mirrors.add (hl : l.Valid) (h : l.Mirrors done) {a : Addition} (hadd : l.add a = .ok l') :
    l'.Mirrors (done ++ [a]) := by
  cases a with
  | ofClass naming => exact h.addClass hl hadd
  | ofMember kind owner naming descriptor => exact h.addMember hl hadd

/-! ## Whole histories -/

/-- After more attempts, the lexicon holds what the accepted ones among them add as well. -/
theorem Mirrors.run (hl : l.Valid) (h : l.Mirrors done) (as : List Addition) :
    (as.foldl attempt l).Mirrors (done ++ l.accepted as) := by
  induction as generalizing l done with
  | nil => simpa [accepted] using h
  | cons a as ih =>
    cases hadd : l.add a with
    | ok l' =>
      have hrest := ih (hl.add hadd) (h.add hl hadd)
      simpa [accepted, attempt, hadd] using hrest
    | error e =>
      have hrest := ih hl h
      simpa [accepted, attempt, hadd] using hrest

theorem mirrors_ofHistory (nss : Namespaces) (as : List Addition) :
    (ofHistory nss as).Mirrors ((empty nss).accepted as) :=
  (mirrors_empty nss).run (valid_empty nss) as

/-- **A lexicon is the plain list of what its history added.** Its classes are those of the accepted
additions, in order, each with the members that accepted additions gave to its name in the first
namespace, in order. Looking a class up by a name in a namespace is scanning that list, in which no
two classes have a name in common. -/
theorem ofHistory_refines_listing (nss : Namespaces) (as : List Addition) :
    let plain := listing ((empty nss).accepted as)
    (ofHistory nss as).classes.entries.toList.map ClassEntry.listed = plain ∧
    (∀ ns name, nss.Has ns →
      ((ofHistory nss as).findClass name ns).map (Option.map ClassEntry.listed) =
        .ok (plain.find? fun c => c.naming.name? ns = some name)) ∧
    ∀ (i j : Nat) (c c' : ListedClass) ns name, plain[i]? = some c → plain[j]? = some c' →
      c.naming.name? ns = some name → c'.naming.name? ns = some name → i = j := by
  have hl : (ofHistory nss as).Valid := Reachable.valid ⟨nss, as, rfl⟩
  have hplain := (mirrors_ofHistory nss as).classes
  refine ⟨hplain, ?_, ?_⟩
  · intro ns name hns
    have hhas : (ofHistory nss as).namespaces.Has ns := by
      rwa [namespaces_ofHistory]
    rw [← hplain, List.find?_map, findClass_eq_ok hhas, hl.indexed.find?_eq_scan]
    rfl
  · intro i j c c' ns name hi hj hname hname'
    rw [← hplain] at hi hj
    obtain ⟨e, he, rfl⟩ : ∃ e, (ofHistory nss as).classes.entries[i]? = some e ∧ e.listed = c := by
      simpa using hi
    obtain ⟨e', he', rfl⟩ :
        ∃ e, (ofHistory nss as).classes.entries[j]? = some e ∧ e.listed = c' := by
      simpa using hj
    exact hl.indexed.position_unique he he' hname hname'

/-- Four of the eight attempts were accepted, and the class that is called `Main` in the second
namespace has the two fields that were added to it. -/
theorem contested_refines_listing :
    sourceTarget.Has ⟨1⟩ ∧
      ((ofHistory sourceTarget contested).findClass "Main" ⟨1⟩).map
          (Option.map ClassEntry.listed) =
        .ok (some ⟨.ofStrings ["A", "Main"],
          [⟨"I", .ofStrings ["x", "m"]⟩, ⟨"J", .ofStrings ["y", "m"]⟩], []⟩) := by
  have hsecond : sourceTarget.Has ⟨1⟩ := by decide
  obtain ⟨-, hfind, -⟩ := ofHistory_refines_listing sourceTarget contested
  exact ⟨hsecond, (hfind ⟨1⟩ "Main" hsecond).trans rfl⟩

end Lexicon

end SymbolLexicon
