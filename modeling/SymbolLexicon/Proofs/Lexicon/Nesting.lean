/-
# SymbolLexicon.Proofs.Lexicon.Nesting — class names and descriptors that call for each other.

An array class name is renamed as a descriptor, and a descriptor by renaming its class names. As it
stands that is a circle, which `renameClass` and `renameDescriptor` avoid by way of `renameElement`.
Here it is gone round in full. Renaming a descriptor calls for class names while it reads, renaming
a class name calls for a descriptor if there is a `[` at its start, and each call looks at both
namespaces again and goes to the position that the index files for a name. Such a request may get
STUCK: it may nest deeper than a limit allows, or find no class where one is filed.

`Valid.descriptorWithin_ends` and `Valid.classNameWithin_ends` say that neither happens in a valid
lexicon, that the outcome is the one of `renameDescriptor` and `renameClass`, and which calls are
made: the class names of a descriptor never start with `[`, so they call for nothing more.
-/
import SymbolLexicon.Proofs.Descriptor.Consultation
import SymbolLexicon.Proofs.Descriptor.Language
import SymbolLexicon.Proofs.Lexicon.ClassNames

namespace SymbolLexicon

/-! ## Requests that call for others -/

/-- A request that is called for. -/
inductive Call where
  | className (name : Text)
  | descriptor (text : Text)
deriving DecidableEq

/-- Why a request ends with neither an answer nor an error. -/
inductive Stuck where
  /-- It nests deeper than it may. -/
  | tooDeep
  /-- No class is where one is filed. -/
  | noClassAt (position : Nat)
deriving DecidableEq

/-- A request that writes down the calls it makes, and that may get stuck. -/
abbrev Nesting (α : Type) := ExceptT Error (InPlace (List Call) Stuck) α

namespace Nesting

variable {α β γ : Type}

/-- Write a call down. -/
def enter (call : Call) : Nesting Unit := ExceptT.lift (modify fun calls => calls ++ [call])

/-- Get stuck. -/
def stop (reason : Stuck) : Nesting α := ExceptT.lift (throw reason)

/-- An outcome that is reached without a call. -/
def of (outcome : Except Error α) : Nesting α := ExceptT.mk (pure outcome)

/-- The request does not get stuck: it ends with the outcome, after exactly these calls, whatever
was called before. -/
def Ends (x : Nesting α) (outcome : Except Error α) (calls : List Call) : Prop :=
  ∀ before, InPlace.on x.run before = (.ok outcome, before ++ calls)

theorem ends_enter (call : Call) : Ends (enter call) (.ok ()) [call] := fun _ => rfl

theorem ends_of (outcome : Except Error α) : Ends (of outcome) outcome [] := by
  intro before
  rw [List.append_nil]
  rfl

theorem ends_pure (a : α) : Ends (pure a) (.ok a) [] := ends_of (.ok a)

/-- Behind an answer a request goes on with what comes next. -/
theorem Ends.bind {x : Nesting α} {f : α → Nesting β} {a : α} {outcome : Except Error β}
    {calls later : List Call} (hx : Ends x (.ok a) calls) (hf : Ends (f a) outcome later) :
    Ends (x >>= f) outcome (calls ++ later) := by
  intro before
  have hfirst : InPlace.on (x >>= f).run before = InPlace.on (f a).run (before ++ calls) :=
    InPlace.on_bind_of_ok (hx before) (ExceptT.bindCont f)
  rw [hfirst, hf, List.append_assoc]

/-- Behind an error nothing comes. -/
theorem Ends.bind_error {x : Nesting α} {e : Error} {calls : List Call}
    (hx : Ends x (.error e) calls) (f : α → Nesting β) : Ends (x >>= f) (.error e) calls := by
  intro before
  show InPlace.on (x.run >>= ExceptT.bindCont f) before = _
  rw [InPlace.on_bind_of_ok (hx before)]
  rfl

/-- A context around the errors makes no call. -/
theorem Ends.adapt {x : Nesting α} {outcome : Except Error α} {calls : List Call}
    (hx : Ends x outcome calls) (g : Error → Error) :
    Ends (ExceptT.adapt g x) (outcome.mapError g) calls := by
  intro before
  show InPlace.on (x.run >>= fun o => pure (o.mapError g)) before = _
  rw [InPlace.on_bind_of_ok (hx before)]
  rfl

/-- Requests that are answered one by one, with one call each, are answered in a row. -/
theorem ends_mapM {f : γ → Nesting α} {g : γ → α} {call : γ → Call} {xs : List γ}
    (h : ∀ x ∈ xs, Ends (f x) (.ok (g x)) [call x]) :
    Ends (xs.mapM f) (.ok (xs.map g)) (xs.map call) := by
  induction xs with
  | nil => exact ends_pure []
  | cons x xs ih =>
    have hrest := ih fun y hy => h y (List.mem_cons_of_mem _ hy)
    have hcons := hrest.bind (f := fun ys => pure (g x :: ys)) (ends_pure _)
    rw [List.append_nil] at hcons
    rw [List.mapM_cons]
    exact (h x List.mem_cons_self).bind hcons

end Nesting

/-! ## Going round in full -/

namespace Lexicon

variable {l : Lexicon} {a b : Namespace}

/-- The class at the position that is filed for a name. -/
def classAt (l : Lexicon) (name : Text) (ns : Namespace) : Nesting (Option ClassEntry) := do
  Nesting.of (l.namespaces.check ns)
  match l.classes.position? ns name with
  | none => return none
  | some i =>
    match l.classes.entries[i]? with
    | none => Nesting.stop (.noClassAt i)
    | some entry => return some entry

/-- Rename a class that is no array, by way of its position. -/
def elementAt (l : Lexicon) (name : Text) (source target : Namespace) : Nesting Text := do
  if source = target then
    return name
  match ← l.classAt name source with
  | none => return name
  | some entry => return (← Nesting.of (entry.naming.get target)).getD name

/-- Rename a descriptor, and call for its class names as they are read. -/
def descriptorBy (l : Lexicon) (source target : Namespace) (rename : Text → Nesting Text)
    (s : Text) : Nesting Text := do
  Nesting.enter (.descriptor s)
  Nesting.of (l.namespaces.check source)
  Nesting.of (l.namespaces.check target)
  ExceptT.adapt (Error.within (.renamingClasses s source target)) (Descriptor.renamePass rename s)

/-- Rename a class, where renamings of classes nest at most as deep as the limit. -/
def classNameWithin (l : Lexicon) (source target : Namespace) : Nat → Text → Nesting Text
  | 0, _ => Nesting.stop .tooDeep
  | limit + 1, name => do
    Nesting.enter (.className name)
    Nesting.of (l.namespaces.check source)
    Nesting.of (l.namespaces.check target)
    if isArrayName name then
      l.descriptorBy source target (l.classNameWithin source target limit) name
    else
      l.elementAt name source target

/-- Rename a descriptor, where renamings of classes nest at most as deep as the limit. -/
def descriptorWithin (l : Lexicon) (source target : Namespace) (limit : Nat) (s : Text) :
    Nesting Text :=
  l.descriptorBy source target (l.classNameWithin source target limit) s

/-! ## What is called for -/

/-- The class names that a text is asked for. -/
def nameCalls (s : Text) : List Call := (Descriptor.asked s).map fun q => .className q.2

/-- No class name that a text is asked for is an array, whether or not the text is a descriptor. -/
theorem isArrayName_of_asked {s : Text} {q : Place × Text} (hq : q ∈ Descriptor.asked s) :
    isArrayName q.2 = false :=
  isArrayName_eq_false (Descriptor.isClassName_of_asked (List.mem_map_of_mem hq))

/-- In a valid lexicon there is a class wherever one is filed. -/
theorem Valid.classAt_ends (hl : l.Valid) (ha : l.namespaces.Has a) (name : Text) :
    Nesting.Ends (l.classAt name a) (.ok (l.classes.find? a name)) [] := by
  unfold classAt Register.find?
  rw [Namespaces.check_eq_ok ha]
  apply (Nesting.ends_of (.ok ())).bind
  cases hpos : l.classes.position? a name with
  | none => exact Nesting.ends_pure none
  | some i =>
    obtain ⟨entry, hentry, -⟩ := (hl.indexed a name i).mp hpos
    simp only [Option.bind_some, hentry]
    exact Nesting.ends_pure (some entry)

/-- A class that is no array is renamed without another call. -/
theorem Valid.elementAt_ends (hl : l.Valid) (ha : l.namespaces.Has a) (hb : l.namespaces.Has b)
    (name : Text) :
    Nesting.Ends (l.elementAt name a b) (.ok (l.renamed a b name)) [] := by
  unfold elementAt renamed
  by_cases hab : a = b
  · simp only [hab, if_true]
    exact Nesting.ends_pure name
  · simp only [hab, if_false]
    apply (hl.classAt_ends ha name).bind
    cases hfind : l.classes.find? a name with
    | none => exact Nesting.ends_pure name
    | some entry =>
      -- a class of a valid lexicon has a slot for each of its namespaces
      obtain ⟨hentry, -⟩ := hl.indexed.find?_eq_some_iff.mp hfind
      simp only [(hl.classes entry hentry).fits.get_eq_ok hb]
      exact (Nesting.ends_of (.ok _)).bind (Nesting.ends_pure _)

/-- Both namespaces are looked at before anything else is done. -/
theorem ends_check_bind {α : Type} {x : Nesting α} {y : Except Error α} {calls : List Call}
    (h : l.namespaces.Has a → l.namespaces.Has b → Nesting.Ends x y calls) :
    Nesting.Ends
      (do
        Nesting.of (l.namespaces.check a)
        Nesting.of (l.namespaces.check b)
        x)
      (do
        l.namespaces.check a
        l.namespaces.check b
        y)
      (if l.namespaces.Has a ∧ l.namespaces.Has b then calls else []) := by
  by_cases ha : l.namespaces.Has a
  · by_cases hb : l.namespaces.Has b
    · simp only [Namespaces.check_eq_ok ha, Namespaces.check_eq_ok hb, ha, hb, and_self, if_true]
      exact (Nesting.ends_of (.ok ())).bind ((Nesting.ends_of (.ok ())).bind (h ha hb))
    · simp only [Namespaces.check_eq_ok ha, Namespaces.check_eq_error hb, hb, and_false, if_false]
      exact (Nesting.ends_of (.ok ())).bind ((Nesting.ends_of (.error _)).bind_error _)
  · simp only [Namespaces.check_eq_error ha, ha, false_and, if_false]
    exact (Nesting.ends_of (.error _)).bind_error _

/-- Where every class name that is called for is answered, so is the descriptor, or it is refused
for what is wrong with it. -/
theorem ends_renamePass {f : Text → Nesting Text} {g : Text → Text} {s : Text}
    (h : ∀ q ∈ Descriptor.asked s, Nesting.Ends (f q.2) (.ok (g q.2)) [.className q.2]) :
    Nesting.Ends (Descriptor.renamePass f s) (Descriptor.rename (fun x => .ok (g x)) s)
      (nameCalls s) := by
  have hrename : Descriptor.rename (fun x => .ok (g x)) s =
      Descriptor.written s ((Descriptor.asked s).map fun q => g q.2) := by
    have hask : (fun q : Place × Text => Descriptor.ask (m := Id)
        (fun x => ExceptT.mk (.ok (g x))) s q.1 q.2) = fun q => pure (g q.2) := rfl
    rw [Descriptor.rename, Descriptor.renameM_eq, hask, List.mapM_pure, pure_bind]
    rfl
  have hanswers : Nesting.Ends
      ((Descriptor.asked s).mapM fun q => Descriptor.ask f s q.1 q.2)
      (.ok ((Descriptor.asked s).map fun q => g q.2)) (nameCalls s) :=
    Nesting.ends_mapM fun q hq => (h q hq).adapt (Error.within (.reading q.1 s))
  have hwritten := hanswers.bind (f := fun answers => Nesting.of (Descriptor.written s answers))
    (Nesting.ends_of _)
  rw [List.append_nil] at hwritten
  rw [Descriptor.renamePass_eq, Descriptor.renameM_eq, hrename]
  exact hwritten

/-- A descriptor calls for its class names, once both namespaces are there. -/
theorem Valid.descriptorBy_ends (hl : l.Valid) {f : Text → Nesting Text} {s : Text}
    (hf : l.namespaces.Has a → l.namespaces.Has b → ∀ q ∈ Descriptor.asked s,
      Nesting.Ends (f q.2) (.ok (l.renamed a b q.2)) [.className q.2]) :
    Nesting.Ends (l.descriptorBy a b f s) (l.renameDescriptor s a b)
      (.descriptor s :: if l.namespaces.Has a ∧ l.namespaces.Has b then nameCalls s else []) := by
  apply (Nesting.ends_enter (.descriptor s)).bind
  apply ends_check_bind
  intro ha hb
  have helement : (fun name => l.renameElement name a b) = fun name => .ok (l.renamed a b name) :=
    funext (hl.renameElement_eq ha hb)
  rw [helement]
  exact (ends_renamePass (hf ha hb)).adapt _

/-- A class that is no array calls for nothing, and so need not nest. -/
theorem Valid.classNameWithin_ends_of_element (hl : l.Valid) (a b : Namespace) (limit : Nat)
    {name : Text} (hname : isArrayName name = false) :
    Nesting.Ends (l.classNameWithin a b (limit + 1) name) (l.renameClass name a b)
      [.className name] := by
  have helement : l.namespaces.Has a → l.namespaces.Has b →
      Nesting.Ends (l.elementAt name a b) (l.renameElement name a b) [] := by
    intro ha hb
    rw [hl.renameElement_eq ha hb]
    exact hl.elementAt_ends ha hb name
  have hrest := ends_check_bind helement
  rw [ite_self] at hrest
  unfold classNameWithin renameClass
  simp only [hname]
  exact (Nesting.ends_enter (.className name)).bind hrest

/-- **Renaming a descriptor calls for its class names, and they for nothing.** One level of
renamings of classes is deep enough for every text. -/
theorem Valid.descriptorWithin_ends (hl : l.Valid) (a b : Namespace) (limit : Nat) (s : Text) :
    Nesting.Ends (l.descriptorWithin a b (limit + 1) s) (l.renameDescriptor s a b)
      (.descriptor s :: if l.namespaces.Has a ∧ l.namespaces.Has b then nameCalls s else []) := by
  apply hl.descriptorBy_ends
  intro ha hb q hq
  have hname := isArrayName_of_asked hq
  rw [← hl.renameClass_eq ha hb hname]
  exact hl.classNameWithin_ends_of_element a b limit hname

/-- **Renaming a class calls for a descriptor if it is an array**, and then for the class names of
that. Two levels of renamings of classes are deep enough for every text. -/
theorem Valid.classNameWithin_ends (hl : l.Valid) (a b : Namespace) (limit : Nat) (name : Text) :
    Nesting.Ends (l.classNameWithin a b (limit + 2) name) (l.renameClass name a b)
      (.className name :: if l.namespaces.Has a ∧ l.namespaces.Has b then
        if isArrayName name then .descriptor name :: nameCalls name else [] else []) := by
  cases hname : isArrayName name with
  | false =>
    have hends := hl.classNameWithin_ends_of_element a b (limit + 1) hname
    simpa using hends
  | true =>
    unfold classNameWithin renameClass
    simp only [hname, if_true]
    apply (Nesting.ends_enter (.className name)).bind
    apply ends_check_bind
    intro ha hb
    have hends := hl.descriptorWithin_ends a b limit name
    rwa [if_pos ⟨ha, hb⟩] at hends

/-! ## Arrays -/

/-- **An array is renamed by renaming what it holds in the end.** -/
theorem Valid.renameClass_array (hl : l.Valid) (ha : l.namespaces.Has a) (hb : l.namespaces.Has b)
    {t : FieldType} (ht : t.WellFormed) (hdimensions : 1 ≤ t.dimensions) :
    l.renameClass t.text a b = .ok (t.mapName (l.renamed a b)).text := by
  have harray : isArrayName t.text = true := by
    obtain ⟨n, e⟩ := t
    cases n with
    | zero => exact absurd hdimensions (Nat.not_succ_le_zero 0)
    | succ n => rfl
  have hdescriptor : l.renameDescriptor t.text a b = .ok (t.mapName (l.renamed a b)).text :=
    hl.renameDescriptor_text ha hb (d := .field t) ht
  simp [renameClass, Namespaces.check_eq_ok ha, Namespaces.check_eq_ok hb, harray, hdescriptor]

/-- **Arrays are renamed by their elements, and the two renamings never go round in a circle.** An
array of up to 255 dimensions is renamed to the array, of as many dimensions, of what its element is
renamed to; one of a base type stays. The class names that any text calls for, be it a descriptor or
not, are no arrays and call for nothing. So renaming a descriptor calls for its class names and for
no more, renaming a class calls for a descriptor if it is an array, and this is all, however deep
they may nest; and the outcome is that of the renamings that do not call for each other. -/
theorem Reachable.nesting_bounded (hl : l.Reachable) (ha : l.namespaces.Has a)
    (hb : l.namespaces.Has b) :
    (∀ k, 1 ≤ k → k ≤ 255 →
      (∀ c, IsClassName c → ∃ c', l.renameClass c a b = .ok c' ∧
        l.renameClass (List.replicate k (CodePoint.ofChar '[') ++
            (CodePoint.ofChar 'L' :: c ++ [CodePoint.ofChar ';'])) a b =
          .ok (List.replicate k (CodePoint.ofChar '[') ++
            (CodePoint.ofChar 'L' :: c' ++ [CodePoint.ofChar ';']))) ∧
      ∀ letter ∈ Grammar.letters,
        l.renameClass (List.replicate k (CodePoint.ofChar '[') ++ [CodePoint.ofChar letter]) a b =
          .ok (List.replicate k (CodePoint.ofChar '[') ++ [CodePoint.ofChar letter])) ∧
    (∀ s, ∀ q ∈ Descriptor.asked s, isArrayName q.2 = false ∧
      Nesting.Ends (l.classNameWithin a b 1 q.2) (l.renameClass q.2 a b) [.className q.2]) ∧
    (∀ s limit, 1 ≤ limit →
      Nesting.Ends (l.descriptorWithin a b limit s) (l.renameDescriptor s a b)
        (.descriptor s :: nameCalls s)) ∧
    ∀ name limit, 2 ≤ limit →
      Nesting.Ends (l.classNameWithin a b limit name) (l.renameClass name a b)
        (.className name ::
          if isArrayName name then .descriptor name :: nameCalls name else []) := by
  have hv := hl.valid
  refine ⟨?_, ?_, ?_, ?_⟩
  · intro k hk hmax
    refine ⟨?_, ?_⟩
    · intro c hc
      refine ⟨l.renamed a b c, hv.renameClass_eq ha hb (isArrayName_eq_false hc), ?_⟩
      exact hv.renameClass_array ha hb (t := ⟨k, .object c⟩) ⟨hmax, hc⟩ hk
    · intro letter hletter
      obtain ⟨base, rfl⟩ := Grammar.mem_letters_iff.mp hletter
      exact hv.renameClass_array ha hb (t := ⟨k, .base base⟩) ⟨hmax, trivial⟩ hk
  · intro s q hq
    have hname := isArrayName_of_asked hq
    exact ⟨hname, hv.classNameWithin_ends_of_element a b 0 hname⟩
  · intro s limit hlimit
    obtain ⟨n, rfl⟩ := Nat.exists_eq_add_of_le' hlimit
    have hends := hv.descriptorWithin_ends a b n s
    rwa [if_pos ⟨ha, hb⟩] at hends
  · intro name limit hlimit
    obtain ⟨n, rfl⟩ := Nat.exists_eq_add_of_le' hlimit
    have hends := hv.classNameWithin_ends a b n name
    rwa [if_pos ⟨ha, hb⟩] at hends

/-- A lexicon whose second namespace has class names with delimiters in them. -/
def delimited : Lexicon :=
  ofHistory ⟨["plain", "marked"], by decide, by decide, by decide⟩
    [.ofClass (.ofStrings ["A", "[I"]), .ofClass (.ofStrings ["B", "p;q.r"])]

/-- The array of `A` becomes an array of `[I`, which is the text of no descriptor; and a text that
goes on behind its class names calls for no more than these. -/
theorem delimited_nesting :
    delimited.Reachable ∧ delimited.namespaces.Has .first ∧ delimited.namespaces.Has ⟨1⟩ ∧
      IsClassName "A" ∧ delimited.renameClass "[[LA;" .first ⟨1⟩ = .ok "[[L[I;" ∧
      'J' ∈ Grammar.letters ∧ delimited.renameClass "[J" ⟨1⟩ .first = .ok "[J" ∧
      ((.parameter, "B") : Place × Text) ∈ Descriptor.asked "(LB;LA;" ∧ isArrayName "B" = false ∧
      Nesting.Ends (delimited.descriptorWithin .first ⟨1⟩ 1 "(LB;LA;")
        (delimited.renameDescriptor "(LB;LA;" .first ⟨1⟩)
        [.descriptor "(LB;LA;", .className "B", .className "A"] ∧
      Nesting.Ends (delimited.classNameWithin .first ⟨1⟩ 2 "[LA;") (.ok "[L[I;")
        [.className "[LA;", .descriptor "[LA;", .className "A"] := by
  have hl : delimited.Reachable := ⟨_, _, rfl⟩
  have hfirst : delimited.namespaces.Has .first := Namespaces.has_first _
  have hsecond : delimited.namespaces.Has ⟨1⟩ := by decide +kernel
  have hA : IsClassName "A" := by decide
  have hasked : Descriptor.asked "(LB;LA;" =
      ([(.parameter, "B"), (.parameter, "A")] : List (Place × Text)) := by
    decide +kernel
  have hB : ((.parameter, "B") : Place × Text) ∈ Descriptor.asked "(LB;LA;" := by
    rw [hasked]
    exact List.mem_cons_self
  obtain ⟨harrays, hnames, hdescriptors, hclasses⟩ := hl.nesting_bounded hfirst hsecond
  obtain ⟨harraysBack, -⟩ := hl.nesting_bounded hsecond hfirst
  obtain ⟨c', hc', harray⟩ := (harrays 2 (by decide) (by decide)).1 "A" hA
  obtain rfl : c' = "[I" := Except.ok.inj (hc'.symm.trans (by decide +kernel))
  have hJ : 'J' ∈ Grammar.letters := by decide
  have hbase := (harraysBack 1 (by decide) (by decide)).2 'J' hJ
  have hdescriptor := hdescriptors "(LB;LA;" 1 (Nat.le_refl 1)
  rw [nameCalls, hasked] at hdescriptor
  have hclass := hclasses "[LA;" 2 (Nat.le_refl 2)
  have houtcome : delimited.renameClass "[LA;" .first ⟨1⟩ = .ok "[L[I;" := by decide +kernel
  rw [houtcome] at hclass
  exact ⟨hl, hfirst, hsecond, hA, harray, hJ, hbase, hB, (hnames _ _ hB).1, hdescriptor, hclass⟩

end Lexicon

end SymbolLexicon
