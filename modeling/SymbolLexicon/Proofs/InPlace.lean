/-
# SymbolLexicon.Proofs.InPlace — requests that change a value as they go.

A request may answer a changed value, or change the value in place. In the second case an error
keeps what was changed before it. `InPlace` is the type of such requests and `on` runs one; a
request is ATOMIC when it ends like a given one of the first kind, so that an error leaves nothing
behind.

A function that is called many times may change a value on each call, so `InPlace` is also the type
of its answers. `recording` lets it write down what it was called with.
-/

namespace SymbolLexicon

/-! ## Requests -/

/-- A request that changes a value of type `σ` as it goes. An error keeps the changes before it. -/
abbrev InPlace (σ ε α : Type) := ExceptT ε (StateM σ) α

namespace InPlace

variable {σ τ ε δ α β : Type}

/-- The outcome of the request on the value `s`, and the value that is left. -/
def on (x : InPlace σ ε α) (s : σ) : Except ε α × σ := x.run.run s

/-- Carry out a request on a part of the value, and put what is left of it into its place. -/
def focus (part : τ) (put : τ → σ → σ) (report : ε → δ) (x : InPlace τ ε α) : InPlace σ δ α :=
  ExceptT.mk fun s => ((x.on part).1.mapError report, put (x.on part).2 s)

theorem on_bind (x : InPlace σ ε α) (f : α → InPlace σ ε β) (s : σ) :
    (x >>= f).on s =
      match x.on s with
      | (.ok a, s') => (f a).on s'
      | (.error e, s') => (.error e, s') := by
  show (x.run.run s >>= fun p => (ExceptT.bindCont f p.1).run p.2) = _
  cases hx : x.run.run s with
  | mk outcome s' =>
    cases outcome <;> simp [on, hx] <;> rfl

@[simp] theorem on_get_bind (f : σ → InPlace σ ε β) (s : σ) : (get >>= f).on s = (f s).on s := rfl

@[simp] theorem on_modify_bind (g : σ → σ) (f : PUnit → InPlace σ ε β) (s : σ) :
    (modify g >>= f).on s = (f ⟨⟩).on (g s) := rfl

/-- On `s` the request ends with the outcome: with a new value, or with an error that leaves `s` as
it was. -/
def Atomic (x : InPlace σ ε Unit) (s : σ) (outcome : Except ε σ) : Prop :=
  x.on s =
    match outcome with
    | .ok s' => (.ok (), s')
    | .error e => (.error e, s)

theorem atomic_throw (e : ε) (s : σ) : Atomic (throw e) s (.error e) := rfl

theorem Atomic.after_get {f : σ → InPlace σ ε Unit} {s : σ} {outcome : Except ε σ}
    (h : Atomic (f s) s outcome) : Atomic (get >>= f) s outcome := h

/-- A test before an atomic request does not make it less so. -/
theorem Atomic.after_test {test : Except ε α} {f : α → InPlace σ ε Unit} {s : σ}
    {outcome : α → Except ε σ} (h : ∀ a, test = .ok a → Atomic (f a) s (outcome a)) :
    Atomic (liftM test >>= f) s (test >>= outcome) := by
  cases test with
  | error e => rfl
  | ok a => exact h a rfl

/-- A request on a part is atomic on the whole, if the part was where it is put. -/
theorem Atomic.focus {part : τ} {put : τ → σ → σ} {report : ε → δ} {x : InPlace τ ε Unit}
    {inner : Except ε τ} {outcome : Except δ σ} {s : σ} (hx : Atomic x part inner)
    (hput : put part s = s) (hok : ∀ part', inner = .ok part' → outcome = .ok (put part' s))
    (herror : ∀ e, inner = .error e → outcome = .error (report e)) :
    Atomic (focus part put report x) s outcome := by
  have hon : x.on part = _ := hx
  show ((x.on part).1.mapError report, put (x.on part).2 s) = _
  rw [hon]
  cases inner with
  | ok part' =>
    rw [hok part' rfl]
    rfl
  | error e =>
    rw [herror e rfl]
    simp only [hput]
    rfl

/-- A context around its errors does not make a request less atomic. -/
theorem Atomic.adapt {x : InPlace σ ε Unit} {outcome : Except ε σ} {s : σ}
    (hx : Atomic x s outcome) (f : ε → δ) :
    Atomic (ExceptT.adapt f x : InPlace σ δ Unit) s (outcome.mapError f) := by
  have hon : x.on s = _ := hx
  show ((x.on s).1.mapError f, (x.on s).2) = _
  rw [hon]
  cases outcome <;> rfl

/-! ## Functions that are called many times -/

/-- What is answered without a change. -/
@[simp] theorem on_pure (a : α) (s : σ) : (pure a : InPlace σ ε α).on s = (.ok a, s) := rfl

/-- The function, which also writes down what it is called with. -/
def recording (f : α → InPlace σ ε β) (x : α) : InPlace (σ × List α) ε β :=
  ExceptT.mk fun s => (((f x).on s.1).1, ((f x).on s.1).2, s.2 ++ [x])

theorem on_recording (f : α → InPlace σ ε β) (x : α) (s : σ) (calls : List α) :
    (recording f x).on (s, calls) = (((f x).on s).1, ((f x).on s).2, calls ++ [x]) := rfl

/-- A context around its errors leaves what the request answers otherwise and what it changes. -/
theorem on_adapt (g : ε → δ) (x : InPlace σ ε α) (s : σ) :
    InPlace.on (ExceptT.adapt g x : InPlace σ δ α) s = ((x.on s).1.mapError g, (x.on s).2) := rfl

theorem on_bind_of_ok {x : InPlace σ ε α} {s s' : σ} {a : α} (h : x.on s = (.ok a, s'))
    (f : α → InPlace σ ε β) : (x >>= f).on s = (f a).on s' := by
  rw [on_bind, h]

theorem on_bind_of_error {x : InPlace σ ε α} {s s' : σ} {e : ε} (h : x.on s = (.error e, s'))
    (f : α → InPlace σ ε β) : (x >>= f).on s = (.error e, s') := by
  rw [on_bind, h]

/-- A request on a state succeeds exactly when its first part does, and the next one on the state
that this leaves. -/
theorem on_bind_eq_ok_iff {x : InPlace σ ε α} {f : α → InPlace σ ε β} {s s'' : σ} {b : β} :
    (x >>= f).on s = (.ok b, s'') ↔ ∃ a s', x.on s = (.ok a, s') ∧ (f a).on s' = (.ok b, s'') := by
  rw [on_bind]
  rcases x.on s with ⟨outcome, s'⟩
  cases outcome with
  | error e => simp
  | ok a =>
    constructor
    · intro h
      exact ⟨a, s', rfl, h⟩
    · rintro ⟨_, _, ha, h⟩
      cases ha
      exact h

/-- All calls are answered exactly if the first is, and then all others are. -/
theorem on_mapM_cons_eq_ok_iff {f : α → InPlace σ ε β} {x : α} {xs : List α} {ys : List β}
    {s s'' : σ} :
    InPlace.on ((x :: xs).mapM f) s = (.ok ys, s'') ↔
      ∃ y s' zs, (f x).on s = (.ok y, s') ∧ InPlace.on (xs.mapM f) s' = (.ok zs, s'') ∧
        ys = y :: zs := by
  simp only [List.mapM_cons, on_bind_eq_ok_iff, on_pure, Prod.mk.injEq, Except.ok.injEq]
  constructor
  · rintro ⟨y, s', hx, zs, _, hxs, rfl, rfl⟩
    exact ⟨y, s', zs, hx, hxs, rfl⟩
  · rintro ⟨y, s', zs, hx, hxs, rfl⟩
    exact ⟨y, s', hx, zs, s'', hxs, rfl, rfl⟩

/-- Where the calls before it are answered, the first error ends the work. -/
theorem on_mapM_append_cons_of_error {f : α → InPlace σ ε β} {xs zs : List α} {x : α}
    {ys : List β} {s s₁ s₂ : σ} {e : ε} (hxs : InPlace.on (xs.mapM f) s = (.ok ys, s₁))
    (hx : (f x).on s₁ = (.error e, s₂)) :
    InPlace.on ((xs ++ x :: zs).mapM f) s = (.error e, s₂) := by
  -- the value is general in the induction, since each call may leave another one
  induction xs generalizing s ys with
  | nil =>
    obtain ⟨-, rfl⟩ := Prod.mk.inj hxs
    rw [List.nil_append, List.mapM_cons]
    exact on_bind_of_error hx _
  | cons z xs ih =>
    obtain ⟨y, s', ys', hz, hrest, rfl⟩ := on_mapM_cons_eq_ok_iff.mp hxs
    rw [List.cons_append, List.mapM_cons, on_bind_of_ok hz]
    exact on_bind_of_error (ih hrest) _

/-- Writing down the calls changes nothing else, and where all calls are answered, all of them are
written down. -/
theorem on_mapM_recording {f : α → InPlace σ ε β} {xs : List α} {ys : List β} {s s' : σ}
    (h : InPlace.on (xs.mapM f) s = (.ok ys, s')) (calls : List α) :
    InPlace.on (xs.mapM (recording f)) (s, calls) = (.ok ys, s', calls ++ xs) := by
  induction xs generalizing s ys calls with
  | nil =>
    cases h
    rw [List.append_nil]
    rfl
  | cons x xs ih =>
    obtain ⟨y, s₁, zs, hx, hxs, rfl⟩ := on_mapM_cons_eq_ok_iff.mp h
    refine on_mapM_cons_eq_ok_iff.mpr ⟨y, (s₁, calls ++ [x]), zs, ?_, ?_, rfl⟩
    · rw [on_recording, hx]
    · rw [ih hxs, List.append_assoc]
      rfl

end InPlace

end SymbolLexicon
