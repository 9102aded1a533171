/-
# SymbolLexicon.Log — records of what happened on the way, and computations that keep them.

Some answers are fallbacks: a member that is not found keeps its name. Nobody is told so by the
answer itself, hence the library RECORDS each fallback. A `Traced` computation has a result or an
error, and in either case the records made until then, in order.
-/
import SymbolLexicon.Error
import SymbolLexicon.Reference

namespace SymbolLexicon

/-! ## Records -/

/-- How much detail a record is. -/
inductive Level where
  | debug
  | trace
deriving DecidableEq

/-- The word for a level. -/
def Level.word : Level → String
  | .debug => "DEBUG"
  | .trace => "TRACE"

/-- Something that happened. -/
inductive Record where
  /-- A renaming was made. -/
  | created (source target : Namespace)
  /-- A member was looked up in a class that is not there. -/
  | ownerMissing (kind : MemberKind) (sought : Reference) (ns : Namespace)
  /-- A member was not found, so it keeps its name. -/
  | memberMissing (sought : Reference) (ns : Namespace)
  /-- A member has no name in the target namespace, so it keeps its name. -/
  | nameMissing (sought : Reference) (ns : Namespace)
deriving DecidableEq

namespace Record

/-- The level of a record. -/
def level : Record → Level
  | .created _ _ => .debug
  | _ => .trace

/-- The words of a record. -/
def text : Record → String
  | .created source target =>
    s!"creating remapper from namespace {source.shown} to namespace {target.shown}"
  | .ownerMissing kind sought ns =>
    s!"no class {Text.quoted sought.owner} in namespace {ns.shown} when looking up " ++
      s!"{kind.word} {Text.quoted sought.name} {Text.quoted sought.descriptor}"
  | .memberMissing sought ns =>
    s!"no mapping for {sought.shown} in namespace {ns.shown}, keeping the name"
  | .nameMissing sought ns =>
    s!"{sought.shown} has no name in namespace {ns.shown}, keeping the name"

end Record

/-! ## Traced computations -/

/-- A result or an error, with the records made on the way. -/
structure Traced (α : Type) where
  result : Except Error α
  log : List Record

namespace Traced

variable {α β : Type}

/-- A result or an error that is reached without any record. -/
def lift (x : Except Error α) : Traced α := ⟨x, []⟩

/-- Make a record. -/
def emit (r : Record) : Traced Unit := ⟨.ok (), [r]⟩

/-- Go on with the result. An error ends the computation and keeps the records made before it. -/
def andThen (x : Traced α) (f : α → Traced β) : Traced β :=
  match x.result with
  | .ok a => ⟨(f a).result, x.log ++ (f a).log⟩
  | .error e => ⟨.error e, x.log⟩

instance : Monad Traced where
  pure a := lift (.ok a)
  bind := andThen

instance : MonadLift (Except Error) Traced := ⟨lift⟩

@[simp] theorem pure_eq (a : α) : (pure a : Traced α) = ⟨.ok a, []⟩ := rfl

@[simp] theorem bind_ok (a : α) (log : List Record) (f : α → Traced β) :
    (⟨.ok a, log⟩ : Traced α) >>= f = ⟨(f a).result, log ++ (f a).log⟩ := rfl

@[simp] theorem bind_error (e : Error) (log : List Record) (f : α → Traced β) :
    (⟨.error e, log⟩ : Traced α) >>= f = ⟨.error e, log⟩ := rfl

@[simp] theorem liftM_eq (x : Except Error α) : (liftM x : Traced α) = lift x := rfl

@[simp] theorem lift_bind_ok (a : α) (f : α → Traced β) : lift (.ok a) >>= f = f a := rfl

@[simp] theorem lift_bind_error (e : Error) (f : α → Traced β) :
    lift (.error e) >>= f = lift (.error e) := rfl

end Traced

end SymbolLexicon
