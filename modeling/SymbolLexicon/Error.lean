/-
# SymbolLexicon.Error — why a request is refused, and the text of every refusal.

An error is a CAUSE below a list of CONTEXTS, outermost first. The cause says what is wrong, as
data; a context says which larger request was under way. The wording of every refusal stands in
this module, in `Cause.text` and `Context.text`: the texts of an error are those of its contexts
followed by that of its cause.
-/
import SymbolLexicon.Descriptor.Reader
import SymbolLexicon.Namespace

namespace SymbolLexicon

/-! ## Causes and contexts -/

/-- What is wrong. -/
inductive Cause where
  /-- A field type inside a descriptor cannot be read. -/
  | fieldType (fault : Fault)
  /-- A descriptor ends before the text does. -/
  | trailing (descriptor rest : Text)
  /-- The descriptor belongs to members of the other kind. -/
  | wrongKind (expected : MemberKind) (descriptor : Text)
  /-- Fewer than two namespaces. -/
  | tooFewNamespaces (names : List String)
  /-- A namespace without a name. -/
  | unnamedNamespace (names : List String)
  /-- Two namespaces of one name. -/
  | repeatedNamespace (name : String) (names : List String)
  /-- No namespace has the name. -/
  | unknownNamespace (name : String) (names : List String)
  /-- There is no namespace with the index. -/
  | namespaceOutOfRange (ns : Namespace) (names : List String)
  /-- The namespaces are not the ones that were asked for. -/
  | otherNamespaces (expected names : List String)
  /-- An empty text stands where a name should be. -/
  | emptyName (slots : Slots)
  /-- There is no slot for the namespace. -/
  | slotOutOfRange (ns : Namespace) (slots : Slots)
  /-- The slot of the first namespace is empty or missing. -/
  | noFirstName (slots : Slots)
  /-- There is not exactly one slot for each namespace. -/
  | slotCount (namespaces : List String) (slots : Slots)
  /-- Another class has the name already. -/
  | classExists (slots : Slots) (name : Text) (held : Slots)
  /-- Another member has the name and the descriptor already. -/
  | memberExists (name descriptor heldDescriptor : Text) (held : Slots)
  /-- No class has the name in the first namespace. -/
  | unknownOwner (owner : Text)
  /-- The caller's own function failed, with this text. -/
  | caller (text : String)
deriving DecidableEq

/-- What was being done when something went wrong below. -/
inductive Context where
  /-- Reading the field type in this place of a descriptor, or replacing its class name. -/
  | reading (place : Place) (descriptor : Text)
  /-- Adding a member to a class. -/
  | adding (kind : MemberKind) (owner : Text)
  /-- Looking a member up by a descriptor of the first namespace. -/
  | lookingUp (kind : MemberKind) (name owner : Text)
  /-- Renaming the class names of a descriptor. -/
  | renamingClasses (descriptor : Text) (source target : Namespace)
deriving DecidableEq

/-- A cause below its contexts, the outermost context first. -/
structure Error where
  contexts : List Context
  cause : Cause
deriving DecidableEq

/-! ## Wording -/

/-- The words for a fault inside a field type. -/
def Fault.text : Fault → String
  | .truncated => "unexpected abrupt ending of descriptor"
  | .tooManyDimensions count => s!"array dimension {count} is larger than {maxDimensions}"
  | .unexpected found => s!"unexpected char {found.quoted} in descriptor"
  | .unexpectedInName found name =>
    s!"unexpected char {found.quoted} in class name {Text.quoted name} in descriptor"
  | .emptyName => "empty class name in descriptor"

/-- A member in messages: its descriptor and its slots. -/
def shownMember (descriptor : Text) (slots : Slots) : String :=
  "MemberMapping \x7b desc: " ++ Text.quoted descriptor ++ ", names: " ++ Slots.shown slots ++
    " \x7d"

/-- The words for a cause. -/
def Cause.text : Cause → String
  | .fieldType fault => fault.text
  | .trailing descriptor rest =>
    s!"expected end of descriptor {Text.quoted descriptor}, got {Text.quoted rest} remaining"
  | .wrongKind expected descriptor =>
    s!"expected a {expected.word} descriptor, got {Text.quoted descriptor}"
  | .tooFewNamespaces names => s!"need at least two namespaces, got {quotedStrings names}"
  | .unnamedNamespace names =>
    s!"found empty namespace name in {quotedStrings names}, every namespace name must be non-empty"
  | .repeatedNamespace name names =>
    s!"found duplicate namespace name {quotedString name} in {quotedStrings names}"
  | .unknownNamespace name names =>
    s!"cannot find namespace with name {quotedString name}, only got {quotedStrings names}"
  | .namespaceOutOfRange ns names =>
    s!"namespace {ns.shown} is out of range for namespaces {quotedStrings names}"
  | .otherNamespaces expected names =>
    s!"expected namespaces {quotedStrings expected}, got {quotedStrings names}"
  | .emptyName slots =>
    s!"cannot create names where an existing name is an empty string: {Slots.shown slots}"
  | .slotOutOfRange ns slots =>
    s!"namespace {ns.shown} is out of range for names {Slots.shown slots}"
  | .noFirstName slots => s!"no name for the first namespace: {Slots.shown slots}"
  | .slotCount namespaces slots =>
    s!"expected {namespaces.length} names (for namespaces {quotedStrings namespaces}), " ++
      s!"got {Slots.shown slots}"
  | .classExists slots name held =>
    s!"cannot add class {Slots.shown slots}, as there's already one with name " ++
      s!"{Text.quoted name}: {Slots.shown held}"
  | .memberExists name descriptor heldDescriptor held =>
    s!"there's already a member with name {Text.quoted name} and descriptor " ++
      s!"{Text.quoted descriptor}: {shownMember heldDescriptor held}"
  | .unknownOwner owner => s!"no class {Text.quoted owner} in the first namespace"
  | .caller text => text

/-- The words for a context. -/
def Context.text : Context → String
  | .reading .parameter descriptor =>
    s!"failed to read parameter descriptor of {Text.quoted descriptor}"
  | .reading .result descriptor => s!"failed to read return descriptor of {Text.quoted descriptor}"
  | .reading .field descriptor => s!"failed to read field descriptor {Text.quoted descriptor}"
  | .adding .field owner => s!"failed to add field to class {Text.quoted owner}"
  | .adding .method owner => s!"failed to add method to class {Text.quoted owner}"
  | .lookingUp kind name owner =>
    s!"failed to look up {kind.word} {Text.quoted name} in class {Text.quoted owner}"
  | .renamingClasses descriptor source target =>
    s!"failed to map descriptor {Text.quoted descriptor} from namespace {source.shown} " ++
      s!"to {target.shown}"

/-! ## Errors -/

namespace Error

/-- A cause without context. -/
def of (cause : Cause) : Error := ⟨[], cause⟩

/-- The same error seen from a larger request. -/
def within (context : Context) (e : Error) : Error := ⟨context :: e.contexts, e.cause⟩

/-- The outermost text. -/
def message (e : Error) : String :=
  match e.contexts with
  | [] => e.cause.text
  | context :: _ => context.text

/-- The texts below the outermost one, from the outside in. -/
def below (e : Error) : List String :=
  match e.contexts with
  | [] => []
  | _ :: contexts => contexts.map Context.text ++ [e.cause.text]

/-- The outermost text and those below it are the texts of the contexts and of the cause. -/
theorem message_cons_below (e : Error) :
    e.message :: e.below = e.contexts.map Context.text ++ [e.cause.text] := by
  obtain ⟨contexts, cause⟩ := e
  cases contexts <;> rfl

/-! ## Requests that an error ends -/

section Requests

variable {α β : Type}

@[simp] theorem pure_eq (a : α) : (pure a : Except Error α) = .ok a := rfl

@[simp] theorem throw_eq (e : Error) : (throw e : Except Error α) = .error e := rfl

@[simp] theorem ok_bind (a : α) (f : α → Except Error β) : (Except.ok a >>= f) = f a := rfl

@[simp] theorem error_bind (e : Error) (f : α → Except Error β) :
    (Except.error e >>= f) = .error e := rfl

@[simp] theorem mapError_ok (g : Error → Error) (a : α) :
    (Except.ok a : Except Error α).mapError g = .ok a := rfl

@[simp] theorem mapError_error (g : Error → Error) (e : Error) :
    (Except.error e : Except Error α).mapError g = .error (g e) := rfl

/-- A request that does not fail succeeds. -/
theorem exists_eq_ok_iff {x : Except Error α} : (∃ a, x = .ok a) ↔ ¬ ∃ e, x = .error e := by
  cases x <;> simp

/-- A request succeeds exactly when its parts do, one after the other. -/
theorem bind_eq_ok_iff {x : Except Error α} {f : α → Except Error β} {b : β} :
    x >>= f = .ok b ↔ ∃ a, x = .ok a ∧ f a = .ok b := by
  cases x <;> simp

/-- A request fails exactly when its first part does, or when the part after it does. -/
theorem bind_eq_error_iff {x : Except Error α} {f : α → Except Error β} {e : Error} :
    x >>= f = .error e ↔ x = .error e ∨ ∃ a, x = .ok a ∧ f a = .error e := by
  cases x <;> simp

/-- Changing the errors of a request leaves its successes. -/
@[simp] theorem mapError_eq_ok_iff {x : Except Error α} {g : Error → Error} {a : α} :
    x.mapError g = .ok a ↔ x = .ok a := by
  cases x <;> simp

/-- The errors of a request are changed one by one. -/
theorem mapError_eq_error_iff {x : Except Error α} {g : Error → Error} {e : Error} :
    x.mapError g = .error e ↔ ∃ e', x = .error e' ∧ g e' = e := by
  cases x <;> simp

end Requests

end Error

/-- The error that says why the text is no descriptor. Only a fault inside a field type has a
context. -/
def Malformed.error (text : Text) : Malformed → Error
  | .inside place fault => (Error.of (.fieldType fault)).within (.reading place text)
  | .trailing rest => Error.of (.trailing text rest)

end SymbolLexicon
