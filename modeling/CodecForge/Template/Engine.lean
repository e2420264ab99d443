/-
  CodecForge — template engines.

  An engine answers requests for the templates of a store, and remembers those
  that it has read.  A remembered template is used again only as long as the
  store would read the same thing.

  * `Store.origin?` is where a template of a store is read from, `Store.find`
    the template that is read there; what a store finds and renders depends on
    nothing else (`Store.has_eq`, `Store.render_eq`);
  * `lastText?` is the text that counts of several of a name;
  * `Engine.find` looks into the memory first, `Engine.has` and `Engine.render`
    answer with what it finds, `Engine.add` adds a text to the store;
  * `Engine.after` is the engine after requests, `additions` are the texts that
    these add.
-/
import CodecForge.Template.Store

namespace CodecForge.Template

/-! ## Where templates are read from -/

/-- Where a template is read from. -/
inductive Origin where
  | bundled (b : BundledTemplate)
  | text (s : String)
deriving DecidableEq, Repr

/-- The template that is read there. -/
def Origin.read : Origin → Except RenderFault (List Node)
  | .bundled b => .ok b.nodes
  | .text s => readTemplate s

namespace Store

/-- Whether the templates are those that come with a language. -/
def isBundled : Store → Bool
  | bundled _ => true
  | texts _ => false

/-- Where the template of a name is read from. -/
def origin? (s : Store) (name : String) : Option Origin :=
  match s with
  | bundled t => (BundledTemplate.find? t name).map .bundled
  | texts es => (Entries.get? name es).map .text

/-- The template of a name, if there is one. -/
def find (s : Store) (name : String) : Except RenderFault (Option (List Node)) :=
  match s.origin? name with
  | none => .ok none
  | some o => o.read.map some

/-- Why a name without a template is not rendered. -/
def missing (s : Store) (name : String) : TemplateError :=
  match s with
  | bundled _ => .notBundled name
  | texts _ => .ofTemplate name (.missingTemplate name)

/-- The text of a template that has been found, or not, under a context. -/
def renderFound (s : Store) (name : String) (c : Context) :
    Except RenderFault (Option (List Node)) → Except TemplateError String
  | .ok (some ns) => (renderTemplate ns c).mapError (.ofTemplate name)
  | .ok none => .error (s.missing name)
  | .error fault => .error (.ofTemplate name fault)

end Store

/-! ## Engines -/

/-- A template together with where it was read from. -/
structure Remembered where
  origin : Origin
  nodes : List Node
  read_eq : origin.read = .ok nodes

/-- A store whose templates are remembered under their names, bundled ones and texts apart; the
    ones used last come first. -/
structure Engine where
  store : Store
  /-- how many templates are remembered -/
  capacity : Nat
  memory : List ((Bool × String) × Remembered)

namespace Engine

/-- What a template is remembered under. -/
def key (e : Engine) (name : String) : Bool × String := (e.store.isBundled, name)

/-- The engine after the use of a template; the ones that have not been used for long are
    forgotten. -/
def remember (e : Engine) (name : String) (m : Remembered) : Engine :=
  { e with memory :=
      ((e.key name, m) :: Entries.erase (e.key name) e.memory).take e.capacity }

/-- What is remembered of a name, unless the store would read something else by now. -/
def remembered? (e : Engine) (name : String) : Option Remembered :=
  (Entries.get? (e.key name) e.memory).filter fun m => e.store.origin? name = some m.origin

/-- The template of a name, if there is one, and the engine that remembers it. -/
def find (e : Engine) (name : String) : Engine × Except RenderFault (Option (List Node)) :=
  match e.remembered? name with
  | some m => (e.remember name m, .ok (some m.nodes))
  | none =>
    match e.store.origin? name with
    | none => (e, .ok none)
    | some o =>
      match h : o.read with
      | .ok ns => (e.remember name ⟨o, ns, h⟩, .ok (some ns))
      | .error fault => (e, .error fault)

/-- Whether a template is found. -/
def has (e : Engine) (name : String) : Engine × Except RenderFault Bool :=
  ((e.find name).1, (e.find name).2.map Option.isSome)

/-- The text of a template under a context. -/
def render (e : Engine) (name : String) (c : Context) : Engine × Except TemplateError String :=
  ((e.find name).1, e.store.renderFound name c (e.find name).2)

/-- The engine with a text under a name.  What is remembered stays. -/
def add (e : Engine) (name text : String) : Engine := { e with store := e.store.add name text }

/-! ## Requests -/

/-- What an engine can be asked for. -/
inductive Request where
  | add (name text : String)
  | has (name : String)
  | render (name : String) (c : Context)

def step (e : Engine) : Request → Engine
  | .add name text => e.add name text
  | .has name => (e.has name).1
  | .render name c => (e.render name c).1

/-- The engine after requests. -/
def after (e : Engine) (requests : List Request) : Engine := requests.foldl step e

end Engine

/-! ## What a store finds -/

namespace Store

variable (s : Store) (name : String)

theorem render_eq (c : Context) : s.render name c = s.renderFound name c (s.find name) := by
  cases s with
  | bundled t =>
    rw [render, find, origin?]
    cases BundledTemplate.find? t name <;> rfl
  | texts es =>
    rw [render, find, origin?]
    cases Entries.get? name es with
    | none => rfl
    | some text =>
      change (renderText text c).mapError _ = renderFound _ name c ((readTemplate text).map some)
      rw [renderText]
      cases readTemplate text <;> rfl

end Store

end CodecForge.Template
