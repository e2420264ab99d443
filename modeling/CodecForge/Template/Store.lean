/-
  CodecForge — stores of templates.

  A store finds templates by name: those that come with a language, or texts
  that have been added.  Adding a text to a store of bundled templates starts a
  store of texts, in which the bundled ones are no longer found.

  * `Store.has`, `Store.add` and `Store.render` find, add and render;
  * `Store.renderString` renders a text that is in no store.
-/
import CodecForge.Template.Bundled

namespace CodecForge.Template

/-- Templates under their names. -/
inductive Store where
  | bundled (t : Target)
  | texts (es : List (String × String))
deriving DecidableEq, Repr

/-- Why a template of a store, or a text, is not rendered. -/
inductive TemplateError where
  /-- a template that does not come with the language -/
  | notBundled (name : String)
  | ofTemplate (name : String) (fault : RenderFault)
  | ofText (fault : RenderFault)
deriving DecidableEq, Repr

/-- The text of an error; for a template that is not bundled it would depend on
    where the bundled ones are. -/
def TemplateError.message? : TemplateError → Option String
  | .notBundled _ => none
  | .ofTemplate name fault => some s!"Failed to render template {name}: {fault.message}"
  | .ofText fault => some s!"Failed to render template string: {fault.message}"

namespace Store

/-- A store without templates. -/
def empty : Store := .texts []

/-- Whether a template is found; one that is found is read. -/
def has (s : Store) (name : String) : Except RenderFault Bool :=
  match s with
  | bundled t => .ok (BundledTemplate.find? t name).isSome
  | texts es =>
    match Entries.get? name es with
    | some text => (readTemplate text).map fun _ => true
    | none => .ok false

/-- The store with a text under a name. -/
def add (s : Store) (name text : String) : Store :=
  match s with
  | bundled _ => texts [(name, text)]
  | texts es => texts (Entries.put name text es)

/-- The text of a template under a context. -/
def render (s : Store) (name : String) (c : Context) : Except TemplateError String :=
  match s with
  | bundled t =>
    match BundledTemplate.find? t name with
    | some b => (b.render c).mapError (.ofTemplate name)
    | none => .error (.notBundled name)
  | texts es =>
    match Entries.get? name es with
    | some text => (renderText text c).mapError (.ofTemplate name)
    | none => .error (.ofTemplate name (.missingTemplate name))

/-- The text of a text under a context. -/
def renderString (text : String) (c : Context) : Except TemplateError String :=
  (renderText text c).mapError .ofText

end Store

end CodecForge.Template
