/-
  CodecForge — plans of codecs.

  A plan lists the containers that a procedure opens and the leaves it writes
  or reads, each with its container.  Both directions and both target languages
  are written from plans made by one walk of the schema, so they open the same
  containers and visit the same leaves in the same order.

  * `freshVariable` is the first candidate that is not taken; as no two
    candidates are the same, one more than there are taken names is enough;
  * `Schema.walk` opens the root, then a container for every group at the top,
    and then visits the leaves; it stops at the first leaf of a group that has
    no container;
  * `CodableType.plan` is the plan of one procedure.
-/
import CodecForge.Naming.Convention
import CodecForge.Schema

namespace CodecForge

/-! ## Containers and their variables -/

/-- A keyed container that a procedure opens.  The root has no parent. -/
structure Container where
  variable_ : String
  keysName : String
  key : Option String := none
  localName : Option String := none
  parent : Option String := none
deriving DecidableEq, Repr

def Container.isRoot (c : Container) : Bool := c.parent.isNone

/-- The variable of the container at the top. -/
def rootVariable : String := "container"

/-- How the variables of nested containers are spelled. -/
inductive VariableStyle where
  | snake
  | camel
deriving DecidableEq, Repr

namespace VariableStyle

def label : VariableStyle → String
  | snake => "snake"
  | camel => "camel"

/-- The style of a name; every name but `camel` means snake case. -/
def ofLabel (s : String) : VariableStyle := if s = "camel" then camel else snake

end VariableStyle

/-- The `index`-th candidate for the variable of a group; the first has no
    number. -/
def containerVariable (style : VariableStyle) (localName : String) (index : Int) : String :=
  match style with
  | .camel =>
    let base := localName ++ "Container"
    if index = 1 then base else base ++ toString index
  | .snake =>
    let base := Naming.toSnake localName ++ "_" ++ rootVariable
    if index = 1 then base else base ++ "_" ++ toString index

/-- The first candidate that is not taken, among as many as can be needed. -/
def freshVariable (style : VariableStyle) (localName : String) (taken : List String) : String :=
  let candidates := (List.range (taken.length + 1)).map fun i : Nat =>
    containerVariable style localName ((i : Int) + 1)
  (candidates.find? fun v => !taken.contains v).getD (containerVariable style localName 1)

/-- The root container of a schema. -/
def rootContainer (s : Schema) : Container := ⟨rootVariable, s.name, none, none, none⟩

/-- The container of a group under a variable. -/
def groupContainer (s : Schema) (f : FieldInfo) (g : Schema) (variable_ : String) : Container :=
  ⟨variable_, s.name ++ "." ++ g.name, some f.key, some f.localName, some rootVariable⟩

/-- Containers for groups, each under a variable that is not taken yet. -/
def groupContainers (style : VariableStyle) (s : Schema) (taken : List String) :
    List (FieldInfo × Schema) → List Container
  | [] => []
  | (f, g) :: gs =>
    let v := freshVariable style f.localName taken
    groupContainer s f g v :: groupContainers style s (v :: taken) gs

namespace Schema

/-- The names that no group may take for its variable. -/
def takenNames (s : Schema) : List String := rootVariable :: s.leaves.map (·.localName)

/-- The root container and one for every group at the top, in order. -/
def containers (s : Schema) (style : VariableStyle) : List Container :=
  rootContainer s :: groupContainers style s s.takenNames s.groups

/-! ## Walks -/

/-- The container of a leaf: the root for a leaf at the top, otherwise that of
    the last group at the top with the local name of its own group. -/
def containerFor (containers : List Container) (root : Container) :
    Option FieldInfo → Option Container
  | none => some root
  | some holder =>
    containers.reverse.find? fun c => c.localName == some holder.localName

end Schema

/-- A step of a walk. -/
inductive WalkEvent where
  | opened (c : Container)
  | visited (f : FieldInfo) (c : Container)
deriving DecidableEq, Repr

/-- What a walk reports: the containers it opens, the leaves it visits, and the
    group without a container at which it stops, if there is one. -/
structure Walk where
  containers : List Container
  visits : List (FieldInfo × Container)
  missing : Option String
deriving Repr

namespace Walk

/-- The steps of a walk in order. -/
def events (w : Walk) : List WalkEvent :=
  w.containers.map .opened ++ w.visits.map fun v => .visited v.1 v.2

end Walk

/-- The visits up to the first leaf of a group without a container. -/
def visitsOf (containers : List Container) (root : Container) :
    List (FieldInfo × Option FieldInfo) → List (FieldInfo × Container) × Option String
  | [] => ([], none)
  | (f, holder) :: fs =>
    match Schema.containerFor containers root holder with
    | none => ([], holder.map (·.localName))
    | some c =>
      let (visits, missing) := visitsOf containers root fs
      ((f, c) :: visits, missing)

/-- The walk of a schema. -/
def Schema.walk (s : Schema) (style : VariableStyle) : Walk :=
  let containers := s.containers style
  let (visits, missing) := visitsOf containers (rootContainer s) s.flattened
  ⟨containers, visits, missing⟩

/-! ## Plans -/

/-- A leaf that is written or read against a container. -/
structure FieldStep where
  field : FieldInfo
  container : Container
  transform : Option String
deriving DecidableEq, Repr

/-- What a procedure does, by the strategy of its type. -/
inductive PlanBody where
  | keyed (containers : List Container) (steps : List FieldStep)
  | singleValue (binding : String)
  | singleValueForEnum (keysName : String) (cases : List FieldInfo)
deriving Repr

/-- The plan of one procedure of one type. -/
structure CodecPlan where
  typeName : String
  direction : Direction
  isPublic : Bool
  body : PlanBody
deriving Repr

namespace CodecPlan

def kind (p : CodecPlan) : ContainerKind :=
  match p.body with
  | .keyed .. => .keyed
  | .singleValue _ => .singleValue
  | .singleValueForEnum .. => .singleValueForEnum

def containers (p : CodecPlan) : List Container :=
  match p.body with
  | .keyed cs _ => cs
  | _ => []

/-- The containers below the root. -/
def nested (p : CodecPlan) : List Container := p.containers.tail

def steps (p : CodecPlan) : List FieldStep :=
  match p.body with
  | .keyed _ ss => ss
  | _ => []

def cases (p : CodecPlan) : List FieldInfo :=
  match p.body with
  | .singleValueForEnum _ cs => cs
  | _ => []

def binding? (p : CodecPlan) : Option String :=
  match p.body with
  | .singleValue b => some b
  | _ => none

/-- The enumeration that lists the keys of the container at the top. -/
def keysName? (p : CodecPlan) : Option String :=
  match p.body with
  | .keyed cs _ => cs.head?.map (·.keysName)
  | .singleValueForEnum name _ => some name
  | .singleValue _ => none

/-- The arguments of the initializer, in wire order. -/
def arguments (p : CodecPlan) : List String :=
  match p.body with
  | .singleValue b => [b]
  | _ => p.steps.map (·.field.localName)

/-- The adapter types of the steps, in the order of their first use. -/
def transforms (p : CodecPlan) : List String :=
  (p.steps.filterMap (·.transform)).foldl
    (fun seen t => if seen.contains t then seen else seen ++ [t]) []

end CodecPlan

/-- A group whose leaves have no container to go to. -/
structure MissingContainer where
  localName : String
deriving DecidableEq, Repr

/-- The steps of a walk in a direction. -/
def Walk.steps (w : Walk) (d : Direction) : List FieldStep :=
  w.visits.map fun (f, c) => ⟨f, c, f.transformFor d⟩

/-- What the procedure of a shape does in a direction. -/
def Shape.planBody (shape : Shape) (d : Direction) (style : VariableStyle) :
    Except MissingContainer PlanBody :=
  match shape with
  | .singleValue b => .ok (.singleValue b)
  | .singleValueForEnum s => .ok (.singleValueForEnum s.name (s.fields.map (·.info)))
  | .keyed s =>
    let w := s.walk style
    match w.missing with
    | some name => .error ⟨name⟩
    | none => .ok (.keyed w.containers (w.steps d))

/-- The plan of one procedure of a type. -/
def CodableType.plan (t : CodableType) (d : Direction) (style : VariableStyle) :
    Except MissingContainer CodecPlan := do
  return ⟨t.typeName, d, t.isPublic, ← t.shape.planBody d style⟩

end CodecForge
