/-
  CodecForge — what a keyed type asks of data.

  A schema fixes what is looked for in data, and in which order: the data must be an
  object, then each group must be one, then each leaf that is not conditional must be
  there.

  * `Demand` is one of these, `Schema.demands` are all of a schema in order;
  * `Demand.fault?` is the error for data that do not meet a demand, `firstFault?` the
    error for the first demand that is not met;
  * `Schema.Accepts` says when data meet all demands of a schema (`accepts_iff`).
-/
import CodecForge.Coding.Procedure
import CodecForge.Proofs.Plan.Separated

namespace CodecForge

namespace Coding

/-! ## Places in data -/

namespace Value

/-- The entries of a dictionary. -/
def asDict? : Value → Option (List (Value × Value))
  | .dict es => some es
  | _ => none

/-- The entries at the top of a representation, or under a key at the top. -/
def dictAt? (data : Value) : Option String → Option (List (Value × Value))
  | none => data.asDict?
  | some key => (data.asDict?.bind (lookup (.str key))).bind asDict?

/-- What stands at a place: under a key at the top, or in the dictionary of a group. -/
def leafAt? (data : Value) (place : Option String × String) : Option Value :=
  (data.dictAt? place.1).bind (lookup (.str place.2))

theorem asDict?_eq_some {v : Value} {es : List (Value × Value)} :
    v.asDict? = some es ↔ v = .dict es := by
  cases v <;> simp [asDict?]

theorem dictAt?_some (data : Value) (key : String) :
    data.dictAt? (some key) = (data.leafAt? (none, key)).bind asDict? := rfl

theorem leafAt?_of_dictAt? {data : Value} {holder : Option String} {es : List (Value × Value)}
    (h : data.dictAt? holder = some es) (key : String) :
    data.leafAt? (holder, key) = lookup (.str key) es := by
  rw [leafAt?, h, Option.bind_some]

end Value

/-! ## Demands -/

/-- What data must have: an object at the top, an object under the key of a group, or a
    value at the place of a leaf. -/
inductive Demand where
  | root
  | group (key : String)
  | leaf (place : Option String × String)
deriving DecidableEq, Repr

/-- The error for a value that is not an object. -/
def objectFault? (v : Value) (path : CodingPath) : Option CodingError :=
  match v with
  | .dict _ => none
  | v => some ⟨.typeMismatch "dict" v.className, path⟩

/-- The error for data that do not meet a demand, at the path of what is at fault, or of
    the container that lacks a key. -/
def Demand.fault? (data : Value) (path : CodingPath) : Demand → Option CodingError
  | .root => objectFault? data path
  | .group key =>
    match data.leafAt? (none, key) with
    | none => some ⟨.keyNotFound key, path⟩
    | some v => objectFault? v (path ++ [key])
  | .leaf place =>
    match data.leafAt? place with
    | none => some ⟨.keyNotFound place.2, path ++ place.1.toList⟩
    | some _ => none

/-- The error for the first demand that data do not meet. -/
def firstFault? (data : Value) (path : CodingPath) (ds : List Demand) : Option CodingError :=
  ds.findSome? (·.fault? data path)

theorem firstFault?_cons (data : Value) (path : CodingPath) (d : Demand) (ds : List Demand) :
    firstFault? data path (d :: ds) = (d.fault? data path).or (firstFault? data path ds) :=
  findSome?_cons_or _ d ds

theorem firstFault?_append (data : Value) (path : CodingPath) (ds ds' : List Demand) :
    firstFault? data path (ds ++ ds') =
      (firstFault? data path ds).or (firstFault? data path ds') :=
  List.findSome?_append

theorem firstFault?_filterMap_cons {α : Type} (data : Value) (path : CodingPath)
    (f : α → Option Demand) (x : α) (xs : List α) :
    firstFault? data path ((x :: xs).filterMap f) =
      ((f x).bind (·.fault? data path)).or (firstFault? data path (xs.filterMap f)) := by
  rw [List.filterMap_cons]
  cases f x with
  | none => rfl
  | some d => exact firstFault?_cons data path d _

theorem firstFault?_eq_none {data : Value} {path : CodingPath} {ds : List Demand} :
    firstFault? data path ds = none ↔ ∀ d ∈ ds, d.fault? data path = none :=
  List.findSome?_eq_none_iff

theorem objectFault?_eq_none {v : Value} {path : CodingPath} :
    objectFault? v path = none ↔ ∃ es, v = .dict es := by
  cases v <;> simp [objectFault?]

theorem fault?_group_eq_none {data : Value} {path : CodingPath} {key : String} :
    (Demand.group key).fault? data path = none ↔
      ∃ es, data.leafAt? (none, key) = some (.dict es) := by
  rw [Demand.fault?]
  cases data.leafAt? (none, key) with
  | none => simp
  | some v => simp [objectFault?_eq_none]

theorem fault?_leaf_eq_none {data : Value} {path : CodingPath}
    {place : Option String × String} :
    (Demand.leaf place).fault? data path = none ↔ ∃ v, data.leafAt? place = some v := by
  rw [Demand.fault?]
  cases data.leafAt? place <;> simp

end Coding

open Coding

/-! ## Demands of schemas -/

/-- What a schema asks of data, in the order in which it is looked for. -/
def Schema.demands (s : Schema) : List Demand :=
  .root :: (s.groups.map fun g => .group g.1.key) ++ s.flattened.filterMap fun p =>
    if p.1.conditional then none else some (.leaf (leafPlace p))

/-- Data that have all that a schema asks for. -/
structure Schema.Accepts (s : Schema) (data : Value) : Prop where
  object : ∃ es, data = .dict es
  groups : ∀ g ∈ s.groups, ∃ es, data.leafAt? (none, g.1.key) = some (.dict es)
  leaves : ∀ p ∈ s.flattened, p.1.conditional = false → ∃ v, data.leafAt? (leafPlace p) = some v

theorem accepts_iff {s : Schema} {data : Value} (path : CodingPath) :
    s.Accepts data ↔ firstFault? data path s.demands = none := by
  simp only [firstFault?_eq_none, Schema.demands, List.cons_append, List.forall_mem_cons,
    List.forall_mem_append, List.forall_mem_map]
  rw [Demand.fault?, objectFault?_eq_none]
  constructor
  · intro h
    refine ⟨h.object, fun g hg => fault?_group_eq_none.2 (h.groups g hg), fun d hd => ?_⟩
    obtain ⟨p, hp, hd⟩ := List.mem_filterMap.1 hd
    cases hc : p.1.conditional with
    | true => simp [hc] at hd
    | false =>
      simp only [hc, Bool.false_eq_true, if_false, Option.some.injEq] at hd
      rw [← hd, fault?_leaf_eq_none]
      exact h.leaves p hp hc
  · rintro ⟨hobject, hgroups, hleaves⟩
    refine ⟨hobject, fun g hg => fault?_group_eq_none.1 (hgroups g hg), fun p hp hc => ?_⟩
    refine fault?_leaf_eq_none.1 (hleaves _ (List.mem_filterMap.2 ⟨p, hp, ?_⟩))
    rw [hc]
    rfl

/-! ## Demands of plans -/

/-- What opening a container below the root asks for. -/
def Container.demand? (c : Container) : Option Demand := c.key.map .group

/-- What reading a leaf asks for. -/
def FieldStep.demand? (st : FieldStep) : Option Demand :=
  if st.field.conditional then none else some (.leaf st.place)

/-- What a plan with containers below the root and with steps asks for, in order. -/
def planDemands (nested : List Container) (steps : List FieldStep) : List Demand :=
  .root :: nested.filterMap (·.demand?) ++ steps.filterMap (·.demand?)

/-- A plan asks for what its schema does. -/
theorem planDemands_eq {s : Schema} (hs : s.Regular)
    (hnames : (s.fields.map (·.info.localName)).Nodup) {d : Direction} {style : VariableStyle}
    {steps : List FieldStep}
    (h : List.Forall₂ (fun p st => FieldStep.IsFor st s d style p) s.flattened steps) :
    planDemands (groupContainers style s s.takenNames s.groups) steps = s.demands := by
  have hgroups : (groupContainers style s s.takenNames s.groups).filterMap (·.demand?) =
      s.groups.map fun g => .group g.1.key := by
    have hkeys := congrArg (List.filterMap (Option.map Demand.group))
      (keys_groupContainers style s s.groups s.takenNames)
    rw [List.filterMap_map, List.filterMap_map] at hkeys
    rw [← List.filterMap_eq_map]
    exact hkeys
  have hsteps : steps.map (·.demand?) = s.flattened.map fun p =>
      if p.1.conditional then none else some (.leaf (leafPlace p)) := by
    refine map_eq_of_forall₂ h fun p hp st hst => ?_
    rw [FieldStep.demand?, hst.field, (place_of_isFor hs hnames hp hst).2]
  have hleaves := congrArg (List.filterMap id) hsteps
  rw [List.filterMap_map, List.filterMap_map] at hleaves
  rw [planDemands, Schema.demands, hgroups]
  exact congrArg (_ ++ ·) hleaves

end CodecForge
