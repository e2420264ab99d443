/-
  CodecForge — operations on an encoder.

  A program writes to one encoder: it asks for the container at the top and for containers
  inside others, whose handles it keeps, and writes through any handle it has, or the one
  value.

  * `perform` is one operation, `after` the state that operations, refused or not, lead to;
  * `Performed` lists what an operation comes to: a handle of a container that is open or is
    opened now, a value written in a cell or as the one value, or a failure, and then the
    state is what it was (`performed_perform`);
  * `failed_unchanged`: so an operation that fails is as if it had not been tried.
-/
import CodecForge.Coding.Encode
import CodecForge.Proofs.Coding.Cells

namespace CodecForge.Coding

/-- An operation on an encoder.  A handle is named by its position among those that have
    been obtained. -/
inductive Operation where
  | container
  | nested (handle : Nat) (key : String)
  | put (handle : Nat) (v : Value) (key : String)
  | putIfPresent (handle : Nat) (v : Value) (key : String)
  | putSingle (v : Value)
  | putNull
deriving Repr

/-- An encoder with the handles that have been obtained. -/
structure Writing where
  encoder : Encoder
  handles : List KeyedHandle := []
deriving Repr

namespace Operation

/-- The handle that an operation goes through. -/
def handle? : Operation → Option Nat
  | nested i _ | put i _ _ | putIfPresent i _ _ => some i
  | _ => none

/-- The value that is written through a handle, and under which key. -/
def writes? : Operation → Option (Nat × Value × String)
  | put i v key => some (i, v, key)
  | putIfPresent i v key => if v.isNull then none else some (i, v, key)
  | _ => none

theorem handle?_of_writes? {op : Operation} {i : Nat} {v : Value} {key : String}
    (h : op.writes? = some (i, v, key)) : op.handle? = some i := by
  cases op with
  | put i' v' key' =>
    cases h
    rfl
  | putIfPresent i' v' key' =>
    cases (Option.ite_none_left_eq_some.1 h).2
    rfl
  | _ => cases h

/-! ## Running -/

/-- Keeps the handle that a program gives. -/
def opening (m : EncoderM KeyedHandle) : EStateM Failure Writing Unit := fun w =>
  match m w.encoder with
  | .ok h e => .ok () ⟨e, w.handles ++ [h]⟩
  | .error f e => .error f ⟨e, w.handles⟩

def writing (m : EncoderM Unit) : EStateM Failure Writing Unit := fun w =>
  match m w.encoder with
  | .ok () e => .ok () ⟨e, w.handles⟩
  | .error f e => .error f ⟨e, w.handles⟩

/-- Goes on with a handle; nothing is done where there is none. -/
def through (i : Nat) (next : KeyedHandle → EStateM Failure Writing Unit) :
    EStateM Failure Writing Unit := fun w =>
  match w.handles[i]? with
  | some h => next h w
  | none => .ok () w

/-- Performs an operation. -/
def perform (enc : Encoding) : Operation → EStateM Failure Writing Unit
  | container => opening EncoderM.keyed
  | nested i key => through i fun h => opening (h.nested key)
  | put i v key => through i fun h => writing (h.put enc v key)
  | putIfPresent i v key => through i fun h => writing (h.putIfPresent enc v key)
  | putSingle v => writing (Coding.putSingle enc v)
  | putNull => writing (EncoderM.setSingle .null)

end Operation

namespace Writing

/-- The state after an operation, refused or not. -/
def step (enc : Encoding) (w : Writing) (op : Operation) : Writing :=
  match op.perform enc w with
  | .ok _ w' | .error _ w' => w'

/-- The state after operations on a new encoder. -/
def after (enc : Encoding) (path : CodingPath) (ops : List Operation) : Writing :=
  ops.foldl (step enc) ⟨⟨path, none, []⟩, []⟩

/-- The state with a further handle. -/
def keep (w : Writing) (h : KeyedHandle) : Writing := { w with handles := w.handles ++ [h] }

/-! ## Outcomes -/

/-- What an operation comes to. -/
inductive Performed (enc : Encoding) (w : Writing) :
    Operation → EStateM.Result Failure Writing Unit → Prop
  /-- there is no such handle -/
  | unknown {op : Operation} {i : Nat} (hop : op.handle? = some i) (hh : w.handles[i]? = none) :
      Performed enc w op (.ok () w)
  /-- there is nothing to write -/
  | skipped {i : Nat} {v : Value} {key : String} (hv : v.isNull = true) :
      Performed enc w (.putIfPresent i v key) (.ok () w)
  | failed (op : Operation) (f : Failure) : Performed enc w op (.error f w)
  /-- the container at the top is open -/
  | top {n : Nat} (hcontent : w.encoder.content = some (.cell n)) :
      Performed enc w .container (.ok () (w.keep ⟨n, w.encoder.path⟩))
  /-- the container at the top is opened, from what is done of it -/
  | topOpened {es : List (Value × Value)}
      (hcontent : w.encoder.content = none ∧ es = [] ∨
        w.encoder.content = some (.done (.dict es))) :
      Performed enc w .container (.ok () ⟨{ w.encoder.push (Cell.ofEntries es) with
        content := some (.cell w.encoder.cells.length) },
        w.handles ++ [⟨w.encoder.cells.length, w.encoder.path⟩]⟩)
  /-- the container under a key is open -/
  | inner {i : Nat} {h : KeyedHandle} {key : String} {n : Nat} (hh : w.handles[i]? = some h)
      (hslot : w.encoder.slot h.cell key = some (.cell n)) :
      Performed enc w (.nested i key) (.ok () (w.keep ⟨n, h.path ++ [key]⟩))
  /-- the container under a key is opened, from what is done of it -/
  | innerOpened {i : Nat} {h : KeyedHandle} {key : String} {es : List (Value × Value)}
      (hh : w.handles[i]? = some h)
      (hslot : w.encoder.slot h.cell key = none ∧ es = [] ∨
        w.encoder.slot h.cell key = some (.done (.dict es))) :
      Performed enc w (.nested i key)
        (.ok () ⟨w.encoder.openAt h.cell key es,
          w.handles ++ [⟨w.encoder.cells.length, h.path ++ [key]⟩]⟩)
  /-- a value is written through a handle -/
  | written {op : Operation} {i : Nat} {h : KeyedHandle} {v r : Value} {key : String}
      (hop : op.writes? = some (i, v, key)) (hh : w.handles[i]? = some h)
      (henc : enc v (h.path ++ [key]) = .ok r) :
      Performed enc w op (.ok () ⟨w.encoder.write h.cell key (.done r), w.handles⟩)
  /-- the one value is written -/
  | single {op : Operation} {r : Value}
      (hop : op = .putNull ∧ r = .null ∨ ∃ v, op = .putSingle v ∧ enc v w.encoder.path = .ok r)
      (hcontent : w.encoder.content = none) :
      Performed enc w op (.ok () ⟨{ w.encoder with content := some (.done r) }, w.handles⟩)

theorem performed_container (enc : Encoding) (w : Writing) :
    Performed enc w .container (Operation.container.perform enc w) := by
  obtain ⟨⟨path, content, cells⟩, handles⟩ := w
  cases content with
  | none => exact .topOpened (.inl ⟨rfl, rfl⟩)
  | some s =>
    cases s with
    | cell n => exact .top rfl
    | done v =>
      cases v with
      | dict es => exact .topOpened (.inr rfl)
      | _ => exact .failed _ _

variable {enc : Encoding} {w : Writing}

theorem performed_through {op : Operation} {i : Nat}
    {next : KeyedHandle → EStateM Failure Writing Unit} (hop : op.handle? = some i)
    (hnext : ∀ h, w.handles[i]? = some h → Performed enc w op (next h w)) :
    Performed enc w op (Operation.through i next w) := by
  unfold Operation.through
  cases hh : w.handles[i]? with
  | none => exact .unknown hop hh
  | some h => exact hnext h hh

theorem performed_nested {i : Nat} {h : KeyedHandle} (hh : w.handles[i]? = some h)
    (key : String) : Performed enc w (.nested i key) (Operation.opening (h.nested key) w) := by
  cases hslot : w.encoder.slot h.cell key with
  | none =>
    rw [Operation.opening, h.nested_of_none hslot]
    exact .innerOpened hh (.inl ⟨hslot, rfl⟩)
  | some s =>
    cases s with
    | cell n =>
      rw [Operation.opening, h.nested_of_cell hslot]
      exact .inner hh hslot
    | done v =>
      rw [Operation.opening, h.nested_of_done hslot]
      cases v with
      | dict es => exact .innerOpened hh (.inr hslot)
      | _ => exact .failed _ _

theorem performed_put {op : Operation} {i : Nat} {h : KeyedHandle} {v : Value} {key : String}
    (hop : op.writes? = some (i, v, key)) (hh : w.handles[i]? = some h) :
    Performed enc w op (Operation.writing (h.put enc v key) w) := by
  unfold Operation.writing KeyedHandle.put
  cases henc : enc v (h.path ++ [key]) with
  | ok r => exact .written hop hh henc
  | error f => exact .failed _ _

theorem performed_putIfPresent {i : Nat} {h : KeyedHandle} {v : Value} {key : String}
    (hh : w.handles[i]? = some h) :
    Performed enc w (.putIfPresent i v key)
      (Operation.writing (h.putIfPresent enc v key) w) := by
  unfold KeyedHandle.putIfPresent
  split
  · next hv => exact .skipped hv
  · next hv => exact performed_put (if_neg hv) hh

theorem performed_setSingle {op : Operation} {r : Value}
    (hop : op = .putNull ∧ r = .null ∨ ∃ v, op = .putSingle v ∧ enc v w.encoder.path = .ok r) :
    Performed enc w op (Operation.writing (EncoderM.setSingle r) w) := by
  obtain ⟨⟨path, content, cells⟩, handles⟩ := w
  cases content with
  | none => exact .single hop rfl
  | some s => exact .failed _ _

theorem performed_putSingle (v : Value) :
    Performed enc w (.putSingle v) (Operation.writing (putSingle enc v) w) := by
  cases henc : enc v w.encoder.path with
  | ok r =>
    have heq : Operation.writing (putSingle enc v) w =
        Operation.writing (EncoderM.setSingle r) w := by
      simp [Operation.writing, putSingle, bind, EStateM.bind, get, getThe, MonadStateOf.get,
        EStateM.get, henc]
    rw [heq]
    exact performed_setSingle (.inr ⟨v, rfl, henc⟩)
  | error f =>
    have heq : Operation.writing (putSingle enc v) w = .error f w := by
      simp [Operation.writing, putSingle, bind, EStateM.bind, get, getThe, MonadStateOf.get,
        EStateM.get, henc, throw, throwThe, MonadExceptOf.throw, EStateM.throw]
    rw [heq]
    exact .failed _ _

/-- **What operations come to.** -/
theorem performed_perform (enc : Encoding) (w : Writing) (op : Operation) :
    Performed enc w op (op.perform enc w) := by
  cases op with
  | container => exact performed_container enc w
  | nested i key => exact performed_through rfl fun h hh => performed_nested hh key
  | put i v key => exact performed_through rfl fun h hh => performed_put rfl hh
  | putIfPresent i v key => exact performed_through rfl fun h hh => performed_putIfPresent hh
  | putSingle v => exact performed_putSingle v
  | putNull => exact performed_setSingle (.inl ⟨rfl, rfl⟩)

/-! ## Failures -/

/-- An operation that fails leaves the state as it was. -/
theorem eq_of_perform_error {op : Operation} {f : Failure} {w' : Writing}
    (h : op.perform enc w = .error f w') : w' = w := by
  have hperformed := performed_perform enc w op
  rw [h] at hperformed
  cases hperformed
  rfl

theorem step_of_error {op : Operation} {f : Failure} {w' : Writing}
    (h : op.perform enc w = .error f w') : w.step enc op = w := by
  rw [step, h]
  exact eq_of_perform_error h

/-- **Failing operations change nothing.**  Whatever has been done with an encoder before, an
    operation that fails leaves the representation as it was, and all that is done later
    comes to the same as if it had not been tried. -/
theorem failed_unchanged (c : Context) (path : CodingPath) (ops : List Operation) {op : Operation}
    {f : Failure} {w' : Writing}
    (h : op.perform (encodeValue c) (after (encodeValue c) path ops) = .error f w') :
    w'.encoder.value = (after (encodeValue c) path ops).encoder.value ∧
      ∀ later, after (encodeValue c) path (ops ++ op :: later) =
        after (encodeValue c) path (ops ++ later) := by
  refine ⟨by rw [eq_of_perform_error h], fun later => ?_⟩
  have hstep : (ops.foldl (step (encodeValue c)) ⟨⟨path, none, []⟩, []⟩).step (encodeValue c) op =
      ops.foldl (step (encodeValue c)) ⟨⟨path, none, []⟩, []⟩ := step_of_error h
  rw [after, after, List.foldl_append, List.foldl_append, List.foldl_cons, hstep]

/-- A procedure that fails when it has opened two containers and written one of two values. -/
def halfWay : EncodeProcedure where
  name := "half_way"
  run enc _ := do
    let top ← EncoderM.keyed
    let inner ← top.nested "inner"
    inner.put enc (.int 1) "y"
    inner.put enc (.record "Opaque" []) "z"

/-- Records of a class that is written by it. -/
def halfContext : Context := ⟨[], [("Half", { encode? := some halfWay })]⟩

/-- A record is written over a number, and fails half-way. -/
theorem failed_unchanged_halfWay :
    ∃ f w', (Operation.put 0 (.record "Half" []) "a").perform (encodeValue halfContext)
        (after (encodeValue halfContext) ["body"] [.container, .put 0 (.int 5) "a"]) =
          .error f w' ∧
      f = .at (.noCodec "Opaque") ["body", "a", "inner", "z"] ∧
      w'.encoder.value = .dict [(.str "a", .int 5)] := by
  have hfail : (Operation.put 0 (.record "Half" []) "a").perform (encodeValue halfContext)
      (after (encodeValue halfContext) ["body"] [.container, .put 0 (.int 5) "a"]) =
        .error (.at (.noCodec "Opaque") ["body", "a", "inner", "z"])
          ⟨⟨["body"], some (.cell 0), [[(.str "a", .done (.int 5))]]⟩, [⟨0, ["body"]⟩]⟩ := rfl
  exact ⟨_, _, hfail, rfl, (failed_unchanged halfContext ["body"] _ hfail).1.trans rfl⟩

end Writing

end CodecForge.Coding
