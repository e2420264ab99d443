/-
  CodecForge — what a separated plan reads.

  * `Adapters.Faithful` says that adapters write no null and read back what they wrote;
    then a step makes the value of its leaf of what it stored (`incoming_stored`);
  * `Answers` says of a procedure that it stops at a fault, or goes on if there is none;
    what it opens is the dictionary of each container (`open_answers`), and what a step
    reads is what stands at its place (`readStep_answers`);
  * `read_answers`: a plan stops at the first demand that data do not meet, and otherwise
    reads what stands at the places of its leaves;
  * `read_of_separated`: hence from data with what its steps stored it reads the values of
    all leaves.
-/
import CodecForge.Proofs.Coding.JsonValue
import CodecForge.Proofs.Coding.Writing

namespace CodecForge.Coding

/-! ## Adapters -/

/-- Adapters that keep JSON values: what they write is JSON, never null, and read back. -/
structure Adapters.Faithful (a : Adapters) : Prop where
  isJson : ∀ t {v : Value}, v.IsJson → (a.written t v).IsJson
  notNull : ∀ t {v : Value}, v.IsJson → (a.written t v).isNull = false
  restored : ∀ t {v : Value}, v.IsJson → a.restored t (a.written t v) = v

namespace Adapters

variable (a : Adapters) (st : FieldStep) (v : Value)

/-- The value that a step makes of what it was given. -/
def incoming : Value :=
  match st.transform with
  | none => v
  | some t => if st.field.conditional && v.isNull then .null else a.restored t v

theorem decoded_eq : a.decoded st v = .ok (a.incoming st v) := by
  unfold decoded incoming transformValue
  cases st.transform with
  | none => rfl
  | some t => cases st.field.conditional <;> cases v.isNull <;> rfl

variable {a} {v}

theorem Faithful.outgoing_isJson (ha : a.Faithful) (hv : v.IsJson) : (a.outgoing st v).IsJson := by
  unfold outgoing
  split
  · exact hv
  · split
    · exact .null
    · exact ha.isJson _ hv

/-- A step that stores nothing has a null. -/
theorem Faithful.incoming_stored (ha : a.Faithful) (hv : v.IsJson) :
    a.incoming st ((a.stored? st v).getD .null) = v := by
  unfold incoming stored? outgoing
  cases st.transform with
  | none =>
    dsimp only
    split
    · next h =>
      rw [Bool.and_eq_true] at h
      rw [Value.eq_null h.2]
      rfl
    · rfl
  | some t =>
    cases st.field.conditional with
    | false => simp [ha.restored t hv]
    | true =>
      cases hn : v.isNull with
      | true => simp [Value.eq_null hn, Value.isNull]
      | false => simp [ha.notNull t hv, ha.restored t hv]

end Adapters

/-- Without a hint data is taken as it is. -/
theorem decodeValue_untyped (c : Context) (v : Value) (path : CodingPath) :
    decodeValue c .untyped v path = .ok v := by
  rw [decodeValue, codecDepth, decodingAt, decodeWith]

/-! ## Answers -/

/-- A procedure stops at a fault, or it goes on, if there is none, with what satisfies `P`. -/
def Answers {α : Type} (x : Except ProcedureFailure α) (fault : Option CodingError)
    (P : α → Prop) : Prop :=
  match fault with
  | some e => x = .error (.failed (.coding e))
  | none => ∃ v, x = .ok v ∧ P v

theorem Answers.bind {α β : Type} {x : Except ProcedureFailure α}
    {f : α → Except ProcedureFailure β} {fault fault' : Option CodingError} {P : α → Prop}
    {Q : β → Prop} (hx : Answers x fault P) (hf : ∀ v, P v → Answers (f v) fault' Q) :
    Answers (x >>= f) (fault.or fault') Q := by
  cases fault with
  | some e =>
    have hx : x = .error (.failed (.coding e)) := hx
    rw [hx]
    rfl
  | none =>
    obtain ⟨v, rfl, hv⟩ := hx
    exact hf v hv

/-! ## Opening -/

variable {data : Value} {path : CodingPath}

theorem keyedData_answers (v : Value) (path : CodingPath) :
    Answers ((keyedData v path).mapError .failed) (objectFault? v path)
      fun d => v.asDict? = some d.entries ∧ d.path = path := by
  cases v with
  | dict es => exact ⟨⟨es, path⟩, rfl, rfl, rfl⟩
  | _ => rfl

theorem nested_answers {d : KeyedData} (hd : data.dictAt? none = some d.entries)
    (hpath : d.path = path) (key : String) :
    Answers ((d.nested key).mapError .failed) ((Demand.group key).fault? data path)
      fun d' => data.dictAt? (some key) = some d'.entries ∧ d'.path = path ++ [key] := by
  have hfind : d.find key = data.leafAt? (none, key) := (Value.leafAt?_of_dictAt? hd key).symm
  rw [KeyedData.nested, hfind, Demand.fault?, Value.dictAt?_some, hpath]
  cases data.leafAt? (none, key) with
  | none => rfl
  | some v => exact keyedData_answers v (path ++ [key])

/-- The dictionary of each container is bound to its variable. -/
def ReadsFrom (data : Value) (path : CodingPath) (cs : List Container)
    (frame : Frame KeyedData) : Prop :=
  ∀ c ∈ cs, ∃ d : KeyedData, Entries.get? c.variable_ frame = some d ∧
    data.dictAt? c.key = some d.entries ∧ d.path = path ++ c.key.toList

/-- What a reading procedure opens. -/
abbrev openForReading (data : Value) (path : CodingPath) :
    Frame KeyedData → List Container → Except ProcedureFailure (Frame KeyedData) :=
  openAll ((keyedData data path).mapError .failed) fun d key => (d.nested key).mapError .failed

variable {root : Container} {nested : List Container} {steps : List FieldStep}

theorem openAll_answers (hroot : root.key = none) (nested : List Container) :
    ∀ (opened : List Container) {frame : Frame KeyedData}, (∀ c ∈ nested, c.IsIn root) →
      ((root :: opened ++ nested).map (·.variable_)).Nodup →
      ReadsFrom data path (root :: opened) frame →
      Answers (openForReading data path frame nested)
        (firstFault? data path (nested.filterMap (·.demand?)))
        (ReadsFrom data path (root :: opened ++ nested)) := by
  induction nested with
  | nil =>
    intro opened frame _ _ h
    exact ⟨frame, rfl, by simpa using h⟩
  | cons c nested ih =>
    intro opened frame hin hvars h
    obtain ⟨hparent, key, hkey⟩ := hin c List.mem_cons_self
    have hsplit : root :: opened ++ c :: nested = root :: (opened ++ [c]) ++ nested := by simp
    obtain ⟨d, hbound, hd, hpath⟩ := h root List.mem_cons_self
    have hrun : openForReading data path frame (c :: nested) =
        ((d.nested key).mapError .failed >>= fun d' =>
          openForReading data path (Entries.put c.variable_ d' frame) nested) := by
      rw [openForReading, openAll, hparent, hkey]
      dsimp only
      rw [Frame.bound, hbound]
      rfl
    rw [hroot] at hd hpath
    rw [hrun, firstFault?_filterMap_cons, Container.demand?, hkey, hsplit]
    refine (nested_answers hd (by simpa using hpath) key).bind fun d' hd' => ?_
    refine ih (opened ++ [c]) (fun c' hc' => hin c' (List.mem_cons_of_mem _ hc'))
      (hsplit ▸ hvars) ?_
    exact forall_bound_put h (notMem_map_of_nodup hvars).1 (by rw [hkey]; exact hd')

theorem open_answers (h : Separated root nested steps) :
    Answers (openForReading data path [] (root :: nested))
      (firstFault? data path (.root :: nested.filterMap (·.demand?)))
      (ReadsFrom data path (root :: nested)) := by
  rw [firstFault?_cons, Demand.fault?, openForReading, openAll, h.rootParent]
  refine (keyedData_answers data path).bind fun d hd => ?_
  refine openAll_answers h.rootKey nested [] h.isIn h.variableNames ?_
  rintro c hc
  obtain rfl := List.mem_singleton.1 hc
  refine ⟨d, Entries.get?_put_self .., ?_⟩
  rw [h.rootKey]
  exact ⟨hd.1, by simpa using hd.2⟩

/-! ## Steps -/

variable {a : Adapters} {dec : Decoding} {values : String → Value} {frame : Frame KeyedData}

/-- The value that a step makes of what stands at its place, or of null. -/
abbrev readBy (a : Adapters) (data : Value) (st : FieldStep) : Value :=
  a.incoming st ((data.leafAt? st.place).getD .null)

theorem readStep_answers (hdec : ∀ v path, dec .untyped v path = .ok v) {st : FieldStep}
    {d : KeyedData} (hbound : Entries.get? st.container.variable_ frame = some d)
    (hd : data.dictAt? st.container.key = some d.entries)
    (hpath : d.path = path ++ st.container.key.toList) :
    Answers (readStep a dec frame st) (st.demand?.bind (·.fault? data path))
      (· = readBy a data st) := by
  have hfind : d.find st.field.key = data.leafAt? st.place :=
    (Value.leafAt?_of_dictAt? hd st.field.key).symm
  rw [readStep, Frame.bound, hbound, readBy, FieldStep.demand?]
  dsimp only [bind, Except.bind, pure, Except.pure]
  rw [KeyedData.getIfPresent, KeyedData.get, hfind, hpath]
  cases hleaf : data.leafAt? st.place with
  | none =>
    have hfault : (Demand.leaf st.place).fault? data path =
        some ⟨.keyNotFound st.field.key, path ++ st.container.key.toList⟩ := by
      rw [Demand.fault?, hleaf]
      rfl
    cases st.field.conditional with
    | true => exact ⟨_, by simp [a.decoded_eq, Except.mapError], rfl⟩
    | false => simp [Answers, hfault, Failure.at, Except.mapError]
  | some v =>
    have hfault : (Demand.leaf st.place).fault? data path = none :=
      fault?_leaf_eq_none.2 ⟨v, hleaf⟩
    cases st.field.conditional with
    | true => cases v <;> exact ⟨_, by simp [hdec, a.decoded_eq, Except.mapError], rfl⟩
    | false => simp [Answers, hfault, hdec, a.decoded_eq, Except.mapError]

theorem readSteps_answers (hdec : ∀ v path, dec .untyped v path = .ok v) (cs : List Container)
    (hframe : ReadsFrom data path cs frame) (hmem : ∀ st ∈ steps, st.container ∈ cs) :
    Answers (readSteps a dec frame steps)
      (firstFault? data path (steps.filterMap (·.demand?)))
      (· = steps.map fun st => (st.field.localName, readBy a data st)) := by
  induction steps with
  | nil => exact ⟨[], rfl, rfl⟩
  | cons st steps ih =>
    obtain ⟨d, hbound, hd, hpath⟩ := hframe st.container (hmem st List.mem_cons_self)
    rw [firstFault?_filterMap_cons, readSteps]
    refine (readStep_answers hdec hbound hd hpath).bind fun v hv => ?_
    rw [← Option.or_none (o := firstFault? data path (steps.filterMap (·.demand?)))]
    refine (ih fun st' hst' => hmem st' (List.mem_cons_of_mem _ hst')).bind fun vs hvs => ?_
    exact ⟨_, rfl, by rw [hv, hvs, List.map_cons]⟩

/-- **What a separated plan reads.**  It stops at the first demand that data do not meet,
    and otherwise takes for each leaf what stands at its place. -/
theorem read_answers (h : Separated root nested steps) {p : CodecPlan}
    (hcontainers : p.containers = root :: nested) (hsteps : p.steps = steps)
    (hdec : ∀ v path, dec .untyped v path = .ok v) (data : Value) (path : CodingPath) :
    Answers (p.read a dec data path) (firstFault? data path (planDemands nested steps))
      (· = steps.map fun st => (st.field.localName, readBy a data st)) := by
  rw [CodecPlan.read, hcontainers, hsteps, planDemands, firstFault?_append]
  exact (open_answers h).bind fun frame hframe => readSteps_answers hdec _ hframe h.mem

/-! ## What was written -/

/-- What the steps of a container stored stands at their places. -/
theorem leafAt?_of_represents {cs : List Container} {stored : FieldStep → Option Value}
    (hdata : Represents data cs steps stored) {st : FieldStep} (hst : st ∈ steps)
    (hmem : st.container ∈ cs) : data.leafAt? st.place = stored st := by
  obtain ⟨es, hes, hlookup⟩ := hdata st.container hmem
  rw [← hlookup st hst rfl]
  exact Value.leafAt?_of_dictAt? hes st.field.key

/-- Data with what the steps of a plan stored meet the demands of the plan. -/
theorem firstFault?_of_represents (h : Separated root nested steps)
    (hdata : Represents data (root :: nested) steps (storedBy a values)) (path : CodingPath) :
    firstFault? data path (planDemands nested steps) = none := by
  simp only [firstFault?_eq_none, planDemands, List.cons_append, List.forall_mem_cons,
    List.forall_mem_append, List.forall_mem_filterMap]
  refine ⟨?_, fun c hc d hd => ?_, fun st hst d hd => ?_⟩
  · obtain ⟨es, hes, -⟩ := hdata root List.mem_cons_self
    rw [h.rootKey] at hes
    exact objectFault?_eq_none.2 ⟨es, Value.asDict?_eq_some.1 hes⟩
  · obtain ⟨key, hkey⟩ := (h.isIn c hc).key
    obtain ⟨es, hes, -⟩ := hdata c (List.mem_cons_of_mem _ hc)
    rw [Container.demand?, hkey] at hd
    cases hd
    rw [hkey, Value.dictAt?_some] at hes
    obtain ⟨v, hv, hes⟩ := Option.bind_eq_some_iff.1 hes
    exact fault?_group_eq_none.2 ⟨es, hv.trans (by rw [Value.asDict?_eq_some.1 hes])⟩
  · have hstored := leafAt?_of_represents hdata hst (h.mem st hst)
    unfold FieldStep.demand? at hd
    unfold storedBy Adapters.stored? at hstored
    cases hc : st.field.conditional with
    | true => simp [hc] at hd
    | false =>
      simp only [hc, Bool.false_eq_true, if_false, Option.some.injEq] at hd
      simp only [hc, Bool.false_and, Bool.false_eq_true, if_false] at hstored
      rw [← hd]
      exact fault?_leaf_eq_none.2 ⟨_, hstored⟩

/-- **A separated plan reads the values of all leaves from what its steps stored.** -/
theorem read_of_separated (h : Separated root nested steps) {p : CodecPlan}
    (hcontainers : p.containers = root :: nested) (hsteps : p.steps = steps) (ha : a.Faithful)
    (hdec : ∀ v path, dec .untyped v path = .ok v)
    (hdata : Represents data (root :: nested) steps (storedBy a values))
    (hvalues : ∀ st ∈ steps, (values st.field.localName).IsJson) (path : CodingPath) :
    p.read a dec data path =
      .ok (steps.map fun st => (st.field.localName, values st.field.localName)) := by
  have hread := read_answers (a := a) h hcontainers hsteps hdec data path
  rw [firstFault?_of_represents h hdata path] at hread
  obtain ⟨vs, hvs, hvalue⟩ := hread
  rw [hvs, hvalue, List.map_congr_left]
  intro st hst
  rw [readBy, leafAt?_of_represents hdata hst (h.mem st hst),
    ha.incoming_stored st (hvalues st hst)]

end CodecForge.Coding
