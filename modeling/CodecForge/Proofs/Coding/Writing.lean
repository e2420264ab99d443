/-
  CodecForge — what a separated plan writes.

  * `Opened`: after a procedure has opened containers, each is a cell with the number of
    its position, the cells are empty, and the first one holds the others under their
    keys.  Opening one more keeps it so (`opened_nested`), hence opening all does
    (`openAll_run`);
  * a step writes to the place it goes to and to no other (`writeStep_run`), whence at
    each place the value of its step is left (`writeSteps_run`);
  * `write_of_separated`: the representation is a dictionary with a dictionary for each
    container, which hold what the steps store.
-/
import CodecForge.Proofs.Coding.Cells
import CodecForge.Proofs.Coding.Collections
import CodecForge.Proofs.Coding.Demands

namespace CodecForge.Coding

/-! ## Running -/

theorem run_bind {α β : Type} {x : WriterM α} {f : α → WriterM β} {e e' : Encoder} {a : α}
    (h : x e = .ok a e') : (x >>= f) e = f a e' := by
  simp only [bind, EStateM.bind, h]

theorem bound_run {κ : Type} {frame : Frame κ} {name : String} {k : κ}
    (h : Entries.get? name frame = some k) (e : Encoder) :
    (frame.bound name : WriterM κ) e = .ok k e := by
  rw [Frame.bound, h]
  rfl

theorem keyed_run (path : CodingPath) :
    inWriter EncoderM.keyed ⟨path, none, []⟩ = .ok ⟨0, path⟩ ⟨path, some (.cell 0), [[]]⟩ :=
  rfl

theorem nested_run {h : KeyedHandle} {key : String} {e : Encoder}
    (hs : e.slot h.cell key = none) :
    inWriter (h.nested key) e = .ok ⟨e.cells.length, h.path ++ [key]⟩
      ((e.push []).write h.cell key (.cell e.cells.length)) := by
  rw [inWriter, EStateM.adaptExcept, h.nested_of_none hs]
  rfl

theorem put_run {h : KeyedHandle} {enc : Encoding} {v r : Value} {key : String}
    (henc : enc v (h.path ++ [key]) = .ok r) (e : Encoder) :
    inWriter (h.put enc v key) e = .ok () (e.write h.cell key (.done r)) := by
  rw [KeyedHandle.put, henc]
  rfl

theorem putIfPresent_run {h : KeyedHandle} {enc : Encoding} {v r : Value} {key : String}
    (henc : enc v (h.path ++ [key]) = .ok r) (e : Encoder) :
    inWriter (h.putIfPresent enc v key) e =
      .ok () (if v.isNull then e else e.write h.cell key (.done r)) := by
  unfold KeyedHandle.putIfPresent
  split
  · rfl
  · exact put_run henc e

/-! ## Opening -/

/-- The containers `cs` are open, each as the cell of its position. -/
structure Opened (e : Encoder) (frame : Frame KeyedHandle) (cs : List Container) : Prop where
  content : e.content = some (.cell 0)
  length : e.cells.length = cs.length
  bound : ∀ c ∈ cs, ∃ h, Entries.get? c.variable_ frame = some h ∧ h.cell = cs.idxOf c
  held : ∀ c ∈ cs, ∀ k, c.key = some k → e.slot 0 k = some (.cell (cs.idxOf c))
  empty : ∀ n k, (n = 0 → some k ∉ cs.map (·.key)) → e.slot n k = none

/-- A container with a variable of its own is bound beside those that are. -/
theorem forall_bound_put {κ : Type} {P : Container → κ → Prop} {frame : Frame κ}
    {cs : List Container} (h : ∀ c' ∈ cs, ∃ k, Entries.get? c'.variable_ frame = some k ∧ P c' k)
    {c : Container} (hvar : c.variable_ ∉ cs.map (·.variable_)) {k : κ} (hk : P c k) :
    ∀ c' ∈ cs ++ [c], ∃ k', Entries.get? c'.variable_ (Entries.put c.variable_ k frame) =
      some k' ∧ P c' k' := by
  intro c' hc'
  rcases List.mem_append.1 hc' with hc' | hc'
  · obtain ⟨k', hbound, hk'⟩ := h c' hc'
    have hne : c.variable_ ≠ c'.variable_ := by
      intro he
      exact hvar (he ▸ List.mem_map_of_mem hc')
    exact ⟨k', by rw [Entries.get?_put_of_ne hne, hbound], hk'⟩
  · rw [List.mem_singleton.1 hc']
    exact ⟨k, Entries.get?_put_self _ _ _, hk⟩

theorem opened_root {root : Container} (hkey : root.key = none) (path : CodingPath) :
    Opened ⟨path, some (.cell 0), [[]]⟩ (Entries.put root.variable_ ⟨0, path⟩ []) [root] where
  content := rfl
  length := rfl
  bound c hc := by
    rw [List.mem_singleton.1 hc]
    exact ⟨_, Entries.get?_put_self _ _ _, by simp⟩
  held c hc k hk := by
    rw [List.mem_singleton.1 hc, hkey] at hk
    cases hk
  empty n k _ := by
    cases n <;> rfl

theorem opened_nested {e : Encoder} {frame : Frame KeyedHandle} {cs : List Container}
    (h : Opened e frame cs) {c : Container} {key : String}
    (hkey : c.key = some key) (hnew : some key ∉ cs.map (·.key))
    (hvar : c.variable_ ∉ cs.map (·.variable_)) (path : CodingPath) :
    Opened ((e.push []).write 0 key (.cell e.cells.length))
      (Entries.put c.variable_ ⟨e.cells.length, path⟩ frame) (cs ++ [c]) := by
  have hc : c ∉ cs := fun hm => hvar (List.mem_map_of_mem hm)
  have hidx : (cs ++ [c]).idxOf c = e.cells.length := by
    rw [List.idxOf_append_of_notMem hc, h.length]
    simp
  have hslot : ∀ n k, ((e.push []).write 0 key (.cell e.cells.length)).slot n k =
      if 0 = n ∧ key = k then some (.cell e.cells.length) else e.slot n k := by
    intro n k
    rw [Encoder.slot_write _ (by simp), Encoder.slot_push_nil]
  have hbound : ∀ c' ∈ cs, ∃ handle, Entries.get? c'.variable_ frame = some handle ∧
      handle.cell = (cs ++ [c]).idxOf c' := by
    intro c' hc'
    obtain ⟨handle, hget, hcell⟩ := h.bound c' hc'
    exact ⟨handle, hget, by rw [hcell, List.idxOf_append_of_mem hc']⟩
  refine ⟨h.content, by simp [h.length], forall_bound_put hbound hvar hidx.symm,
    fun c' hc' k hk => ?_, fun n k hk => ?_⟩
  · rw [hslot]
    rcases List.mem_append.1 hc' with hc' | hc'
    · have hne : key ≠ k := by
        rintro rfl
        exact hnew (List.mem_map.2 ⟨c', hc', hk⟩)
      rw [if_neg fun hand => hne hand.2, h.held c' hc' k hk, List.idxOf_append_of_mem hc']
    · rw [List.mem_singleton.1 hc'] at hk ⊢
      rw [hkey] at hk
      rw [if_pos ⟨rfl, Option.some.inj hk⟩, hidx]
  · rw [List.map_append, List.mem_append, not_or] at hk
    rw [hslot, if_neg, h.empty n k fun hn => (hk hn).1]
    rintro ⟨rfl, rfl⟩
    exact (hk rfl).2 (by simp [hkey])

/-- What a writing procedure opens. -/
abbrev openForWriting : Frame KeyedHandle → List Container → WriterM (Frame KeyedHandle) :=
  openAll (inWriter EncoderM.keyed) fun h key => inWriter (h.nested key)

theorem openAll_run {root : Container} (nested : List Container) :
    ∀ {opened : List Container} {e : Encoder} {frame : Frame KeyedHandle},
      (∀ c ∈ nested, c.IsIn root) →
      ((root :: opened ++ nested).map (·.variable_)).Nodup →
      ((root :: opened ++ nested).map (·.key)).Nodup → Opened e frame (root :: opened) →
      ∃ e' frame', openForWriting frame nested e = .ok frame' e' ∧
        Opened e' frame' (root :: opened ++ nested) := by
  induction nested with
  | nil =>
    intro opened e frame _ _ _ h
    exact ⟨e, frame, rfl, by simpa using h⟩
  | cons c nested ih =>
    intro opened e frame hin hvars hkeys h
    obtain ⟨hparent, key, hkey⟩ := hin c List.mem_cons_self
    have hsplit : root :: opened ++ c :: nested = root :: (opened ++ [c]) ++ nested := by simp
    obtain ⟨handle, hbound, hcell⟩ := h.bound root List.mem_cons_self
    have hzero : handle.cell = 0 := by
      rw [hcell]
      simp
    have hnew : some key ∉ (root :: opened).map (·.key) := hkey ▸ (notMem_map_of_nodup hkeys).1
    have hvar := (notMem_map_of_nodup hvars).1
    have hstep := nested_run (hzero ▸ h.empty 0 key fun _ => hnew)
    rw [hzero] at hstep
    obtain ⟨e', frame', hrun, hopened⟩ := ih (fun c' hc' => hin c' (List.mem_cons_of_mem _ hc'))
      (hsplit ▸ hvars) (hsplit ▸ hkeys)
      (opened_nested h hkey hnew hvar (handle.path ++ [key]))
    refine ⟨e', frame', ?_, hsplit ▸ hopened⟩
    rw [openForWriting, openAll, hparent, hkey]
    dsimp only
    rw [run_bind (bound_run hbound e), run_bind hstep]
    exact hrun

/-! ## Steps -/

namespace Adapters

variable (a : Adapters) (st : FieldStep) (v : Value)

/-- The value that a step hands to its container. -/
def outgoing : Value :=
  match st.transform with
  | none => v
  | some t => if st.field.conditional && v.isNull then .null else a.written t v

theorem encoded_eq : a.encoded st v = .ok (a.outgoing st v) := by
  unfold encoded outgoing transformFromValue
  cases st.transform with
  | none => rfl
  | some t => cases st.field.conditional <;> cases v.isNull <;> rfl

/-- What a step leaves at its place: nothing, if it is conditional and has null. -/
def stored? : Option Value :=
  if st.field.conditional && (a.outgoing st v).isNull then none else some (a.outgoing st v)

end Adapters

variable {a : Adapters} {enc : Encoding} {values : String → Value} {frame : Frame KeyedHandle}

/-- What a step stores for the value of its leaf. -/
abbrev storedBy (a : Adapters) (values : String → Value) (st : FieldStep) : Option Value :=
  a.stored? st (values st.field.localName)

/-- Values that steps hand out are written as they are. -/
def WritesAll (a : Adapters) (enc : Encoding) (values : String → Value) (steps : List FieldStep) :
    Prop :=
  ∀ st ∈ steps, ∀ path, enc (a.outgoing st (values st.field.localName)) path =
    .ok (a.outgoing st (values st.field.localName))

theorem writeStep_run {st : FieldStep} {h : KeyedHandle} {e : Encoder}
    (hbound : Entries.get? st.container.variable_ frame = some h) (hlen : h.cell < e.cells.length)
    (henc : WritesAll a enc values [st]) :
    ∃ e', writeStep a enc values frame st e = .ok () e' ∧ e'.content = e.content ∧
      e'.cells.length = e.cells.length ∧ ∀ n k, e'.slot n k =
        if h.cell = n ∧ st.field.key = k then
          (storedBy a values st).map .done <|> e.slot n k
        else e.slot n k := by
  have henc := henc st List.mem_cons_self (h.path ++ [st.field.key])
  have hrun : writeStep a enc values frame st e = .ok ()
      (if st.field.conditional && (a.outgoing st (values st.field.localName)).isNull then e
        else e.write h.cell st.field.key (.done (a.outgoing st (values st.field.localName)))) := by
    rw [writeStep, run_bind (bound_run hbound e), a.encoded_eq]
    dsimp only
    cases st.field.conditional with
    | true => exact putIfPresent_run henc e
    | false => exact put_run henc e
  refine ⟨_, hrun, ?_, ?_, fun n k => ?_⟩
  · split <;> rfl
  · split
    · rfl
    · simp
  · unfold storedBy Adapters.stored?
    split
    · simp
    · rw [Encoder.slot_write _ hlen]
      rfl

/-- The place of a step as a cell and a key. -/
def cellPlace (cs : List Container) (st : FieldStep) : Nat × String :=
  (cs.idxOf st.container, st.field.key)

theorem writeSteps_run {cs : List Container} {steps : List FieldStep} {e : Encoder}
    (hbound : ∀ st ∈ steps, ∃ h, Entries.get? st.container.variable_ frame = some h ∧
      h.cell = cs.idxOf st.container ∧ h.cell < e.cells.length)
    (henc : WritesAll a enc values steps) (hplaces : (steps.map (cellPlace cs)).Nodup) :
    ∃ e', writeSteps a enc values frame steps e = .ok () e' ∧ e'.content = e.content ∧
      e'.cells.length = e.cells.length ∧
      (∀ st ∈ steps, e'.slot (cs.idxOf st.container) st.field.key =
        ((storedBy a values st).map .done <|> e.slot (cs.idxOf st.container) st.field.key)) ∧
      ∀ n k, (n, k) ∉ steps.map (cellPlace cs) → e'.slot n k = e.slot n k := by
  induction steps generalizing e with
  | nil => exact ⟨e, rfl, rfl, rfl, by simp, fun _ _ _ => rfl⟩
  | cons st steps ih =>
    obtain ⟨hst, hsteps⟩ := List.nodup_cons.1 hplaces
    obtain ⟨h, hget, hcell, hlen⟩ := hbound st List.mem_cons_self
    obtain ⟨e₁, hrun₁, hcontent₁, hlength₁, hslot₁⟩ := writeStep_run hget hlen
      (a := a) (e := e) fun st' hst' => henc st' (List.mem_singleton.1 hst' ▸ List.mem_cons_self)
    obtain ⟨e', hrun, hcontent, hlength, hstored, hother⟩ := ih (e := e₁)
      (fun st' hst' => by
        rw [hlength₁]
        exact hbound st' (List.mem_cons_of_mem _ hst'))
      (fun st' hst' => henc st' (List.mem_cons_of_mem _ hst')) hsteps
    refine ⟨e', ?_, hcontent.trans hcontent₁, hlength.trans hlength₁, ?_, ?_⟩
    · rw [writeSteps, run_bind hrun₁, hrun]
    · intro st' hst'
      rcases List.mem_cons.1 hst' with rfl | hst'
      · rw [hother _ _ hst, hslot₁, if_pos ⟨hcell, rfl⟩]
      · rw [hstored st' hst', hslot₁, if_neg]
        rintro ⟨hn, hk⟩
        exact hst (List.mem_map.2 ⟨st', hst', by rw [cellPlace, cellPlace, ← hcell, hn, hk]⟩)
    · intro n k hnk
      rw [List.map_cons, List.mem_cons, not_or] at hnk
      rw [hother n k hnk.2, hslot₁, if_neg]
      rintro ⟨hn, hk⟩
      exact hnk.1 (by rw [cellPlace, ← hcell, hn, hk])

/-! ## Representations -/

/-- `data` has a dictionary for each container, with what the steps of the container
    store. -/
def Represents (data : Value) (cs : List Container) (steps : List FieldStep)
    (stored : FieldStep → Option Value) : Prop :=
  ∀ c ∈ cs, ∃ es, data.dictAt? c.key = some es ∧
    ∀ st ∈ steps, st.container.key = c.key → Value.lookup (.str st.field.key) es = stored st

variable {root : Container} {nested : List Container} {steps : List FieldStep}

theorem eq_root_of_idxOf {c : Container} (hc : c ∈ root :: nested)
    (h : (root :: nested).idxOf c = 0) : c = root :=
  (List.idxOf_inj hc).1 (by rw [h, List.idxOf_cons_self])

theorem nodup_cellPlaces (h : Separated root nested steps) :
    (steps.map (cellPlace (root :: nested))).Nodup := by
  refine h.places.of_map.map_on fun st hst st' hst' he => ?_
  simp only [cellPlace, Prod.mk.injEq] at he
  have hc : st.container = st'.container := (List.idxOf_inj (h.mem st hst)).1 he.1
  exact List.inj_on_of_nodup_map h.places hst hst' (by rw [FieldStep.place, hc, he.2]; rfl)

theorem open_of_separated (h : Separated root nested steps) (path : CodingPath) :
    ∃ e frame, openForWriting [] (root :: nested) ⟨path, none, []⟩ = .ok frame e ∧
      Opened e frame (root :: nested) := by
  obtain ⟨e, frame, hrun, hopened⟩ := @openAll_run root nested [] _ _ h.isIn h.variableNames
    h.keys (opened_root h.rootKey path)
  refine ⟨e, frame, ?_, hopened⟩
  rw [openForWriting, openAll, h.rootParent]
  exact (run_bind (keyed_run path)).trans hrun

/-- **A separated plan is carried out, and what its steps store is what its
    representation holds.** -/
theorem write_of_separated (h : Separated root nested steps) {p : CodecPlan}
    (hcontainers : p.containers = root :: nested) (hsteps : p.steps = steps)
    (henc : WritesAll a enc values steps) (path : CodingPath) :
    ∃ data, p.write a enc values path = .ok data ∧
      Represents data (root :: nested) steps (storedBy a values) := by
  obtain ⟨e, frame, hopen, hopened⟩ := open_of_separated h path
  have hbound : ∀ st ∈ steps, ∃ handle, Entries.get? st.container.variable_ frame = some handle ∧
      handle.cell = (root :: nested).idxOf st.container ∧ handle.cell < e.cells.length := by
    intro st hst
    obtain ⟨handle, hget, hcell⟩ := hopened.bound st.container (h.mem st hst)
    refine ⟨handle, hget, hcell, ?_⟩
    rw [hcell, hopened.length]
    exact List.idxOf_lt_length_of_mem (h.mem st hst)
  obtain ⟨e', hrun, hcontent, hlength, hstored, hother⟩ :=
    writeSteps_run hbound henc (nodup_cellPlaces h)
  have hwrite : p.write a enc values path = .ok e'.value := by
    rw [CodecPlan.write, hcontainers, hsteps, run_bind hopen, hrun]
  have hvalue : e'.value = .dict (e'.entries nested.length 0) := by
    rw [Encoder.value, hcontent, hopened.content, hlength, hopened.length]
    rfl
  -- in the cell of a container stands what its steps store
  have hentries : ∀ fuel, ∀ c ∈ root :: nested, ∀ st ∈ steps, st.container.key = c.key →
      Value.lookup (.str st.field.key) (e'.entries fuel ((root :: nested).idxOf c)) =
        storedBy a values st := by
    intro fuel c hc st hst hkey
    have hst' := h.eq_of_key_eq (h.mem st hst) hc hkey
    refine e'.lookup_done fuel ?_
    rw [← hst', hstored st hst, hopened.empty _ _ fun hidx =>
      h.notMem_keys hst (eq_root_of_idxOf (h.mem st hst) hidx)]
    simp
  refine ⟨e'.value, hwrite, fun c hc => ?_⟩
  rcases List.mem_cons.1 hc with rfl | hc'
  · refine ⟨e'.entries nested.length 0, by rw [h.rootKey, hvalue]; rfl, fun st hst hkey => ?_⟩
    have := hentries nested.length c hc st hst hkey
    rwa [List.idxOf_cons_self] at this
  · obtain ⟨key, hkey⟩ := (h.isIn c hc').key
    obtain ⟨m, hm⟩ : ∃ m, nested.length = m + 1 :=
      Nat.exists_eq_succ_of_ne_zero (Nat.ne_of_gt (List.length_pos_of_mem hc'))
    have hslot : e'.slot 0 key = some (.cell ((root :: nested).idxOf c)) := by
      rw [hother 0 key, hopened.held c hc key hkey]
      intro hplace
      obtain ⟨st, hst, he⟩ := List.mem_map.1 hplace
      simp only [cellPlace, Prod.mk.injEq] at he
      refine h.notMem_keys hst (eq_root_of_idxOf (h.mem st hst) he.1) ?_
      rw [he.2, ← hkey]
      exact List.mem_map_of_mem hc
    refine ⟨e'.entries m ((root :: nested).idxOf c), ?_, fun st => hentries m c hc st⟩
    rw [hkey, hvalue, Value.dictAt?, Value.asDict?, Option.bind_some, Encoder.lookup_entries, hslot,
      hm]
    rfl

end CodecForge.Coding
