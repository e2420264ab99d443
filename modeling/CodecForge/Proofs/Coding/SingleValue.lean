/-
  CodecForge — encoders that hold a single value.

  A single value is written once.  An encoder that holds one is told from an encoder with a
  container by the value itself, and a dictionary is taken for a container.

  * `Held`: an encoder that holds something goes on holding something (`Held.step`), so every
    further single value is refused (`Held.refuses`);
  * `Closed`: an encoder that holds a single value other than a dictionary, without a handle,
    is left as it is by every operation (`Closed.step`);
  * `final_iff_not_dict`: so the value that was written first stays, and containers are
    refused, whatever is done later, if and only if it is no dictionary; a dictionary is
    opened as a container and written to (`exists_not_final`).
-/
import CodecForge.Proofs.Coding.Attachment

namespace CodecForge.Coding

namespace Operation

/-- Whether an operation writes the one value. -/
def isSingle : Operation → Bool
  | putSingle _ | putNull => true
  | _ => false

/-- `r` is the representation of the one value that an operation writes. -/
def Represents (enc : Encoding) (path : CodingPath) (r : Value) : Operation → Prop
  | putSingle v => enc v path = .ok r
  | putNull => r = .null
  | _ => False

/-- Why an operation that writes the one value is refused where something is held. -/
def Refused (enc : Encoding) (path : CodingPath) (f : Failure) : Operation → Prop
  | putSingle v => f = match enc v path with
    | .ok _ => .at .holdsValue path
    | .error f => f
  | putNull => f = .at .holdsValue path
  | _ => False

end Operation

namespace Writing

variable {enc : Encoding} {w : Writing}

/-! ## Something is held -/

/-- The encoder holds a value or a container. -/
def Held (w : Writing) : Prop := w.encoder.content ≠ none

/-- What is held may be replaced, but is never given up. -/
theorem Held.step (h : w.Held) (op : Operation) : (w.step enc op).Held := by
  have hperformed := performed_perform enc w op
  unfold Writing.step
  generalize op.perform enc w = result at hperformed ⊢
  cases hperformed with
  | topOpened => exact Option.some_ne_none _
  | single _ hcontent => exact absurd hcontent h
  | _ => exact h

/-- Where something is held no single value is written. -/
theorem Held.refuses (h : w.Held) {op : Operation} (hop : op.isSingle = true) :
    ∃ f, op.perform enc w = .error f w ∧ op.Refused enc w.encoder.path f := by
  obtain ⟨⟨path, content, cells⟩, handles⟩ := w
  cases content with
  | none => exact absurd rfl h
  | some s =>
    cases op with
    | putNull => exact ⟨_, rfl, rfl⟩
    | putSingle v =>
      refine ⟨_, ?_, rfl⟩
      cases henc : enc v path with
      | ok r =>
        simp [Operation.perform, Operation.writing, putSingle, bind, EStateM.bind, get, getThe,
          MonadStateOf.get, EStateM.get, henc, EncoderM.setSingle, throw, throwThe,
          MonadExceptOf.throw, EStateM.throw]
      | error f =>
        simp [Operation.perform, Operation.writing, putSingle, bind, EStateM.bind, get, getThe,
          MonadStateOf.get, EStateM.get, henc, throw, throwThe, MonadExceptOf.throw,
          EStateM.throw]
    | _ => cases hop

/-! ## A single value is held -/

/-- The encoder holds a single value that cannot be taken for a container. -/
structure Closed (w : Writing) (r : Value) : Prop where
  content : w.encoder.content = some (.done r)
  notDict : ∀ es, r ≠ .dict es
  handles : w.handles = []

theorem Closed.value {r : Value} (h : w.Closed r) : w.encoder.value = r := by
  rw [Encoder.value_of_content h.content, Encoder.denoted, Encoder.resolve_done]

/-- There is nothing to write through, and nothing to open. -/
theorem Closed.step {r : Value} (h : w.Closed r) (op : Operation) : w.step enc op = w := by
  have hnone : ∀ {i : Nat} {k : KeyedHandle}, w.handles[i]? ≠ some k := by
    intro i k hk
    rw [h.handles] at hk
    cases hk
  have hperformed := performed_perform enc w op
  unfold Writing.step
  generalize op.perform enc w = result at hperformed ⊢
  cases hperformed with
  | unknown | skipped | failed => rfl
  | top hcontent => cases h.content.symm.trans hcontent
  | topOpened hcontent =>
    rcases hcontent with ⟨hcontent, -⟩ | hcontent
    · cases h.content.symm.trans hcontent
    · cases h.content.symm.trans hcontent
      exact absurd rfl (h.notDict _)
  | inner hh | innerOpened hh | written _ hh => exact absurd hh hnone
  | single _ hcontent => cases h.content.symm.trans hcontent

theorem Closed.refuses {r : Value} (h : w.Closed r) :
    Operation.container.perform enc w = .error (.at .holdsSingleValue w.encoder.path) w := by
  obtain ⟨⟨path, content, cells⟩, handles⟩ := w
  obtain rfl : content = some (.done r) := h.content
  cases r with
  | dict es => exact absurd rfl (h.notDict es)
  | _ => rfl

/-! ## Runs -/

theorem after_concat (enc : Encoding) (path : CodingPath) (ops later : List Operation)
    (op : Operation) :
    after enc path (ops ++ op :: later) = later.foldl (step enc) ((after enc path ops).step enc op) := by
  rw [after, List.foldl_append, List.foldl_cons]
  rfl

theorem step_of_ok {op : Operation} {w' : Writing} (h : op.perform enc w = .ok () w') :
    w.step enc op = w' := by
  rw [step, h]

theorem perform_put {i : Nat} {h : KeyedHandle} {v r : Value} {key : String}
    (hh : w.handles[i]? = some h) (henc : enc v (h.path ++ [key]) = .ok r) :
    (Operation.put i v key).perform enc w =
      .ok () ⟨w.encoder.write h.cell key (.done r), w.handles⟩ := by
  simp only [Operation.perform, Operation.through, hh, Operation.writing, KeyedHandle.put, henc]
  rfl

/-- What is there when a single value has been written. -/
theorem written_single {op : Operation} {w' : Writing} {marks : Nat → Bool} (hs : Sound w marks)
    (hop : op.isSingle = true) (hperform : op.perform enc w = .ok () w') :
    ∃ r, op.Represents enc w.encoder.path r ∧ w'.encoder.content = some (.done r) ∧
      w'.encoder.value = r ∧ w'.handles = [] := by
  have hperformed := performed_perform enc w op
  rw [hperform] at hperformed
  cases hperformed with
  | @single _ r hop' hcontent =>
    have hhandles : w.handles = [] := (hs.unopened fun n hn => by cases hcontent.symm.trans hn).2
    refine ⟨r, ?_, rfl, Encoder.resolve_done _ _ _, hhandles⟩
    rcases hop' with ⟨rfl, hr⟩ | ⟨v, rfl, hr⟩
    · exact hr
    · exact hr
  | unknown hop' => cases op <;> cases hop <;> cases hop'
  | written hop' => cases op <;> cases hop <;> cases hop'
  | _ => cases hop

theorem Held.run (h : w.Held) (later : List Operation) :
    (later.foldl (Writing.step enc) w).Held := by
  induction later generalizing w with
  | nil => exact h
  | cons op later ih => exact ih (h.step op)

theorem Closed.run {r : Value} (h : w.Closed r) (later : List Operation) :
    later.foldl (Writing.step enc) w = w := by
  induction later with
  | nil => rfl
  | cons op later ih => rw [List.foldl_cons, h.step, ih]

/-- A dictionary that is held is taken for a container. -/
theorem opened_dict {es : List (Value × Value)}
    (hcontent : w.encoder.content = some (.done (.dict es))) (hhandles : w.handles = []) :
    ∃ w' h, Operation.container.perform enc w = .ok () w' ∧ w'.handles[0]? = some h ∧
      h.path = w.encoder.path := by
  obtain ⟨⟨path, content, cells⟩, handles⟩ := w
  obtain rfl : content = some (.done (.dict es)) := hcontent
  obtain rfl : handles = [] := hhandles
  exact ⟨_, _, rfl, rfl, rfl⟩

/-- A dictionary that is held can be written to: null under a key where it has no null, or
    a boolean. -/
theorem exists_changed (c : Context) {path : CodingPath} {ops : List Operation}
    {es : List (Value × Value)}
    (hcontent : (after (encodeValue c) path ops).encoder.content = some (.done (.dict es)))
    (hhandles : (after (encodeValue c) path ops).handles = []) :
    ∃ v, (after (encodeValue c) path (ops ++ [.container, .put 0 v "k"])).encoder.value ≠
      .dict es := by
  have hfresh : ∃ v, (∀ p, encodeValue c v p = .ok v) ∧ Value.lookup (.str "k") es ≠ some v := by
    by_cases hnull : Value.lookup (.str "k") es = some .null
    · exact ⟨.bool true, fun _ => rfl, by rw [hnull]; nofun⟩
    · exact ⟨.null, fun _ => rfl, hnull⟩
  obtain ⟨v, henc, hv⟩ := hfresh
  refine ⟨v, fun hvalue => hv ?_⟩
  -- the container at the top, opened from the dictionary
  have hopen : ∃ h, (after (encodeValue c) path (ops ++ [.container])).handles[0]? = some h ∧
      h.path = path := by
    obtain ⟨w', h, hopened, hh, hpath⟩ := opened_dict hcontent hhandles
    rw [path_after] at hpath
    exact ⟨h, by rwa [after_concat, List.foldl_nil, step_of_ok hopened], hpath⟩
  obtain ⟨h, hh, hpath⟩ := hopen
  have hperform := perform_put hh (henc (h.path ++ ["k"]))
  obtain ⟨p, r, hp, hr, hstands, -⟩ :=
    (sound_after (encodeValue c) path (ops ++ [.container])).write rfl hh hperform
  rw [path_after, hpath, eq_comm, List.append_right_eq_self] at hp
  cases (henc _).symm.trans hr
  have hat := hstands (attached_of_top (encodeValue c) path _ hh hpath)
  rw [List.append_cons, after_concat, List.foldl_nil, step_of_ok hperform] at hvalue
  rw [hp, hvalue] at hat
  simpa [Value.at?_cons, Value.child?] using hat

/-- **When a single value is final.**  Whatever has been done with an encoder before, once a
    single value has been written every further one is refused.  That the value stays whatever
    is done later, and that containers are refused from then on, holds exactly for values that
    are no dictionaries. -/
theorem final_iff_not_dict (c : Context) (path : CodingPath) (ops : List Operation)
    {op : Operation} {w' : Writing} (hop : op.isSingle = true)
    (hperform : op.perform (encodeValue c) (after (encodeValue c) path ops) = .ok () w') :
    ∃ r, op.Represents (encodeValue c) path r ∧ w'.encoder.value = r ∧
      (∀ (later : List Operation) (again : Operation), again.isSingle = true → ∃ f,
        again.perform (encodeValue c) (after (encodeValue c) path (ops ++ op :: later)) =
          .error f (after (encodeValue c) path (ops ++ op :: later)) ∧
        again.Refused (encodeValue c) path f) ∧
      ((∀ later, (after (encodeValue c) path (ops ++ op :: later)).encoder.value = r) ↔
        ∀ es, r ≠ .dict es) ∧
      ((∀ later, Operation.container.perform (encodeValue c)
          (after (encodeValue c) path (ops ++ op :: later)) =
            .error (.at .holdsSingleValue path) (after (encodeValue c) path (ops ++ op :: later))) ↔
        ∀ es, r ≠ .dict es) := by
  obtain ⟨r, hr, hcontent, hvalue, hhandles⟩ :=
    written_single (sound_after (encodeValue c) path ops) hop hperform
  rw [path_after] at hr
  have hrun : ∀ later, after (encodeValue c) path (ops ++ op :: later) =
      later.foldl (Writing.step (encodeValue c)) w' := by
    intro later
    rw [after_concat, step_of_ok hperform]
  have hheld : w'.Held := by
    rw [Held, hcontent]
    exact Option.some_ne_none _
  have hclosed : (∀ es, r ≠ .dict es) → ∀ later,
      after (encodeValue c) path (ops ++ op :: later) = w' :=
    fun hdict later => (hrun later).trans (Closed.run ⟨hcontent, hdict, hhandles⟩ later)
  have hpath : w'.encoder.path = path := by
    have hlast := path_after (encodeValue c) path (ops ++ [op])
    rwa [hrun []] at hlast
  refine ⟨r, hr, hvalue, fun later again hagain => ?_, ⟨?_, ?_⟩, ?_, ?_⟩
  · have hlater : (after (encodeValue c) path (ops ++ op :: later)).Held := by
      rw [hrun later]
      exact hheld.run later
    obtain ⟨f, hf, hrefused⟩ := hlater.refuses hagain
    rw [path_after] at hrefused
    exact ⟨f, hf, hrefused⟩
  · rintro hstays es rfl
    have hlast : after (encodeValue c) path (ops ++ [op]) = w' := hrun []
    obtain ⟨v, hchanged⟩ := exists_changed c (hlast ▸ hcontent) (hlast ▸ hhandles)
    rw [← List.append_cons] at hchanged
    exact hchanged (hstays _)
  · intro hdict later
    rw [hclosed hdict later, hvalue]
  · rintro hrefused es rfl
    have hopens := hrefused []
    rw [hrun []] at hopens
    obtain ⟨w'', h, hopened, -⟩ := opened_dict hcontent hhandles
    cases hopened.symm.trans hopens
  · intro hdict later
    rw [hclosed hdict later, ← hpath]
    exact Closed.refuses ⟨hcontent, hdict, hhandles⟩

/-- A list that holds a dictionary is final. -/
theorem final_iff_not_dict_list :
    (∃ w', (Operation.putSingle (.list [.dict [(.str "x", .int 1)]])).perform
      (encodeValue ⟨[], []⟩) (after (encodeValue ⟨[], []⟩) ["body"] []) = .ok () w') ∧
    ∀ later, (after (encodeValue ⟨[], []⟩) ["body"]
      (.putSingle (.list [.dict [(.str "x", .int 1)]]) :: later)).encoder.value =
        .list [.dict [(.str "x", .int 1)]] := by
  have hperform : (Operation.putSingle (.list [.dict [(.str "x", .int 1)]])).perform
      (encodeValue ⟨[], []⟩) (after (encodeValue ⟨[], []⟩) ["body"] []) = .ok () _ := rfl
  obtain ⟨r, hr, -, -, hstays, -⟩ := final_iff_not_dict ⟨[], []⟩ ["body"] [] rfl hperform
  obtain rfl : Value.list [.dict [(.str "x", .int 1)]] = r := Except.ok.inj hr
  exact ⟨⟨_, hperform⟩, hstays.2 nofun⟩

/-- A dictionary that is written as the single value is opened as a container, and grows. -/
theorem exists_not_final :
    (∃ w', (Operation.putSingle (.dict [(.str "x", .int 1)])).perform (encodeValue ⟨[], []⟩)
      (after (encodeValue ⟨[], []⟩) [] []) = .ok () w' ∧
        w'.encoder.value = .dict [(.str "x", .int 1)]) ∧
    (∃ w', Operation.container.perform (encodeValue ⟨[], []⟩)
      (after (encodeValue ⟨[], []⟩) [] [.putSingle (.dict [(.str "x", .int 1)])]) = .ok () w') ∧
    (after (encodeValue ⟨[], []⟩) [] [.putSingle (.dict [(.str "x", .int 1)]), .container,
      .put 0 (.int 2) "y"]).encoder.value = .dict [(.str "x", .int 1), (.str "y", .int 2)] := by
  refine ⟨⟨_, rfl, rfl⟩, ⟨_, rfl⟩, ?_⟩
  have hwrite : after (encodeValue ⟨[], []⟩) [] [.putSingle (.dict [(.str "x", .int 1)]),
      .container, .put 0 (.int 2) "y"] =
        ⟨(Encoder.mk [] (some (.cell 0)) [[(.str "x", .done (.int 1))]]).write 0 "y"
          (.done (.int 2)), [⟨0, []⟩]⟩ := rfl
  rw [hwrite]
  simp [Encoder.value, Encoder.write, Cell.put, Encoder.resolve]

end Writing

end CodecForge.Coding
