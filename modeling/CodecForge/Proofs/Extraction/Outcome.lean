/-
  CodecForge — what an extraction comes to.

  An extraction notes what plays no part, but what it has noted decides nothing.

  * `ComesTo` says of an extraction that it stops with a fault, or, if there is none, returns
    a value; parts that follow each other are put together by `ComesTo.bind` and its like, and
    each function of the extraction has one such statement;
  * `run_eq_error`, `run_eq_ok`: a declaration is refused with its first fault, and otherwise
    the type has the shape that the declaration stands for;
  * `extracted` is what a declaration is extracted as on its own (`extracted_eq_error`,
    `exists_extracted_eq_ok`); of several declarations each is extracted so, up to the first
    that is refused (`extractAll_eq`).
-/
import CodecForge.Proofs.Extraction.Faults
import CodecForge.Proofs.Related

namespace CodecForge.Extraction

/-! ## Outcomes -/

variable {α β : Type}

/-- `x` stops with the fault, or, if there is none, returns `a` and notes the enumerations
    `ignored`. -/
def ComesTo (x : Extraction α) (fault : Option SchemaError) (a : α) (ignored : List String) :
    Prop :=
  match fault with
  | some e => ∀ n, ∃ n', x n = .error e n'
  | none => ∀ n, ∃ n', x n = .ok a n' ∧ n'.ignored = n.ignored ++ ignored

theorem comesTo_pure (a : α) : ComesTo (pure a) none a [] :=
  fun n => ⟨n, rfl, (List.append_nil _).symm⟩

theorem comesTo_throw (e : SchemaError) (a : α) (ignored : List String) :
    ComesTo (throw e) (some e) a ignored :=
  fun n => ⟨n, rfl⟩

theorem ComesTo.bind {x : Extraction α} {f : α → Extraction β} {fault fault' : Option SchemaError}
    {a : α} {b : β} {ignored ignored' : List String} (hx : ComesTo x fault a ignored)
    (hf : ComesTo (f a) fault' b ignored') :
    ComesTo (x >>= f) (fault.or fault') b (ignored ++ ignored') := by
  change ComesTo (EStateM.bind x f) _ _ _
  cases fault with
  | some e =>
    intro n
    obtain ⟨n', hn⟩ := hx n
    exact ⟨n', by rw [EStateM.bind, hn]⟩
  | none =>
    -- the state after `x` is the one that `f` starts from
    have hrun : ∀ n, ∃ n₁, EStateM.bind x f n = f a n₁ ∧ n₁.ignored = n.ignored ++ ignored := by
      intro n
      obtain ⟨n₁, hn, hi⟩ := hx n
      exact ⟨n₁, by rw [EStateM.bind, hn], hi⟩
    cases fault' with
    | some e =>
      intro n
      obtain ⟨n₁, hn, -⟩ := hrun n
      rw [hn]
      exact hf n₁
    | none =>
      intro n
      obtain ⟨n₁, hn, hi⟩ := hrun n
      obtain ⟨n', hf, hi'⟩ := hf n₁
      exact ⟨n', hn.trans hf, by rw [hi', hi, List.append_assoc]⟩

/-- A part that notes nothing, before another. -/
theorem ComesTo.andThen {x : Extraction α} {f : α → Extraction β}
    {fault fault' : Option SchemaError} {a : α} {b : β} {ignored : List String}
    (hx : ComesTo x fault a []) (hf : ComesTo (f a) fault' b ignored) :
    ComesTo (x >>= f) (fault.or fault') b ignored :=
  hx.bind hf

theorem ComesTo.map {x : Extraction α} {fault : Option SchemaError} {a : α}
    {ignored : List String} (hx : ComesTo x fault a ignored) (g : α → β) :
    ComesTo (x >>= fun a => pure (g a)) fault (g a) ignored := by
  have h := hx.bind (f := fun a => pure (g a)) (comesTo_pure (g a))
  rwa [Option.or_none, List.append_nil] at h

theorem ComesTo.mapM {f : α → Extraction β} {fault : α → Option SchemaError} {g : α → β}
    {ignored : α → List String} :
    ∀ xs : List α, (∀ x ∈ xs, ComesTo (f x) (fault x) (g x) (ignored x)) →
      ComesTo (xs.mapM f) (xs.findSome? fault) (xs.map g) (xs.flatMap ignored)
  | [], _ => comesTo_pure []
  | x :: xs, h => by
    have hxs := ComesTo.mapM xs fun y hy => h y (List.mem_cons_of_mem x hy)
    rw [List.mapM_cons, findSome?_cons_or, List.flatMap_cons]
    exact (h x List.mem_cons_self).bind (hxs.map (g x :: ·))

theorem ComesTo.forM {f : α → Extraction Unit} {fault : α → Option SchemaError}
    {ignored : α → List String} :
    ∀ xs : List α, (∀ x ∈ xs, ComesTo (f x) (fault x) () (ignored x)) →
      ComesTo (xs.forM f) (xs.findSome? fault) () (xs.flatMap ignored)
  | [], _ => comesTo_pure ()
  | x :: xs, h => by
    rw [findSome?_cons_or, List.flatMap_cons]
    exact (h x List.mem_cons_self).bind
      (ComesTo.forM xs fun y hy => h y (List.mem_cons_of_mem x hy))

/-! ### Notices -/

section
variable (place lead typeName : String) (claimed : List String) (e g : Enumeration) (c : Case)

theorem noteUnknown_comesTo (a : Attribute) : ComesTo (noteUnknown place c a) none () [] := by
  intro n
  unfold noteUnknown
  split
  · exact ⟨n, rfl, (List.append_nil _).symm⟩
  · exact ⟨_, rfl, (List.append_nil _).symm⟩

theorem noteIgnored_comesTo : ComesTo (noteIgnored place lead e) none () [lead ++ e.name] :=
  fun _ => ⟨_, rfl, rfl⟩

theorem noteUnclaimed_comesTo : ComesTo (noteUnclaimed place lead claimed e) none ()
    ((e.unclaimed claimed).map (lead ++ ·)) := by
  have hnote : ∀ nested ∈ e.enums, ComesTo
      (if claimed.contains nested.name then pure () else noteIgnored place lead nested) none ()
      (if claimed.contains nested.name then [] else [lead ++ nested.name]) := by
    intro nested _
    split
    · exact comesTo_pure ()
    · exact noteIgnored_comesTo place lead nested
  have hall := ComesTo.forM e.enums hnote
  have hlist : (e.enums.flatMap fun nested =>
      if claimed.contains nested.name then [] else [lead ++ nested.name]) =
        (e.unclaimed claimed).map (lead ++ ·) := by
    rw [Enumeration.unclaimed]
    induction e.enums with
    | nil => rfl
    | cons nested es ih =>
      rw [List.flatMap_cons, ih, List.filter_cons]
      cases claimed.contains nested.name <;> rfl
  rwa [List.findSome?_eq_none_iff.2 fun _ _ => rfl, hlist] at hall

/-! ### Checks -/

theorem checkName_comesTo : ComesTo (checkName place c) (nameFault? place c) () [] := by
  unfold checkName nameFault?
  split
  · exact comesTo_pure ()
  · exact comesTo_throw _ () []

theorem checkKeys_comesTo (fields : List Field) :
    ComesTo (checkKeys place fields) (keysFault? place (fields.map (·.info.key))) () [] := by
  unfold checkKeys keysFault?
  cases firstRepeated? [] (fields.map (·.info.key)) with
  | none => exact comesTo_pure ()
  | some key => exact comesTo_throw _ () []

theorem checkLeaves_comesTo (s : Schema) :
    ComesTo (checkLeaves typeName s) (leavesFault? typeName s) () [] := by
  unfold checkLeaves leavesFault?
  cases firstRepeated? [] (s.leaves.map (·.localName)) with
  | none => exact comesTo_pure ()
  | some name => exact comesTo_throw _ () []

/-! ### Fields -/

theorem transformOf_comesTo (marker : String) : ComesTo (transformOf place c marker)
    (adapterFault? place c marker) (c.adapter? marker) [] := by
  unfold transformOf adapterFault? Case.adapter?
  cases c.attribute? marker with
  | none => exact comesTo_pure none
  | some a =>
    unfold Attribute.adapter
    dsimp only [Option.map_some]
    cases (withoutSelf (Text.trim (a.argument.getD ""))).isEmpty with
    | true => exact comesTo_throw _ _ []
    | false => exact comesTo_pure _

theorem leafOf_comesTo : ComesTo (leafOf place c) (leafFault? place c) (.leaf c.leaf) [] := by
  refine (transformOf_comesTo place c valueTransform).andThen ?_
  refine (transformOf_comesTo place c encodedValue).andThen ?_
  exact (transformOf_comesTo place c decodedValue).map _

theorem caseChecks_comesTo : ComesTo (caseChecks place c) (nameFault? place c) () [] := by
  have hnotes := ComesTo.forM c.attributes fun a _ => noteUnknown_comesTo place c a
  rw [List.findSome?_eq_none_iff.2 fun _ _ => rfl, List.flatMap_eq_nil_iff.2 fun _ _ => rfl]
    at hnotes
  have h := (checkName_comesTo place c).andThen (f := fun _ => _) hnotes
  rwa [Option.or_none] at h

theorem memberOf_comesTo : ComesTo (memberOf place c) (memberFault? place c) (.leaf c.leaf) [] := by
  refine (caseChecks_comesTo place c).andThen ?_
  dsimp only
  split
  · exact (comesTo_throw _ () []).andThen (leafOf_comesTo place c)
  · exact leafOf_comesTo place c

theorem membersOf_comesTo : ComesTo (membersOf place g) (groupFault? place g) g.members
    ((g.unclaimed []).map (s!"{g.name}." ++ ·)) := by
  have hmembers := ComesTo.mapM g.cases fun c _ => memberOf_comesTo (placeIn place g) c
  rw [List.flatMap_eq_nil_iff.2 fun _ _ => rfl] at hmembers
  refine hmembers.andThen ?_
  have hkeys := checkKeys_comesTo (placeIn place g) g.members
  rw [Enumeration.members, List.map_map] at hkeys
  have h := hkeys.andThen (f := fun _ => _)
    ((noteUnclaimed_comesTo (placeIn place g) s!"{g.name}." [] g).map fun _ => g.members)
  rwa [Option.or_none] at h

theorem groupOf_comesTo : ComesTo (groupOf place e c) (claimFault? place e c) (e.claimed? c) [] := by
  unfold groupOf claimFault? Enumeration.claimed?
  cases c.attribute? group with
  | none => exact comesTo_pure _
  | some a =>
    dsimp only
    split
    · exact comesTo_throw _ _ []
    · cases e.findGroup (a.argument.getD "") with
      | none => exact comesTo_throw _ _ []
      | some g => exact comesTo_pure (some g)

theorem groupFieldOf_comesTo : ComesTo (groupFieldOf place c g)
    ((markedFault? place c).or (groupFault? place g))
    (.group c.plain g.name g.members) ((g.unclaimed []).map (s!"{g.name}." ++ ·)) := by
  unfold groupFieldOf markedFault?
  cases leafMarkers.find? (c.hasAttribute ·) with
  | some marker => exact comesTo_throw _ _ _
  | none => exact (membersOf_comesTo place g).map _

theorem fieldOf_comesTo : ComesTo (fieldOf place e c) (caseFault? place e c)
    (e.field c, (e.claimed? c).map (·.name)) (e.ignoredBelow c) := by
  refine (caseChecks_comesTo place c).andThen ?_
  refine (groupOf_comesTo place e c).andThen ?_
  unfold Enumeration.field Enumeration.ignoredBelow
  cases e.claimed? c with
  | none => exact (leafOf_comesTo place c).map _
  | some g => exact (groupFieldOf_comesTo place g c).map _

/-! ### Shapes -/

theorem info_field : (e.field c).info.key = c.key ∧ (e.field c).info.localName = c.name := by
  unfold Enumeration.field
  cases e.claimed? c <;> exact ⟨rfl, rfl⟩

theorem levelOf_comesTo :
    ComesTo (levelOf typeName e) (levelFault? typeName e) e.schema e.ignored := by
  have hfields := ComesTo.mapM e.cases fun c _ => fieldOf_comesTo (placeIn typeName e) e c
  refine hfields.bind ?_
  have hkeys := checkKeys_comesTo (placeIn typeName e) (e.cases.map e.field)
  rw [List.map_map, show ((·.info.key) ∘ e.field) = Case.key from
    funext fun c => (info_field e c).1] at hkeys
  have hnote := noteUnclaimed_comesTo (placeIn typeName e) "" (e.cases.filterMap fun c =>
    (e.claimed? c).map (·.name)) e
  rw [show (fun name => "" ++ name) = id from funext fun _ => String.empty_append,
    List.map_id] at hnote
  have h := hkeys.andThen (f := fun _ => _) (hnote.map fun _ => e.schema)
  rw [Option.or_none] at h
  dsimp only
  rw [List.map_map, List.filterMap_map]
  exact h

theorem tagsOf_comesTo : ComesTo (tagsOf typeName e) (tagsFault? typeName e) e.tags
    (e.enums.map fun nested => s!"{e.name}.{nested.name}") := by
  have hnames := ComesTo.forM e.cases fun c _ => checkName_comesTo (placeIn typeName e) c
  rw [List.flatMap_eq_nil_iff.2 fun _ _ => rfl] at hnames
  refine hnames.andThen ?_
  have hkeys := checkKeys_comesTo (placeIn typeName e) e.tags.fields
  rw [Enumeration.tags, List.map_map] at hkeys
  refine hkeys.andThen ?_
  have hnote : ComesTo (modify fun n => { n with ignored := n.ignored ++ e.enums.map fun nested =>
      s!"{e.name}.{nested.name}" }) none () (e.enums.map fun nested => s!"{e.name}.{nested.name}") :=
    fun _ => ⟨_, rfl, rfl⟩
  have h := (checkLeaves_comesTo typeName e.tags).andThen (f := fun _ => _)
    (hnote.map fun _ => e.tags)
  rwa [Option.or_none] at h

end

/-- A declaration comes to the shape that it stands for. -/
theorem shapeOf_comesTo {d : Declaration} {s : Strategy} {shape : Shape} {ignored : List String}
    (h : d.Denotes s shape ignored) :
    ComesTo (shapeOf d s) (d.shapeFault? s) shape ignored := by
  unfold shapeOf Declaration.shapeFault?
  cases h with
  | singleValue binding => exact comesTo_pure _
  | tags he =>
    rw [he]
    exact (tagsOf_comesTo d.typeName _).map _
  | @keyed e he =>
    rw [he]
    have hleaves := (checkLeaves_comesTo d.typeName e.schema).map fun _ => Shape.keyed e.schema
    have h := (levelOf_comesTo d.typeName e).bind
      (f := fun s => do checkLeaves d.typeName s; pure (Shape.keyed s)) hleaves
    rwa [List.append_nil] at h

/-- A declaration stands for a shape unless it lacks the coding keys that it needs. -/
theorem denotes_or_noCodingKeys (d : Declaration) (s : Strategy) :
    (∃ shape ignored, d.Denotes s shape ignored) ∨
      shapeOf d s = throw (.noCodingKeys d.typeName) ∧
        d.shapeFault? s = some (.noCodingKeys d.typeName) := by
  unfold shapeOf Declaration.shapeFault?
  cases he : d.codingKeys? with
  | some e =>
    left
    cases s with
    | keyed => exact ⟨_, _, .keyed he⟩
    | singleValue binding => exact ⟨_, _, .singleValue binding⟩
    | singleValueForEnum => exact ⟨_, _, .tags he⟩
  | none =>
    cases s with
    | singleValue binding => exact .inl ⟨_, _, .singleValue binding⟩
    | keyed | singleValueForEnum => exact .inr ⟨rfl, rfl⟩

/-- A declaration stands for one shape. -/
theorem denotes_unique {d : Declaration} {s : Strategy} {shape shape' : Shape} {ignored ignored' : List String}
    (h : d.Denotes s shape ignored) (h' : d.Denotes s shape' ignored') :
    shape' = shape ∧ ignored' = ignored := by
  cases h with
  | singleValue =>
    cases h'
    exact ⟨rfl, rfl⟩
  | tags he =>
    cases h' with
    | tags he' =>
      cases he.symm.trans he'
      exact ⟨rfl, rfl⟩
  | keyed he =>
    cases h' with
    | keyed he' =>
      cases he.symm.trans he'
      exact ⟨rfl, rfl⟩

/-! ## Declarations -/

variable {d : Declaration} {overrides : List (String × Json)} {options : CodingOptions}

theorem run_eq (hd : d.isExtension)
    (ho : CodingOptions.resolve d.options overrides = .ok options) (n : Notices) :
    run d overrides n = (do
      let shape ← shapeOf d options.strategy
      return ⟨d.typeName, shape, options.access, options.directions, (← get).ignored⟩ :
        Extraction CodableType) { n with ignored := [] } := by
  unfold run
  rw [hd, ho]
  rfl

/-- **A declaration with a fault is refused with the first one.** -/
theorem run_eq_error (hd : d.isExtension)
    (ho : CodingOptions.resolve d.options overrides = .ok options) {fault : SchemaError}
    (hf : d.shapeFault? options.strategy = some fault) (n : Notices) :
    ∃ n', run d overrides n = .error fault n' := by
  rw [run_eq hd ho]
  change ∃ n', EStateM.bind _ _ _ = _
  rcases denotes_or_noCodingKeys d options.strategy with ⟨shape, ignored, h⟩ | ⟨hthrow, hf'⟩
  · have hshape := shapeOf_comesTo h
    rw [hf] at hshape
    obtain ⟨n', hn⟩ := hshape { n with ignored := [] }
    exact ⟨n', by rw [EStateM.bind, hn]⟩
  · rw [hthrow, ← Option.some.inj (hf.symm.trans hf')]
    exact ⟨_, rfl⟩

/-- A declaration without a fault is accepted, as one type whatever has been noted. -/
theorem exists_run_eq_ok (hd : d.isExtension)
    (ho : CodingOptions.resolve d.options overrides = .ok options)
    (hf : d.shapeFault? options.strategy = none) :
    ∃ shape ignored, d.Denotes options.strategy shape ignored ∧ ∀ n, ∃ n', run d overrides n =
      .ok ⟨d.typeName, shape, options.access, options.directions, ignored⟩ n' := by
  rcases denotes_or_noCodingKeys d options.strategy with ⟨shape, ignored, h⟩ | ⟨-, hf'⟩
  · have hshape := shapeOf_comesTo h
    rw [hf] at hshape
    refine ⟨shape, ignored, h, fun n => ?_⟩
    obtain ⟨n', hn, hi⟩ := hshape { n with ignored := [] }
    refine ⟨n', ?_⟩
    rw [run_eq hd ho]
    change EStateM.bind _ _ _ = _
    rw [EStateM.bind, hn, ← List.nil_append ignored, ← hi]
    rfl
  · cases hf.symm.trans hf'

/-- **A declaration without a fault is accepted.**  The type has the shape that the
    declaration stands for. -/
theorem run_eq_ok (hd : d.isExtension)
    (ho : CodingOptions.resolve d.options overrides = .ok options)
    (hf : d.shapeFault? options.strategy = none) (n : Notices) :
    ∃ shape ignored n', d.Denotes options.strategy shape ignored ∧ run d overrides n =
      .ok ⟨d.typeName, shape, options.access, options.directions, ignored⟩ n' := by
  obtain ⟨shape, ignored, h, hrun⟩ := exists_run_eq_ok hd ho hf
  obtain ⟨n', hn⟩ := hrun n
  exact ⟨shape, ignored, n', h, hn⟩

/-- An accepted declaration is an extension with options that are understood, and has no
    fault. -/
theorem faultless_of_run {t : CodableType} {n n' : Notices}
    (h : run d overrides n = .ok t n') :
    d.isExtension ∧ ∃ options shape ignored,
      CodingOptions.resolve d.options overrides = .ok options ∧
      d.shapeFault? options.strategy = none ∧ d.Denotes options.strategy shape ignored ∧
      t = ⟨d.typeName, shape, options.access, options.directions, ignored⟩ := by
  cases hd : d.isExtension with
  | false =>
    unfold run at h
    rw [hd] at h
    cases h
  | true =>
    refine ⟨rfl, ?_⟩
    cases ho : CodingOptions.resolve d.options overrides with
    | error e =>
      unfold run at h
      rw [hd, ho] at h
      cases h
    | ok options =>
      cases hf : d.shapeFault? options.strategy with
      | some fault =>
        obtain ⟨_, hn⟩ := run_eq_error hd ho hf n
        cases hn.symm.trans h
      | none =>
        obtain ⟨shape, ignored, _, hdenotes, hn⟩ := run_eq_ok hd ho hf n
        cases hn.symm.trans h
        exact ⟨options, shape, ignored, rfl, hf, hdenotes, rfl⟩

/-! ### Several declarations -/

/-- What a declaration is extracted as on its own. -/
def extracted (d : Declaration) (overrides : List (String × Json)) :
    Except SchemaError CodableType :=
  match run d overrides {} with
  | .ok t _ => .ok t
  | .error e _ => .error e

theorem extracted_eq_error (hd : d.isExtension)
    (ho : CodingOptions.resolve d.options overrides = .ok options) {fault : SchemaError}
    (hf : d.shapeFault? options.strategy = some fault) :
    extracted d overrides = .error fault := by
  obtain ⟨n', hrun⟩ := run_eq_error hd ho hf {}
  rw [extracted, hrun]

theorem exists_extracted_eq_ok (hd : d.isExtension)
    (ho : CodingOptions.resolve d.options overrides = .ok options)
    (hf : d.shapeFault? options.strategy = none) :
    ∃ shape ignored, d.Denotes options.strategy shape ignored ∧ extracted d overrides =
      .ok ⟨d.typeName, shape, options.access, options.directions, ignored⟩ := by
  obtain ⟨shape, ignored, n', hdenotes, hrun⟩ := run_eq_ok hd ho hf {}
  exact ⟨shape, ignored, hdenotes, by rw [extracted, hrun]⟩

/-- `x` comes to `r`, whatever has been noted before. -/
def Always (x : Extraction α) (r : Except SchemaError α) : Prop :=
  match r with
  | .ok a => ∀ n, ∃ n', x n = .ok a n'
  | .error e => ∀ n, ∃ n', x n = .error e n'

theorem Always.bind {x : Extraction α} {f : α → Extraction β} {r : Except SchemaError α}
    {g : α → Except SchemaError β} (hx : Always x r) (hf : ∀ a, Always (f a) (g a)) :
    Always (x >>= f) (r >>= g) := by
  change Always (EStateM.bind x f) (Except.bind r g)
  cases r with
  | error e =>
    intro n
    obtain ⟨n', hn⟩ := hx n
    exact ⟨n', by rw [EStateM.bind, hn]⟩
  | ok a =>
    have hrun : ∀ n, ∃ n₁, EStateM.bind x f n = f a n₁ := by
      intro n
      obtain ⟨n₁, hn⟩ := hx n
      exact ⟨n₁, by rw [EStateM.bind, hn]⟩
    have hfa := hf a
    rw [Except.bind]
    cases hr : g a with
    | ok b | error b =>
      rw [hr] at hfa
      intro n
      obtain ⟨n₁, hn⟩ := hrun n
      rw [hn]
      exact hfa n₁

theorem Always.mapM {f : α → Extraction β} {g : α → Except SchemaError β}
    (h : ∀ a, Always (f a) (g a)) : ∀ xs : List α, Always (xs.mapM f) (xs.mapM g)
  | [] => fun n => ⟨n, rfl⟩
  | x :: xs => by
    rw [List.mapM_cons, List.mapM_cons]
    exact (h x).bind fun a => (Always.mapM h xs).bind fun b n => ⟨n, rfl⟩

end CodecForge.Extraction
