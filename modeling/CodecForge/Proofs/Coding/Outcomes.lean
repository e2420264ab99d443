/-
  CodecForge — what reading data under a hint comes to.

  JSON data are read under a structural hint, or refused for a value inside them, or reading
  them is stuck: `outcome_of_structural`, by induction on the hint, from what each kind of
  hint makes of the outcomes of the values inside.
-/
import CodecForge.Proofs.Coding.Following
import CodecForge.Proofs.Coding.JsonValue

namespace CodecForge.Coding

/-- What reading data under a hint comes to. -/
inductive Outcome (c : Context) (dec : Decoding) (h : Hint) (d : Value) : Prop
  | read (hr : Reads dec h d)
  | fault {cause : Cause} {q : CodingPath} {h' : Hint} {d' : Value}
      (hkind : cause.kind ≠ .encoding) (hto : ReadsTo dec h d q h' d')
      (hown : ∀ path, dec h' d' path = .error (.at cause path))
  | stuck {f : Failure} (hs : Stuck c dec h d f)

variable {c : Context} {dec ambient : Decoding}

/-- What is met at a value that is not read is what reading comes to. -/
theorem Outcome.lift {h h₁ : Hint} {d d₁ : Value} {q : CodingPath}
    (hto : ReadsTo dec h d q h₁ d₁) (ho : Outcome c dec h₁ d₁) (hr : ¬ Reads dec h₁ d₁) :
    Outcome c dec h d := by
  cases ho with
  | read hr' => exact absurd hr' hr
  | fault hkind hto' hown => exact .fault hkind (hto.trans hto') hown
  | stuck hs => exact .stuck (hs.lift hto)

theorem Outcome.refused {h : Hint} {d : Value} {cause : Cause} (hkind : cause.kind ≠ .encoding)
    (hown : ∀ path, dec h d path = .error (.at cause path)) : Outcome c dec h d :=
  .fault hkind (.here h d) hown

theorem Outcome.stuckAt {h : Hint} {d : Value} {f : Failure} (hs : StuckAt c dec h d f) :
    Outcome c dec h d :=
  .stuck (.own (.here h d) hs)

/-- Data are refused for a value inside them that is refused. -/
theorem Refuses.lift {h h' : Hint} {d d' : Value} {q : CodingPath}
    (hto : ReadsTo (decodeWith c ambient) h d q h' d') (hr : Refuses (decodeWith c ambient) h' d') :
    Refuses (decodeWith c ambient) h d := by
  obtain ⟨cause, q', hkind, herror⟩ := hr
  exact ⟨cause, q ++ q', hkind, fun path => hto.error (by rw [herror, List.append_assoc])⟩

theorem Refuses.of_error {h : Hint} {d : Value} {cause : Cause} (hkind : cause.kind ≠ .encoding)
    (hown : ∀ path, dec h d path = .error (.at cause path)) : Refuses dec h d :=
  ⟨cause, [], hkind, fun path => by rw [hown, List.append_nil]⟩

/-- Whether a hint takes no null. -/
def refusesNull : Hint → Bool
  | .any | .untyped | .unresolved _ | .union _ _ => false
  | _ => true

theorem decodeWith_null {h : Hint} (hh : refusesNull h = true) (path : CodingPath) :
    decodeWith c ambient h .null path = .error (.at (.valueNotFound h.name) path) := by
  cases h with
  | any | untyped | unresolved _ | union _ _ => cases hh
  | _ => simp [decodeWith, Value.isNull]

theorem outcome_null {h : Hint} (hh : refusesNull h = true) :
    Outcome c (decodeWith c ambient) h .null :=
  .refused (by simp [Cause.kind]) (decodeWith_null hh)

/-- What a hint that takes nothing but lists expects. -/
def listExpected? : Hint → Option String
  | .items _ _ => some "list"
  | .tupleOf _ | .tuple _ | .anyTuple => some "tuple"
  | _ => none

theorem refusesNull_of_listExpected? {h : Hint} {expected : String}
    (hh : listExpected? h = some expected) : refusesNull h = true := by
  cases h with
  | items | tupleOf | tuple | anyTuple => rfl
  | _ => cases hh

theorem decodeWith_not_list {h : Hint} {expected : String} (hh : listExpected? h = some expected)
    {d : Value} (hnull : d.isNull = false) (hlist : d.asList? = none) (path : CodingPath) :
    decodeWith c ambient h d path = .error (mismatch expected d path) := by
  cases h with
  | items | tupleOf | tuple | anyTuple =>
    cases hh
    simp [decodeWith, hnull, hlist]
  | _ => cases hh

theorem decodeWith_not_dict (name : String) (key value : Hint) {d : Value}
    (hnull : d.isNull = false) (hdict : ∀ es, d ≠ .dict es) (path : CodingPath) :
    decodeWith c ambient (.dict name key value) d path = .error (mismatch "dict" d path) := by
  cases d with
  | dict es => exact absurd rfl (hdict es)
  | _ => simp [decodeWith, hnull]

/-- Data that are none of the values in question are refused if they have a text. -/
theorem outcome_unexpected {h : Hint} {d : Value}
    (hown : ∀ path, dec h d path = .error (unexpected d path))
    (hs : d.hasText = false → StuckAt c dec h d .badValue) : Outcome c dec h d := by
  cases htext : d.hasText with
  | false => exact .stuckAt (hs htext)
  | true =>
    have hrefused : ∀ path,
        dec h d path = .error (.at (.corrupted s!"Invalid value: {d.text}") path) := by
      intro path
      rw [hown, unexpected, if_pos htext]
    exact .refused (by simp [Cause.kind]) hrefused

theorem decodeScalar_cases (s : Scalar) {d : Value} (hd : d.IsJson) :
    (∃ v, ∀ path, decodeScalar s d path = .ok v) ∨
      (∀ path, decodeScalar s d path = .error (mismatch s.name d path)) ∨
      s = .float ∧ ∃ n, d = .int n ∧ Double.overflow ≤ n.natAbs := by
  cases hd with
  | int n =>
    cases s with
    | int => exact .inl ⟨.int n, fun _ => rfl⟩
    | float =>
      cases hn : Double.ofInt? n with
      | none => exact .inr (.inr ⟨rfl, n, rfl, (Double.ofInt?_eq_none_iff n).1 hn⟩)
      | some x => exact .inl ⟨.float x, fun _ => by simp [decodeScalar, Value.plain, hn]⟩
    | str | bool => exact .inr (.inl fun _ => rfl)
  | bool b =>
    cases s with
    | bool => exact .inl ⟨.bool b, fun _ => rfl⟩
    | _ => exact .inr (.inl fun _ => rfl)
  | float x =>
    cases s with
    | float => exact .inl ⟨.float x, fun _ => rfl⟩
    | _ => exact .inr (.inl fun _ => rfl)
  | str t =>
    cases s with
    | str => exact .inl ⟨.str t, fun _ => rfl⟩
    | _ => exact .inr (.inl fun _ => rfl)
  | null | list | dict => cases s <;> exact .inr (.inl fun _ => rfl)

theorem outcome_scalar {s : Scalar} (hreader : c.reader? s.name = none) {d : Value}
    (hd : d.IsJson) (hnull : d.isNull = false) :
    Outcome c (decodeWith c ambient) (.scalar s) d := by
  have heq : ∀ path, decodeWith c ambient (.scalar s) d path = decodeScalar s d path :=
    decodeWith_scalar hreader hnull
  rcases decodeScalar_cases s hd with ⟨v, hv⟩ | hmismatch | ⟨rfl, n, rfl, hn⟩
  · exact .read ⟨v, fun path => (heq path).trans (hv path)⟩
  · exact .refused (by simp [Cause.kind]) fun path => (heq path).trans (hmismatch path)
  · exact .stuckAt (.large hn)

theorem decodeMember_cases (info : ClassInfo) (d : Value) :
    (∃ v, ∀ path, decodeMember info d path = .ok v) ∨
      d.className ≠ info.name ∧ ∀ m ∈ info.members.getD [], m.2.same d = false := by
  unfold decodeMember
  by_cases hclass : d.className = info.name
  · simp only [hclass, if_true]
    exact .inl ⟨d, fun _ => rfl⟩
  simp only [hclass, if_false]
  generalize hfound : (Classes.members info).find? _ = found
  cases found with
  | some v => exact .inl ⟨v, fun _ => rfl⟩
  | none =>
    refine .inr ⟨hclass, fun m hm => ?_⟩
    simpa using List.find?_eq_none.1 hfound _ (List.mem_map_of_mem hm)

theorem outcome_enum {name : String} {info : ClassInfo}
    (hfound : c.classes.find? name = some info) (hmembers : info.members.isSome)
    (hreader : c.reader? name = none) {d : Value} (hnull : d.isNull = false) :
    Outcome c (decodeWith c ambient) (.cls name) d := by
  have heq : ∀ path, decodeWith c ambient (.cls name) d path = decodeMember info d path :=
    decodeWith_enum hfound hmembers hreader hnull
  rcases decodeMember_cases info d with ⟨v, hv⟩ | ⟨hclass, hnone⟩
  · exact .read ⟨v, fun path => (heq path).trans (hv path)⟩
  · refine outcome_unexpected (fun path => ?_) (.enum hfound hnull hclass hnone)
    rw [heq, decodeMember_eq_error hclass hnone]

theorem outcome_literal (values : List Value) {d : Value} (hnull : d.isNull = false) :
    Outcome c (decodeWith c ambient) (.literal values) d := by
  have heq : ∀ path, decodeWith c ambient (.literal values) d path =
      if values.any (Value.same · d) then .ok d else .error (unexpected d path) :=
    decodeWith_literal values hnull
  cases hany : values.any (Value.same · d) with
  | true => exact .read ⟨d, fun path => by rw [heq, if_pos hany]⟩
  | false =>
    have hnone : ∀ v ∈ values, v.same d = false := by simpa using hany
    refine outcome_unexpected (fun path => ?_) (.literal hnull hnone)
    rw [heq, hany, if_neg Bool.false_ne_true]

theorem outcome_items (kind : ItemsKind) {item : Hint} {xs : List Value}
    (hxs : ∀ x ∈ xs, Outcome c (decodeWith c ambient) item x) :
    Outcome c (decodeWith c ambient) (.items kind item) (.list xs) := by
  rcases forall_or_exists_first (Reads (decodeWith c ambient) item) xs with
    hall | ⟨before, x, after, rfl, hbefore, hx⟩
  · obtain ⟨vs, hvs⟩ := exists_forall₂ hall
    have heq : ∀ path, decodeWith c ambient (.items kind item) (.list xs) path =
        collect kind vs := by
      intro path
      rw [decodeWith_items, decodeItems_of_forall₂ hvs.flip]
      rfl
    -- only what kind of collection is made of the items can fail now
    cases kind with
    | list | sequence => exact .read ⟨.list vs, heq⟩
    | set =>
      cases hhash : vs.all Value.hashable with
      | false => exact .stuckAt (.unhashable (.inl rfl) hvs.flip hhash)
      | true => exact .read ⟨.set (Value.distinct vs), fun path => by simp [heq, collect, hhash]⟩
    | frozenset =>
      cases hhash : vs.all Value.hashable with
      | false => exact .stuckAt (.unhashable (.inr rfl) hvs.flip hhash)
      | true =>
        exact .read ⟨.frozenset (Value.distinct vs), fun path => by simp [heq, collect, hhash]⟩
    | abstractSet => exact .stuckAt (.abstractSet hall)
  · exact (hxs x (by simp)).lift (.item hbefore (.here item x)) hx

theorem outcome_tupleOf {item : Hint} {xs : List Value}
    (hxs : ∀ x ∈ xs, Outcome c (decodeWith c ambient) item x) :
    Outcome c (decodeWith c ambient) (.tupleOf item) (.list xs) := by
  rcases forall_or_exists_first (Reads (decodeWith c ambient) item) xs with
    hall | ⟨before, x, after, rfl, hbefore, hx⟩
  · obtain ⟨vs, hvs⟩ := exists_forall₂ hall
    refine .read ⟨.tuple vs, fun path => ?_⟩
    rw [decodeWith_tupleOf, decodeItems_of_forall₂ hvs.flip]
    rfl
  · exact (hxs x (by simp)).lift (.tupleItem hbefore (.here item x)) hx

theorem decodeEach_of_forall₂ {hs : List Hint} {xs : List Value}
    (h : List.Forall₂ (Reads (decodeWith c ambient)) hs xs) :
    ∃ vs, ∀ path index, decodeEach c ambient hs xs path index = .ok vs := by
  induction h with
  | nil => exact ⟨[], fun path index => by simp [decodeEach]⟩
  | cons hx _ ih =>
    obtain ⟨v, hv⟩ := hx
    obtain ⟨vs, hvs⟩ := ih
    refine ⟨v :: vs, fun path index => ?_⟩
    rw [decodeEach, hv, hvs]
    rfl

theorem decodeWith_tuple_length {hs : List Hint} {xs : List Value} (hne : hs ≠ [])
    (hlen : hs.length ≠ xs.length) (path : CodingPath) :
    decodeWith c ambient (.tuple hs) (.list xs) path =
      .error (mismatch "Tuple" (.list xs) path) := by
  simp [decodeWith, Value.isNull, Value.asList?, Value.plain, hne, Ne.symm hlen]

theorem outcome_tuple {hs : List Hint} {xs : List Value}
    (hxs : ∀ h ∈ hs, ∀ x ∈ xs, Outcome c (decodeWith c ambient) h x) :
    Outcome c (decodeWith c ambient) (.tuple hs) (.list xs) := by
  by_cases hempty : hs = []
  · subst hempty
    refine .read ⟨.tuple xs, fun path => ?_⟩
    simp [decodeWith, Value.isNull, Value.asList?, Value.plain]
  by_cases hlen : hs.length = xs.length
  · rcases forall₂_or_exists_first (Reads (decodeWith c ambient)) hlen with
      hall | ⟨hs₁, h, hs₂, before, x, after, rfl, rfl, htail, hbefore, hx⟩
    · obtain ⟨vs, hvs⟩ := decodeEach_of_forall₂ hall
      refine .read ⟨.tuple vs, fun path => ?_⟩
      rw [decodeWith_tuple hempty hlen, hvs]
      rfl
    · exact (hxs h (by simp) x (by simp)).lift (.component hbefore htail (.here h x)) hx
  · exact .refused (by simp [Cause.kind]) (decodeWith_tuple_length hempty hlen)

theorem outcome_dict (name : String) (key : Hint) {value : Hint} {ps : List (String × Value)}
    (hps : ∀ p ∈ ps, Outcome c (decodeWith c ambient) value p.2) :
    Outcome c (decodeWith c ambient) (.dict name key value) (.dict (Value.ofTexts ps)) := by
  rcases forall_or_exists_first (fun p => Reads (decodeWith c ambient) value p.2) ps with
    hall | ⟨before, p, after, rfl, hbefore, hp⟩
  · have hread : ∀ p ∈ ps, ∃ r : String × Value,
        p.1 = r.1 ∧ ∀ path, decodeWith c ambient value p.2 path = .ok r.2 := by
      intro p hp
      obtain ⟨v, hv⟩ := hall p hp
      exact ⟨(p.1, v), rfl, hv⟩
    obtain ⟨rs, hrs⟩ := exists_forall₂ hread
    refine .read ⟨.dict (Value.ofTexts rs), fun path => ?_⟩
    rw [decodeWith_dict, decodeEntries_of_forall₂ hrs.flip]
    rfl
  · exact (hps p (by simp)).lift (.entry hbefore (.here value p.2)) hp

theorem outcome_union (name : String) {members : List Hint} {d : Value}
    (hms : ∀ m ∈ members, m.isNullClass = false → Outcome c (decodeWith c ambient) m d) :
    Outcome c (decodeWith c ambient) (.union name members) d := by
  cases hnull : d.isNull with
  | true =>
    cases hany : members.any Hint.isNullClass with
    | true => exact .read ⟨.null, fun path => by simp [decodeWith, hnull, hany]⟩
    | false =>
      have hrefused : ∀ path, decodeWith c ambient (.union name members) d path =
          .error (.at (.valueNotFound name) path) := by
        intro path
        simp [decodeWith, hnull, hany]
      exact .refused (by simp [Cause.kind]) hrefused
  | false =>
    by_cases hmany : (members.filter (!·.isNullClass)).length = 1
    · obtain ⟨m, hm⟩ := List.length_eq_one_iff.1 hmany
      obtain ⟨hmem, hmnull⟩ := List.mem_filter.1 (hm ▸ List.mem_singleton_self m)
      have ho := hms m hmem (by simpa using hmnull)
      by_cases hread : Reads (decodeWith c ambient) m d
      · obtain ⟨v, hv⟩ := hread
        exact .read ⟨v, fun path => by rw [decodeWith_only hm hnull, hv]⟩
      · exact ho.lift (.only hm hnull (.here m d)) hread
    · have heq : ∀ path, decodeWith c ambient (.union name members) d path =
          decodeFirst c ambient name members d path := decodeWith_many hmany hnull name
      rcases forall_or_exists_first
          (fun m => m.isNullClass = false → Refuses (decodeWith c ambient) m d) members with
        hall | ⟨before, m, after, rfl, hbefore, hm⟩
      · have hrefused : ∀ path, decodeWith c ambient (.union name members) d path =
            .error (mismatch name d path) := by
          intro path
          have happend := decodeFirst_append hall name [] path
          rw [List.append_nil] at happend
          rw [heq, happend, decodeFirst]
        exact .refused (by simp [Cause.kind]) hrefused
      · -- the first member that does not refuse the data decides
        rw [Classical.not_imp] at hm
        obtain ⟨hmnull, hnot⟩ := hm
        cases hms m (by simp) hmnull with
        | read hread =>
          obtain ⟨v, hv⟩ := hread
          refine .read ⟨v, fun path => ?_⟩
          rw [heq, decodeFirst_append hbefore, decodeFirst_cons hmnull _ _ (hv path) (by simp)]
        | fault hkind hto hown => exact absurd (.lift hto (.of_error hkind hown)) hnot
        | stuck hs => exact .stuck (.member (.here _ _) hnull hmany hbefore hmnull hs)

/-- JSON data are null, a list of such data, or neither. -/
theorem Value.IsJson.list_cases {d : Value} (hd : d.IsJson) :
    d = .null ∨ (∃ xs, d = .list xs ∧ ∀ x ∈ xs, x.IsJson) ∨
      d.isNull = false ∧ d.asList? = none := by
  cases hd with
  | null => exact .inl rfl
  | list hxs => exact .inr (.inl ⟨_, rfl, hxs⟩)
  | _ => exact .inr (.inr ⟨rfl, rfl⟩)

/-- For a hint that takes nothing but lists only what it makes of lists is in question. -/
theorem outcome_of_list {h : Hint} {expected : String} (hh : listExpected? h = some expected)
    {d : Value} (hd : d.IsJson)
    (hlist : ∀ xs, (∀ x ∈ xs, x.IsJson) → Outcome c (decodeWith c ambient) h (.list xs)) :
    Outcome c (decodeWith c ambient) h d := by
  rcases hd.list_cases with rfl | ⟨xs, rfl, hxs⟩ | ⟨hnull, hnone⟩
  · exact outcome_null (refusesNull_of_listExpected? hh)
  · exact hlist xs hxs
  · exact .refused (by simp [Cause.kind]) (decodeWith_not_list hh hnull hnone)

/-- JSON data are null, a dictionary of such data with texts for keys, or neither. -/
theorem Value.IsJson.dict_cases {d : Value} (hd : d.IsJson) :
    d = .null ∨ (∃ ps, d = .dict (Value.ofTexts ps) ∧ ∀ p ∈ ps, p.2.IsJson) ∨
      d.isNull = false ∧ ∀ es, d ≠ .dict es := by
  cases hd with
  | null => exact .inl rfl
  | dict _ hps => exact .inr (.inl ⟨_, rfl, hps⟩)
  | _ => exact .inr (.inr ⟨rfl, by simp⟩)

/-- **What reading comes to.**  JSON data are read under a structural hint, or they are
    refused for a value inside them, or reading them is stuck. -/
theorem outcome_of_structural (ambient : Decoding) {h : Hint} (hh : Structural c h) {d : Value}
    (hd : d.IsJson) : Outcome c (decodeWith c ambient) h d := by
  induction hh generalizing d with
  | any => exact .read ⟨d, fun path => by rw [decodeWith]⟩
  | untyped => exact .read ⟨d, fun path => by rw [decodeWith]⟩
  | anyTuple =>
    refine outcome_of_list rfl hd fun xs _ => .read ⟨.tuple xs, fun path => ?_⟩
    simp [decodeWith, Value.isNull, Value.asList?, Value.plain]
  | scalar hreader =>
    cases hnull : d.isNull with
    | true => exact Value.eq_null hnull ▸ outcome_null rfl
    | false => exact outcome_scalar hreader hd hnull
  | enum hfound hmembers hreader =>
    cases hnull : d.isNull with
    | true => exact Value.eq_null hnull ▸ outcome_null rfl
    | false => exact outcome_enum hfound hmembers hreader hnull
  | literal values =>
    cases hnull : d.isNull with
    | true => exact Value.eq_null hnull ▸ outcome_null rfl
    | false => exact outcome_literal values hnull
  | @items kind item h ih =>
    exact outcome_of_list rfl hd fun xs hxs => outcome_items kind fun x hx => ih (hxs x hx)
  | @tupleOf item h ih =>
    exact outcome_of_list rfl hd fun xs hxs => outcome_tupleOf fun x hx => ih (hxs x hx)
  | @tuple hs h ih =>
    exact outcome_of_list rfl hd fun xs hxs =>
      outcome_tuple fun h' hh' x hx => ih h' hh' (hxs x hx)
  | @dict name key value h ih =>
    rcases hd.dict_cases with rfl | ⟨ps, rfl, hps⟩ | ⟨hnull, hdict⟩
    · exact outcome_null rfl
    · exact outcome_dict name key fun p hp => ih (hps p hp)
    · exact .refused (by simp [Cause.kind]) (decodeWith_not_dict name key value hnull hdict)
  | union name h ih => exact outcome_union name fun m hm hnull => ih m hm hnull hd

end CodecForge.Coding
