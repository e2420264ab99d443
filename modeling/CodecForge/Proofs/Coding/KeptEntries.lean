/-
  CodecForge — the entries of dictionaries that are written.

  A dictionary is written under the texts of its keys; of entries whose keys have one text only
  one is left.

  * `Context.KeepsEntries`: every dictionary that is taken apart has as many entries as there
    are where it is written, and under the text of each key there is what its value is written
    as;
  * `Context.TextsApart`: in every dictionary that is taken apart the keys have different texts;
  * `keepsEntries_iff`: of a value that is written the former is so exactly if the latter is.
-/
import CodecForge.Proofs.Coding.TypedRoundTrip

namespace CodecForge.Coding

namespace Context

variable (c : Context)

mutual

/-- `r` has kept the entries of all dictionaries that are taken apart when `v` is written. -/
def KeepsEntries (v r : Value) : Prop :=
  match v with
  | .member enum name mixed w =>
    c.writer? (.member enum name mixed w) = none → KeepsEntries w r
  | .list xs => c.writer? (.list xs) = none → ∃ rs, r = .list rs ∧ KeepEach xs rs
  | .tuple xs => c.writer? (.tuple xs) = none → ∃ rs, r = .list rs ∧ KeepEach xs rs
  | .branded name (.list xs) =>
    c.writer? (.branded name (.list xs)) = none → ∃ rs, r = .list rs ∧ KeepEach xs rs
  | .dict es =>
    c.writer? (.dict es) = none →
      ∃ rs, r = .dict rs ∧ rs.length = es.length ∧ KeepAmong es rs
  | _ => True

/-- Each of the items `rs` has kept the entries of its item among `xs`. -/
def KeepEach (xs rs : List Value) : Prop :=
  match xs, rs with
  | [], [] => True
  | x :: xs, r :: rs => KeepsEntries x r ∧ KeepEach xs rs
  | _, _ => False

/-- Among `rs` there is for each of the entries `es` a value under the text of its key that has
    kept the entries of its value. -/
def KeepAmong (es rs : List (Value × Value)) : Prop :=
  match es with
  | [] => True
  | (k, v) :: es => (∃ w, (.str k.text, w) ∈ rs ∧ KeepsEntries v w) ∧ KeepAmong es rs

end

mutual

/-- The keys have different texts in each of the dictionaries that are taken apart when `v` is
    written. -/
def TextsApart (v : Value) : Prop :=
  match v with
  | .member enum name mixed w => c.writer? (.member enum name mixed w) = none → TextsApart w
  | .list xs => c.writer? (.list xs) = none → EachApart xs
  | .tuple xs => c.writer? (.tuple xs) = none → EachApart xs
  | .branded name (.list xs) => c.writer? (.branded name (.list xs)) = none → EachApart xs
  | .dict es =>
    c.writer? (.dict es) = none → (es.map fun e => e.1.text).Nodup ∧ ValuesApart es
  | _ => True

/-- The keys have different texts in each item. -/
def EachApart (xs : List Value) : Prop :=
  match xs with
  | [] => True
  | x :: xs => TextsApart x ∧ EachApart xs

/-- The keys have different texts in the value of each entry. -/
def ValuesApart (es : List (Value × Value)) : Prop :=
  match es with
  | [] => True
  | (_, v) :: es => TextsApart v ∧ ValuesApart es

end

end Context

variable {c : Context} {ambient : Encoding}

theorem exists_ofTexts_of_encodeEntries {path : CodingPath} {es rs : List (Value × Value)}
    (h : encodeEntries c ambient path es = .ok rs) :
    ∃ ps, rs = Value.ofTexts ps ∧ ps.map (·.1) = es.map fun e => e.1.text := by
  induction es generalizing rs with
  | nil =>
    rw [encodeEntries] at h
    cases h
    exact ⟨[], rfl, rfl⟩
  | cons e es ih =>
    rw [encodeEntries] at h
    obtain ⟨r, -, h⟩ := exists_of_bind_eq_ok h
    obtain ⟨rs', hrs, h⟩ := exists_of_bind_eq_ok h
    cases h
    obtain ⟨ps, rfl, hps⟩ := ih hrs
    exact ⟨(e.1.text, r) :: ps, rfl, by rw [List.map_cons, hps, List.map_cons]⟩

mutual

theorem keepsEntries_iff_of_encodeWith (v : Value) {path : CodingPath} {r : Value}
    (h : encodeWith c ambient v path = .ok r) : c.KeepsEntries v r ↔ c.TextsApart v := by
  cases v with
  | member enum name mixed w =>
    rw [Context.KeepsEntries, Context.TextsApart]
    refine imp_congr_right fun hw => ?_
    rw [encodeWith, hw] at h
    exact keepsEntries_iff_of_encodeWith w h
  | list xs | tuple xs =>
    rw [Context.KeepsEntries, Context.TextsApart]
    refine imp_congr_right fun hw => ?_
    rw [encodeWith, hw] at h
    obtain ⟨rs, hrs, rfl⟩ := exists_of_map_eq_ok h
    simp [keepEach_iff xs hrs]
  | branded name base =>
    cases base with
    | list xs =>
      rw [Context.KeepsEntries, Context.TextsApart]
      refine imp_congr_right fun hw => ?_
      rw [encodeWith, hw] at h
      obtain ⟨rs, hrs, rfl⟩ := exists_of_map_eq_ok h
      simp [keepEach_iff xs hrs]
    | _ => simp [Context.KeepsEntries, Context.TextsApart]
  | dict es =>
    rw [Context.KeepsEntries, Context.TextsApart]
    refine imp_congr_right fun hw => ?_
    rw [encodeWith, hw] at h
    obtain ⟨rs, hrs, rfl⟩ := exists_of_map_eq_ok h
    obtain ⟨ps, rfl, hps⟩ := exists_ofTexts_of_encodeEntries hrs
    -- as many entries are left as there were pairs exactly if no text stands twice in these
    have hlength : (Value.ofTexts (Entries.ofPairs ps)).length = es.length ↔
        (es.map fun e => e.1.text).Nodup := by
      have hes : es.length = ps.length := by
        simpa using (congrArg List.length hps).symm
      rw [Value.ofTexts, List.length_map, hes, Entries.length_ofPairs_eq_iff, hps]
    simp only [Value.entriesOf_ofTexts, Value.dict.injEq, exists_eq_left', hlength]
    refine and_congr_right fun hnodup => ?_
    rw [← hps] at hnodup
    rw [Entries.ofPairs_of_nodup hnodup]
    exact keepAmong_iff es hrs hnodup (List.Subset.refl _)
  | _ => simp [Context.KeepsEntries, Context.TextsApart]
termination_by structural v

theorem keepEach_iff (xs : List Value) {path : CodingPath} {index : Nat} {rs : List Value}
    (h : encodeItems c ambient path index xs = .ok rs) :
    c.KeepEach xs rs ↔ c.EachApart xs := by
  cases xs with
  | nil =>
    rw [encodeItems] at h
    cases h
    simp [Context.KeepEach, Context.EachApart]
  | cons x xs =>
    rw [encodeItems] at h
    obtain ⟨r, hr, h⟩ := exists_of_bind_eq_ok h
    obtain ⟨rs', hrs, h⟩ := exists_of_bind_eq_ok h
    cases h
    rw [Context.KeepEach, Context.EachApart, keepsEntries_iff_of_encodeWith x hr,
      keepEach_iff xs hrs]
termination_by structural xs

theorem keepAmong_iff (es : List (Value × Value)) {path : CodingPath}
    {rs : List (Value × Value)} (h : encodeEntries c ambient path es = .ok rs)
    {ps : List (String × Value)} (hkeys : (ps.map (·.1)).Nodup) (hsub : rs ⊆ Value.ofTexts ps) :
    c.KeepAmong es (Value.ofTexts ps) ↔ c.ValuesApart es := by
  cases es with
  | nil => simp [Context.KeepAmong, Context.ValuesApart]
  | cons e es =>
    obtain ⟨k, v⟩ := e
    rw [encodeEntries] at h
    obtain ⟨r, hr, h⟩ := exists_of_bind_eq_ok h
    obtain ⟨rs', hrs, h⟩ := exists_of_bind_eq_ok h
    cases h
    obtain ⟨hmem, hsub⟩ := List.cons_subset.1 hsub
    rw [Context.KeepAmong, Context.ValuesApart, keepAmong_iff es hrs hkeys hsub,
      ← keepsEntries_iff_of_encodeWith v hr]
    refine and_congr_left' ⟨?_, fun hkeep => ⟨r, hmem, hkeep⟩⟩
    rintro ⟨w, hw, hkeep⟩
    rwa [Value.eq_of_mem_ofTexts hkeys hmem hw]
termination_by structural es

end

/-- **Entries are kept exactly if keys have different texts.**  What a value is written as has
    kept the entries of all dictionaries that are taken apart if and only if in each of these
    the texts of the keys are different: as many entries are left then, and under the text of
    each key what its value is written as. -/
theorem keepsEntries_iff (c : Context) (v : Value) {path : CodingPath} {r : Value}
    (h : encodeValue c v path = .ok r) : c.KeepsEntries v r ↔ c.TextsApart v := by
  obtain ⟨ambient, hencode⟩ := encodeValue_eq c
  rw [hencode] at h
  exact keepsEntries_iff_of_encodeWith v h

theorem encodeEntries_isOk_iff {path : CodingPath} {es : List (Value × Value)} :
    (∃ rs, encodeEntries c ambient path es = .ok rs) ↔
      ∀ e ∈ es, ∃ r, encodeWith c ambient e.2 (path ++ [e.1.text]) = .ok r := by
  induction es with
  | nil => simp [encodeEntries]
  | cons e es ih =>
    rw [List.forall_mem_cons, ← ih, encodeEntries]
    constructor
    · rintro ⟨rs, h⟩
      obtain ⟨r, hr, h⟩ := exists_of_bind_eq_ok h
      obtain ⟨rs', hrs, -⟩ := exists_of_bind_eq_ok h
      exact ⟨⟨r, hr⟩, rs', hrs⟩
    · rintro ⟨⟨r, hr⟩, rs, hrs⟩
      rw [hr, hrs]
      exact ⟨_, rfl⟩

/-- A dictionary is written if its values are, whatever the texts of its keys. -/
theorem encodeValue_dict_isOk_iff {es : List (Value × Value)} (hw : c.writer? (.dict es) = none)
    (path : CodingPath) :
    (∃ r, encodeValue c (.dict es) path = .ok r) ↔
      ∀ e ∈ es, ∃ r, encodeValue c e.2 (path ++ [e.1.text]) = .ok r := by
  obtain ⟨ambient, hencode⟩ := encodeValue_eq c
  rw [hencode, ← encodeEntries_isOk_iff, encodeWith, hw]
  constructor
  · rintro ⟨r, h⟩
    obtain ⟨rs, hrs, -⟩ := exists_of_map_eq_ok h
    exact ⟨rs, hrs⟩
  · rintro ⟨rs, hrs⟩
    dsimp only
    rw [hrs]
    exact ⟨_, rfl⟩

/-- Answers by number and by name, some of them by truth. -/
def answers : Value :=
  .dict [(.int 1, .tuple [.dict [(.bool true, .str "yes"), (.str "true", .null)]]),
    (.str "x", .dict [])]

/-- The text of the truth value is not the text beside it, but starts with a capital letter. -/
theorem keepsEntries_iff_answers :
    Context.TextsApart ⟨[], []⟩ answers ∧
      ∃ r, encodeValue ⟨[], []⟩ answers [] = .ok r ∧ Context.KeepsEntries ⟨[], []⟩ answers r := by
  have hinner : Context.TextsApart ⟨[], []⟩
      (.tuple [.dict [(.bool true, .str "yes"), (.str "true", .null)]]) :=
    fun _ => ⟨fun _ => ⟨by decide, trivial, trivial, trivial⟩, trivial⟩
  have hapart : Context.TextsApart ⟨[], []⟩ answers :=
    fun _ => ⟨by decide, hinner, fun _ => ⟨by decide, trivial⟩, trivial⟩
  have hwritten : ∃ r, encodeValue ⟨[], []⟩ answers [] = .ok r := by
    refine (encodeValue_dict_isOk_iff rfl []).2 ?_
    rw [List.forall_mem_cons, List.forall_mem_singleton]
    exact ⟨⟨_, rfl⟩, _, rfl⟩
  obtain ⟨r, hr⟩ := hwritten
  exact ⟨hapart, r, hr, (keepsEntries_iff _ _ hr).2 hapart⟩

/-- Of a number and a text that is its text one entry is left. -/
theorem exists_lost_entry :
    ¬ ∀ v r : Value, encodeValue ⟨[], []⟩ v [] = .ok r → Context.KeepsEntries ⟨[], []⟩ v r := by
  intro hkeeps
  have hwrite : encodeValue ⟨[], []⟩ (.dict [(.int 1, .str "a"), (.str "1", .str "b")]) [] =
      .ok (.dict [(.str "1", .str "b")]) := by
    have hpairs : encodeValue ⟨[], []⟩ (.dict [(.int 1, .str "a"), (.str "1", .str "b")]) [] =
        .ok (.dict (Value.entriesOf (Value.ofTexts [("1", .str "a"), ("1", .str "b")]))) := rfl
    rw [hpairs, Value.entriesOf_ofTexts]
    rfl
  obtain ⟨rs, hrs, hlength, -⟩ := hkeeps _ _ hwrite rfl
  cases hrs
  cases hlength

end CodecForge.Coding
