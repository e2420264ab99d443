/-
  CodecForge — the shape of data under a hint.

  The hints for lists, tuples and dictionaries of integers, texts and booleans, and for
  unions of such, say what shape data are to have.

  * `Hint.IsShape` are these hints, and what `unionOf` makes of them is one again
    (`IsShape.unionOf`);
  * `Hint.fits` says whether data have the shape, `Hint.shaped` what data of the shape are
    read as: lists under a hint for tuples are tuples then, and nothing else has changed
    (`Hint.listed_shaped`);
  * `ReadsShape`: data are read if they have the shape of the hint, and refused if they have
    not; that is so by induction on the hint (`readsShape`), from what each kind of hint
    makes of the values inside.
-/
import CodecForge.Proofs.Coding.Outcomes

namespace CodecForge.Coding

/-! ## Shapes -/

namespace Hint

/-- A hint that says what shape data are to have: integers, texts, booleans, lists, tuples
    and dictionaries, and unions of such hints with or without null. -/
inductive IsShape : Hint → Prop
  | scalar {s : Scalar} (hs : s ≠ .float) : IsShape (.scalar s)
  | list {item : Hint} (h : IsShape item) : IsShape (.items .list item)
  | tupleOf {item : Hint} (h : IsShape item) : IsShape (.tupleOf item)
  | tuple {hs : List Hint} (hne : hs ≠ []) (h : ∀ h ∈ hs, IsShape h) : IsShape (.tuple hs)
  | dict (name : String) {value : Hint} (h : IsShape value) :
      IsShape (.dict name (.scalar .str) value)
  | union (name : String) {members : List Hint}
      (h : ∀ m ∈ members, m.isNullClass = false → IsShape m) : IsShape (.union name members)

theorem membersOf_subset (hs : List Hint) : membersOf hs ⊆ Hint.flattened hs := by
  refine List.foldlRecOn (motive := fun kept => kept ⊆ Hint.flattened hs) _ _
    (List.nil_subset _) fun kept hkept h hh => ?_
  split
  · exact hkept
  · exact List.append_subset.2 ⟨hkept, List.cons_subset.2 ⟨hh, List.nil_subset _⟩⟩

/-- What holds of a union exactly if it holds of its members besides null holds of the union of
    hints of which it holds, unless that is null alone. -/
theorem holds_unionOf {P : Hint → Prop}
    (hP : ∀ name members, P (.union name members) ↔ ∀ m ∈ members, m.isNullClass = false → P m)
    {hs : List Hint} (h : ∀ k ∈ hs, k.isNullClass = false → P k)
    (hnull : (Hint.unionOf hs).isNullClass = false) : P (Hint.unionOf hs) := by
  have hmembers : ∀ k ∈ membersOf hs, k.isNullClass = false → P k := by
    intro k hk hknull
    obtain ⟨k', hk', hmem⟩ := List.mem_flatMap.1 (membersOf_subset hs hk)
    split at hmem
    · exact (hP _ _).1 (h _ hk' rfl) k hmem hknull
    · obtain rfl := List.mem_singleton.1 hmem
      exact h k hk' hknull
  unfold Hint.unionOf at hnull ⊢
  split at hnull
  · next k hk => exact hmembers k (by simp [hk]) hnull
  · next hk => exact (hP _ _).2 (hk ▸ hmembers)
  · exact (hP _ _).2 hmembers

/-- The union of such hints is one, unless it is null alone. -/
theorem IsShape.unionOf {hs : List Hint} (h : ∀ k ∈ hs, k.isNullClass = false → IsShape k)
    (hnull : (Hint.unionOf hs).isNullClass = false) : IsShape (Hint.unionOf hs) := by
  refine holds_unionOf (fun name members => ⟨fun hunion => ?_, .union name⟩) h hnull
  cases hunion with
  | union _ hmembers => exact hmembers

mutual

/-- Whether data have the shape of a hint. -/
def fits (h : Hint) (d : Value) : Bool :=
  match h, d with
  | .scalar .int, .int _ => true
  | .scalar .str, .str _ => true
  | .scalar .bool, .bool _ => true
  | .items _ item, .list xs => xs.all (fits item)
  | .tupleOf item, .list xs => xs.all (fits item)
  | .tuple hs, .list xs => fitEach hs xs
  | .dict _ _ value, .dict es => es.all fun e => fits value e.2
  | .union _ members, d => if d.isNull then members.any isNullClass else someFits members d
  | _, _ => false

/-- Whether there are as many values as hints, each of the shape of its hint. -/
def fitEach (hs : List Hint) (xs : List Value) : Bool :=
  match hs, xs with
  | [], [] => true
  | h :: hs, x :: xs => fits h x && fitEach hs xs
  | _, _ => false

/-- Whether data have the shape of one of several hints. -/
def someFits (hs : List Hint) (d : Value) : Bool :=
  match hs with
  | [] => false
  | h :: hs => fits h d || someFits hs d

end

mutual

/-- What data of the shape of a hint are read as: lists under a hint for tuples are tuples,
    and the first member of a union that data fit decides. -/
def shaped (h : Hint) (d : Value) : Value :=
  match h, d with
  | .items _ item, .list xs => .list (xs.map (shaped item))
  | .tupleOf item, .list xs => .tuple (xs.map (shaped item))
  | .tuple hs, .list xs => .tuple (shapedEach hs xs)
  | .dict _ _ value, .dict es => .dict (es.map fun e => (e.1, shaped value e.2))
  | .union _ members, d => if d.isNull then d else shapedFirst members d
  | _, d => d

/-- Values of the shapes of hints, one by one. -/
def shapedEach (hs : List Hint) (xs : List Value) : List Value :=
  match hs, xs with
  | h :: hs, x :: xs => shaped h x :: shapedEach hs xs
  | _, _ => []

/-- Data of the shape of the first hint that they fit. -/
def shapedFirst (hs : List Hint) (d : Value) : Value :=
  match hs with
  | [] => d
  | h :: hs => if fits h d then shaped h d else shapedFirst hs d

end

theorem fits_of_isNullClass {h : Hint} (hnull : h.isNullClass = true) (d : Value) :
    h.fits d = false := by
  cases h with
  | cls name => rfl
  | _ => cases hnull

theorem someFits_filter (members : List Hint) (d : Value) :
    someFits (members.filter (!·.isNullClass)) d = someFits members d := by
  induction members with
  | nil => rfl
  | cons m members ih =>
    cases hnull : m.isNullClass with
    | true => simp [hnull, someFits, ih, fits_of_isNullClass hnull]
    | false => simp [hnull, someFits, ih]

theorem shapedFirst_filter (members : List Hint) (d : Value) :
    shapedFirst (members.filter (!·.isNullClass)) d = shapedFirst members d := by
  induction members with
  | nil => rfl
  | cons m members ih =>
    cases hnull : m.isNullClass with
    | true => simp [hnull, shapedFirst, ih, fits_of_isNullClass hnull]
    | false => simp [hnull, shapedFirst, ih]

theorem fitEach_iff {hs : List Hint} {xs : List Value} :
    fitEach hs xs = true ↔ List.Forall₂ (fun h x => h.fits x = true) hs xs := by
  induction hs generalizing xs with
  | nil => cases xs <;> simp [fitEach]
  | cons h hs ih => cases xs <;> simp [fitEach, ih]

/-- Only lists have the shape of a hint that takes nothing but lists. -/
theorem fits_not_list {h : Hint} {expected : String} (hh : listExpected? h = some expected)
    {d : Value} (hlist : d.asList? = none) : h.fits d = false := by
  cases h with
  | items | tupleOf | tuple | anyTuple =>
    cases d with
    | list xs => cases hlist
    | _ => rfl
  | _ => cases hh

theorem exists_list_of_fits {h : Hint} {expected : String} (hh : listExpected? h = some expected)
    {d : Value} (hd : d.IsJson) (hfits : h.fits d = true) :
    ∃ xs, d = .list xs ∧ ∀ x ∈ xs, x.IsJson := by
  rcases hd.list_cases with rfl | hxs | ⟨-, hlist⟩
  · cases (fits_not_list hh rfl).symm.trans hfits
  · exact hxs
  · cases (fits_not_list hh hlist).symm.trans hfits

end Hint

/-! ## Lists for tuples -/

namespace Value

mutual

/-- A value with lists for the tuples in it. -/
def listed (v : Value) : Value :=
  match v with
  | .list xs => .list (listedEach xs)
  | .tuple xs => .list (listedEach xs)
  | .dict es => .dict (listedEntries es)
  | v => v

/-- Values with lists for the tuples in them. -/
def listedEach (vs : List Value) : List Value :=
  match vs with
  | [] => []
  | v :: vs => listed v :: listedEach vs

/-- Entries with lists for the tuples in their values. -/
def listedEntries (es : List (Value × Value)) : List (Value × Value) :=
  match es with
  | [] => []
  | (k, v) :: es => (k, listed v) :: listedEntries es

end

theorem listedEach_map {f : Value → Value} {xs : List Value} (h : ∀ x ∈ xs, (f x).listed = x) :
    listedEach (xs.map f) = xs := by
  induction xs with
  | nil => rfl
  | cons x xs ih =>
    rw [List.forall_mem_cons] at h
    rw [List.map_cons, listedEach, h.1, ih h.2]

theorem listedEntries_map {f : Value → Value} {es : List (Value × Value)}
    (h : ∀ e ∈ es, (f e.2).listed = e.2) :
    listedEntries (es.map fun e => (e.1, f e.2)) = es := by
  induction es with
  | nil => rfl
  | cons e es ih =>
    rw [List.forall_mem_cons] at h
    rw [List.map_cons, listedEntries, h.1, ih h.2]

end Value

namespace Hint

theorem listedEach_shapedEach {hs : List Hint} {xs : List Value}
    (h : List.Forall₂ (fun h x => (h.shaped x).listed = x) hs xs) :
    Value.listedEach (shapedEach hs xs) = xs := by
  induction h with
  | nil => rfl
  | cons hx _ ih => rw [shapedEach, Value.listedEach, hx, ih]

theorem listed_shapedFirst {members : List Hint} {d : Value}
    (h : ∀ m ∈ members, m.fits d = true → (m.shaped d).listed = d)
    (hfits : someFits members d = true) : (shapedFirst members d).listed = d := by
  induction members with
  | nil => cases hfits
  | cons m members ih =>
    rw [List.forall_mem_cons] at h
    rw [shapedFirst]
    split
    · next hm => exact h.1 hm
    · next hm =>
      rw [someFits, Bool.eq_false_of_not_eq_true hm, Bool.false_or] at hfits
      exact ih h.2 hfits

/-- Taking the tuples for lists again, data are what they were. -/
theorem listed_shaped {h : Hint} (hh : h.IsShape) {d : Value} (hd : d.IsJson)
    (hfits : h.fits d = true) : (h.shaped d).listed = d := by
  induction hh generalizing d with
  | @scalar s hs =>
    rw [shaped] <;> try simp
    cases hd with
    | list | dict => cases s <;> cases hfits
    | _ => rfl
  | @list item _ ih =>
    obtain ⟨xs, rfl, hxs⟩ := exists_list_of_fits rfl hd hfits
    rw [fits, List.all_eq_true] at hfits
    rw [shaped, Value.listed, Value.listedEach_map fun x hx => ih (hxs x hx) (hfits x hx)]
  | @tupleOf item _ ih =>
    obtain ⟨xs, rfl, hxs⟩ := exists_list_of_fits rfl hd hfits
    rw [fits, List.all_eq_true] at hfits
    rw [shaped, Value.listed, Value.listedEach_map fun x hx => ih (hxs x hx) (hfits x hx)]
  | @tuple hs _ _ ih =>
    obtain ⟨xs, rfl, hxs⟩ := exists_list_of_fits rfl hd hfits
    rw [fits, fitEach_iff] at hfits
    have heach : List.Forall₂ (fun h x => (h.shaped x).listed = x) hs xs :=
      forall₂_imp_mem hfits fun h hh x hx => ih h hh (hxs x hx)
    rw [shaped, Value.listed, listedEach_shapedEach heach]
  | @dict name value _ ih =>
    rcases hd.dict_cases with rfl | ⟨ps, rfl, hps⟩ | ⟨-, hdict⟩
    · cases hfits
    · rw [fits, List.all_eq_true] at hfits
      have heach : ∀ e ∈ Value.ofTexts ps, (value.shaped e.2).listed = e.2 := by
        intro e he
        obtain ⟨p, hp, rfl⟩ := List.mem_map.1 he
        exact ih (hps p hp) (hfits _ he)
      rw [shaped, Value.listed, Value.listedEntries_map heach]
    · cases d with
      | dict es => exact absurd rfl (hdict es)
      | _ => cases hfits
  | @union name members _ ih =>
    rw [fits] at hfits
    rw [shaped]
    cases hnull : d.isNull with
    | true =>
      rw [Value.eq_null hnull]
      rfl
    | false =>
      rw [hnull] at hfits
      refine listed_shapedFirst (fun m hm hmfits => ?_) hfits
      cases hmnull : m.isNullClass with
      | true => cases (fits_of_isNullClass hmnull d).symm.trans hmfits
      | false => exact ih m hm hmnull hd hmfits

end Hint

/-! ## Reading -/

/-- Data are read if they have the shape of the hint, and refused if they do not. -/
structure ReadsShape (dec : Decoding) (h : Hint) (d : Value) : Prop where
  reads : h.fits d = true → ∀ path, dec h d path = .ok (h.shaped d)
  refuses : h.fits d = false → Refuses dec h d

section
variable {c : Context} {dec ambient : Decoding}

theorem ReadsShape.of_error {h : Hint} {d : Value} {cause : Cause} (hfits : h.fits d = false)
    (hkind : cause.kind ≠ .encoding) (hown : ∀ path, dec h d path = .error (.at cause path)) :
    ReadsShape dec h d where
  reads h' := absurd (hfits.symm.trans h') Bool.false_ne_true
  refuses _ := .of_error hkind hown

theorem readsShape_null {h : Hint} (hh : refusesNull h = true) :
    ReadsShape (decodeWith c ambient) h .null := by
  refine .of_error ?_ (by simp [Cause.kind]) (decodeWith_null hh)
  cases h with
  | scalar s => cases s <;> rfl
  | union => cases hh
  | _ => rfl

theorem readsShape_of_list {h : Hint} {expected : String} (hh : listExpected? h = some expected)
    {d : Value} (hd : d.IsJson)
    (hlist : ∀ xs, (∀ x ∈ xs, x.IsJson) → ReadsShape (decodeWith c ambient) h (.list xs)) :
    ReadsShape (decodeWith c ambient) h d := by
  rcases hd.list_cases with rfl | ⟨xs, rfl, hxs⟩ | ⟨hnull, hnone⟩
  · exact readsShape_null (refusesNull_of_listExpected? hh)
  · exact hlist xs hxs
  · exact .of_error (Hint.fits_not_list hh hnone) (by simp [Cause.kind])
      (decodeWith_not_list hh hnull hnone)

theorem decodeScalar_eq {s : Scalar} (hs : s ≠ .float) {d : Value} (hd : d.IsJson)
    (path : CodingPath) : decodeScalar s d path =
      if (Hint.scalar s).fits d then .ok d else .error (mismatch s.name d path) := by
  cases s with
  | float => exact absurd rfl hs
  | _ => cases hd <;> rfl

theorem readsShape_scalar {s : Scalar} (hs : s ≠ .float) (hreader : c.reader? s.name = none)
    {d : Value} (hd : d.IsJson) : ReadsShape (decodeWith c ambient) (.scalar s) d := by
  cases hnull : d.isNull with
  | true => exact Value.eq_null hnull ▸ readsShape_null rfl
  | false =>
    have heq : ∀ path, decodeWith c ambient (.scalar s) d path =
        if (Hint.scalar s).fits d then .ok d else .error (mismatch s.name d path) := by
      intro path
      rw [decodeWith_scalar hreader hnull, decodeScalar_eq hs hd]
    cases hfits : (Hint.scalar s).fits d with
    | true =>
      refine ⟨fun _ path => ?_, fun h => absurd h (by simp [hfits])⟩
      rw [heq, if_pos hfits, Hint.shaped] <;> simp
    | false =>
      have hmismatch : ∀ path, decodeWith c ambient (.scalar s) d path =
          .error (mismatch s.name d path) := by
        intro path
        rw [heq, hfits]
        rfl
      exact .of_error hfits (by simp [Cause.kind]) hmismatch

/-- The first of several values that has not the shape is refused. -/
theorem exists_first_refused {α : Type} {h : Hint} {value : α → Value} {xs : List α}
    (hxs : ∀ x ∈ xs, ReadsShape dec h (value x))
    (hfits : (xs.all fun x => h.fits (value x)) = false) :
    ∃ before x after, xs = before ++ x :: after ∧ (∀ y ∈ before, Reads dec h (value y)) ∧
      Refuses dec h (value x) := by
  rcases forall_or_exists_first (fun x => h.fits (value x) = true) xs with
    hall | ⟨before, x, after, rfl, hbefore, hx⟩
  · rw [List.all_eq_true.2 hall] at hfits
    cases hfits
  · refine ⟨before, x, after, rfl, fun y hy => ?_, (hxs x (by simp)).refuses (by simpa using hx)⟩
    exact ⟨_, (hxs y (by simp [hy])).reads (hbefore y hy)⟩

theorem decodeItems_shaped {item : Hint} {xs : List Value}
    (hxs : ∀ x ∈ xs, ReadsShape (decodeWith c ambient) item x)
    (hfits : xs.all item.fits = true) (path : CodingPath) :
    decodeItems (decodeWith c ambient item) path 0 xs = .ok (xs.map item.shaped) := by
  refine decodeItems_of_forall₂ (List.forall₂_map_left_iff.2 (List.forall₂_same.2 ?_)) path 0
  exact fun x hx => (hxs x hx).reads (List.all_eq_true.1 hfits x hx)

theorem readsShape_list {item : Hint} {xs : List Value}
    (hxs : ∀ x ∈ xs, ReadsShape (decodeWith c ambient) item x) :
    ReadsShape (decodeWith c ambient) (.items .list item) (.list xs) where
  reads hfits path := by
    rw [Hint.fits] at hfits
    rw [decodeWith_items, decodeItems_shaped hxs hfits, Hint.shaped]
    rfl
  refuses hfits := by
    rw [Hint.fits] at hfits
    obtain ⟨before, x, after, rfl, hbefore, hx⟩ := exists_first_refused hxs hfits
    exact hx.lift (.item hbefore (.here item x))

theorem readsShape_tupleOf {item : Hint} {xs : List Value}
    (hxs : ∀ x ∈ xs, ReadsShape (decodeWith c ambient) item x) :
    ReadsShape (decodeWith c ambient) (.tupleOf item) (.list xs) where
  reads hfits path := by
    rw [Hint.fits] at hfits
    rw [decodeWith_tupleOf, decodeItems_shaped hxs hfits, Hint.shaped]
    rfl
  refuses hfits := by
    rw [Hint.fits] at hfits
    obtain ⟨before, x, after, rfl, hbefore, hx⟩ := exists_first_refused hxs hfits
    exact hx.lift (.tupleItem hbefore (.here item x))

theorem decodeEach_shaped {hs : List Hint} {xs : List Value}
    (h : List.Forall₂ (fun h x => ∀ path, decodeWith c ambient h x path = .ok (h.shaped x)) hs xs)
    (path : CodingPath) (index : Nat) :
    decodeEach c ambient hs xs path index = .ok (Hint.shapedEach hs xs) := by
  induction h generalizing index with
  | nil => rw [decodeEach, Hint.shapedEach] <;> simp
  | cons hx _ ih =>
    rw [decodeEach, hx, ih, Hint.shapedEach]
    rfl

theorem readsShape_tuple {hs : List Hint} (hne : hs ≠ []) {xs : List Value}
    (hxs : ∀ h ∈ hs, ∀ x ∈ xs, ReadsShape (decodeWith c ambient) h x) :
    ReadsShape (decodeWith c ambient) (.tuple hs) (.list xs) where
  reads hfits path := by
    rw [Hint.fits] at hfits
    have hread : List.Forall₂
        (fun h x => ∀ path, decodeWith c ambient h x path = .ok (h.shaped x)) hs xs :=
      forall₂_imp_mem (Hint.fitEach_iff.1 hfits) fun h hh x hx => (hxs h hh x hx).reads
    rw [decodeWith_tuple hne hread.length_eq, decodeEach_shaped hread, Hint.shaped]
    rfl
  refuses hfits := by
    rw [Hint.fits] at hfits
    by_cases hlen : hs.length = xs.length
    · rcases forall₂_or_exists_first (fun h x => h.fits x = true) hlen with
        hall | ⟨hs₁, h, hs₂, before, x, after, rfl, rfl, htail, hbefore, hx⟩
      · rw [Hint.fitEach_iff.2 hall] at hfits
        cases hfits
      · have hreads : List.Forall₂ (Reads (decodeWith c ambient)) hs₁ before :=
          forall₂_imp_mem hbefore fun h' hh' y hy hfits' =>
            ⟨_, (hxs h' (by simp [hh']) y (by simp [hy])).reads hfits'⟩
        have hrefused := (hxs h (by simp) x (by simp)).refuses (by simpa using hx)
        exact hrefused.lift (.component hreads htail (.here h x))
    · exact .of_error (by simp [Cause.kind]) (decodeWith_tuple_length hne hlen)

theorem readsShape_dict (name : String) (key : Hint) {value : Hint} {ps : List (String × Value)}
    (hps : ∀ p ∈ ps, ReadsShape (decodeWith c ambient) value p.2) :
    ReadsShape (decodeWith c ambient) (.dict name key value) (.dict (Value.ofTexts ps)) := by
  have hfits_iff : Hint.fits (.dict name key value) (.dict (Value.ofTexts ps)) =
      ps.all fun p => value.fits p.2 := by
    rw [Hint.fits, Value.ofTexts, List.all_map]
    rfl
  refine ⟨fun hfits path => ?_, fun hfits => ?_⟩
  · rw [hfits_iff, List.all_eq_true] at hfits
    have hread : List.Forall₂ (fun p r => r.1 = p.1 ∧
        ∀ path, decodeWith c ambient value r.2 path = .ok p.2)
        (ps.map fun p => (p.1, value.shaped p.2)) ps :=
      List.forall₂_map_left_iff.2
        (List.forall₂_same.2 fun p hp => ⟨rfl, (hps p hp).reads (hfits p hp)⟩)
    rw [decodeWith_dict, decodeEntries_of_forall₂ hread, Hint.shaped]
    simp [Except.map, Value.ofTexts]
  · rw [hfits_iff] at hfits
    obtain ⟨before, p, after, rfl, hbefore, hp⟩ := exists_first_refused hps hfits
    exact hp.lift (.entry hbefore (.here value p.2))

/-- Members that data do not fit are passed over, and the first that they fit decides. -/
theorem decodeFirst_shaped {members : List Hint} {d : Value}
    (hms : ∀ m ∈ members, m.isNullClass = false → ReadsShape (decodeWith c ambient) m d)
    (name : String) (path : CodingPath) :
    decodeFirst c ambient name members d path =
      if Hint.someFits members d then .ok (Hint.shapedFirst members d)
      else .error (mismatch name d path) := by
  induction members with
  | nil => rfl
  | cons m members ih =>
    rw [List.forall_mem_cons] at hms
    rw [Hint.someFits, Hint.shapedFirst]
    cases hnull : m.isNullClass with
    | true =>
      rw [decodeFirst, if_pos hnull, ih hms.2, Hint.fits_of_isNullClass hnull]
      rfl
    | false =>
      cases hfits : m.fits d with
      | true => exact decodeFirst_cons hnull name members ((hms.1 hnull).reads hfits path) (by simp)
      | false =>
        have hrefused : ∀ m' ∈ [m], m'.isNullClass = false →
            Refuses (decodeWith c ambient) m' d := by
          simpa using fun _ => (hms.1 hnull).refuses hfits
        rw [← List.singleton_append, decodeFirst_append hrefused, ih hms.2]
        rfl

theorem readsShape_union (name : String) {members : List Hint} {d : Value}
    (hms : ∀ m ∈ members, m.isNullClass = false → ReadsShape (decodeWith c ambient) m d) :
    ReadsShape (decodeWith c ambient) (.union name members) d := by
  cases hnull : d.isNull with
  | true =>
    obtain rfl := Value.eq_null hnull
    cases hany : members.any Hint.isNullClass with
    | true =>
      have hfits : (Hint.union name members).fits .null = true := by
        rw [Hint.fits, if_pos hnull, hany]
      refine ⟨fun _ path => ?_, fun h => absurd (hfits.symm.trans h) (by simp)⟩
      rw [decodeWith, if_pos hnull, if_pos hany, Hint.shaped, if_pos hnull]
    | false =>
      have hrefused : ∀ path, decodeWith c ambient (.union name members) .null path =
          .error (.at (.valueNotFound name) path) := by
        intro path
        rw [decodeWith, if_pos hnull, hany]
        rfl
      exact .of_error (by rw [Hint.fits, if_pos hnull, hany]) (by simp [Cause.kind]) hrefused
  | false =>
    have hfits_eq : (Hint.union name members).fits d = Hint.someFits members d := by
      rw [Hint.fits, hnull]
      rfl
    have hshaped_eq : (Hint.union name members).shaped d = Hint.shapedFirst members d := by
      rw [Hint.shaped, hnull]
      rfl
    -- the only member besides null is read in the place of the union, also when it refuses
    by_cases hone : (members.filter (!·.isNullClass)).length = 1
    · obtain ⟨m, hm⟩ := List.length_eq_one_iff.1 hone
      obtain ⟨hmem, hmnull⟩ := List.mem_filter.1 (hm ▸ List.mem_singleton_self m)
      have hread := hms m hmem (by simpa using hmnull)
      rw [← Hint.someFits_filter, hm, Hint.someFits, Hint.someFits, Bool.or_false] at hfits_eq
      rw [← Hint.shapedFirst_filter, hm, Hint.shapedFirst] at hshaped_eq
      refine ⟨fun hfits path => ?_, fun hfits => ?_⟩
      · rw [hfits_eq] at hfits
        rw [decodeWith_only hm hnull, hread.reads hfits, hshaped_eq, if_pos hfits]
      · exact (hread.refuses (hfits_eq ▸ hfits)).lift (.only hm hnull (.here m d))
    · refine ⟨fun hfits path => ?_, fun hfits => ?_⟩
      · rw [decodeWith_many hone hnull, decodeFirst_shaped hms, ← hfits_eq, if_pos hfits,
          hshaped_eq]
      · have hmismatch : ∀ path, decodeWith c ambient (.union name members) d path =
            .error (mismatch name d path) := by
          intro path
          rw [decodeWith_many hone hnull, decodeFirst_shaped hms, ← hfits_eq, hfits]
          rfl
        exact .of_error (by simp [Cause.kind]) hmismatch

/-- Scalars that say what shape data are to have are not read by codecs. -/
def Context.KeepsScalars (c : Context) : Prop := ∀ s : Scalar, s ≠ .float → c.reader? s.name = none

theorem Context.keepsScalars_of_nil (hc : c.codecs = []) : c.KeepsScalars :=
  fun s _ => Context.reader?_of_nil hc s.name

theorem readsShape (hc : c.KeepsScalars) {h : Hint} (hh : h.IsShape) {d : Value} (hd : d.IsJson) :
    ReadsShape (decodeWith c ambient) h d := by
  induction hh generalizing d with
  | scalar hs => exact readsShape_scalar hs (hc _ hs) hd
  | list _ ih =>
    exact readsShape_of_list rfl hd fun xs hxs => readsShape_list fun x hx => ih (hxs x hx)
  | tupleOf _ ih =>
    exact readsShape_of_list rfl hd fun xs hxs => readsShape_tupleOf fun x hx => ih (hxs x hx)
  | tuple hne _ ih =>
    exact readsShape_of_list rfl hd fun xs hxs =>
      readsShape_tuple hne fun h hh x hx => ih h hh (hxs x hx)
  | dict name _ ih =>
    rcases hd.dict_cases with rfl | ⟨ps, rfl, hps⟩ | ⟨hnull, hdict⟩
    · exact readsShape_null rfl
    · exact readsShape_dict name _ fun p hp => ih (hps p hp)
    · refine .of_error ?_ (by simp [Cause.kind]) (decodeWith_not_dict name _ _ hnull hdict)
      cases d with
      | dict es => exact absurd rfl (hdict es)
      | _ => rfl
  | union name _ ih => exact readsShape_union name fun m hm hnull => ih m hm hnull hd

/-- **Data are read exactly if they have the shape of the hint.**  Unless codecs read
    integers, texts or booleans, JSON data are read under a hint that says what shape they
    are to have if and only if they have it; what does not have it is refused by an error of
    decoding.  The value is the data with tuples for the lists under hints for tuples: taking
    these for lists again, it is the data. -/
theorem decodeValue_shape (hc : c.KeepsScalars) {h : Hint} (hh : h.IsShape) {d : Value}
    (hd : d.IsJson) (path : CodingPath) :
    ((∃ v, decodeValue c h d path = .ok v) ↔ h.fits d = true) ∧
      (∀ v, decodeValue c h d path = .ok v → v = h.shaped d ∧ v.listed = d) ∧
      ∀ f, decodeValue c h d path = .error f → f.isDecoding = true := by
  obtain ⟨ambient, hdecode⟩ := decodeValue_eq c
  rw [hdecode]
  have hread : ReadsShape (decodeWith c ambient) h d := readsShape hc hh hd
  cases hfits : h.fits d with
  | true =>
    rw [hread.reads hfits]
    refine ⟨by simp, fun v hv => ?_, by simp⟩
    obtain rfl := Except.ok.inj hv
    exact ⟨rfl, Hint.listed_shaped hh hd hfits⟩
  | false =>
    obtain ⟨cause, q, hkind, herror⟩ := hread.refuses hfits
    rw [herror]
    refine ⟨by simp, by simp, fun f hf => ?_⟩
    obtain rfl := Except.error.inj hf
    exact decide_eq_true hkind

end

/-- Points and lines by name: a point is a pair of integers, a line a list of such pairs. -/
def drawing : Hint :=
  .dict "Dict" (.scalar .str) (.unionOf [.tuple [.scalar .int, .scalar .int],
    .items .list (.tuple [.scalar .int, .scalar .int]), .nullClass])

/-- A point, a line and nothing. -/
def sketch : Value :=
  .dict (Value.ofTexts [("p", .list [.int 1, .int 2]),
    ("l", .list [.list [.int 3, .int 4], .list [.int 5, .int 6]]), ("n", .null)])

/-- The line is no point, and is read as a line after that. -/
theorem decodeValue_shape_sketch :
    (∀ s ≠ Scalar.float, Context.reader? ⟨[], []⟩ s.name = none) ∧ drawing.IsShape ∧
      sketch.IsJson ∧
      decodeValue ⟨[], []⟩ drawing sketch [] =
        .ok (.dict (Value.ofTexts [("p", .tuple [.int 1, .int 2]),
          ("l", .list [.tuple [.int 3, .int 4], .tuple [.int 5, .int 6]]), ("n", .null)])) := by
  have hc : Context.KeepsScalars ⟨[], []⟩ := Context.keepsScalars_of_nil rfl
  have hpair : Hint.IsShape (.tuple [.scalar .int, .scalar .int]) :=
    .tuple (by simp) (by simpa using .scalar (by decide))
  have hh : drawing.IsShape := by
    refine .dict _ (.unionOf ?_ rfl)
    simp only [List.forall_mem_cons]
    exact ⟨fun _ => hpair, fun _ => .list hpair, by simp [Hint.nullClass, Hint.isNullClass]⟩
  have hd : sketch.IsJson := by
    have hpoint : ∀ m n : Int, Value.IsJson (.list [.int m, .int n]) := by
      intro m n
      exact .list (by simp [Value.IsJson.int])
    refine .dict (by decide) ?_
    simp only [List.forall_mem_cons]
    exact ⟨hpoint 1 2, .list (by simp [hpoint]), .null, by simp⟩
  obtain ⟨hiff, hvalue, -⟩ := decodeValue_shape hc hh hd []
  obtain ⟨v, hv⟩ := hiff.2 rfl
  exact ⟨hc, hh, hd, hv.trans (congrArg Except.ok (hvalue v hv).1)⟩

end CodecForge.Coding
