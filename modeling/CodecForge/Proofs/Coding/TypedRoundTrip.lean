/-
  CodecForge — values that are written and read again under a type.

  * `PlainType` are the types built from scalars, enumerations of texts, lists,
    tuples, dictionaries and optional types; `PlainType.hint` is the hint of a type,
    `PlainType.Holds` says which values are of it;
  * an optional type of an optional type has the same hint (`unionOf_orNull`), hence
    the hint of an optional type is one class and the class of null (`hint_cases`);
  * `decodeValue_encodeValue`: without codecs every value of a type is written, and is
    read again under the hint of the type.
-/
import CodecForge.Proofs.Coding.Collections

namespace CodecForge.Coding

/-! ## Optional hints -/

namespace Hint

/-- A hint that is no union, and is not the class of null. -/
structure IsSingle (h : Hint) : Prop where
  notUnion : ∀ name members, h ≠ .union name members
  notNull : h.isNullClass = false

/-- The hint of what is null or else read under `h`. -/
def orNull (h : Hint) : Hint := .union "Optional" [h, nullClass]

theorem same_nullClass {h : Hint} (hs : h.IsSingle) : same h nullClass = false := by
  cases h with
  | cls name =>
    have hne : name ≠ "NoneType" := by
      rintro rfl
      exact absurd hs.notNull (by decide)
    simpa [same, nullClass] using hne
  | union name members => exact absurd rfl (hs.notUnion name members)
  | _ => simp [same, nullClass]

theorem isNullClass_nullClass : nullClass.isNullClass = true := rfl

theorem same_nullClass_self : same nullClass nullClass = true := by
  simp [same, nullClass]

theorem flattened_single {h : Hint} (hs : h.IsSingle) :
    flattened [h, nullClass] = [h, nullClass] := by
  cases h with
  | union name members => exact absurd rfl (hs.notUnion name members)
  | _ => rfl

theorem flattened_orNull (h : Hint) :
    flattened [h.orNull, nullClass] = [h, nullClass, nullClass] :=
  rfl

theorem unionOf_of_membersOf {h : Hint} {hs : List Hint} (hm : membersOf hs = [h, nullClass]) :
    unionOf hs = h.orNull := by
  rw [unionOf, hm]
  simp [orNull, nullClass, isNullClass]

theorem unionOf_single {h : Hint} (hs : h.IsSingle) : unionOf [h, nullClass] = h.orNull := by
  refine unionOf_of_membersOf ?_
  simp [membersOf, flattened_single hs, same_nullClass hs]

/-- What is optional twice is optional. -/
theorem unionOf_orNull {h : Hint} (hs : h.IsSingle) :
    unionOf [h.orNull, nullClass] = h.orNull := by
  refine unionOf_of_membersOf ?_
  simp [membersOf, flattened_orNull, same_nullClass hs, same_nullClass_self]

/-- A hint that is single or optional is optional when it is made so: under the single hint that
    it is, or that is left of it. -/
theorem exists_unionOf_nullClass {t : Hint}
    (ht : t.IsSingle ∨ ∃ h : Hint, h.IsSingle ∧ t = h.orNull) :
    ∃ h : Hint, h.IsSingle ∧ unionOf [t, nullClass] = h.orNull ∧ (t = h ∨ t = h.orNull) := by
  rcases ht with hs | ⟨h, hs, rfl⟩
  · exact ⟨t, hs, unionOf_single hs, .inl rfl⟩
  · exact ⟨h, hs, unionOf_orNull hs, .inr rfl⟩

end Hint

/-! ## Types -/

/-- An enumeration of `u` with a text for each of its members, no text twice. -/
structure StringEnum (u : Classes) where
  info : ClassInfo
  members : List (String × String)
  found : u.find? info.name = some info
  members_eq : info.members = some (members.map fun m => (m.1, .str m.2))
  nodup : (members.map (·.2)).Nodup
  /-- the names of built-in classes are taken -/
  name_ne : info.name ≠ "str" ∧ info.name ≠ "NoneType"

/-- A type whose values are written and read without codecs. -/
inductive PlainType (u : Classes) where
  | scalar (s : Scalar)
  | enum (e : StringEnum u)
  | list (item : PlainType u)
  | tupleOf (item : PlainType u)
  | tuple (first : PlainType u) (rest : List (PlainType u))
  | dict (value : PlainType u)
  | optional (t : PlainType u)

/-- A value is one of a scalar class; a boolean is no integer. -/
inductive Scalar.Holds : Scalar → Value → Prop
  | int (n : Int) : Holds .int (.int n)
  | float (x : Double) : Holds .float (.float x)
  | str (s : String) : Holds .str (.str s)
  | bool (b : Bool) : Holds .bool (.bool b)

/-- The member of an enumeration with a name and a text. -/
def StringEnum.member {u : Classes} (e : StringEnum u) (m : String × String) : Value :=
  .member e.info.name m.1 e.info.mixed (.str m.2)

namespace PlainType

variable {u : Classes}

mutual

/-- The hint of a type. -/
def hint : PlainType u → Hint
  | .scalar s => .scalar s
  | .enum e => .cls e.info.name
  | .list t => .items .list t.hint
  | .tupleOf t => .tupleOf t.hint
  | .tuple t ts => .tuple (t.hint :: hints ts)
  | .dict t => .dict "Dict" (.scalar .str) t.hint
  | .optional t => .unionOf [t.hint, .nullClass]

/-- The hints of types. -/
def hints : List (PlainType u) → List Hint
  | [] => []
  | t :: ts => t.hint :: hints ts

end

mutual

/-- Whether a value is one of a type, with the class of the type at every position. -/
def Holds : PlainType u → Value → Prop
  | .scalar s, v => s.Holds v
  | .enum e, v => ∃ m ∈ e.members, v = e.member m
  | .list t, v => ∃ xs, v = .list xs ∧ ∀ x ∈ xs, t.Holds x
  | .tupleOf t, v => ∃ xs, v = .tuple xs ∧ ∀ x ∈ xs, t.Holds x
  | .tuple t ts, v => ∃ x xs, v = .tuple (x :: xs) ∧ t.Holds x ∧ HoldEach ts xs
  | .dict t, v => ∃ ps, v = .dict (Value.ofTexts ps) ∧ (ps.map (·.1)).Nodup ∧
      ∀ p ∈ ps, t.Holds p.2
  | .optional t, v => v = .null ∨ t.Holds v

/-- Whether values are one of a type each. -/
def HoldEach : List (PlainType u) → List Value → Prop
  | [], xs => xs = []
  | t :: ts, xs => ∃ y ys, xs = y :: ys ∧ t.Holds y ∧ HoldEach ts ys

end

/-- The hint of a type is a single one, or that of what is null or else read under a
    single one. -/
theorem hint_cases (t : PlainType u) :
    t.hint.IsSingle ∨ ∃ h : Hint, h.IsSingle ∧ t.hint = h.orNull := by
  cases t with
  | optional t =>
    obtain ⟨h, hs, ho, -⟩ := Hint.exists_unionOf_nullClass (hint_cases t)
    exact .inr ⟨h, hs, by rw [hint, ho]⟩
  | enum e =>
    refine .inl ⟨by simp [hint], ?_⟩
    simp [hint, Hint.isNullClass, e.name_ne.2]
  | _ => exact .inl ⟨by simp [hint], by simp [hint, Hint.isNullClass]⟩

end PlainType

/-! ## Writing and reading -/

/-- `r` is what `v` is written as, and `r` is read as `v` under `h`. -/
structure RoundTrips (c : Context) (h : Hint) (v r : Value) : Prop where
  written : ∀ ambient path, encodeWith c ambient v path = .ok r
  null : r.isNull = v.isNull
  read : ∀ ambient path, decodeWith c ambient h r path = .ok v

variable {c : Context}

theorem RoundTrips.null_of_orNull {h : Hint} : RoundTrips c h.orNull .null .null where
  written _ _ := by rw [encodeWith]
  null := rfl
  read ambient path := by
    simp [Hint.orNull, decodeWith, Value.isNull, Hint.nullClass, Hint.isNullClass]

theorem RoundTrips.orNull {h : Hint} (hs : h.IsSingle) {v r : Value} (hv : v.isNull = false)
    (hr : RoundTrips c h v r) : RoundTrips c h.orNull v r where
  written := hr.written
  null := hr.null
  read ambient path := by
    have hfilter : [h, Hint.nullClass].filter (!·.isNullClass) = [h] := by
      simp [hs.notNull, Hint.isNullClass_nullClass]
    rw [Hint.orNull, decodeWith, hr.null, hv, hfilter]
    simp [decodeOnly, hs.notNull, hr.read]

theorem RoundTrips.null_optional {t : Hint}
    (ht : t.IsSingle ∨ ∃ h : Hint, h.IsSingle ∧ t = h.orNull) :
    RoundTrips c (.unionOf [t, .nullClass]) .null .null := by
  obtain ⟨h, -, ho, -⟩ := Hint.exists_unionOf_nullClass ht
  rw [ho]
  exact .null_of_orNull

theorem RoundTrips.optional {t : Hint} (ht : t.IsSingle ∨ ∃ h : Hint, h.IsSingle ∧ t = h.orNull)
    {v r : Value} (hr : RoundTrips c t v r) : RoundTrips c (.unionOf [t, .nullClass]) v r := by
  cases hn : v.isNull with
  | true =>
    rw [Value.eq_null hn, Value.eq_null (hr.null.trans hn)]
    exact .null_optional ht
  | false =>
    obtain ⟨h, hs, ho, rfl | rfl⟩ := Hint.exists_unionOf_nullClass ht
    · rw [ho]
      exact hr.orNull hs hn
    · rw [ho]
      exact hr

/-- `rs` are what `xs` are written as, and they are read as `xs` under a hint each. -/
structure RoundTripEach (c : Context) (hs : List Hint) (xs rs : List Value) : Prop where
  written : ∀ ambient path index, encodeItems c ambient path index xs = .ok rs
  length : rs.length = hs.length
  read : ∀ ambient path index, decodeEach c ambient hs rs path index = .ok xs

theorem RoundTripEach.nil : RoundTripEach c [] [] [] where
  written _ _ _ := by rw [encodeItems]
  length := rfl
  read _ _ _ := by rw [decodeEach]; simp

theorem RoundTripEach.cons {h : Hint} {hs : List Hint} {x r : Value} {xs rs : List Value}
    (hr : RoundTrips c h x r) (hrs : RoundTripEach c hs xs rs) :
    RoundTripEach c (h :: hs) (x :: xs) (r :: rs) where
  written ambient path index := by
    rw [encodeItems, hr.written, hrs.written]
    rfl
  length := by simp [hrs.length]
  read ambient path index := by
    rw [decodeEach, hr.read, hrs.read]
    rfl

/-- The text of a member leads back to the member. -/
theorem StringEnum.decodeMember_member {u : Classes} (e : StringEnum u) {m : String × String}
    (hm : m ∈ e.members) (path : CodingPath) :
    decodeMember e.info (.str m.2) path = .ok (e.member m) := by
  have hmembers : Classes.members e.info = e.members.map e.member := by
    simp [Classes.members, e.members_eq, StringEnum.member]
  have hclass : (Value.str m.2).className ≠ e.info.name := Ne.symm e.name_ne.1
  rw [decodeMember, if_neg hclass, hmembers, List.find?_map]
  simp only [Function.comp_def, StringEnum.member, Value.same_str,
    (find?_eq_some_iff_of_nodup e.nodup).2 ⟨hm, rfl⟩]
  rfl

theorem RoundTrips.scalar (hc : c.codecs = []) {s : Scalar} {v : Value} (hv : s.Holds v) :
    RoundTrips c (.scalar s) v v where
  written ambient path := by
    cases hv <;> rw [encodeWith]
  null := rfl
  read ambient path := by
    have hv' : v.isNull = false := by
      cases hv <;> rfl
    rw [decodeWith, hv']
    simp only [c.reader?_of_nil hc, Bool.false_eq_true, if_false]
    cases hv <;> rfl

theorem RoundTrips.enum (hc : c.codecs = []) (e : StringEnum c.classes) {m : String × String}
    (hm : m ∈ e.members) : RoundTrips c (.cls e.info.name) (e.member m) (.str m.2) where
  written ambient path := by
    rw [StringEnum.member, encodeWith, c.writer?_of_nil hc]
    dsimp only
    rw [encodeWith]
  null := rfl
  read ambient path := by
    have hinfo : (c.classes.find? e.info.name).filter (·.members.isSome) = some e.info := by
      rw [e.found, Option.filter_some, if_pos (by simp [e.members_eq])]
    rw [decodeWith]
    simp only [Value.isNull, c.reader?_of_nil hc, Bool.false_eq_true, if_false]
    rw [decodeClass, hinfo]
    exact e.decodeMember_member hm path

theorem RoundTrips.list (hc : c.codecs = []) {h : Hint} {xs rs : List Value}
    (hr : List.Forall₂ (RoundTrips c h) xs rs) :
    RoundTrips c (.items .list h) (.list xs) (.list rs) where
  written ambient path := by
    rw [encodeWith, c.writer?_of_nil hc]
    dsimp only
    rw [encodeItems_of_forall₂ (hr.imp fun _ _ hx => hx.written ambient)]
    rfl
  null := rfl
  read ambient path := by
    rw [decodeWith]
    simp only [Value.isNull, Value.asList?, Value.plain, Bool.false_eq_true, if_false]
    rw [decodeItems_of_forall₂ (hr.imp fun _ _ hx => hx.read ambient)]
    rfl

theorem RoundTrips.tupleOf (hc : c.codecs = []) {h : Hint} {xs rs : List Value}
    (hr : List.Forall₂ (RoundTrips c h) xs rs) :
    RoundTrips c (.tupleOf h) (.tuple xs) (.list rs) where
  written ambient path := by
    rw [encodeWith, c.writer?_of_nil hc]
    dsimp only
    rw [encodeItems_of_forall₂ (hr.imp fun _ _ hx => hx.written ambient)]
    rfl
  null := rfl
  read ambient path := by
    rw [decodeWith]
    simp only [Value.isNull, Value.asList?, Value.plain, Bool.false_eq_true, if_false]
    rw [decodeItems_of_forall₂ (hr.imp fun _ _ hx => hx.read ambient)]
    rfl

theorem RoundTrips.tuple (hc : c.codecs = []) {h : Hint} {hs : List Hint} {xs rs : List Value}
    (hr : RoundTripEach c (h :: hs) xs rs) :
    RoundTrips c (.tuple (h :: hs)) (.tuple xs) (.list rs) where
  written ambient path := by
    rw [encodeWith, c.writer?_of_nil hc]
    dsimp only
    rw [hr.written]
    rfl
  null := rfl
  read ambient path := by
    rw [decodeWith]
    simp only [Value.isNull, Value.asList?, Value.plain, Bool.false_eq_true, if_false,
      List.isEmpty_cons, hr.length, ne_eq, not_true_eq_false]
    rw [hr.read]
    rfl

theorem RoundTrips.dict (hc : c.codecs = []) {key h : Hint} {ps rs : List (String × Value)}
    (hkeys : (ps.map (·.1)).Nodup)
    (hr : List.Forall₂ (fun p r => r.1 = p.1 ∧ RoundTrips c h p.2 r.2) ps rs) :
    RoundTrips c (.dict "Dict" key h) (.dict (Value.ofTexts ps)) (.dict (Value.ofTexts rs)) where
  written ambient path := by
    have hkeys' : rs.map (·.1) = ps.map (·.1) := map_eq_of_forall₂ hr fun _ _ _ hp => hp.1
    rw [encodeWith, c.writer?_of_nil hc]
    dsimp only
    rw [encodeEntries_of_forall₂ (hr.imp fun _ _ hp => ⟨hp.1, hp.2.written ambient⟩)]
    dsimp only [Except.map]
    rw [Value.entriesOf_of_nodup (hkeys' ▸ hkeys)]
  null := rfl
  read ambient path := by
    rw [decodeWith]
    simp only [Value.isNull, Bool.false_eq_true, if_false]
    rw [decodeEntries_of_forall₂ (hr.imp fun _ _ hp => ⟨hp.1, hp.2.read ambient⟩)]
    rfl

mutual

theorem exists_roundTrips (hc : c.codecs = []) :
    ∀ (t : PlainType c.classes) {v : Value}, t.Holds v → ∃ r, RoundTrips c t.hint v r
  | .scalar s, v, hv => ⟨v, .scalar hc hv⟩
  | .enum e, _, ⟨m, hm, he⟩ => ⟨.str m.2, he ▸ .enum hc e hm⟩
  | .list t, _, ⟨xs, he, hxs⟩ => by
    obtain ⟨rs, hrs⟩ := exists_forall₂ fun x hx => exists_roundTrips hc t (hxs x hx)
    exact ⟨.list rs, he ▸ .list hc hrs⟩
  | .tupleOf t, _, ⟨xs, he, hxs⟩ => by
    obtain ⟨rs, hrs⟩ := exists_forall₂ fun x hx => exists_roundTrips hc t (hxs x hx)
    exact ⟨.list rs, he ▸ .tupleOf hc hrs⟩
  | .tuple t ts, _, ⟨x, xs, he, hx, hxs⟩ => by
    obtain ⟨r, hr⟩ := exists_roundTrips hc t hx
    obtain ⟨rs, hrs⟩ := exists_roundTripEach hc ts hxs
    exact ⟨.list (r :: rs), he ▸ .tuple hc (.cons hr hrs)⟩
  | .dict t, _, ⟨ps, he, hkeys, hps⟩ => by
    have hp : ∀ p ∈ ps, ∃ r : String × Value, r.1 = p.1 ∧ RoundTrips c t.hint p.2 r.2 := by
      intro p hp
      obtain ⟨r, hr⟩ := exists_roundTrips hc t (hps p hp)
      exact ⟨(p.1, r), rfl, hr⟩
    obtain ⟨rs, hrs⟩ := exists_forall₂ hp
    exact ⟨.dict (Value.ofTexts rs), he ▸ .dict hc hkeys hrs⟩
  | .optional t, v, hv => by
    rcases hv with rfl | hv
    · exact ⟨.null, .null_optional t.hint_cases⟩
    · obtain ⟨r, hr⟩ := exists_roundTrips hc t hv
      exact ⟨r, hr.optional t.hint_cases⟩

theorem exists_roundTripEach (hc : c.codecs = []) :
    ∀ (ts : List (PlainType c.classes)) {xs : List Value}, PlainType.HoldEach ts xs →
      ∃ rs, RoundTripEach c (PlainType.hints ts) xs rs
  | [], _, hxs => ⟨[], by rw [show _ = [] from hxs]; exact .nil⟩
  | t :: ts, _, ⟨y, ys, he, hy, hys⟩ => by
    obtain ⟨r, hr⟩ := exists_roundTrips hc t hy
    obtain ⟨rs, hrs⟩ := exists_roundTripEach hc ts hys
    exact ⟨r :: rs, he ▸ .cons hr hrs⟩

end

theorem encodeValue_eq (c : Context) : ∃ ambient, encodeValue c = encodeWith c ambient :=
  ⟨encodingAt c 499, rfl⟩

theorem decodeValue_eq (c : Context) : ∃ ambient, decodeValue c = decodeWith c ambient :=
  ⟨decodingAt c 499, rfl⟩

/-- **What is written is read again.**  Without codecs every value of a type is written,
    and is read under the hint of the type as the value it was, with the same class at
    every position. -/
theorem decodeValue_encodeValue (hc : c.codecs = []) (t : PlainType c.classes) {v : Value}
    (hv : t.Holds v) (path path' : CodingPath) :
    ∃ r, encodeValue c v path = .ok r ∧ decodeValue c t.hint r path' = .ok v := by
  obtain ⟨r, hr⟩ := exists_roundTrips hc t hv
  obtain ⟨ambient, hencode⟩ := encodeValue_eq c
  obtain ⟨ambient', hdecode⟩ := decodeValue_eq c
  exact ⟨r, by rw [hencode, hr.written], by rw [hdecode, hr.read]⟩

/-- The classes of a program with one enumeration. -/
def colorInfo : ClassInfo where
  name := "Color"
  ancestors := ["Enum"]
  members := some [("RED", .str "red"), ("BLUE", .str "blue")]

def colors : StringEnum [colorInfo] where
  info := colorInfo
  members := [("RED", "red"), ("BLUE", "blue")]
  found := rfl
  members_eq := rfl
  nodup := by decide
  name_ne := by decide

/-- A dictionary of colors that may be missing. -/
theorem decodeValue_encodeValue_colors :
    ∃ r, encodeValue ⟨[colorInfo], []⟩
        (.dict (Value.ofTexts [("sky", colors.member ("BLUE", "blue")), ("air", .null)])) [] =
          .ok r ∧
      decodeValue ⟨[colorInfo], []⟩ (PlainType.dict (.optional (.enum colors))).hint r [] =
        .ok (.dict (Value.ofTexts [("sky", colors.member ("BLUE", "blue")), ("air", .null)])) := by
  refine @decodeValue_encodeValue ⟨[colorInfo], []⟩ rfl
    (.dict (.optional (.enum colors))) _ ?_ [] []
  refine ⟨_, rfl, by decide, ?_⟩
  rw [List.forall_mem_cons, List.forall_mem_singleton]
  exact ⟨.inr ⟨("BLUE", "blue"), by simp [colors], rfl⟩, .inl rfl⟩

end CodecForge.Coding
