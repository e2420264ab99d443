/-
  CodecForge — booleans under hints for numbers and texts.

  A boolean is no number: a hint for integers or floats refuses it.  A literal hint compares, and
  a boolean is equal to the number that it counts as.

  * `Hint.IsBoolFree` are hints in which no boolean is asked for, and what `unionOf` makes of
    them is one again (`IsBoolFree.unionOf`);
  * `Hint.Takes` says which data a hint takes, integers of any size being taken for floats.  What
    is read is taken (`takes_of_decodeWith`), and what is taken is not refused
    (`unrefused_of_takes`); so `decodeValue_refuses_iff`;
  * `Hint.Covers`: the hint covers a place in data at which something holds.  If data with a
    boolean are taken, then the hint covers a place where it lets one through
    (`Hint.LetsThrough`, `Takes.covers_letsThrough`): the boolean is the number of a literal, or
    stands in a list that is taken whole;
  * `takes_bool_iff` says which hints take a boolean anywhere, `bool_refused_iff` which data with
    a boolean are refused.
-/
import CodecForge.Proofs.Coding.Rereading

namespace CodecForge.Coding

/-! ## Hints and data -/

/-- The integer that a boolean counts as. -/
def boolNumber (b : Bool) : Int := if b then 1 else 0

/-- There is a boolean in a value. -/
inductive Value.HasBool : Value → Prop
  | here (b : Bool) : HasBool (.bool b)
  | item {xs : List Value} {x : Value} (hx : x ∈ xs) (h : HasBool x) : HasBool (.list xs)
  | entry {es : List (Value × Value)} {e : Value × Value} (he : e ∈ es) (h : HasBool e.2) :
      HasBool (.dict es)

namespace Hint

/-- A hint for integers, floats, texts, or literals that are integers or texts, for lists, tuples
    or dictionaries of what such hints are for, or for what one of several such hints is for. -/
inductive IsBoolFree : Hint → Prop
  | scalar {s : Scalar} (hs : s ≠ .bool) : IsBoolFree (.scalar s)
  | literal {values : List Value} (h : ∀ v ∈ values, (∃ n, v = .int n) ∨ ∃ s, v = .str s) :
      IsBoolFree (.literal values)
  | list {item : Hint} (h : IsBoolFree item) : IsBoolFree (.items .list item)
  | tupleOf {item : Hint} (h : IsBoolFree item) : IsBoolFree (.tupleOf item)
  | tuple {hs : List Hint} (h : ∀ h ∈ hs, IsBoolFree h) : IsBoolFree (.tuple hs)
  | dict (name : String) {value : Hint} (h : IsBoolFree value) :
      IsBoolFree (.dict name (.scalar .str) value)
  | union (name : String) {members : List Hint}
      (h : ∀ m ∈ members, m.isNullClass = false → IsBoolFree m) : IsBoolFree (.union name members)

/-- The union of such hints is one, unless it is null alone. -/
theorem IsBoolFree.unionOf {hs : List Hint} (h : ∀ k ∈ hs, k.isNullClass = false → IsBoolFree k)
    (hnull : (Hint.unionOf hs).isNullClass = false) : IsBoolFree (Hint.unionOf hs) := by
  refine holds_unionOf (fun name members => ⟨fun hunion => ?_, .union name⟩) h hnull
  cases hunion with
  | union _ hmembers => exact hmembers

/-- Data that a hint takes. -/
inductive Takes : Hint → Value → Prop
  | int (n : Int) : Takes (.scalar .int) (.int n)
  | widened (n : Int) : Takes (.scalar .float) (.int n)
  | float (x : Double) : Takes (.scalar .float) (.float x)
  | str (s : String) : Takes (.scalar .str) (.str s)
  | literal {values : List Value} {v d : Value} (hd : d.isNull = false) (hv : v ∈ values)
      (h : v.same d = true) : Takes (.literal values) d
  | list {item : Hint} {xs : List Value} (h : ∀ x ∈ xs, Takes item x) :
      Takes (.items .list item) (.list xs)
  | tupleOf {item : Hint} {xs : List Value} (h : ∀ x ∈ xs, Takes item x) :
      Takes (.tupleOf item) (.list xs)
  /-- the hint for a tuple without components takes any list -/
  | unit (xs : List Value) : Takes (.tuple []) (.list xs)
  | tuple {hs : List Hint} {xs : List Value} (hlen : hs.length = xs.length)
      (h : ∀ p ∈ hs.zip xs, Takes p.1 p.2) : Takes (.tuple hs) (.list xs)
  | dict {name : String} {key value : Hint} {es : List (Value × Value)}
      (h : ∀ e ∈ es, Takes value e.2) : Takes (.dict name key value) (.dict es)
  | null {name : String} {members : List Hint} (h : members.any isNullClass = true) :
      Takes (.union name members) .null
  | member {name : String} {members : List Hint} {m : Hint} {d : Value} (hd : d.isNull = false)
      (hm : m ∈ members) (hnull : m.isNullClass = false) (h : Takes m d) :
      Takes (.union name members) d

/-- There is a place in the data that the hint covers, at which `P` holds of what the hint says
    of the place and what stands there.  A union covers what one of its members covers. -/
inductive Covers (P : Hint → Value → Prop) : Hint → Value → Prop
  | here {h : Hint} {d : Value} (hp : P h d) : Covers P h d
  | item {item : Hint} {xs : List Value} {x : Value} (hx : x ∈ xs) (h : Covers P item x) :
      Covers P (.items .list item) (.list xs)
  | tupleItem {item : Hint} {xs : List Value} {x : Value} (hx : x ∈ xs) (h : Covers P item x) :
      Covers P (.tupleOf item) (.list xs)
  | component {hs : List Hint} {xs : List Value} {p : Hint × Value} (hp : p ∈ hs.zip xs)
      (h : Covers P p.1 p.2) : Covers P (.tuple hs) (.list xs)
  | entry {name : String} {key value : Hint} {es : List (Value × Value)} {e : Value × Value}
      (he : e ∈ es) (h : Covers P value e.2) : Covers P (.dict name key value) (.dict es)
  | member {name : String} {members : List Hint} {m : Hint} {d : Value} (hm : m ∈ members)
      (h : Covers P m d) : Covers P (.union name members) d

/-- The hint covers a place at which a boolean stands. -/
abbrev CoversBool : Hint → Value → Prop := Covers fun _ d => ∃ b, d = .bool b

/-- A boolean whose number is among the literals, or a list with booleans that is taken whole. -/
inductive LetsThrough : Hint → Value → Prop
  | literal {values : List Value} {b : Bool} (h : .int (boolNumber b) ∈ values) :
      LetsThrough (.literal values) (.bool b)
  | unit {xs : List Value} (h : (Value.list xs).HasBool) : LetsThrough (.tuple []) (.list xs)

/-- A hint that stands in another. -/
inductive Inside (k : Hint) : Hint → Prop
  | here : Inside k k
  | item {kind : ItemsKind} {item : Hint} (h : Inside k item) : Inside k (.items kind item)
  | tupleItem {item : Hint} (h : Inside k item) : Inside k (.tupleOf item)
  | component {hs : List Hint} {m : Hint} (hm : m ∈ hs) (h : Inside k m) : Inside k (.tuple hs)
  | entry {name : String} {key value : Hint} (h : Inside k value) :
      Inside k (.dict name key value)
  | member {name : String} {members : List Hint} {m : Hint} (hm : m ∈ members)
      (h : Inside k m) : Inside k (.union name members)

theorem CoversBool.hasBool {h : Hint} {d : Value} (hb : h.CoversBool d) : d.HasBool := by
  induction hb with
  | here hp =>
    obtain ⟨b, rfl⟩ := hp
    exact .here b
  | item hx _ ih | tupleItem hx _ ih => exact .item hx ih
  | component hp _ ih => exact .item (List.of_mem_zip hp).2 ih
  | entry he _ ih => exact .entry he ih
  | member _ _ ih => exact ih

/-- What holds of a place that a hint covers holds of a hint inside. -/
theorem Covers.exists_inside {P : Hint → Value → Prop} {h : Hint} {d : Value}
    (hp : h.Covers P d) : ∃ k : Hint, k.Inside h ∧ ∃ d', P k d' := by
  induction hp with
  | here hp => exact ⟨_, .here, _, hp⟩
  | item _ _ ih => exact ih.imp fun _ hk => ⟨.item hk.1, hk.2⟩
  | tupleItem _ _ ih => exact ih.imp fun _ hk => ⟨.tupleItem hk.1, hk.2⟩
  | component hmem _ ih =>
    exact ih.imp fun _ hk => ⟨.component (List.of_mem_zip hmem).1 hk.1, hk.2⟩
  | entry _ _ ih => exact ih.imp fun _ hk => ⟨.entry hk.1, hk.2⟩
  | member hm _ ih => exact ih.imp fun _ hk => ⟨.member hm hk.1, hk.2⟩

end Hint

/-! ## Booleans that are taken -/

/-- Of data with a boolean, an integer or a text is equal to nothing but the boolean whose number it
    is. -/
theorem Value.eq_of_same_hasBool {v d : Value} (hv : (∃ n, v = .int n) ∨ ∃ s, v = .str s)
    (hsame : v.same d = true) (hd : d.HasBool) : ∃ b, d = .bool b ∧ v = .int (boolNumber b) := by
  rcases hv with ⟨n, rfl⟩ | ⟨s, rfl⟩
  · cases hd with
    | here b =>
      have hnumber : some (boolNumber b) == some n := by rwa [same] at hsame
      exact ⟨b, rfl, by rw [Option.some.inj (eq_of_beq hnumber)]⟩
    | item | entry =>
      rw [same] at hsame
      cases hsame
  · rw [same] at hsame
    cases hd <;> cases hsame

namespace Hint

/-- A boolean in data that are taken is let through somewhere. -/
theorem Takes.covers_letsThrough {h : Hint} (hh : h.IsBoolFree) {d : Value} (ht : h.Takes d)
    (hb : d.HasBool) : h.Covers LetsThrough d := by
  induction hh generalizing d with
  | scalar hs => cases ht <;> cases hb
  | literal hvalues =>
    cases ht with
    | @literal _ v _ _ hv hsame =>
      obtain ⟨b, rfl, rfl⟩ := Value.eq_of_same_hasBool (hvalues v hv) hsame hb
      exact .here (.literal hv)
  | list _ ih =>
    cases ht with
    | list hall =>
      cases hb with
      | item hx hb => exact .item hx (ih (hall _ hx) hb)
  | tupleOf _ ih =>
    cases ht with
    | tupleOf hall =>
      cases hb with
      | item hx hb => exact .tupleItem hx (ih (hall _ hx) hb)
  | @tuple hs _ ih =>
    cases ht with
    | unit xs => exact .here (.unit hb)
    | @tuple _ xs hlen hall =>
      cases hb with
      | item hx hb =>
        have hzip : List.Forall₂ (fun k x => (k, x) ∈ hs.zip xs) hs xs :=
          List.forall₂_iff_zip.2 ⟨hlen, id⟩
        obtain ⟨k, hk, hmem⟩ := exists_of_mem_right hzip _ hx
        exact .component hmem (ih k hk (hall _ hmem) hb)
  | dict name _ ih =>
    cases ht with
    | dict hall =>
      cases hb with
      | entry he hb => exact .entry he (ih (hall _ he) hb)
  | union name _ ih =>
    cases ht with
    | null => cases hb
    | member hd hm hnull ht => exact .member hm (ih _ hm hnull ht hb)

/-- Of components each of which takes something, a tuple takes any value that one of them takes. -/
theorem exists_takes_tuple {hs : List Hint} {m : Hint} (hm : m ∈ hs)
    (htakes : ∀ k ∈ hs, ∃ d, d.IsJson ∧ k.Takes d) {d : Value} (hd : d.IsJson)
    (ht : m.Takes d) :
    ∃ xs, (∀ x ∈ xs, x.IsJson) ∧ (m, d) ∈ hs.zip xs ∧ (tuple hs).Takes (.list xs) := by
  obtain ⟨before, after, rfl⟩ := List.append_of_mem hm
  rw [List.forall_mem_append, List.forall_mem_cons] at htakes
  obtain ⟨xs, hxs⟩ := exists_forall₂ htakes.1
  obtain ⟨ys, hys⟩ := exists_forall₂ htakes.2.2
  have hall : List.Forall₂ (fun k x => x.IsJson ∧ k.Takes x) (before ++ m :: after)
      (xs ++ d :: ys) := List.rel_append hxs (.cons ⟨hd, ht⟩ hys)
  refine ⟨xs ++ d :: ys, fun x hx => ?_, ?_, .tuple hall.length_eq fun p hp => ?_⟩
  · obtain ⟨k, -, hjson, -⟩ := exists_of_mem_right hall x hx
    exact hjson
  · rw [List.zip_append hxs.length_eq]
    simp
  · exact ((List.forall₂_iff_zip.1 hall).2 hp).2

theorem IsBoolFree.isNullClass {h : Hint} (hh : h.IsBoolFree) : h.isNullClass = false := by
  cases hh <;> rfl

theorem Inside.isNullClass {values : List Value} {h : Hint} (hin : (literal values).Inside h) :
    h.isNullClass = false := by
  cases hin <;> rfl

/-- If every hint inside besides null takes something, and a literal inside is the number of a
    boolean, then data are taken with a boolean at a place that the hint covers. -/
theorem exists_takes_bool {values : List Value} {b : Bool} (hb : .int (boolNumber b) ∈ values)
    {h : Hint} (hh : h.IsBoolFree) (hin : (literal values).Inside h)
    (htake : ∀ k : Hint, k.Inside h → k.isNullClass = false → ∃ d : Value, d.IsJson ∧ k.Takes d) :
    ∃ d : Value, d.IsJson ∧ h.CoversBool d ∧ h.Takes d := by
  induction hin with
  | here =>
    have hsame : (Value.int (boolNumber b)).same (.bool b) = true := by
      rw [Value.same]
      exact beq_self_eq_true _
    exact ⟨.bool b, .bool b, .here ⟨b, rfl⟩, .literal rfl hb hsame⟩
  | item _ ih =>
    cases hh with
    | list hitem =>
      obtain ⟨d, hd, hcovers, ht⟩ := ih hitem fun k hk => htake k (.item hk)
      exact ⟨.list [d], .list (List.forall_mem_singleton.2 hd),
        .item (List.mem_singleton_self d) hcovers, .list (List.forall_mem_singleton.2 ht)⟩
  | tupleItem _ ih =>
    cases hh with
    | tupleOf hitem =>
      obtain ⟨d, hd, hcovers, ht⟩ := ih hitem fun k hk => htake k (.tupleItem hk)
      exact ⟨.list [d], .list (List.forall_mem_singleton.2 hd),
        .tupleItem (List.mem_singleton_self d) hcovers, .tupleOf (List.forall_mem_singleton.2 ht)⟩
  | component hm _ ih =>
    cases hh with
    | tuple hhs =>
      obtain ⟨d, hd, hcovers, ht⟩ := ih (hhs _ hm) fun k hk => htake k (.component hm hk)
      obtain ⟨xs, hxs, hmem, htuple⟩ := exists_takes_tuple hm
        (fun k hk => htake k (.component hk .here) (hhs k hk).isNullClass) hd ht
      exact ⟨.list xs, .list hxs, .component hmem hcovers, htuple⟩
  | entry _ ih =>
    cases hh with
    | dict _ hvalue =>
      obtain ⟨d, hd, hcovers, ht⟩ := ih hvalue fun k hk => htake k (.entry hk)
      have hjson : Value.IsJson (.dict (Value.ofTexts [("", d)])) :=
        .dict (List.nodup_singleton _) (List.forall_mem_singleton.2 hd)
      exact ⟨_, hjson, .entry (List.mem_singleton_self _) hcovers,
        .dict (List.forall_mem_singleton.2 ht)⟩
  | member hm hin ih =>
    cases hh with
    | union _ hmembers =>
      obtain ⟨d, hd, hcovers, ht⟩ := ih (hmembers _ hm hin.isNullClass)
        fun k hk => htake k (.member hm hk)
      have hnull : d.isNull = false := by cases hcovers.hasBool <;> rfl
      exact ⟨d, hd, .member hm hcovers, .member hnull hm hin.isNullClass ht⟩

theorem Takes.exists_literal {h : Hint} (hh : h.IsBoolFree) (hunit : ¬ (Hint.tuple []).Inside h)
    {d : Value} (ht : h.Takes d) (hb : d.HasBool) :
    ∃ values b, (Hint.literal values).Inside h ∧ Value.int (boolNumber b) ∈ values := by
  obtain ⟨k, hin, d', hthrough⟩ := (ht.covers_letsThrough hh hb).exists_inside
  cases hthrough with
  | literal hmem => exact ⟨_, _, hin, hmem⟩
  | unit => exact absurd hin hunit

/-- **The hints that take booleans** are those in which a literal is the number of a boolean, if
    every hint inside besides null takes something, and none is for tuples without components. -/
theorem takes_bool_iff {h : Hint} (hh : h.IsBoolFree) (hunit : ¬ (tuple []).Inside h)
    (htake : ∀ k : Hint, k.Inside h → k.isNullClass = false →
      ∃ d : Value, d.IsJson ∧ k.Takes d) :
    (∃ d : Value, d.IsJson ∧ h.CoversBool d ∧ h.Takes d) ↔
      ∃ values b, (literal values).Inside h ∧ .int (boolNumber b) ∈ values := by
  constructor
  · rintro ⟨d, -, hcovers, ht⟩
    exact ht.exists_literal hh hunit hcovers.hasBool
  · rintro ⟨values, b, hin, hmem⟩
    exact exists_takes_bool hmem hh hin htake

end Hint

/-! ## Reading -/

/-- A result that is no error of decoding. -/
def Unrefused {α : Type} (x : Except Failure α) : Prop := ∀ f, x = .error f → f.isDecoding = false

theorem Unrefused.ok {α : Type} (v : α) : Unrefused (.ok v) := nofun

theorem Unrefused.bind {α β : Type} {x : Except Failure α} {g : α → Except Failure β}
    (hx : Unrefused x) (hg : ∀ a, Unrefused (g a)) : Unrefused (x >>= g) := by
  intro f hf
  rcases of_bind_eq_error hf with h | ⟨a, h⟩
  · exact hx f h
  · exact hg a f h

theorem Unrefused.map {α β : Type} {x : Except Failure α} (hx : Unrefused x) (g : α → β) :
    Unrefused (x.map g) := by
  cases x with
  | ok v => exact .ok (g v)
  | error e =>
    intro f hf
    cases hf
    exact hx e rfl

section
variable {c : Context} {ambient : Decoding} {read : Value → CodingPath → Except Failure Value}
  {path : CodingPath}

theorem decodeItems_unrefused {xs : List Value} (h : ∀ x ∈ xs, ∀ path, Unrefused (read x path))
    (index : Nat) : Unrefused (decodeItems read path index xs) := by
  induction xs generalizing index with
  | nil => exact .ok []
  | cons x xs ih =>
    rw [List.forall_mem_cons] at h
    exact (h.1 _).bind fun v => (ih h.2 (index + 1)).bind fun vs => .ok (v :: vs)

theorem decodeEntries_unrefused {es : List (Value × Value)}
    (h : ∀ e ∈ es, ∀ path, Unrefused (read e.2 path)) :
    Unrefused (decodeEntries read path es) := by
  induction es with
  | nil => exact .ok []
  | cons e es ih =>
    rw [List.forall_mem_cons] at h
    exact (h.1 _).bind fun v => (ih h.2).bind fun vs => .ok ((e.1, v) :: vs)

theorem decodeEach_unrefused {hs : List Hint} {xs : List Value}
    (h : ∀ p ∈ hs.zip xs, ∀ path, Unrefused (decodeWith c ambient p.1 p.2 path)) (index : Nat) :
    Unrefused (decodeEach c ambient hs xs path index) := by
  induction hs generalizing xs index with
  | nil =>
    rw [decodeEach]
    · exact .ok []
    · simp
  | cons k hs ih =>
    cases xs with
    | nil =>
      rw [decodeEach]
      · exact .ok []
      · simp
    | cons x xs =>
      rw [List.zip_cons_cons, List.forall_mem_cons] at h
      rw [decodeEach]
      exact (h.1 _).bind fun v => (ih h.2 (index + 1)).bind fun vs => .ok (v :: vs)

/-- Data are not refused by several hints if one of them does not refuse them. -/
theorem decodeFirst_unrefused {name : String} {members : List Hint} {m : Hint} {d : Value}
    (hm : m ∈ members) (hnull : m.isNullClass = false)
    (h : Unrefused (decodeWith c ambient m d path)) :
    Unrefused (decodeFirst c ambient name members d path) := by
  induction members with
  | nil => cases hm
  | cons k members ih =>
    rw [decodeFirst]
    split
    · next hk =>
      have hne : m ≠ k := fun heq => Bool.false_ne_true (hnull.symm.trans (heq ▸ hk))
      exact ih (List.mem_of_ne_of_mem hne hm)
    · split
      · next v hv => exact .ok v
      · next e he =>
        split
        · next hdecoding =>
          have hne : m ≠ k := by
            rintro rfl
            exact Bool.false_ne_true ((h e he).symm.trans hdecoding)
          exact ih (List.mem_of_ne_of_mem hne hm)
        · next hdecoding =>
          intro f hf
          cases hf
          simpa using hdecoding

/-- Integers, floats and texts are not read by codecs. -/
def Context.KeepsNumbers (c : Context) : Prop := ∀ s : Scalar, s ≠ .bool → c.reader? s.name = none

theorem Hint.IsBoolFree.structural (hc : c.KeepsNumbers) {h : Hint} (hh : h.IsBoolFree) :
    Structural c h := by
  induction hh with
  | scalar hs => exact .scalar (hc _ hs)
  | literal => exact .literal _
  | list _ ih => exact .items .list ih
  | tupleOf _ ih => exact .tupleOf ih
  | tuple _ ih => exact .tuple ih
  | dict name _ ih => exact .dict name _ ih
  | union name _ ih => exact .union name ih

theorem takes_of_decodeScalar {s : Scalar} (hs : s ≠ .bool) {d v : Value} (hd : d.IsJson)
    (hr : decodeScalar s d path = .ok v) : (Hint.scalar s).Takes d := by
  cases hd with
  | int n =>
    cases s with
    | int => exact .int n
    | float => exact .widened n
    | str => cases hr
    | bool => exact absurd rfl hs
  | float x =>
    cases s with
    | float => exact .float x
    | _ => cases hr
  | str t =>
    cases s with
    | str => exact .str t
    | _ => cases hr
  | bool b =>
    cases s with
    | bool => exact absurd rfl hs
    | _ => cases hr
  | null | list | dict => cases s <;> cases hr

/-- **What is read is taken.** -/
theorem takes_of_decodeWith (hc : c.KeepsNumbers) {h : Hint} (hh : h.IsBoolFree) {d v : Value}
    (hd : d.IsJson) (hr : decodeWith c ambient h d path = .ok v) : h.Takes d := by
  induction hh generalizing d v path with
  | scalar hs =>
    cases hnull : d.isNull with
    | true =>
      obtain rfl := Value.eq_null hnull
      cases (decodeWith_null rfl path).symm.trans hr
    | false =>
      rw [decodeWith_scalar (hc _ hs) hnull] at hr
      exact takes_of_decodeScalar hs hd hr
  | @literal values =>
    cases hnull : d.isNull with
    | true =>
      obtain rfl := Value.eq_null hnull
      cases (decodeWith_null rfl path).symm.trans hr
    | false =>
      rw [decodeWith_literal values hnull] at hr
      split at hr
      · next hany =>
        obtain ⟨w, hw, hsame⟩ := List.any_eq_true.1 hany
        exact .literal hnull hw hsame
      · cases hr
  | list _ ih =>
    obtain ⟨xs, rfl, hxs⟩ := exists_list_of_decodeWith rfl hd hr
    rw [decodeWith_items] at hr
    obtain ⟨vs, hvs, -⟩ := exists_of_bind_eq_ok hr
    refine .list fun x hx => ?_
    obtain ⟨w, -, _, hw⟩ := exists_of_mem_right (forall₂_of_decodeItems hvs).flip x hx
    exact ih (hxs x hx) hw
  | tupleOf _ ih =>
    obtain ⟨xs, rfl, hxs⟩ := exists_list_of_decodeWith rfl hd hr
    rw [decodeWith_tupleOf] at hr
    obtain ⟨vs, hvs, -⟩ := exists_of_map_eq_ok hr
    refine .tupleOf fun x hx => ?_
    obtain ⟨w, -, _, hw⟩ := exists_of_mem_right (forall₂_of_decodeItems hvs).flip x hx
    exact ih (hxs x hx) hw
  | @tuple hs _ ih =>
    obtain ⟨xs, rfl, hxs⟩ := exists_list_of_decodeWith rfl hd hr
    by_cases hempty : hs = []
    · subst hempty
      exact .unit xs
    by_cases hlen : hs.length = xs.length
    · rw [decodeWith_tuple hempty hlen] at hr
      obtain ⟨vs, hvs, -⟩ := exists_of_map_eq_ok hr
      refine .tuple hlen fun p hp => ?_
      obtain ⟨w, -, _, hw⟩ := exists_of_mem_right (forall₂_of_decodeEach hlen hvs).flip p hp
      exact ih p.1 (List.of_mem_zip hp).1 (hxs p.2 (List.of_mem_zip hp).2) hw
    · cases (decodeWith_tuple_length hempty hlen path).symm.trans hr
  | dict name _ ih =>
    rcases hd.dict_cases with rfl | ⟨ps, rfl, hps⟩ | ⟨hnull, hdict⟩
    · cases (decodeWith_null rfl path).symm.trans hr
    · rw [decodeWith_dict] at hr
      obtain ⟨es, hes, -⟩ := exists_of_map_eq_ok hr
      obtain ⟨rs, rfl, hrs⟩ := forall₂_of_decodeEntries hes
      refine .dict (List.forall_mem_map.2 fun p hp => ?_)
      obtain ⟨r, -, -, _, hw⟩ := exists_of_mem_right hrs.flip p hp
      exact ih (hps p hp) hw
    · cases (decodeWith_not_dict name _ _ hnull hdict path).symm.trans hr
  | @union name members _ ih =>
    cases hnull : d.isNull with
    | true =>
      obtain rfl := Value.eq_null hnull
      rw [decodeWith, if_pos hnull] at hr
      split at hr
      · next hany => exact .null hany
      · cases hr
    | false =>
      obtain ⟨m, hm, hmnull, hm'⟩ := exists_of_decodeWith_union hnull hr
      exact .member hnull hm hmnull (ih m hm hmnull hd hm')

theorem decodeScalar_unrefused {s : Scalar} {d : Value} (ht : (Hint.scalar s).Takes d) :
    Unrefused (decodeScalar s d path) := by
  cases ht with
  | int n => exact Unrefused.ok (Value.int n)
  | float x => exact Unrefused.ok (Value.float x)
  | str t => exact Unrefused.ok (Value.str t)
  | widened n =>
    -- an integer is widened, or too large for that
    cases hn : Double.ofInt? n with
    | some x => simp [decodeScalar, Value.plain, hn, Unrefused]
    | none => simp [decodeScalar, Value.plain, hn, Unrefused, Failure.isDecoding]

/-- **What is taken is not refused.** -/
theorem unrefused_of_takes (hc : c.KeepsNumbers) {h : Hint} (hh : h.IsBoolFree) {d : Value}
    (ht : h.Takes d) (path : CodingPath) : Unrefused (decodeWith c ambient h d path) := by
  induction hh generalizing d path with
  | scalar hs =>
    have hnull : d.isNull = false := by cases ht <;> rfl
    rw [decodeWith_scalar (hc _ hs) hnull]
    exact decodeScalar_unrefused ht
  | @literal values =>
    cases ht with
    | literal hnull hv hsame =>
      rw [decodeWith_literal values hnull, if_pos (List.any_eq_true.2 ⟨_, hv, hsame⟩)]
      exact .ok _
  | list _ ih =>
    cases ht with
    | list hall =>
      rw [decodeWith_items]
      exact (decodeItems_unrefused (fun x hx => ih (hall x hx)) 0).bind fun vs =>
        Unrefused.ok (Value.list vs)
  | tupleOf _ ih =>
    cases ht with
    | tupleOf hall =>
      rw [decodeWith_tupleOf]
      exact (decodeItems_unrefused (fun x hx => ih (hall x hx)) 0).map _
  | @tuple hs _ ih =>
    cases ht with
    | unit xs =>
      rw [decodeWith]
      exact .ok _
    | @tuple _ xs hlen hall =>
      by_cases hempty : hs = []
      · subst hempty
        rw [decodeWith]
        exact .ok _
      · rw [decodeWith_tuple hempty hlen]
        refine (decodeEach_unrefused (fun p hp => ?_) 0).map _
        exact ih p.1 (List.of_mem_zip hp).1 (hall p hp)
  | dict name _ ih =>
    cases ht with
    | dict hall =>
      rw [decodeWith_dict]
      exact (decodeEntries_unrefused fun e he => ih (hall e he)).map _
  | @union name members _ ih =>
    cases ht with
    | null hany =>
      rw [decodeWith, if_pos (show Value.null.isNull = true from rfl), if_pos hany]
      exact .ok _
    | @member _ _ m _ hnull hm hmnull ht =>
      by_cases hone : (members.filter (!·.isNullClass)).length = 1
      · obtain ⟨k, hk⟩ := List.length_eq_one_iff.1 hone
        have hmem : m ∈ members.filter (!·.isNullClass) := List.mem_filter.2 ⟨hm, by simp [hmnull]⟩
        obtain rfl := List.mem_singleton.1 (hk ▸ hmem)
        rw [decodeWith_only hk hnull]
        exact ih m hm hmnull ht path
      · rw [decodeWith_many hone hnull]
        exact decodeFirst_unrefused hm hmnull (ih m hm hmnull ht path)

/-- Data are refused by an error of decoding exactly if the hint does not take them and reading is
    not stuck. -/
theorem decodeValue_refuses_iff (hc : c.KeepsNumbers) {h : Hint} (hh : h.IsBoolFree) {d : Value}
    (hd : d.IsJson) (path : CodingPath) :
    (∃ e : CodingError, e.isDecoding = true ∧ decodeValue c h d path = .error (.coding e)) ↔
      ¬ h.Takes d ∧ ∀ f, ¬ Stuck c (decodeValue c) h d f := by
  have hstructural := hh.structural hc
  obtain ⟨ambient, heq⟩ := decodeValue_eq c
  rw [heq]
  constructor
  · rintro ⟨e, hdecoding, he⟩
    refine ⟨fun ht => ?_, fun f hs => ?_⟩
    · have hnot : (Failure.coding e).isDecoding = false := unrefused_of_takes hc hh ht path _ he
      exact Bool.false_ne_true (hnot.symm.trans hdecoding)
    · cases (hs.error hstructural path).symm.trans he
      exact Bool.false_ne_true (hs.not_isDecoding.symm.trans hdecoding)
  · rintro ⟨hnot, hstuck⟩
    cases outcome_of_structural ambient hstructural hd with
    | read hr =>
      obtain ⟨v, hv⟩ := hr
      exact absurd (takes_of_decodeWith hc hh hd (hv path)) hnot
    | @fault cause q _ _ hkind hto hown =>
      exact ⟨⟨cause, path ++ q⟩, decide_eq_true hkind, hto.error (hown _)⟩
    | stuck hs => exact absurd hs (hstuck _)

/-- **Which booleans pass for numbers.**  Unless codecs read integers, floats or texts, JSON data
    with a boolean at a place that the hint covers are refused by an error of decoding, exactly if
    the hint does not take them and reading is not stuck.  The hint takes them only if it lets a
    boolean through: one whose number is among the literals, or one in a list that is taken whole.
    So if no literal is the number of a boolean, and no hint is for tuples without components, they
    are refused unless reading is stuck. -/
theorem bool_refused_iff (hc : c.KeepsNumbers) {h : Hint} (hh : h.IsBoolFree) {d : Value}
    (hd : d.IsJson) (hb : h.CoversBool d) (path : CodingPath) :
    ((∃ e : CodingError, e.isDecoding = true ∧ decodeValue c h d path = .error (.coding e)) ↔
        ¬ h.Takes d ∧ ∀ f, ¬ Stuck c (decodeValue c) h d f) ∧
      (h.Takes d → h.Covers Hint.LetsThrough d) ∧
      ((∀ values b, (Hint.literal values).Inside h → .int (boolNumber b) ∉ values) →
        ¬ (Hint.tuple []).Inside h →
        ((∃ e : CodingError, e.isDecoding = true ∧ decodeValue c h d path = .error (.coding e)) ↔
          ∀ f, ¬ Stuck c (decodeValue c) h d f)) := by
  have hrefuses := decodeValue_refuses_iff hc hh hd path
  refine ⟨hrefuses, fun ht => ht.covers_letsThrough hh hb.hasBool, fun hliteral hunit =>
    hrefuses.trans (and_iff_right fun ht => ?_)⟩
  obtain ⟨values, b, hin, hmem⟩ := ht.exists_literal hh hunit hb.hasBool
  exact hliteral values b hin hmem

end

/-- Floats that may be missing, by name. -/
def measured : Hint :=
  .dict "Dict" (.scalar .str) (.items .list (.unionOf [.scalar .float, .nullClass]))

/-- The second of two measures is a boolean. -/
theorem bool_refused_iff_measured :
    Context.KeepsNumbers ⟨[], []⟩ ∧ measured.IsBoolFree ∧
      Value.IsJson (.dict (Value.ofTexts [("x", .list [.int 1, .bool true])])) ∧
      measured.CoversBool (.dict (Value.ofTexts [("x", .list [.int 1, .bool true])])) ∧
      ¬ measured.Takes (.dict (Value.ofTexts [("x", .list [.int 1, .bool true])])) ∧
      decodeValue ⟨[], []⟩ measured (.dict (Value.ofTexts [("x", .list [.int 1, .bool true])])) [] =
        .error (.at (.typeMismatch "float" "bool") ["x", "1"]) := by
  have hc : Context.KeepsNumbers ⟨[], []⟩ := fun s _ => Context.reader?_of_nil rfl s.name
  have hh : measured.IsBoolFree := by
    refine .dict _ (.list (.unionOf ?_ rfl))
    rw [List.forall_mem_cons, List.forall_mem_singleton]
    exact ⟨fun _ => .scalar (by decide), by simp [Hint.nullClass, Hint.isNullClass]⟩
  have hd : Value.IsJson (.dict (Value.ofTexts [("x", .list [.int 1, .bool true])])) := by
    refine .dict (by decide) (List.forall_mem_singleton.2 (.list ?_))
    rw [List.forall_mem_cons, List.forall_mem_singleton]
    exact ⟨.int 1, .bool true⟩
  have hb : measured.CoversBool (.dict (Value.ofTexts [("x", .list [.int 1, .bool true])])) :=
    .entry (List.mem_singleton_self _) (.item (x := .bool true) (by simp) (.here ⟨true, rfl⟩))
  have hr : decodeValue ⟨[], []⟩ measured
      (.dict (Value.ofTexts [("x", .list [.int 1, .bool true])])) [] =
        .error (.at (.typeMismatch "float" "bool") ["x", "1"]) := rfl
  exact ⟨hc, hh, hd, hb, ((bool_refused_iff hc hh hd hb []).1.1 ⟨_, rfl, hr⟩).1, hr⟩

/-- A boolean is read as the literal one, though it is no integer. -/
theorem exists_bool_read :
    Hint.IsBoolFree (.literal [.int 1]) ∧ Value.IsJson (.bool true) ∧
      Hint.CoversBool (.literal [.int 1]) (.bool true) ∧
      decodeValue ⟨[], []⟩ (.literal [.int 1]) (.bool true) [] = .ok (.bool true) ∧
      decodeValue ⟨[], []⟩ (.scalar .int) (.bool true) [] =
        .error (.at (.typeMismatch "int" "bool") []) := by
  have hsame : (Value.int 1).same (.bool true) = true := by
    rw [Value.same]
    rfl
  have hread : decodeValue ⟨[], []⟩ (.literal [.int 1]) (.bool true) [] = .ok (.bool true) := by
    obtain ⟨ambient, heq⟩ := decodeValue_eq ⟨[], []⟩
    rw [heq, decodeWith_literal _ rfl, if_pos (by simp [hsame])]
  exact ⟨.literal (List.forall_mem_singleton.2 (.inl ⟨1, rfl⟩)), .bool true, .here ⟨true, rfl⟩,
    hread, rfl⟩

end CodecForge.Coding
