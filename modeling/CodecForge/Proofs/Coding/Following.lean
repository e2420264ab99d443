/-
  CodecForge — following a hint into data.

  A hint is followed into the data: into a list item by item, into a dictionary entry by
  entry, and from an optional hint to the one that is left of it.

  * `Structural` are the hints that are read by this alone, without any codec;
  * `ReadsTo`: reading gets to a value inside the data, all that stands before it being
    read; a failure there is the failure of the whole (`ReadsTo.error`);
  * `Stuck`: reading gets to a value at which no error of decoding is met but another
    failure, as `StuckAt` lists them, or to a union one of whose members is stuck; that is
    the failure of the whole (`Stuck.error`).
-/
import CodecForge.Proofs.Coding.TypedRoundTrip
import CodecForge.Proofs.Number.Overflow

namespace CodecForge.Coding

/-! ## Hints -/

/-- A hint that is read by its structure: built from scalars, enumerations and literals,
    none of which a codec reads, and from the hints that take any data or any list. -/
inductive Structural (c : Context) : Hint → Prop
  | any : Structural c .any
  | untyped : Structural c .untyped
  | anyTuple : Structural c .anyTuple
  | scalar {s : Scalar} (hreader : c.reader? s.name = none) : Structural c (.scalar s)
  | enum {name : String} {info : ClassInfo} (hfound : c.classes.find? name = some info)
      (hmembers : info.members.isSome) (hreader : c.reader? name = none) :
      Structural c (.cls name)
  | literal (values : List Value) : Structural c (.literal values)
  | items (kind : ItemsKind) {item : Hint} (h : Structural c item) :
      Structural c (.items kind item)
  | tupleOf {item : Hint} (h : Structural c item) : Structural c (.tupleOf item)
  | tuple {hs : List Hint} (h : ∀ h ∈ hs, Structural c h) : Structural c (.tuple hs)
  | dict (name : String) (key : Hint) {value : Hint} (h : Structural c value) :
      Structural c (.dict name key value)
  | union (name : String) {members : List Hint}
      (h : ∀ m ∈ members, m.isNullClass = false → Structural c m) :
      Structural c (.union name members)

/-! ## Endings -/

section
variable (c : Context) (dec : Decoding)

/-- Data are read, as the same value at every path. -/
def Reads (h : Hint) (d : Value) : Prop := ∃ v, ∀ path, dec h d path = .ok v

/-- Data are refused by an error of decoding, for the same place in them at every path. -/
def Refuses (h : Hint) (d : Value) : Prop :=
  ∃ cause q, cause.kind ≠ .encoding ∧ ∀ path, dec h d path = .error (.at cause (path ++ q))

/-- Reading `d` under `h` gets to `d'` under `h'`, at the path `q` in `d`: all items and
    entries before those that lead to `d'` are read. -/
inductive ReadsTo : Hint → Value → CodingPath → Hint → Value → Prop
  | here (h : Hint) (d : Value) : ReadsTo h d [] h d
  | only {name : String} {members : List Hint} {m h' : Hint} {d d' : Value} {q : CodingPath}
      (hm : members.filter (!·.isNullClass) = [m]) (hd : d.isNull = false)
      (hto : ReadsTo m d q h' d') : ReadsTo (.union name members) d q h' d'
  | item {kind : ItemsKind} {item h' : Hint} {before after : List Value} {x d' : Value}
      {q : CodingPath} (hbefore : ∀ y ∈ before, Reads dec item y)
      (hto : ReadsTo item x q h' d') :
      ReadsTo (.items kind item) (.list (before ++ x :: after)) (toString before.length :: q) h' d'
  | tupleItem {item h' : Hint} {before after : List Value} {x d' : Value}
      {q : CodingPath} (hbefore : ∀ y ∈ before, Reads dec item y)
      (hto : ReadsTo item x q h' d') :
      ReadsTo (.tupleOf item) (.list (before ++ x :: after)) (toString before.length :: q) h' d'
  | component {hs hs' : List Hint} {h h' : Hint} {before after : List Value} {x d' : Value}
      {q : CodingPath} (hbefore : List.Forall₂ (Reads dec) hs before)
      (hlen : hs'.length = after.length) (hto : ReadsTo h x q h' d') :
      ReadsTo (.tuple (hs ++ h :: hs')) (.list (before ++ x :: after))
        (toString before.length :: q) h' d'
  | entry {name key : String} {keyHint value h' : Hint} {before after : List (String × Value)}
      {x d' : Value} {q : CodingPath} (hbefore : ∀ p ∈ before, Reads dec value p.2)
      (hto : ReadsTo value x q h' d') :
      ReadsTo (.dict name keyHint value) (.dict (Value.ofTexts (before ++ (key, x) :: after)))
        (key :: q) h' d'

/-- What cannot be read and is not refused by an error of decoding. -/
inductive StuckAt : Hint → Value → Failure → Prop
  /-- no float comes near to the integer -/
  | large {n : Int} (hn : Double.overflow ≤ n.natAbs) :
      StuckAt (.scalar .float) (.int n) .tooLarge
  /-- the value is not among the literals, and has no text to be named by -/
  | literal {values : List Value} {d : Value} (hnull : d.isNull = false)
      (hnone : ∀ v ∈ values, v.same d = false) (htext : d.hasText = false) :
      StuckAt (.literal values) d .badValue
  /-- no member has the value, and it has no text to be named by -/
  | enum {name : String} {info : ClassInfo} {d : Value}
      (hfound : c.classes.find? name = some info) (hnull : d.isNull = false)
      (hclass : d.className ≠ info.name) (hnone : ∀ m ∈ info.members.getD [], m.2.same d = false)
      (htext : d.hasText = false) : StuckAt (.cls name) d .badValue
  /-- an item cannot be an element of a set -/
  | unhashable {kind : ItemsKind} {item : Hint} {xs vs : List Value}
      (hkind : kind = .set ∨ kind = .frozenset)
      (hread : List.Forall₂ (fun v x => ∀ path, dec item x path = .ok v) vs xs)
      (hhash : vs.all Value.hashable = false) : StuckAt (.items kind item) (.list xs) .unhashable
  /-- there is no set of that kind -/
  | abstractSet {item : Hint} {xs : List Value} (hread : ∀ x ∈ xs, Reads dec item x) :
      StuckAt (.items .abstractSet item) (.list xs) .abstractSet

/-- Reading data fails otherwise than with an error of decoding: it gets to a value where it
    is stuck, or to a union of several hints, those before a hint that is stuck refusing the
    data. -/
inductive Stuck : Hint → Value → Failure → Prop
  | own {h h' : Hint} {d d' : Value} {q : CodingPath} {f : Failure}
      (hto : ReadsTo dec h d q h' d') (hs : StuckAt c dec h' d' f) : Stuck h d f
  | member {h m : Hint} {d d' : Value} {q : CodingPath} {f : Failure} {name : String}
      {before after : List Hint}
      (hto : ReadsTo dec h d q (.union name (before ++ m :: after)) d') (hnull : d'.isNull = false)
      (hmany : ((before ++ m :: after).filter (!·.isNullClass)).length ≠ 1)
      (hbefore : ∀ m' ∈ before, m'.isNullClass = false → Refuses dec m' d')
      (hm : m.isNullClass = false) (hs : Stuck m d' f) : Stuck h d f

end

variable {c : Context} {dec : Decoding}

theorem ReadsTo.trans {h h₁ h₂ : Hint} {d d₁ d₂ : Value} {q q' : CodingPath}
    (hto : ReadsTo dec h d q h₁ d₁) (hto' : ReadsTo dec h₁ d₁ q' h₂ d₂) :
    ReadsTo dec h d (q ++ q') h₂ d₂ := by
  induction hto with
  | here => exact hto'
  | only hm hd _ ih => exact .only hm hd (ih hto')
  | item hbefore _ ih => exact .item hbefore (ih hto')
  | tupleItem hbefore _ ih => exact .tupleItem hbefore (ih hto')
  | component hbefore hlen _ ih => exact .component hbefore hlen (ih hto')
  | entry hbefore _ ih => exact .entry hbefore (ih hto')

/-- Reading is stuck where it gets to a value with which it is stuck. -/
theorem Stuck.lift {h h₁ : Hint} {d d₁ : Value} {q : CodingPath} {f : Failure}
    (hto : ReadsTo dec h d q h₁ d₁) (hs : Stuck c dec h₁ d₁ f) : Stuck c dec h d f := by
  cases hs with
  | own hto' hs => exact .own (hto.trans hto') hs
  | member hto' hnull hmany hbefore hm hs =>
    exact .member (hto.trans hto') hnull hmany hbefore hm hs

/-! ## Following a hint -/

section
variable {ambient : Decoding}

theorem decodeWith_items (kind : ItemsKind) (item : Hint) (xs : List Value) (path : CodingPath) :
    decodeWith c ambient (.items kind item) (.list xs) path =
      decodeItems (decodeWith c ambient item) path 0 xs >>= collect kind := by
  rw [decodeWith]
  rfl

theorem decodeWith_tupleOf (item : Hint) (xs : List Value) (path : CodingPath) :
    decodeWith c ambient (.tupleOf item) (.list xs) path =
      (decodeItems (decodeWith c ambient item) path 0 xs).map .tuple := by
  rw [decodeWith]
  rfl

theorem decodeWith_tuple {hs : List Hint} {xs : List Value} (hne : hs ≠ [])
    (hlen : hs.length = xs.length) (path : CodingPath) :
    decodeWith c ambient (.tuple hs) (.list xs) path =
      (decodeEach c ambient hs xs path 0).map .tuple := by
  rw [decodeWith]
  simp [Value.isNull, Value.asList?, Value.plain, hne, hlen]

theorem decodeWith_dict (name : String) (key value : Hint) (es : List (Value × Value))
    (path : CodingPath) :
    decodeWith c ambient (.dict name key value) (.dict es) path =
      (decodeEntries (decodeWith c ambient value) path es).map .dict := by
  rw [decodeWith]
  rfl

theorem decodeOnly_eq {members : List Hint} {m : Hint}
    (hm : members.filter (!·.isNullClass) = [m]) (d : Value) (path : CodingPath) :
    decodeOnly c ambient members d path = decodeWith c ambient m d path := by
  induction members with
  | nil => cases hm
  | cons m' members ih =>
    rw [decodeOnly]
    cases hnull : m'.isNullClass with
    | true =>
      rw [List.filter_cons_of_neg (by simp [hnull])] at hm
      exact ih hm
    | false =>
      rw [List.filter_cons_of_pos (by simp [hnull])] at hm
      rw [(List.cons.inj hm).1]
      rfl

theorem decodeWith_only {members : List Hint} {m : Hint}
    (hm : members.filter (!·.isNullClass) = [m]) {d : Value} (hd : d.isNull = false)
    (name : String) (path : CodingPath) :
    decodeWith c ambient (.union name members) d path = decodeWith c ambient m d path := by
  rw [decodeWith, hd, hm]
  exact decodeOnly_eq hm d path

theorem decodeWith_many {members : List Hint}
    (hmany : (members.filter (!·.isNullClass)).length ≠ 1) {d : Value} (hd : d.isNull = false)
    (name : String) (path : CodingPath) :
    decodeWith c ambient (.union name members) d path =
      decodeFirst c ambient name members d path := by
  rw [decodeWith, hd]
  simp only [Bool.false_eq_true, if_false]
  split
  · next m hm => exact absurd (by rw [hm]; rfl) hmany
  · rfl

/-- Members that refuse data are passed over. -/
theorem decodeFirst_append {before : List Hint} {d : Value}
    (hbefore : ∀ m ∈ before, m.isNullClass = false → Refuses (decodeWith c ambient) m d)
    (name : String) (rest : List Hint) (path : CodingPath) :
    decodeFirst c ambient name (before ++ rest) d path =
      decodeFirst c ambient name rest d path := by
  induction before with
  | nil => rfl
  | cons m before ih =>
    rw [List.forall_mem_cons] at hbefore
    rw [List.cons_append, decodeFirst]
    cases hnull : m.isNullClass with
    | true => exact ih hbefore.2
    | false =>
      obtain ⟨cause, q, hkind, herror⟩ := hbefore.1 hnull
      rw [herror path]
      have hdecoding : (Failure.at cause (path ++ q)).isDecoding = true := decide_eq_true hkind
      simp only [hdecoding, Bool.false_eq_true, if_false, if_true]
      exact ih hbefore.2

/-- A member decides that reads the data, or fails otherwise than with an error of decoding. -/
theorem decodeFirst_cons {m : Hint} (hm : m.isNullClass = false) (name : String)
    (rest : List Hint) {d : Value} {path : CodingPath} {r : Except Failure Value}
    (hr : decodeWith c ambient m d path = r)
    (hstop : ∀ f, r = .error f → f.isDecoding = false) :
    decodeFirst c ambient name (m :: rest) d path = r := by
  rw [decodeFirst, hm, hr]
  cases r with
  | ok v => rfl
  | error f =>
    have hf := hstop f rfl
    simp [hf]

theorem decodeEach_error {hs hs' : List Hint} {h : Hint} {before after : List Value} {x : Value}
    (hbefore : List.Forall₂ (Reads (decodeWith c ambient)) hs before) {path : CodingPath}
    {index : Nat} {f : Failure}
    (hx : decodeWith c ambient h x (path ++ [toString (index + before.length)]) = .error f) :
    decodeEach c ambient (hs ++ h :: hs') (before ++ x :: after) path index = .error f := by
  induction hbefore generalizing index with
  | nil =>
    have hx' : decodeWith c ambient h x (path ++ [toString index]) = .error f := hx
    rw [List.nil_append, List.nil_append, decodeEach, hx']
    rfl
  | @cons h₁ y hs before hy _ ih =>
    obtain ⟨v, hv⟩ := hy
    have hindex : index + 1 + before.length = index + (y :: before).length := by
      simp only [List.length_cons]
      omega
    rw [List.cons_append, List.cons_append, decodeEach, hv, ih (hindex ▸ hx)]
    rfl

/-! ## Failures -/

/-- A failure at the value that reading gets to is the failure of the whole. -/
theorem ReadsTo.error {h h' : Hint} {d d' : Value} {q : CodingPath}
    (hto : ReadsTo (decodeWith c ambient) h d q h' d') {path : CodingPath} {f : Failure}
    (hf : decodeWith c ambient h' d' (path ++ q) = .error f) :
    decodeWith c ambient h d path = .error f := by
  induction hto generalizing path with
  | here => simpa using hf
  | only hm hd _ ih =>
    rw [decodeWith_only hm hd]
    exact ih hf
  | @item kind item _ before after x _ _ hbefore _ ih =>
    have hx : decodeWith c ambient item x (path ++ [toString (0 + before.length)]) = .error f :=
      ih (by simpa using hf)
    rw [decodeWith_items, decodeItems_error hbefore hx]
    rfl
  | @tupleItem item _ before after x _ _ hbefore _ ih =>
    have hx : decodeWith c ambient item x (path ++ [toString (0 + before.length)]) = .error f :=
      ih (by simpa using hf)
    rw [decodeWith_tupleOf, decodeItems_error hbefore hx]
    rfl
  | @component hs hs' h _ before after x _ _ hbefore hlen _ ih =>
    have hx : decodeWith c ambient h x (path ++ [toString (0 + before.length)]) = .error f :=
      ih (by simpa using hf)
    have hlength : (hs ++ h :: hs').length = (before ++ x :: after).length := by
      simp [hbefore.length_eq, hlen]
    rw [decodeWith_tuple (by simp) hlength, decodeEach_error hbefore hx]
    rfl
  | @entry _ key _ value _ before after x _ _ hbefore _ ih =>
    have hx : decodeWith c ambient value x (path ++ [key]) = .error f := ih (by simpa using hf)
    rw [decodeWith_dict, decodeEntries_error hbefore hx]
    rfl

theorem decodeMember_eq_error {info : ClassInfo} {d : Value} (hclass : d.className ≠ info.name)
    (hnone : ∀ m ∈ info.members.getD [], m.2.same d = false) (path : CodingPath) :
    decodeMember info d path = .error (unexpected d path) := by
  rw [decodeMember, if_neg hclass]
  split
  · next found hfound =>
    obtain ⟨m, hm, rfl⟩ := List.mem_map.1 (List.mem_of_find?_eq_some hfound)
    have hsame := List.find?_some hfound
    simp [hnone m hm] at hsame
  · rfl

/-- What has no text is not refused by an error that names it. -/
theorem unexpected_of_textless {d : Value} (h : d.hasText = false) (path : CodingPath) :
    unexpected d path = .badValue := by
  simp [unexpected, h]

/-- The failures at which reading is stuck. -/
theorem StuckAt.not_isDecoding {h : Hint} {d : Value} {f : Failure} (hs : StuckAt c dec h d f) :
    f.isDecoding = false := by
  cases hs <;> rfl

theorem Stuck.not_isDecoding {h : Hint} {d : Value} {f : Failure} (hs : Stuck c dec h d f) :
    f.isDecoding = false := by
  induction hs with
  | own _ hs => exact hs.not_isDecoding
  | member _ _ _ _ _ _ ih => exact ih

theorem ReadsTo.structural {h h' : Hint} {d d' : Value} {q : CodingPath}
    (hto : ReadsTo dec h d q h' d') (hh : Structural c h) : Structural c h' := by
  induction hto with
  | here => exact hh
  | @only _ members m _ _ _ _ hm _ _ ih =>
    cases hh with
    | union _ hmembers =>
      have hmem : m ∈ members.filter (!·.isNullClass) := by
        rw [hm]
        exact List.mem_singleton_self m
      obtain ⟨hmem, hnull⟩ := List.mem_filter.1 hmem
      exact ih (hmembers m hmem (by simpa using hnull))
  | item _ _ ih =>
    cases hh with
    | items _ hitem => exact ih hitem
  | tupleItem _ _ ih =>
    cases hh with
    | tupleOf hitem => exact ih hitem
  | component _ _ _ ih =>
    cases hh with
    | tuple hhs => exact ih (hhs _ (by simp))
  | entry _ _ ih =>
    cases hh with
    | dict _ _ hvalue => exact ih hvalue

theorem decodeWith_scalar {s : Scalar} (hreader : c.reader? s.name = none) {d : Value}
    (hd : d.isNull = false) (path : CodingPath) :
    decodeWith c ambient (.scalar s) d path = decodeScalar s d path := by
  rw [decodeWith]
  simp [hd, hreader]

theorem decodeWith_enum {name : String} {info : ClassInfo}
    (hfound : c.classes.find? name = some info) (hmembers : info.members.isSome)
    (hreader : c.reader? name = none) {d : Value} (hd : d.isNull = false) (path : CodingPath) :
    decodeWith c ambient (.cls name) d path = decodeMember info d path := by
  have hinfo : (c.classes.find? name).filter (·.members.isSome) = some info := by
    rw [hfound, Option.filter_some, if_pos hmembers]
  rw [decodeWith]
  simp only [hd, hreader, Bool.false_eq_true, if_false]
  rw [decodeClass, hinfo]

theorem decodeWith_literal (values : List Value) {d : Value} (hd : d.isNull = false)
    (path : CodingPath) :
    decodeWith c ambient (.literal values) d path =
      if values.any (Value.same · d) then .ok d else .error (unexpected d path) := by
  rw [decodeWith]
  simp [hd]

theorem StuckAt.error {h : Hint} {d : Value} {f : Failure}
    (hs : StuckAt c (decodeWith c ambient) h d f) (hh : Structural c h) (path : CodingPath) :
    decodeWith c ambient h d path = .error f := by
  cases hs with
  | large hn =>
    cases hh with
    | scalar hreader =>
      rw [decodeWith_scalar hreader rfl]
      simp [decodeScalar, Value.plain, (Double.ofInt?_eq_none_iff _).2 hn]
  | literal hnull hnone htext =>
    rw [decodeWith_literal _ hnull, if_neg (by simpa using hnone), unexpected_of_textless htext]
  | enum hfound hnull hclass hnone htext =>
    cases hh with
    | enum hfound' hmembers hreader =>
      cases hfound.symm.trans hfound'
      rw [decodeWith_enum hfound hmembers hreader hnull, decodeMember_eq_error hclass hnone,
        unexpected_of_textless htext]
  | unhashable hkind hread hhash =>
    rw [decodeWith_items, decodeItems_of_forall₂ hread]
    rcases hkind with rfl | rfl
    all_goals simp [bind, Except.bind, collect, hhash]
  | abstractSet hread =>
    obtain ⟨vs, hvs⟩ := exists_forall₂ hread
    rw [decodeWith_items, decodeItems_of_forall₂ hvs.flip]
    rfl

theorem Stuck.error {h : Hint} {d : Value} {f : Failure}
    (hs : Stuck c (decodeWith c ambient) h d f) (hh : Structural c h) (path : CodingPath) :
    decodeWith c ambient h d path = .error f := by
  induction hs generalizing path with
  | own hto hs => exact hto.error (hs.error (hto.structural hh) _)
  | member hto hnull hmany hbefore hm hs ih =>
    refine hto.error ?_
    rw [decodeWith_many hmany hnull, decodeFirst_append hbefore]
    refine decodeFirst_cons hm _ _ (ih ?_ _) ?_
    · cases hto.structural hh with
      | union _ hmembers => exact hmembers _ (by simp) hm
    · rintro _ ⟨⟩
      exact hs.not_isDecoding

end

end CodecForge.Coding
