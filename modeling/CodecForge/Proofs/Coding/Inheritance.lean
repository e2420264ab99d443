/-
  CodecForge — which procedure writes a value of a class.

  A value is written by the codec of the nearest of its classes that has one, also if that
  codec is for reading only; then no other class is asked.

  * `nearestWriter?` is the procedure of the nearest class that has one for writing; it is
    the one that is found unless a codec for reading `Hides` it (`writer?_eq_nearest_iff`);
  * registering a procedure for reading changes no `nearestWriter?`, and changes what is found
    exactly for values whose class it `Overtakes` (`writer?_register_eq_iff`);
  * values are encoded alike where the same procedures are found (`encodeWith_congr`), hence
    `writes_alike_unless_overtaken`; `exists_overtaken` is a class that loses what it inherits.
-/
import CodecForge.Coding.Encode
import CodecForge.Proofs.Related

namespace CodecForge.Coding

namespace CodecTable

variable {t : CodecTable} {name : String} {lineage : List String}

/-! ## The codec that is found -/

/-- The procedure for writing of the codec that is found. -/
def writer? (t : CodecTable) (lineage : List String) : Option EncodeProcedure :=
  (t.codecFor lineage).bind (·.encode?)

/-- The procedure for writing of the nearest class that has one. -/
def nearestWriter? (t : CodecTable) (lineage : List String) : Option EncodeProcedure :=
  lineage.findSome? fun name => (Entries.get? name t).bind (·.encode?)

theorem writer?_cons_of_none (h : Entries.get? name t = none) (lineage : List String) :
    t.writer? (name :: lineage) = t.writer? lineage := by
  rw [writer?, codecFor, List.findSome?_cons, h]
  rfl

theorem writer?_cons_of_some {codec : Codec} (h : Entries.get? name t = some codec)
    (lineage : List String) : t.writer? (name :: lineage) = codec.encode? := by
  rw [writer?, codecFor, List.findSome?_cons, h]
  rfl

theorem nearestWriter?_cons (t : CodecTable) (name : String) (lineage : List String) :
    t.nearestWriter? (name :: lineage) =
      ((Entries.get? name t).bind (·.encode?)).or (t.nearestWriter? lineage) :=
  findSome?_cons_or _ name lineage

/-- The first codec is for reading only, and a class further on has a procedure for writing. -/
inductive Hides (t : CodecTable) : List String → Prop
  | here {name : String} {lineage : List String} {codec : Codec}
      (hget : Entries.get? name t = some codec) (hcodec : codec.encode? = none)
      (hnext : t.nearestWriter? lineage ≠ none) : Hides t (name :: lineage)
  | there {name : String} {lineage : List String} (hget : Entries.get? name t = none)
      (h : Hides t lineage) : Hides t (name :: lineage)

theorem writer?_eq_nearest_iff : t.writer? lineage = t.nearestWriter? lineage ↔
    ¬ t.Hides lineage := by
  induction lineage with
  | nil => exact iff_of_true rfl nofun
  | cons name lineage ih =>
    rw [nearestWriter?_cons]
    cases hget : Entries.get? name t with
    | none =>
      rw [writer?_cons_of_none hget, Option.bind_none, Option.none_or, ih, not_iff_not]
      constructor
      · exact .there hget
      · rintro (⟨hget', -, -⟩ | ⟨-, h⟩)
        · cases hget.symm.trans hget'
        · exact h
    | some codec =>
      rw [writer?_cons_of_some hget, Option.bind_some]
      cases hcodec : codec.encode? with
      | some p =>
        refine iff_of_true rfl ?_
        rintro (⟨hget', hcodec', -⟩ | ⟨hget', -⟩)
        · cases hget.symm.trans hget'
          cases hcodec.symm.trans hcodec'
        · cases hget.symm.trans hget'
      | none =>
        rw [Option.none_or, eq_comm, ← not_iff_not, not_not]
        constructor
        · exact .here hget hcodec
        · rintro (⟨-, -, hnext⟩ | ⟨hget', -⟩)
          · exact hnext
          · cases hget.symm.trans hget'

theorem Hides.writer?_eq_none (h : t.Hides lineage) : t.writer? lineage = none := by
  induction h with
  | here hget hcodec => rw [writer?_cons_of_some hget, hcodec]
  | there hget _ ih => rw [writer?_cons_of_none hget, ih]

theorem nearestWriter?_of_writer? {p : EncodeProcedure} (h : t.writer? lineage = some p) :
    t.nearestWriter? lineage = some p := by
  rw [← h, eq_comm, writer?_eq_nearest_iff]
  intro hhides
  cases h.symm.trans hhides.writer?_eq_none

/-! ## Registering a procedure for reading -/

variable (g : DecodeProcedure)

theorem get?_register (t : CodecTable) (name : String) (g : DecodeProcedure) (other : String) :
    Entries.get? other (t.register name none (some g)) =
      if name = other then some ⟨((Entries.get? name t).getD {}).encode?, some g⟩
      else Entries.get? other t := by
  rw [register, Entries.get?_put]
  rfl

/-- No class gets or loses a procedure for writing. -/
theorem nearestWriter?_register (t : CodecTable) (name : String) (lineage : List String) :
    (t.register name none (some g)).nearestWriter? lineage = t.nearestWriter? lineage := by
  unfold nearestWriter?
  congr 1
  funext other
  rw [get?_register]
  split
  · next h =>
    subst h
    cases Entries.get? name t <;> rfl
  · rfl

/-- The class comes before the one whose codec is found, and that codec is for writing. -/
inductive Overtakes (t : CodecTable) (name : String) : List String → Prop
  | here {lineage : List String} (hnext : t.writer? lineage ≠ none) :
      Overtakes t name (name :: lineage)
  | there {other : String} {lineage : List String} (hget : Entries.get? other t = none)
      (h : Overtakes t name lineage) : Overtakes t name (other :: lineage)

theorem Overtakes.writer?_ne_none (hname : Entries.get? name t = none)
    (h : t.Overtakes name lineage) : t.writer? lineage ≠ none := by
  induction h with
  | here hnext => rwa [writer?_cons_of_none hname]
  | there hget _ ih => rwa [writer?_cons_of_none hget]

theorem Overtakes.writer?_register (hname : Entries.get? name t = none)
    (h : t.Overtakes name lineage) :
    (t.register name none (some g)).writer? lineage = none := by
  induction h with
  | here =>
    have hget := get?_register t name g name
    rw [if_pos rfl, hname] at hget
    rw [writer?_cons_of_some hget]
    rfl
  | @there other _ hget _ ih =>
    by_cases hne : name = other
    · have hget' := get?_register t name g other
      rw [if_pos hne, hname] at hget'
      rw [writer?_cons_of_some hget']
      rfl
    · have hget' := get?_register t name g other
      rw [if_neg hne, hget] at hget'
      rw [writer?_cons_of_none hget', ih]

theorem writer?_register_of_not (h : Entries.get? name t = none → ¬ t.Overtakes name lineage) :
    (t.register name none (some g)).writer? lineage = t.writer? lineage := by
  induction lineage with
  | nil => rfl
  | cons other lineage ih =>
    have hget' := get?_register t name g other
    by_cases hne : name = other
    · subst hne
      rw [if_pos rfl] at hget'
      rw [writer?_cons_of_some hget']
      cases hget : Entries.get? name t with
      | some codec => rw [writer?_cons_of_some hget, Option.getD_some]
      | none =>
        -- the class gets a codec without a procedure for writing: nothing may stand after it
        have hnext : t.writer? lineage = none := not_not.1 fun hnext => h hget (.here hnext)
        rw [writer?_cons_of_none hget, hnext]
        rfl
    · rw [if_neg hne] at hget'
      cases hget : Entries.get? other t with
      | some codec => rw [writer?_cons_of_some (hget'.trans hget), writer?_cons_of_some hget]
      | none =>
        rw [writer?_cons_of_none (hget'.trans hget), writer?_cons_of_none hget]
        exact ih fun hname hover => h hname (.there hget hover)

theorem writer?_register_eq_iff :
    (t.register name none (some g)).writer? lineage = t.writer? lineage ↔
      ¬ (Entries.get? name t = none ∧ t.Overtakes name lineage) := by
  constructor
  · rintro heq ⟨hname, hover⟩
    rw [hover.writer?_register g hname] at heq
    exact hover.writer?_ne_none hname heq.symm
  · exact fun h => writer?_register_of_not g fun hname hover => h ⟨hname, hover⟩

end CodecTable

/-! ## Encoding with the same procedures -/

/-- Whether a codec is asked for: none is for null, nor for a text, a number or a boolean of
    exactly that class. -/
def Value.asksCodec (v : Value) : Bool := !v.isNull && !v.isScalar

/-- The same classes, with the same procedures for their values. -/
structure Context.SameWriters (c c' : Context) : Prop where
  classes : c'.classes = c.classes
  writer : ∀ v : Value, v.asksCodec = true → c'.writer? v = c.writer? v

variable {c c' : Context}

mutual

theorem encodeWith_congr (h : c.SameWriters c') (ambient : Encoding) (v : Value)
    (path : CodingPath) : encodeWith c' ambient v path = encodeWith c ambient v path := by
  cases v with
  | null | bool | int | float | str => rw [encodeWith, encodeWith]
  | list xs | tuple xs =>
    rw [encodeWith, encodeWith, h.writer _ rfl, encodeItems_congr h ambient xs path 0]
  | dict es => rw [encodeWith, encodeWith, h.writer _ rfl, encodeEntries_congr h ambient es path]
  | member enum name mixed v =>
    rw [encodeWith, encodeWith, h.writer _ rfl, encodeWith_congr h ambient v path]
  | record n fs => rw [encodeWith, encodeWith, h.writer _ rfl, encodeRecord, encodeRecord, h.classes]
  | classObject n home isEnum =>
    rw [encodeWith, encodeWith, h.writer _ rfl, encodeClass, encodeClass, h.classes]
  | branded n v =>
    cases v with
    | list xs => rw [encodeWith, encodeWith, h.writer _ rfl, encodeItems_congr h ambient xs path 0]
    | _ => rw [encodeWith, encodeWith, h.writer _ rfl] <;> nofun
  | _ => rw [encodeWith, encodeWith, h.writer _ rfl] <;> nofun

theorem encodeItems_congr (h : c.SameWriters c') (ambient : Encoding) (xs : List Value)
    (path : CodingPath) (index : Nat) :
    encodeItems c' ambient path index xs = encodeItems c ambient path index xs := by
  cases xs with
  | nil => rw [encodeItems, encodeItems]
  | cons x xs =>
    rw [encodeItems, encodeItems, encodeWith_congr h ambient x,
      encodeItems_congr h ambient xs]

theorem encodeEntries_congr (h : c.SameWriters c') (ambient : Encoding)
    (es : List (Value × Value)) (path : CodingPath) :
    encodeEntries c' ambient path es = encodeEntries c ambient path es := by
  cases es with
  | nil => rw [encodeEntries, encodeEntries]
  | cons e es =>
    obtain ⟨k, v⟩ := e
    rw [encodeEntries, encodeEntries, encodeWith_congr h ambient v,
      encodeEntries_congr h ambient es]

end

theorem encodingAt_congr (h : c.SameWriters c') (depth : Nat) :
    encodingAt c' depth = encodingAt c depth := by
  induction depth with
  | zero =>
    funext v path
    exact encodeWith_congr h _ v path
  | succ depth ih =>
    funext v path
    rw [encodingAt, encodingAt, ih]
    exact encodeWith_congr h _ v path

/-! ## Values -/

namespace Context

/-- The procedure for writing of the nearest class of a value that has one. -/
def nearestWriter? (c : Context) (v : Value) : Option EncodeProcedure :=
  c.codecs.nearestWriter? (c.classes.lineage v.className)

/-- The codec that is found for a value hides the procedure of a class further on. -/
def Hides (c : Context) (v : Value) : Prop :=
  c.codecs.Hides (c.classes.lineage v.className)

/-- A class without a codec comes before the one whose procedure writes a value. -/
def Overtakes (c : Context) (name : String) (v : Value) : Prop :=
  Entries.get? name c.codecs = none ∧ c.codecs.Overtakes name (c.classes.lineage v.className)

/-- The context with a procedure for reading registered for a class. -/
def withReader (c : Context) (name : String) (g : DecodeProcedure) : Context :=
  { c with codecs := c.codecs.register name none (some g) }

theorem writer?_withReader_eq_iff (c : Context) (name : String) (g : DecodeProcedure) (v : Value) :
    (c.withReader name g).writer? v = c.writer? v ↔ ¬ c.Overtakes name v :=
  CodecTable.writer?_register_eq_iff g

end Context

/-- **When registering a procedure for reading leaves writing alone.**  Whatever is registered,
    the nearest class of a value with a procedure for writing stays the same.  Its procedure
    writes the value unless a codec hides it that is for reading only.  So the value is written
    by the same procedure as before exactly if the class does not overtake it: if it had no
    codec and comes before the class whose procedure writes the value, nothing that is
    registered writes the value any more.  If it overtakes no value, all values are encoded as
    before. -/
theorem writes_alike_unless_overtaken (c : Context) (name : String) (g : DecodeProcedure) :
    (∀ v, (c.withReader name g).nearestWriter? v = c.nearestWriter? v) ∧
    (∀ v, c.writer? v = c.nearestWriter? v ↔ ¬ c.Hides v) ∧
    (∀ v, (c.withReader name g).writer? v = c.writer? v ↔ ¬ c.Overtakes name v) ∧
    (∀ v, c.Overtakes name v → ∃ p, c.writer? v = some p ∧
      (c.withReader name g).nearestWriter? v = some p ∧ (c.withReader name g).writer? v = none) ∧
    ((∀ v : Value, v.asksCodec = true → ¬ c.Overtakes name v) →
      encodeValue (c.withReader name g) = encodeValue c) := by
  have hnearest : ∀ v, (c.withReader name g).nearestWriter? v = c.nearestWriter? v :=
    fun v => CodecTable.nearestWriter?_register g c.codecs name _
  have hwriter := c.writer?_withReader_eq_iff name g
  refine ⟨hnearest, fun v => CodecTable.writer?_eq_nearest_iff, hwriter, ?_, fun hover => ?_⟩
  · rintro v ⟨hname, hover⟩
    obtain ⟨p, hp⟩ := Option.ne_none_iff_exists'.1 (hover.writer?_ne_none hname)
    have hfound : c.nearestWriter? v = some p := CodecTable.nearestWriter?_of_writer? hp
    exact ⟨p, hp, (hnearest v).trans hfound, hover.writer?_register g hname⟩
  · have hsame : c.SameWriters (c.withReader name g) :=
      ⟨rfl, fun v hv => (hwriter v).2 (hover v hv)⟩
    exact encodingAt_congr hsame codecDepth

/-- A procedure that writes the number in the field `x`. -/
def pointWriter : EncodeProcedure where
  name := "point"
  run enc
    | .record _ ((_, v) :: _) => putSingle enc v
    | _ => pure ()

/-- A procedure that gives what it is given. -/
def pointReader : DecodeProcedure := ⟨"point", fun _ v _ => .ok v⟩

/-- A class with a procedure for writing, and a class derived from it. -/
def points : Context :=
  ⟨[{ name := "Point", ancestors := [] }, { name := "Point3", ancestors := ["Point"] }],
    [("Point", { encode? := some pointWriter })]⟩

/-- Registering a procedure for reading for a class that has one for writing. -/
theorem writes_alike_unless_overtaken_points (g : DecodeProcedure) :
    encodeValue (points.withReader "Point" g) = encodeValue points := by
  refine (writes_alike_unless_overtaken points "Point" g).2.2.2.2 ?_
  rintro v - ⟨hname, -⟩
  cases hname

/-- Registering a procedure for reading takes away the procedure for writing that a class
    inherits. -/
theorem exists_overtaken :
    encodeValue points (.record "Point3" [("x", .int 1)]) [] = .ok (.int 1) ∧
    encodeValue (points.withReader "Point3" pointReader) (.record "Point3" [("x", .int 1)]) [] =
      .error (.at (.noCodec "Point3") []) :=
  ⟨rfl, rfl⟩

end CodecForge.Coding
