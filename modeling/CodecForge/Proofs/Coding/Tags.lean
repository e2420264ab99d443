/-
  CodecForge — the tags of an enumeration.

  The type of an enumeration is written as the key of one of its cases.

  * `readTag_of_plain`: reading takes a text, also one of a derived class, to the first case
    of that key;
  * `tags_of_run`: the keys of an accepted enumeration stand for its cases one to one, and all
    other data are refused.
-/
import CodecForge.Proofs.Coding.Cells
import CodecForge.Coding.Procedure
import CodecForge.Proofs.Extraction.Invariants

namespace CodecForge

open Coding

/-! ## Texts -/

namespace Coding

variable {c : Context} {data : Value} {path : CodingPath}

/-- Without a codec for the class of a scalar. -/
theorem decodeValue_scalar {s : Scalar} (hc : c.reader? s.name = none) :
    decodeValue c (.scalar s) data path =
      if data.isNull then .error (.at (.valueNotFound s.name) path)
      else decodeScalar s data path := by
  rw [decodeValue, codecDepth, decodingAt, decodeWith]
  simp only [hc]
  rfl

theorem decodeScalar_str (data : Value) (path : CodingPath) :
    decodeScalar .str data path =
      match data.plain with
      | .str _ => .ok data
      | _ => .error (.at (.typeMismatch "str" data.className) path) := by
  unfold decodeScalar
  cases data.plain <;> rfl

theorem isNull_of_plain {s : String} (h : data.plain = .str s) : data.isNull = false := by
  cases data with
  | null => cases h
  | _ => rfl

theorem encodeValue_str (c : Context) (s : String) (path : CodingPath) :
    encodeValue c (.str s) path = .ok (.str s) := by
  rw [encodeValue, codecDepth, encodingAt, encodeWith]

theorem runEncoder_putSingle {enc : Encoding} {v r : Value} (h : enc v path = .ok r) :
    runEncoder (putSingle enc v) path = .ok r := by
  have hput : putSingle enc v ⟨path, none, []⟩ = .ok () ⟨path, some (.done r), []⟩ := by
    simp only [putSingle, bind, EStateM.bind, get, getThe, MonadStateOf.get, EStateM.get, h]
    rfl
  rw [runEncoder, hput]
  rfl

end Coding

/-! ## Cases -/

section
variable {c : Context} (hc : c.reader? "str" = none) (p : CodecPlan) {data : Value}
  (path : CodingPath)
include hc

/-- A text is read as the first case of that key. -/
theorem readTag_of_plain {s : String} (hdata : data.plain = .str s) :
    p.readTag (decodeValue c) data path =
      match p.cases.find? (·.key == s) with
      | some k => .ok k
      | none => .error (.at (.corrupted ("Invalid value: " ++ data.text)) path) := by
  have hdecode : decodeValue c (.scalar .str) data path = .ok data := by
    rw [decodeValue_scalar hc, if_neg (by simp [isNull_of_plain hdata]), decodeScalar_str, hdata]
  have hsame : (fun k : FieldInfo => data.same (.str k.key)) = (·.key == s) := by
    funext k
    rw [Bool.eq_iff_iff, Value.same_str_iff, hdata, Value.str.injEq, beq_iff_eq, eq_comm]
  rw [CodecPlan.readTag, hdecode]
  simp only [bind, Except.bind, hsame]
  rfl

/-- A text is read as a case exactly if it is the key of that case. -/
theorem readTag_eq_ok_iff (hkeys : (p.cases.map (·.key)).Nodup) {s : String}
    (hdata : data.plain = .str s) {k : FieldInfo} :
    p.readTag (decodeValue c) data path = .ok k ↔ k ∈ p.cases ∧ k.key = s := by
  rw [← find?_eq_some_iff_of_nodup hkeys, readTag_of_plain hc p path hdata]
  cases p.cases.find? (·.key == s) <;> simp

theorem readTag_of_no_key {s : String} (hdata : data.plain = .str s)
    (h : ∀ k ∈ p.cases, k.key ≠ s) : p.readTag (decodeValue c) data path =
      .error (.at (.corrupted ("Invalid value: " ++ data.text)) path) := by
  have hnone : p.cases.find? (·.key == s) = none :=
    List.find?_eq_none.2 fun k hk => by simpa using h k hk
  rw [readTag_of_plain hc p path hdata, hnone]

theorem readTag_null : p.readTag (decodeValue c) .null path =
    .error (.at (.valueNotFound "str") path) := by
  rw [CodecPlan.readTag, decodeValue_scalar hc]
  rfl

theorem readTag_of_not_plain (hnull : data.isNull = false) (hdata : ∀ s, data.plain ≠ .str s) :
    p.readTag (decodeValue c) data path =
      .error (.at (.typeMismatch "str" data.className) path) := by
  have hdecode : decodeValue c (.scalar .str) data path =
      .error (.at (.typeMismatch "str" data.className) path) := by
    rw [decodeValue_scalar hc, if_neg (by simp [hnull]), decodeScalar_str]
    split
    · next s hs => exact absurd hs (hdata s)
    · rfl
  rw [CodecPlan.readTag, hdecode]
  rfl

end

theorem Coding.Value.isCase_of_isCase {v : Value} {enum name : String}
    (h : v.isCase enum name) (name' : String) : v.isCase enum name' = (name' == name) := by
  cases v with
  | member enum' name'' _ _ =>
    rw [isCase, Bool.and_eq_true, beq_iff_eq, beq_iff_eq] at h
    obtain ⟨rfl, rfl⟩ := h
    rw [isCase, BEq.rfl, Bool.true_and, BEq.comm]
  | _ => cases h

/-- A value that is a case is written as the key of that case. -/
theorem writeTag_of_isCase (c : Context) {p : CodecPlan}
    (hnames : (p.cases.map (·.localName)).Nodup) {k : FieldInfo} (hk : k ∈ p.cases) {v : Value}
    (hv : v.isCase p.typeName k.localName) (path : CodingPath) :
    runEncoder (p.writeTag (encodeValue c) v) path = .ok (.str k.key) := by
  have hfound : p.cases.find? (fun k' => v.isCase p.typeName k'.localName) = some k := by
    simp only [Value.isCase_of_isCase hv]
    exact (find?_eq_some_iff_of_nodup hnames).2 ⟨hk, rfl⟩
  rw [CodecPlan.writeTag, hfound]
  exact runEncoder_putSingle (encodeValue_str c k.key path)

/-! ## Accepted enumerations -/

namespace Enumeration

variable {e : Enumeration}

theorem leaves_tags : e.tags.leaves = e.cases.map (·.plain) := by
  have hleaves : ∀ f ∈ e.tags.fields, ∃ i, f = .leaf i := by
    intro f hf
    obtain ⟨i, hi, -⟩ := leaf_of_mem_tags hf
    exact ⟨i, hi⟩
  rw [Schema.leaves, Schema.flattened, flattenedFields_leaves none hleaves, tags, List.map_map,
    List.map_map]
  rfl

/-- An enumeration whose cases may be tags has no two of one key or of one name. -/
theorem nodup_of_tagsFault? {typeName : String} (h : Extraction.tagsFault? typeName e = none) :
    ((e.cases.map (·.plain)).map (·.key)).Nodup ∧
      ((e.cases.map (·.plain)).map (·.localName)).Nodup := by
  have hfollows := follows_tags h
  have hkeys := hfollows.keys _ .top
  have hnames := hfollows.leafNames
  rw [keys_tags] at hkeys
  rw [leaves_tags] at hnames
  rw [List.map_map]
  exact ⟨hkeys, hnames⟩

theorem exists_plan_tags {t : CodableType} (hs : t.shape = .singleValueForEnum e.tags)
    (dir : Direction) (style : VariableStyle) :
    ∃ p, t.plan dir style = .ok p ∧ p.typeName = t.typeName ∧
      p.cases = e.cases.map (·.plain) := by
  rw [CodableType.plan, hs]
  refine ⟨_, rfl, rfl, ?_⟩
  change e.tags.fields.map (·.info) = _
  rw [fields_tags, List.map_map]
  exact List.map_id _

end Enumeration

variable {d : Declaration} {overrides : List (String × Json)} {t : CodableType} {n n' : Notices}
  {s : Schema}

/-- **The tags of an accepted enumeration stand for its cases one to one.**  Unless something
    else is registered for reading texts, every value that is a case is written as the key of
    that case, which is read as the case again; a text is read as a case exactly if it is the
    key of that case, and any other text is refused as such; null and data that are no text
    are refused as well, all at the path of the data. -/
theorem tags_of_run (h : Extraction.run d overrides n = .ok t n')
    (hs : t.shape = .singleValueForEnum s) {c : Context} (hc : c.reader? "str" = none)
    (style style' : VariableStyle) :
    ∃ e p p', d.codingKeys? = some e ∧ t.plan .encode style = .ok p ∧
      t.plan .decode style' = .ok p' ∧
      p.cases = e.cases.map (·.plain) ∧ p'.cases = e.cases.map (·.plain) ∧
      (∀ k ∈ p.cases, ∀ v : Value, v.isCase t.typeName k.localName → ∀ path path',
        runEncoder (p.writeTag (encodeValue c) v) path = .ok (.str k.key) ∧
          p'.readTag (decodeValue c) (.str k.key) path' = .ok k) ∧
      ∀ (data : Value) path,
        (∀ text, data.plain = .str text →
          (∀ k, p'.readTag (decodeValue c) data path = .ok k ↔ k ∈ p'.cases ∧ k.key = text) ∧
          ((∀ k ∈ p'.cases, k.key ≠ text) → p'.readTag (decodeValue c) data path =
            .error (.at (.corrupted ("Invalid value: " ++ data.text)) path))) ∧
        (data = .null →
          p'.readTag (decodeValue c) data path = .error (.at (.valueNotFound "str") path)) ∧
        (data.isNull = false → (∀ text, data.plain ≠ .str text) →
          p'.readTag (decodeValue c) data path =
            .error (.at (.typeMismatch "str" data.className) path)) := by
  obtain ⟨e, he, hfault, rfl⟩ := Extraction.tagged_of_run h hs
  obtain ⟨hkeys, hnames⟩ := Enumeration.nodup_of_tagsFault? hfault
  obtain ⟨p, hp, htype, hcases⟩ := Enumeration.exists_plan_tags hs .encode style
  obtain ⟨p', hp', -, hcases'⟩ := Enumeration.exists_plan_tags hs .decode style'
  rw [← hcases] at hnames
  rw [← hcases'] at hkeys
  refine ⟨e, p, p', he, hp, hp', hcases, hcases', ?_, fun data path => ⟨?_, ?_, ?_⟩⟩
  · intro k hk v hv path path'
    have hk' : k ∈ p'.cases := by rwa [hcases', ← hcases]
    exact ⟨writeTag_of_isCase c hnames hk (htype ▸ hv) path,
      (readTag_eq_ok_iff hc p' path' hkeys rfl).2 ⟨hk', rfl⟩⟩
  · exact fun text hdata => ⟨fun k => readTag_eq_ok_iff hc p' path hkeys hdata,
      readTag_of_no_key hc p' path hdata⟩
  · rintro rfl
    exact readTag_null hc p' path
  · exact readTag_of_not_plain hc p' path

/-! ## Memberships -/

/-- Memberships, the first of which has the name of the second for a key. -/
def membership : Declaration where
  typeName := "Membership"
  kind := "extension"
  typeKind := "enum"
  enums := [{
    name := "CodingKeys"
    inherits := ["String", "CodingKey"]
    cases := [⟨"premium", some "gold", []⟩, ⟨"gold", some "user_gold", []⟩, ⟨"free", none, []⟩]
    enums := [] }]
  options := [("container", .str "singleValueForEnum")]

/-- The coding keys of `membership` as tags. -/
def membershipTags : Schema where
  name := "CodingKeys"
  fields := [.leaf ⟨"gold", "premium", false, none, none, none⟩,
    .leaf ⟨"user_gold", "gold", false, none, none, none⟩,
    .leaf ⟨"free", "free", false, none, none, none⟩]

/-- The type of `membership`. -/
def membershipType : CodableType :=
  ⟨"Membership", .singleValueForEnum membershipTags, .internal, [.encode, .decode], []⟩

/-- A context in which a codec stands for memberships. -/
def membershipContext : Context := ⟨[], [("Membership", {})]⟩

/-- The text `gold` is read as the first membership, `premium` as none. -/
theorem tags_of_run_membership :
    Extraction.run membership [] {} = .ok membershipType {} ∧
      membershipType.shape = .singleValueForEnum membershipTags ∧
      membershipContext.reader? "str" = none ∧
      ∃ p p', membershipType.plan .encode .snake = .ok p ∧
        membershipType.plan .decode .snake = .ok p' ∧
        runEncoder (p.writeTag (encodeValue membershipContext)
          (.member "Membership" "gold" false (.int 2))) [] = .ok (.str "user_gold") ∧
        p'.readTag (decodeValue membershipContext) (.str "gold") [] =
          .ok ⟨"gold", "premium", false, none, none, none⟩ ∧
        p'.readTag (decodeValue membershipContext) (.str "premium") ["tier"] =
          .error (.at (.corrupted "Invalid value: premium") ["tier"]) ∧
        p'.readTag (decodeValue membershipContext) .null ["tier"] =
          .error (.at (.valueNotFound "str") ["tier"]) ∧
        p'.readTag (decodeValue membershipContext) (.int 2) ["tier"] =
          .error (.at (.typeMismatch "str" "int") ["tier"]) := by
  have hrun : Extraction.run membership [] {} = .ok membershipType {} := by rfl
  have hshape : membershipType.shape = .singleValueForEnum membershipTags := rfl
  have hc : membershipContext.reader? "str" = none := rfl
  obtain ⟨e, p, p', he, hp, hp', hcases, hcases', hwrite, hread⟩ :=
    tags_of_run hrun hshape hc .snake .snake
  cases he
  refine ⟨hrun, hshape, hc, p, p', hp, hp', ?_, ?_, ?_, ?_, ?_⟩
  · have hgold : (⟨"user_gold", "gold", false, none, none, none⟩ : FieldInfo) ∈ p.cases := by
      rw [hcases]
      decide
    exact (hwrite _ hgold (.member "Membership" "gold" false (.int 2)) rfl [] []).1
  · refine (((hread (.str "gold") []).1 "gold" rfl).1 _).2 ⟨?_, rfl⟩
    rw [hcases']
    decide
  · refine ((hread (.str "premium") ["tier"]).1 "premium" rfl).2 ?_
    rw [hcases']
    decide
  · exact (hread .null ["tier"]).2.1 rfl
  · exact (hread (.int 2) ["tier"]).2.2 rfl nofun

end CodecForge
