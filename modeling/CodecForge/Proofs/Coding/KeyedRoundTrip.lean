/-
  CodecForge — what the procedures of a keyed type write, they read.

  Both plans of an accepted keyed type come from one schema, so their steps match: each
  leaf is written to and read from one place, under the same adapter.

  * `Represents.of_matches`: what the steps of the one plan stored is what those of the
    other expect;
  * `read_write_of_run`: hence the values of the leaves are read as they were written.
-/
import CodecForge.Proofs.Coding.Reading
import CodecForge.Proofs.Extraction.Accepted

namespace CodecForge

open Coding

/-! ## Two plans of one schema -/

variable {s : Schema}

/-- Steps for one leaf match if the leaf has no adapter for one direction only. -/
theorem matches_of_isFor (hs : s.Regular) (hnames : (s.fields.map (·.info.localName)).Nodup)
    {style style' : VariableStyle} {p : FieldInfo × Option FieldInfo} (hp : p ∈ s.flattened)
    (hmarkers : p.1.encodeTransform = none ∧ p.1.decodeTransform = none) {st st' : FieldStep}
    (hst : st.IsFor s .encode style p) (hst' : st'.IsFor s .decode style' p) : st.Matches st' := by
  have hplace := (place_of_isFor hs hnames hp hst).2
  have hplace' := (place_of_isFor hs hnames hp hst').2
  refine ⟨hst'.field.trans hst.field.symm, ?_, ?_⟩
  · rw [hst.transform, hst'.transform, FieldInfo.transformFor, FieldInfo.transformFor, hmarkers.1,
      hmarkers.2]
  · exact congrArg Prod.fst (hplace'.trans hplace.symm)

theorem keys_containers (s : Schema) (style style' : VariableStyle) :
    (s.containers style).map (·.key) = (s.containers style').map (·.key) := by
  rw [Schema.containers, Schema.containers, List.map_cons, List.map_cons, keys_groupContainers,
    keys_groupContainers]

theorem FieldStep.Matches.storedBy_eq {st st' : FieldStep} (h : st.Matches st') (a : Adapters)
    (values : String → Value) : storedBy a values st' = storedBy a values st := by
  unfold storedBy Adapters.stored? Adapters.outgoing
  rw [h.field, h.transform]

theorem Coding.Represents.of_matches {data : Value} {cs cs' : List Container}
    {steps steps' : List FieldStep} {a : Adapters} {values : String → Value}
    (h : Represents data cs steps (storedBy a values))
    (hkeys : cs.map (·.key) = cs'.map (·.key))
    (hsteps : ∀ st' ∈ steps', ∃ st ∈ steps, st.Matches st') :
    Represents data cs' steps' (storedBy a values) := by
  intro c' hc'
  have hmem : c'.key ∈ cs.map (·.key) := hkeys ▸ List.mem_map_of_mem hc'
  obtain ⟨c, hc, hkey⟩ := List.mem_map.1 hmem
  obtain ⟨es, hes, hlookup⟩ := h c hc
  refine ⟨es, hkey ▸ hes, fun st' hst' hst'key => ?_⟩
  obtain ⟨st, hst, hmatch⟩ := hsteps st' hst'
  rw [hmatch.field, hmatch.storedBy_eq]
  exact hlookup st hst (by rw [← hmatch.key, hst'key, hkey])

/-! ## The round trip -/

variable {d : Declaration} {overrides : List (String × Json)} {t : CodableType} {n n' : Notices}
  {e : Enumeration} {c : Context} {a : Adapters} {values : String → Value}

/-- **What the procedures of an accepted keyed type write, they read.**  If the cases of
    the coding keys differ by name, and the leaves have adapters for both directions only,
    then every assignment of JSON values to the leaves is written, and read as it was. -/
theorem read_write_of_run (h : Extraction.run d overrides n = .ok t n')
    (hs : t.shape = .keyed s) (he : d.codingKeys? = some e)
    (hcases : (e.cases.map (·.name)).Nodup)
    (hmarkers : ∀ f ∈ s.leaves, f.encodeTransform = none ∧ f.decodeTransform = none)
    (hc : c.KeepsCollections) (ha : a.Faithful)
    (hvalues : ∀ f ∈ s.leaves, (values f.localName).IsJson) (style style' : VariableStyle)
    (path path' : CodingPath) :
    ∃ p p' data, t.plan .encode style = .ok p ∧ t.plan .decode style' = .ok p' ∧
      p.write a (encodeValue c) values path = .ok data ∧
      p'.read a (decodeValue c) data path' =
        .ok (s.leaves.map fun f => (f.localName, values f.localName)) := by
  have hreg := Extraction.regular_of_run h hs
  obtain ⟨e', he', hlocal⟩ := Extraction.localNames_of_run h hs
  have hnames : (s.fields.map (·.info.localName)).Nodup := by
    rw [hlocal, Option.some.inj (he'.symm.trans he)]
    exact hcases
  obtain ⟨steps, hp, hf⟩ := plan_of_regular hs hreg .encode style
  obtain ⟨steps', hp', hf'⟩ := plan_of_regular hs hreg .decode style'
  have hjson : ∀ st ∈ steps, (values st.field.localName).IsJson := by
    intro st hst
    exact hvalues _ (fields_of_isFor hf ▸ List.mem_map_of_mem hst)
  have hjson' : ∀ st ∈ steps', (values st.field.localName).IsJson := by
    intro st hst
    exact hvalues _ (fields_of_isFor hf' ▸ List.mem_map_of_mem hst)
  have henc : WritesAll a (encodeValue c) values steps := fun st hst path =>
    encodeValue_isJson hc (ha.outgoing_isJson st (hjson st hst)) path
  obtain ⟨data, hwrite, hdata⟩ := write_of_separated
    (p := ⟨t.typeName, .encode, t.isPublic, .keyed (s.containers style) steps⟩)
    (separated_of_regular hreg hnames hf) rfl rfl henc path
  have hmatches : ∀ st' ∈ steps', ∃ st ∈ steps, st.Matches st' := by
    intro st' hst'
    obtain ⟨p, hmem, hfor'⟩ := exists_of_mem_right hf' st' hst'
    obtain ⟨st, hst, hfor⟩ := exists_of_mem_right hf.flip p hmem
    exact ⟨st, hst, matches_of_isFor hreg hnames hmem
      (hmarkers p.1 (List.mem_map_of_mem hmem)) hfor hfor'⟩
  have hread := read_of_separated
    (p := ⟨t.typeName, .decode, t.isPublic, .keyed (s.containers style') steps'⟩)
    (separated_of_regular hreg hnames hf') rfl rfl ha (fun v path => decodeValue_untyped c v path)
    (hdata.of_matches (keys_containers s style style') hmatches) hjson' path'
  refine ⟨_, _, data, hp, hp', hwrite, hread.trans ?_⟩
  rw [← fields_of_isFor hf', List.map_map]
  rfl

/-! ## An order with an address -/

/-- An order with a note that may be missing, a price with an adapter, and an address. -/
def order : Declaration where
  typeName := "Order"
  kind := "extension"
  typeKind := "struct"
  enums := [{
    name := "CodingKeys"
    inherits := ["String", "CodingKey"]
    cases := [⟨"identifier", some "id", []⟩, ⟨"note", none, [⟨"Conditional", none⟩]⟩,
      ⟨"price", none, [⟨"ValueTransform", some "Money.self"⟩]⟩, ⟨"address", none, []⟩]
    enums := [⟨"AddressCodingKeys", ["String", "CodingKey"],
      [⟨"city", none, []⟩, ⟨"street", none, [⟨"Conditional", none⟩]⟩], []⟩] }]
  options := []

/-- The schema of `order`. -/
def orderSchema : Schema where
  name := "CodingKeys"
  fields := [
    .leaf ⟨"id", "identifier", false, none, none, none⟩,
    .leaf ⟨"note", "note", true, none, none, none⟩,
    .leaf ⟨"price", "price", false, some "Money", none, none⟩,
    .group ⟨"address", "address", false, none, none, none⟩ "AddressCodingKeys"
      [.leaf ⟨"city", "city", false, none, none, none⟩,
        .leaf ⟨"street", "street", true, none, none, none⟩]]

/-- The type of `order`. -/
def orderType : CodableType :=
  ⟨"Order", .keyed orderSchema, .internal, [.encode, .decode], []⟩

/-- Adapters that put a value into a list. -/
def listing : Adapters where
  written _ v := .list [v]
  restored _ v :=
    match v with
    | .list [w] => w
    | v => v

theorem listing_faithful : listing.Faithful where
  isJson _ _ hv := .list fun _ hw => List.mem_singleton.1 hw ▸ hv
  notNull _ _ _ := rfl
  restored _ _ _ := rfl

/-- Values without a note and without a price. -/
def orderValues (name : String) : Value :=
  if name = "note" ∨ name = "price" then .null else .str name

theorem read_write_of_run_order :
    Extraction.run order [] {} = .ok orderType {} ∧
      ∃ p p' data, orderType.plan .encode .snake = .ok p ∧ orderType.plan .decode .camel = .ok p' ∧
        p.write listing (encodeValue ⟨[], []⟩) orderValues [] = .ok data ∧
        p'.read listing (decodeValue ⟨[], []⟩) data [] =
          .ok [("identifier", .str "identifier"), ("note", .null), ("price", .null),
            ("city", .str "city"), ("street", .str "street")] := by
  have hrun : Extraction.run order [] {} = .ok orderType {} := by rfl
  have hmarkers : ∀ f ∈ orderSchema.leaves,
      f.encodeTransform = none ∧ f.decodeTransform = none := by
    decide
  have hvalues : ∀ f ∈ orderSchema.leaves, (orderValues f.localName).IsJson := by
    intro f _
    unfold orderValues
    split
    · exact .null
    · exact .str _
  exact ⟨hrun, read_write_of_run hrun rfl rfl (by decide) hmarkers
    (Context.keepsCollections_of_nil rfl) listing_faithful hvalues .snake .camel [] []⟩

end CodecForge
