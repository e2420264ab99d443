/-
  CodecForge — what the decode procedure of a keyed type accepts.

  Its schema says what the procedure of an accepted keyed type looks for:

  * `read_eq_of_run`: it stops with the error for the first demand of the schema that the
    data do not meet, and otherwise gives each leaf what stands at its place; so it
    succeeds exactly on data that the schema accepts, and nothing else in the data counts.
-/
import CodecForge.Proofs.Coding.Reading
import CodecForge.Proofs.Extraction.Accepted

namespace CodecForge

open Coding

variable {d : Declaration} {overrides : List (String × Json)} {t : CodableType} {n n' : Notices}
  {s : Schema} {e : Enumeration}

/-- What the schema gives each leaf of data, with the name of the leaf. -/
def Schema.found (s : Schema) (data : Value) : List (String × Value) :=
  s.flattened.map fun p => (p.1.localName, (data.leafAt? (leafPlace p)).getD .null)

/-- **What the decode procedure of an accepted keyed type accepts.**  If the cases of the
    coding keys differ by name and no leaf has an adapter for reading, then on any data the
    procedure stops with the error for the first demand that is not met, and otherwise it
    returns what stands at the places of the leaves, null for one that is missing.  Hence
    it succeeds if and only if the data have all that the schema asks for, and of such data
    only what stands at the places of leaves counts. -/
theorem read_eq_of_run (h : Extraction.run d overrides n = .ok t n') (hs : t.shape = .keyed s)
    (he : d.codingKeys? = some e) (hcases : (e.cases.map (·.name)).Nodup)
    (hmarkers : ∀ f ∈ s.leaves, f.transformFor .decode = none) (c : Context) (a : Adapters)
    (style : VariableStyle) :
    ∃ p, t.plan .decode style = .ok p ∧ ∀ (data : Value) (path : CodingPath),
      (p.read a (decodeValue c) data path =
        match firstFault? data path s.demands with
        | some fault => .error (.failed (.coding fault))
        | none => .ok (s.found data)) ∧
      ((∃ vs, p.read a (decodeValue c) data path = .ok vs) ↔ s.Accepts data) ∧
      ∀ data', s.Accepts data → s.Accepts data' →
        (∀ q ∈ s.flattened, data'.leafAt? (leafPlace q) = data.leafAt? (leafPlace q)) →
        p.read a (decodeValue c) data' path = p.read a (decodeValue c) data path := by
  have hreg := Extraction.regular_of_run h hs
  obtain ⟨e', he', hlocal⟩ := Extraction.localNames_of_run h hs
  have hnames : (s.fields.map (·.info.localName)).Nodup := by
    rw [hlocal, Option.some.inj (he'.symm.trans he)]
    exact hcases
  obtain ⟨steps, hp, hf⟩ := plan_of_regular hs hreg .decode style
  -- without an adapter a step makes of a value what it is
  have hfound : ∀ data : Value, (steps.map fun st => (st.field.localName, readBy a data st)) =
      s.found data := by
    intro data
    refine map_eq_of_forall₂ hf fun q hq st hst => ?_
    have htransform : st.transform = none := by
      rw [hst.transform]
      exact hmarkers q.1 (List.mem_map_of_mem hq)
    rw [hst.field, readBy, Adapters.incoming, htransform, (place_of_isFor hreg hnames hq hst).2]
  have hread : ∀ (data : Value) (path : CodingPath),
      CodecPlan.read ⟨t.typeName, .decode, t.isPublic, .keyed (s.containers style) steps⟩ a
        (decodeValue c) data path =
        match firstFault? data path s.demands with
        | some fault => .error (.failed (.coding fault))
        | none => .ok (s.found data) := by
    intro data path
    have hanswers := read_answers (a := a)
      (p := ⟨t.typeName, .decode, t.isPublic, .keyed (s.containers style) steps⟩)
      (separated_of_regular hreg hnames hf) rfl rfl (fun v path => decodeValue_untyped c v path)
      data path
    rw [planDemands_eq hreg hnames hf] at hanswers
    cases hfault : firstFault? data path s.demands with
    | some fault =>
      rw [hfault] at hanswers
      exact hanswers
    | none =>
      rw [hfault] at hanswers
      obtain ⟨vs, hvs, hvalue⟩ := hanswers
      rw [hvs, hvalue, hfound]
  refine ⟨_, hp, fun data path => ⟨hread data path, ?_, ?_⟩⟩
  · rw [hread, accepts_iff path]
    cases firstFault? data path s.demands <;> simp
  · intro data' hdata hdata' hsame
    rw [hread, hread, (accepts_iff path).1 hdata, (accepts_iff path).1 hdata', Schema.found,
      Schema.found]
    exact congrArg Except.ok (List.map_congr_left fun q hq => by rw [hsame q hq])

/-! ## A customer with an address -/

/-- A customer with a note that may be missing and an address. -/
def customer : Declaration where
  typeName := "Customer"
  kind := "extension"
  typeKind := "struct"
  enums := [{
    name := "CodingKeys"
    inherits := ["String", "CodingKey"]
    cases := [⟨"identifier", some "id", []⟩, ⟨"note", none, [⟨"Conditional", none⟩]⟩,
      ⟨"address", none, []⟩]
    enums := [⟨"AddressCodingKeys", ["String", "CodingKey"],
      [⟨"city", none, []⟩, ⟨"street", none, [⟨"Conditional", none⟩]⟩], []⟩] }]
  options := []

/-- The schema of `customer`. -/
def customerSchema : Schema where
  name := "CodingKeys"
  fields := [
    .leaf ⟨"id", "identifier", false, none, none, none⟩,
    .leaf ⟨"note", "note", true, none, none, none⟩,
    .group ⟨"address", "address", false, none, none, none⟩ "AddressCodingKeys"
      [.leaf ⟨"city", "city", false, none, none, none⟩,
        .leaf ⟨"street", "street", true, none, none, none⟩]]

/-- The type of `customer`. -/
def customerType : CodableType :=
  ⟨"Customer", .keyed customerSchema, .internal, [.encode, .decode], []⟩

/-- A customer with a null for an identifier, and a key that is not asked for. -/
def customerData (address : List (String × Value)) : Value :=
  .dict (Value.ofTexts [("since", .int 1815), ("address", .dict (Value.ofTexts address)),
    ("id", .null)])

theorem leafAt?_customerData (address : List (String × Value)) (key : String) :
    (customerData address).leafAt? (none, key) = Entries.get? key
        [("since", .int 1815), ("address", .dict (Value.ofTexts address)), ("id", .null)] ∧
      (customerData address).leafAt? (some "address", key) = Entries.get? key address := by
  have htop : ∀ key, (customerData address).leafAt? (none, key) = Entries.get? key
      [("since", .int 1815), ("address", .dict (Value.ofTexts address)), ("id", .null)] :=
    fun key => Value.lookup_ofTexts key _
  refine ⟨htop key, ?_⟩
  rw [← Value.lookup_ofTexts]
  refine Value.leafAt?_of_dictAt? ?_ key
  rw [Value.dictAt?_some, htop]
  rfl

/-- Nothing is found for a note and a street, and a city is missed. -/
theorem read_eq_of_run_customer :
    Extraction.run customer [] {} = .ok customerType {} ∧
      ∃ p, customerType.plan .decode .snake = .ok p ∧
        p.read ⟨fun _ v => v, fun _ v => v⟩ (decodeValue ⟨[], []⟩)
          (customerData [("city", .str "London")]) [] =
          .ok [("identifier", .null), ("note", .null), ("city", .str "London"),
            ("street", .null)] ∧
        p.read ⟨fun _ v => v, fun _ v => v⟩ (decodeValue ⟨[], []⟩)
          (customerData [("street", .null)]) [] =
          .error (.failed (.coding ⟨.keyNotFound "city", ["address"]⟩)) := by
  have hrun : Extraction.run customer [] {} = .ok customerType {} := by rfl
  obtain ⟨p, hp, hread⟩ := read_eq_of_run hrun rfl rfl (by decide) (by decide) ⟨[], []⟩
    ⟨fun _ v => v, fun _ v => v⟩ .snake
  have hdemands : customerSchema.demands = [.root, .group "address", .leaf (none, "id"),
      .leaf (some "address", "city")] := by rfl
  have hfound : ∀ data : Value, customerSchema.found data =
      [("identifier", (data.leafAt? (none, "id")).getD .null),
        ("note", (data.leafAt? (none, "note")).getD .null),
        ("city", (data.leafAt? (some "address", "city")).getD .null),
        ("street", (data.leafAt? (some "address", "street")).getD .null)] := fun _ => rfl
  have hroot : ∀ address, objectFault? (customerData address) [] = none := fun _ => rfl
  refine ⟨hrun, p, hp, ?_, ?_⟩
  · rw [(hread _ []).1, hdemands, hfound]
    simp only [firstFault?_cons, Demand.fault?, hroot, leafAt?_customerData]
    rfl
  · rw [(hread _ []).1, hdemands]
    simp only [firstFault?_cons, Demand.fault?, hroot, leafAt?_customerData]
    rfl

end CodecForge
