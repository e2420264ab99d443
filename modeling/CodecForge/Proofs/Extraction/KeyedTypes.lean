/-
  CodecForge — which declarations of keyed types are accepted.

  * `Enumeration.IsGroup` says which enumerations may be groups, `Enumeration.IsTop` which may
    list the coding keys of a keyed type, with `Enumeration.claimed?` for the groups of the
    cases;
  * `groupFault?_eq_none`, `topFault_eq_none`: these are the enumerations without a fault;
  * `run_keyed_iff`: the declarations whose first enumeration of coding keys is such a one are
    accepted, all others are refused with their first fault.
-/
import CodecForge.Proofs.Extraction.Outcome
import CodecForge.Proofs.Schema.Regular

namespace CodecForge

open Extraction

/-! ## Enumerations without faults -/

/-- The markers that name adapter types. -/
def adapterMarkers : List String := [valueTransform, encodedValue, decodedValue]

/-- A case whose first marker of each kind for adapters names one. -/
def Case.NamesAdapters (c : Case) : Prop :=
  ∀ marker ∈ adapterMarkers, ∀ a, c.attribute? marker = some a → a.adapter ≠ ""

namespace Enumeration

/-- An enumeration that may be a group: there are no groups inside it. -/
structure IsGroup (g : Enumeration) : Prop where
  names : ∀ c ∈ g.cases, Text.isAsciiIdentifier c.name
  unmarked : ∀ c ∈ g.cases, c.attribute? group = none
  adapters : ∀ c ∈ g.cases, c.NamesAdapters
  keys : (g.cases.map (·.key)).Nodup

/-- The names of the leaves that a case at the top stands for. -/
def leafNames (e : Enumeration) (c : Case) : List String :=
  match e.claimed? c with
  | some g => g.cases.map (·.name)
  | none => [c.name]

/-- An enumeration that may list the coding keys of a keyed type. -/
structure IsTop (e : Enumeration) : Prop where
  names : ∀ c ∈ e.cases, Text.isAsciiIdentifier c.name
  marked : ∀ c ∈ e.cases, ∀ a, c.attribute? group = some a → ∃ name, a.argument = some name ∧
    name ≠ "" ∧ ∃ g ∈ e.enums, g.isCodingKeys ∧ g.name = name
  unmarked : ∀ c ∈ e.cases, ∀ g, e.claimed? c = some g →
    ∀ marker ∈ leafMarkers, c.hasAttribute marker = false
  groups : ∀ c ∈ e.cases, ∀ g, e.claimed? c = some g → g.IsGroup
  adapters : ∀ c ∈ e.cases, e.claimed? c = none → c.NamesAdapters
  keys : (e.cases.map (·.key)).Nodup
  leafNames : (e.cases.flatMap e.leafNames).Nodup

end Enumeration

/-- A declaration whose first enumeration of coding keys lists those of a keyed type. -/
def Declaration.IsKeyed (d : Declaration) : Prop := ∃ e, d.codingKeys? = some e ∧ e.IsTop

/-! ## Faults that are missing -/

section
variable {place typeName : String} {e g : Enumeration} {c : Case} {s : Schema}

theorem nameFault?_eq_none : nameFault? place c = none ↔ Text.isAsciiIdentifier c.name := by
  unfold nameFault?
  cases Text.isAsciiIdentifier c.name <;> simp

theorem adapterFault?_eq_none {marker : String} : adapterFault? place c marker = none ↔
    ∀ a, c.attribute? marker = some a → a.adapter ≠ "" := by
  unfold adapterFault?
  cases c.attribute? marker with
  | none => simp
  | some a => by_cases ha : a.adapter = "" <;> simp [ha]

theorem leafFault?_eq_none : leafFault? place c = none ↔ c.NamesAdapters := by
  simp [leafFault?, Case.NamesAdapters, adapterMarkers, adapterFault?_eq_none]

theorem memberFault?_eq_none : memberFault? place c = none ↔
    Text.isAsciiIdentifier c.name ∧ c.attribute? group = none ∧ c.NamesAdapters := by
  unfold memberFault? Case.hasAttribute
  rw [Option.or_eq_none_iff, nameFault?_eq_none]
  cases c.attribute? group with
  | none => simp [leafFault?_eq_none]
  | some a => simp

theorem firstRepeated?_eq_none_iff {xs : List String} : ∀ {seen : List String},
    firstRepeated? seen xs = none ↔ xs.Nodup ∧ ∀ x ∈ xs, x ∉ seen := by
  induction xs with
  | nil => simp [firstRepeated?]
  | cons x xs ih =>
    intro seen
    rw [firstRepeated?, List.contains_eq_mem]
    by_cases hx : x ∈ seen
    · simp [hx]
    · simp only [hx, decide_false, Bool.false_eq_true, if_false, ih, List.nodup_cons,
        List.mem_cons, not_or]
      grind

theorem keysFault?_eq_none {keys : List String} : keysFault? place keys = none ↔ keys.Nodup := by
  simp [keysFault?, firstRepeated?_eq_none_iff]

theorem leavesFault?_eq_none :
    leavesFault? typeName s = none ↔ (s.leaves.map (·.localName)).Nodup := by
  simp [leavesFault?, firstRepeated?_eq_none_iff]

theorem groupFault?_eq_none : groupFault? place g = none ↔ g.IsGroup := by
  rw [groupFault?, Option.or_eq_none_iff, List.findSome?_eq_none_iff, keysFault?_eq_none]
  simp only [memberFault?_eq_none]
  constructor
  · rintro ⟨hcases, hkeys⟩
    exact ⟨fun c hc => (hcases c hc).1, fun c hc => (hcases c hc).2.1,
      fun c hc => (hcases c hc).2.2, hkeys⟩
  · intro h
    exact ⟨fun c hc => ⟨h.names c hc, h.unmarked c hc, h.adapters c hc⟩, h.keys⟩

theorem claimFault?_eq_none : claimFault? place e c = none ↔
    ∀ a, c.attribute? group = some a → ∃ name, a.argument = some name ∧ name ≠ "" ∧
      ∃ g ∈ e.enums, g.isCodingKeys ∧ g.name = name := by
  unfold claimFault?
  cases c.attribute? group with
  | none => simp
  | some a =>
    obtain ⟨marker, argument⟩ := a
    cases argument with
    | none => simp
    | some name =>
      have hfound : (e.findGroup name).isSome ↔ ∃ g ∈ e.enums, g.isCodingKeys ∧ g.name = name := by
        simp [Enumeration.findGroup]
      simp only [Option.some.injEq, forall_eq', exists_eq_left', ← hfound, Option.getD_some]
      cases e.findGroup name <;> by_cases hname : name = "" <;> simp [hname]

theorem markedFault?_eq_none : markedFault? place c = none ↔
    ∀ marker ∈ leafMarkers, c.hasAttribute marker = false := by
  simp [markedFault?]

theorem caseFault?_eq_none : caseFault? place e c = none ↔
    Text.isAsciiIdentifier c.name ∧
      (∀ a, c.attribute? group = some a → ∃ name, a.argument = some name ∧ name ≠ "" ∧
        ∃ g ∈ e.enums, g.isCodingKeys ∧ g.name = name) ∧
      (∀ g, e.claimed? c = some g →
        (∀ marker ∈ leafMarkers, c.hasAttribute marker = false) ∧ g.IsGroup) ∧
      (e.claimed? c = none → c.NamesAdapters) := by
  rw [caseFault?, Option.or_eq_none_iff, Option.or_eq_none_iff, nameFault?_eq_none,
    claimFault?_eq_none]
  cases e.claimed? c with
  | none => simp [leafFault?_eq_none]
  | some g => simp [Option.or_eq_none_iff, markedFault?_eq_none, groupFault?_eq_none]

theorem leaf_of_mem_members {f : Field} (h : f ∈ g.members) : ∃ j, f = .leaf j := by
  obtain ⟨c, -, rfl⟩ := List.mem_map.1 h
  exact ⟨c.leaf, rfl⟩

theorem names_flattenedIn :
    ((e.field c).flattenedIn none).map (·.1.localName) = e.leafNames c := by
  unfold Enumeration.field Enumeration.leafNames
  cases e.claimed? c with
  | none => rfl
  | some g =>
    rw [Field.flattenedIn, flattenedFields_leaves _ fun _ => leaf_of_mem_members,
      Enumeration.members, List.map_map, List.map_map]
    rfl

theorem leafNames_schema :
    e.schema.leaves.map (·.localName) = e.cases.flatMap e.leafNames := by
  rw [Schema.leaves, Schema.flattened, Enumeration.schema, List.map_map]
  dsimp only
  induction e.cases with
  | nil => rfl
  | cons c cs ih =>
    rw [List.map_cons, flattenedFields, List.map_append, ih, List.flatMap_cons, ← names_flattenedIn]
    rfl

/-- **The enumerations without a fault are those that may list the coding keys.** -/
theorem topFault_eq_none : (levelFault? typeName e).or (leavesFault? typeName e.schema) = none ↔
    e.IsTop := by
  rw [levelFault?, Option.or_eq_none_iff, Option.or_eq_none_iff, List.findSome?_eq_none_iff,
    keysFault?_eq_none, leavesFault?_eq_none, leafNames_schema]
  simp only [caseFault?_eq_none]
  constructor
  · rintro ⟨⟨hcases, hkeys⟩, hleaves⟩
    exact {
      names := fun c hc => (hcases c hc).1
      marked := fun c hc => (hcases c hc).2.1
      unmarked := fun c hc g hg => ((hcases c hc).2.2.1 g hg).1
      groups := fun c hc g hg => ((hcases c hc).2.2.1 g hg).2
      adapters := fun c hc => (hcases c hc).2.2.2
      keys := hkeys
      leafNames := hleaves }
  · intro h
    exact ⟨⟨fun c hc => ⟨h.names c hc, h.marked c hc,
      fun g hg => ⟨h.unmarked c hc g hg, h.groups c hc g hg⟩, h.adapters c hc⟩, h.keys⟩,
      h.leafNames⟩

theorem shapeFault?_keyed_eq_none {d : Declaration} :
    d.shapeFault? .keyed = none ↔ d.IsKeyed := by
  unfold Declaration.shapeFault? Declaration.IsKeyed
  cases d.codingKeys? with
  | none => simp
  | some e =>
    simp only [Option.some.injEq, exists_eq_left']
    exact topFault_eq_none

end

/-! ## Declarations -/

variable {d : Declaration} {overrides : List (String × Json)} {options : CodingOptions}

/-- **Exactly which declarations of keyed types are accepted.**  An extension whose options
    resolve to a keyed container is accepted if and only if its coding keys may be those of a
    keyed type; in every other case it is refused, with the first fault of the declaration. -/
theorem run_keyed_iff (hd : d.isExtension)
    (ho : CodingOptions.resolve d.options overrides = .ok options)
    (hkeyed : options.strategy = .keyed) (n : Notices) :
    ((∃ t n', run d overrides n = .ok t n') ↔ d.IsKeyed) ∧
      (¬ d.IsKeyed → ∃ fault n', d.shapeFault? .keyed = some fault ∧
        run d overrides n = .error fault n') := by
  have hrefused : ¬ d.IsKeyed → ∃ fault n', d.shapeFault? .keyed = some fault ∧
      run d overrides n = .error fault n' := by
    intro h
    rw [← shapeFault?_keyed_eq_none, ← ne_eq, Option.ne_none_iff_exists'] at h
    obtain ⟨fault, hf⟩ := h
    obtain ⟨n', hn⟩ := run_eq_error hd ho (hkeyed ▸ hf) n
    exact ⟨fault, n', hf, hn⟩
  refine ⟨⟨fun ⟨t, n', hn⟩ => ?_, fun h => ?_⟩, hrefused⟩
  · by_contra h
    obtain ⟨fault, n'', -, hn'⟩ := hrefused h
    cases hn.symm.trans hn'
  · obtain ⟨shape, ignored, n', -, hn⟩ :=
      run_eq_ok hd ho (hkeyed ▸ shapeFault?_keyed_eq_none.2 h) n
    exact ⟨_, n', hn⟩

/-! ## A ledger with sums -/

/-- A ledger with a group that a marker names, a group of the conventional name, and an
    adapter for one of the sums. -/
def ledger (adapter : String) : Declaration where
  typeName := "Ledger"
  kind := "extension"
  typeKind := "struct"
  enums := [⟨"Currency", ["String"], [⟨"euro", none, []⟩], []⟩, {
    name := "CodingKeys"
    inherits := ["String", "CodingKey"]
    cases := [⟨"owner", none, []⟩, ⟨"totals", some "sums", [⟨"@Group", some "Sums"⟩]⟩,
      ⟨"notes", none, []⟩]
    enums := [
      ⟨"Sums", ["String", "CodingKey"], [⟨"net", none, [⟨"ValueTransform", some adapter⟩]⟩], []⟩,
      ⟨"NotesCodingKeys", ["CodingKey"], [⟨"memo", some "net", [⟨"Conditional", none⟩]⟩], []⟩] }]
  options := []

/-- With an adapter the ledger is accepted, with nothing but `.self` it is refused. -/
theorem run_keyed_iff_ledger :
    (∀ adapter, (ledger adapter).isExtension ∧
      CodingOptions.resolve (ledger adapter).options [] =
        .ok ⟨.internal, .keyed, [.encode, .decode]⟩) ∧
      (ledger "Amount.self").IsKeyed ∧ ¬ (ledger " .self ").IsKeyed ∧
      ∃ n', run (ledger " .self ") [] {} =
        .error (.markerWithoutType "Ledger.CodingKeys.Sums" "net" "ValueTransform") n' := by
  have hoptions : ∀ adapter, CodingOptions.resolve (ledger adapter).options [] =
      .ok ⟨.internal, .keyed, [.encode, .decode]⟩ := fun _ => rfl
  have haccepted := run_keyed_iff rfl (hoptions "Amount.self") rfl {}
  have hrefused := run_keyed_iff rfl (hoptions " .self ") rfl {}
  have hnot : ¬ (ledger " .self ").IsKeyed := by
    intro h
    obtain ⟨t, n', hn⟩ := hrefused.1.2 h
    cases hn
  refine ⟨fun adapter => ⟨rfl, hoptions adapter⟩, haccepted.1.1 ⟨_, _, rfl⟩, hnot, ?_⟩
  obtain ⟨fault, n', hf, hn⟩ := hrefused.2 hnot
  cases hf
  exact ⟨n', hn⟩

end CodecForge
