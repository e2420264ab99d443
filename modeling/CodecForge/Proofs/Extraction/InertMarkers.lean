/-
  CodecForge — markers that say nothing.

  Of the attributes of a case only the first of each known marker is read.

  * `AttributeEdit` is an edit that leaves those alone: dropping an attribute whose marker is
    unknown or has stood before, or a change of the order in which attributes of one marker keep
    theirs; `Declaration.Edited` says that all cases of a declaration, at any depth, were edited so;
  * `Declaration.essential` is what is left when nothing more can be dropped;
  * `AttributeEdit.find?_eq`: an edit, and hence any number of them, leaves what is read, so an
    edited declaration is read as before (`Declaration.Edited.readAlike`);
  * `extracted_of_edited`: a declaration is extracted as before it was edited; as a tag it may
    lose all attributes, and what is nested in its coding keys may be emptied.
-/
import CodecForge.Proofs.Extraction.Congruence

namespace CodecForge

open Extraction

/-! ## Edits -/

/-- An edit of the attributes of a case that leaves the first of each known marker. -/
inductive AttributeEdit : List Attribute → List Attribute → Prop
  /-- an attribute whose marker means nothing is dropped -/
  | unknown (before after : List Attribute) {a : Attribute} (h : a.marker ∉ knownMarkers) :
      AttributeEdit (before ++ a :: after) (before ++ after)
  /-- an attribute whose marker has stood before is dropped -/
  | repeated (before between after : List Attribute) {a b : Attribute} (h : b.marker = a.marker) :
      AttributeEdit (before ++ a :: (between ++ b :: after)) (before ++ a :: (between ++ after))
  /-- attributes of different markers change places -/
  | reordered {as bs : List Attribute} (hperm : as.Perm bs)
      (horder : ∀ m, as.filter (·.marker == m) = bs.filter (·.marker == m)) : AttributeEdit as bs

/-- Edits of attributes, one after another. -/
abbrev AttributeEdits : List Attribute → List Attribute → Prop :=
  Relation.ReflTransGen AttributeEdit

/-- A case whose attributes were edited. -/
structure Case.Edited (c c' : Case) : Prop where
  name : c'.name = c.name
  rawValue : c'.rawValue = c.rawValue
  attributes : AttributeEdits c.attributes c'.attributes

/-- An enumeration whose cases, and those of the enumerations nested in it, were edited. -/
inductive Enumeration.Edited : Enumeration → Enumeration → Prop
  | mk {name : String} {inherits : List String} {cases cases' : List Case}
      {enums enums' : List Enumeration} (hcases : List.Forall₂ Case.Edited cases cases')
      (henums : List.Forall₂ Edited enums enums') :
      Edited ⟨name, inherits, cases, enums⟩ ⟨name, inherits, cases', enums'⟩

/-- A declaration whose cases were edited. -/
structure Declaration.Edited (d d' : Declaration) : Prop extends Declaration.SameHead d d' where
  enums : List.Forall₂ Enumeration.Edited d.enums d'.enums

/-! ### Dropping all that can be dropped -/

/-- The first attribute of each known marker. -/
def essential : List Attribute → List Attribute
  | [] => []
  | a :: as =>
    if knownMarkers.contains a.marker then a :: (essential as).filter (·.marker ≠ a.marker)
    else essential as

mutual

/-- `f` applied to all cases of an enumeration and of those nested in it. -/
def Enumeration.mapCases (f : Case → Case) : Enumeration → Enumeration
  | ⟨name, inherits, cases, enums⟩ => ⟨name, inherits, cases.map f, mapCasesEach f enums⟩

def mapCasesEach (f : Case → Case) : List Enumeration → List Enumeration
  | [] => []
  | e :: es => e.mapCases f :: mapCasesEach f es

end

/-- The case with the first attribute of each known marker. -/
def Case.essential (c : Case) : Case := { c with attributes := CodecForge.essential c.attributes }

/-- The declaration with the first attribute of each known marker in all of its cases. -/
def Declaration.essential (d : Declaration) : Declaration :=
  { d with enums := mapCasesEach Case.essential d.enums }

/-! ## What an edit leaves -/

variable {as bs : List Attribute}

/-- **An edit leaves the first attribute of each known marker.** -/
theorem AttributeEdit.find?_eq (h : AttributeEdit as bs) {m : String} (hm : m ∈ knownMarkers) :
    bs.find? (·.marker == m) = as.find? (·.marker == m) := by
  cases h with
  | @unknown before after a h =>
    have hne : (a.marker == m) = false := beq_eq_false_iff_ne.2 (ne_of_mem_of_not_mem hm h).symm
    rw [List.find?_append, List.find?_append, List.find?_cons, hne]
  | @repeated before between after a b h =>
    rw [List.find?_append, List.find?_append, List.find?_cons, List.find?_cons]
    cases ha : a.marker == m with
    | true => rfl
    | false =>
      rw [List.find?_append, List.find?_append, List.find?_cons, h, ha]
  | reordered _ horder => rw [← List.head?_filter, ← List.head?_filter, horder m]

theorem AttributeEdits.find?_eq (h : AttributeEdits as bs) {m : String} (hm : m ∈ knownMarkers) :
    bs.find? (·.marker == m) = as.find? (·.marker == m) := by
  induction h with
  | refl => rfl
  | tail _ hstep ih => rw [hstep.find?_eq hm, ih]

theorem AttributeEdit.cons (a : Attribute) (h : AttributeEdit as bs) :
    AttributeEdit (a :: as) (a :: bs) := by
  cases h with
  | @unknown before after b h => exact .unknown (a :: before) after h
  | @repeated before between after b b' h => exact .repeated (a :: before) between after h
  | reordered hperm horder =>
    refine .reordered (hperm.cons a) fun m => ?_
    rw [List.filter_cons, List.filter_cons, horder m]

/-- Neighbours of different markers can change places. -/
theorem attributeEdit_swap {a b : Attribute} (h : a.marker ≠ b.marker) (as : List Attribute) :
    AttributeEdit (a :: b :: as) (b :: a :: as) := by
  refine .reordered (.swap b a as) fun m => ?_
  by_cases ha : a.marker = m
  · have hb : b.marker ≠ m := fun hb => h (ha.trans hb.symm)
    rw [List.filter_cons_of_pos (by simpa using ha), List.filter_cons_of_neg (by simpa using hb),
      List.filter_cons_of_neg (by simpa using hb), List.filter_cons_of_pos (by simpa using ha)]
  · rw [List.filter_cons_of_neg (by simpa using ha), List.filter_cons, List.filter_cons,
      List.filter_cons_of_neg (by simpa using ha)]

/-- After an attribute all others of its marker can be dropped. -/
theorem attributeEdits_filter (a : Attribute) (between as : List Attribute) :
    AttributeEdits (a :: (between ++ as))
      (a :: (between ++ as.filter (·.marker ≠ a.marker))) := by
  -- `between` are the attributes of other markers that have been passed
  induction as generalizing between with
  | nil => exact .refl
  | cons b as ih =>
    by_cases hb : b.marker = a.marker
    · rw [List.filter_cons_of_neg (by simpa using hb)]
      exact .head (.repeated [] between as hb) (ih between)
    · rw [List.filter_cons_of_pos (by simpa using hb)]
      have hrest := ih (between ++ [b])
      rwa [List.append_assoc, List.append_assoc] at hrest

/-- **All but the first attribute of each known marker can be dropped.** -/
theorem attributeEdits_essential (as : List Attribute) : AttributeEdits as (essential as) := by
  induction as with
  | nil => exact .refl
  | cons a as ih =>
    rw [essential]
    split
    · exact (ih.lift (a :: ·) fun _ _ => AttributeEdit.cons a).trans
        (attributeEdits_filter a [] (essential as))
    · next h => exact .head (.unknown [] as (by simpa using h)) ih

/-! ## Trees -/

theorem forall₂_mapCasesEach {R : Enumeration → Enumeration → Prop} {f : Case → Case}
    {enums : List Enumeration} (h : ∀ e ∈ enums, R e (e.mapCases f)) :
    List.Forall₂ R enums (mapCasesEach f enums) := by
  induction enums with
  | nil => exact .nil
  | cons e es ih =>
    rw [List.forall_mem_cons] at h
    exact .cons h.1 (ih h.2)

theorem Case.edited_essential (c : Case) : c.Edited c.essential :=
  ⟨rfl, rfl, attributeEdits_essential c.attributes⟩

theorem Enumeration.edited_mapCases {f : Case → Case} (hf : ∀ c : Case, c.Edited (f c)) :
    ∀ e : Enumeration, e.Edited (e.mapCases f)
  | ⟨name, inherits, cases, enums⟩ => by
    refine .mk ?_ (forall₂_mapCasesEach fun e _ => edited_mapCases hf e)
    rw [List.forall₂_map_right_iff, List.forall₂_same]
    exact fun c _ => hf c

theorem Declaration.edited_essential (d : Declaration) : d.Edited d.essential :=
  ⟨⟨rfl, rfl, rfl⟩, forall₂_mapCasesEach fun e _ => e.edited_mapCases Case.edited_essential⟩

/-! ## What an edited declaration is read as -/

theorem Case.Edited.readAlike {c c' : Case} (h : c.Edited c') : c.ReadAlike id c' := by
  refine ⟨h.name, h.rawValue, fun m hm => ?_⟩
  rw [show c'.attribute? m = c.attribute? m from h.attributes.find?_eq hm]
  exact Attribute.rel_refl _

theorem Enumeration.Edited.readAlike : ∀ {e e' : Enumeration}, e.Edited e' → e.ReadAlike id e'
  | ⟨_, _, _, enums⟩, _, .mk hcases henums =>
    .mk (hcases.imp fun _ _ hc => hc.readAlike)
      (forall₂_imp_mem henums fun e (_ : e ∈ enums) _ _ he => he.readAlike)

theorem Declaration.Edited.readAlike {d d' : Declaration} (h : d.Edited d') : d.ReadAlike id d' :=
  ⟨h.toSameHead, h.enums.imp fun _ _ he => he.readAlike⟩

/-! ## Tags -/

/-- An enumeration without the attributes of its cases, and with nothing in the enumerations
    nested in it. -/
def Enumeration.bare (e : Enumeration) : Enumeration :=
  ⟨e.name, e.inherits, e.cases.map ({ · with attributes := [] }),
    e.enums.map fun g => ⟨g.name, g.inherits, [], []⟩⟩

def Declaration.bare (d : Declaration) : Declaration := { d with enums := d.enums.map (·.bare) }

theorem Enumeration.sameTags_bare (e : Enumeration) : e.SameTags e.bare := by
  refine ⟨rfl, ?_, ?_⟩
  · rw [bare, List.forall₂_map_right_iff, List.forall₂_same]
    exact fun _ _ => ⟨rfl, rfl⟩
  · rw [bare, List.map_map]
    rfl

namespace Declaration

theorem sameTags_bare (d : Declaration) : d.SameTags d.bare := by
  refine ⟨⟨rfl, rfl, rfl⟩, ?_⟩
  have hbare : List.Forall₂ (fun e e' : Enumeration => e.SameTags e' ∧ e'.inherits = e.inherits)
      d.enums d.bare.enums := by
    rw [bare, List.forall₂_map_right_iff, List.forall₂_same]
    exact fun e _ => ⟨e.sameTags_bare, rfl⟩
  have hkeys := rel_codingKeys? hbare fun e e' he => by
    rw [Enumeration.isCodingKeys, he.2, Enumeration.isCodingKeys]
  exact rel_imp (fun _ _ he => he.1) hkeys

end Declaration

namespace Extraction

theorem extracted_congr {d d' : Declaration} {overrides : List (String × Json)}
    (h : d.SameHead d')
    (halike : ∀ options, CodingOptions.resolve d.options overrides = .ok options →
      Declaration.Alike id options.strategy d d') :
    extracted d' overrides = extracted d overrides := by
  have heq := mapError_extracted_congr h halike
  have hid : ∀ r : Except SchemaError CodableType, r.mapError id = r := fun r => by
    cases r <;> rfl
  rwa [hid, hid] at heq

/-- **Markers that are unknown or repeated, and the order of different markers, say nothing.**
    A declaration is extracted as before it was edited, so as with the first attribute of each
    known marker only.  If the type is written as a tag, no attribute says anything, and nothing
    in the enumerations nested in its coding keys. -/
theorem extracted_of_edited (d : Declaration) (overrides : List (String × Json)) :
    (∀ d', d.Edited d' → extracted d' overrides = extracted d overrides) ∧
      d.Edited d.essential ∧
      ∀ options, CodingOptions.resolve d.options overrides = .ok options →
        options.strategy = .singleValueForEnum →
        (∀ d', d.SameTags d' → extracted d' overrides = extracted d overrides) ∧
          d.SameTags d.bare := by
  refine ⟨fun d' h => ?_, d.edited_essential, fun options ho htag => ⟨fun d' h => ?_, ?_⟩⟩
  · exact extracted_congr h.toSameHead fun options _ => h.readAlike.alike options.strategy
  · refine extracted_congr h.toSameHead fun options' ho' => ?_
    cases ho.symm.trans ho'
    rw [htag]
    exact h.alike
  · exact d.sameTags_bare

/-- A note that is closed at times, with an enumeration that is not used. -/
def note (as : List Attribute) : Declaration where
  typeName := "Note"
  kind := "extension"
  typeKind := "struct"
  enums := [⟨"CodingKeys", ["CodingKey"], [⟨"closed", none, as⟩],
    [⟨"Reason", [], [⟨"paid", none, as⟩], []⟩]⟩]
  options := []

/-- Attributes of which the first is unknown and the last has stood before. -/
def remarks : List Attribute :=
  [⟨"@Beta", none⟩, ⟨"Conditional", none⟩, ⟨"value_transform", some "Day.self"⟩,
    ⟨"conditional", none⟩]

/-- What they say, in another order. -/
def rearranged : List Attribute := [⟨"value_transform", some "Day.self"⟩, ⟨"Conditional", none⟩]

def tagged : List (String × Json) := [("container", .str "single_value_for_enum")]

theorem edits_remarks : AttributeEdits remarks rearranged := by
  refine .head (.unknown [] _ (by decide)) ?_
  refine .head (.repeated [] [_] [] (by decide +kernel)) (.single ?_)
  exact attributeEdit_swap (by decide) []

theorem extracted_of_edited_note :
    (note remarks).Edited (note rearranged) ∧
      extracted (note rearranged) [] = extracted (note remarks) [] ∧
      extracted (note rearranged) [] = .ok ⟨"Note", .keyed ⟨"CodingKeys",
        [.leaf ⟨"closed", "closed", true, some "Day", none, none⟩]⟩, .internal,
        [.encode, .decode], ["Reason"]⟩ ∧
      extracted (note remarks).bare tagged = extracted (note remarks) tagged := by
  have hedited : (note remarks).Edited (note rearranged) := by
    refine ⟨⟨rfl, rfl, rfl⟩, .cons (.mk (.cons ⟨rfl, rfl, edits_remarks⟩ .nil) ?_) .nil⟩
    exact .cons (.mk (.cons ⟨rfl, rfl, edits_remarks⟩ .nil) .nil) .nil
  have hoptions : CodingOptions.resolve (note remarks).options tagged =
      .ok ⟨.internal, .singleValueForEnum, [.encode, .decode]⟩ := by rfl
  obtain ⟨htag, hbare⟩ := (extracted_of_edited (note remarks) tagged).2.2 _ hoptions rfl
  exact ⟨hedited, (extracted_of_edited (note remarks) []).1 _ hedited, by rfl, htag _ hbare⟩

end Extraction

end CodecForge
