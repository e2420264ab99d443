/-
  CodecForge — cases and attributes given by their name alone.

  A case, and an attribute of a case, may be given as a string, or as an object with that name.

  * `Part.same_of_not_oneForm`: but for the names that only one form takes, an empty name of a
    case and a blank name of an attribute, the two read alike;
  * `sameMeaning_iff`: hence the two forms mean the same everywhere in the data, but for these
    names.
-/
import CodecForge.Proofs.Extraction.Places
import CodecForge.Proofs.Naming.SnakeCase

namespace CodecForge

open Extraction
open SchemaError (unquoted)

/-! ## The two forms -/

/-- A name written as an object. -/
def longhand (s : String) : Json := .obj [("name", .str s)]

theorem trim_trim (s : String) : Text.trim (Text.trim s) = Text.trim s := by
  have hstrip : Text.strip Text.isBlank (Text.strip Text.isBlank s.toList) =
      Text.strip Text.isBlank s.toList :=
    Naming.strip_eq_self (fun _ => Naming.not_of_head?_strip) fun _ => Naming.not_of_getLast?_strip
  rw [Text.trim, Text.trim, String.toList_ofList, hstrip]

theorem requiredString_name {s : String} (h : s ≠ "") (place : String) :
    Declaration.requiredString [("name", .str s)] "name" place = .ok s := by
  have hs : s.isEmpty = false := by rwa [Bool.eq_false_iff, ne_eq, String.isEmpty_iff]
  simp only [Declaration.requiredString, Entries.get?, if_true, hs]
  rfl

namespace Part

/-- Names that only one of the two forms takes: an empty name of a case, and a name of an
    attribute that consists of blanks. -/
def OneForm : Part → String → Prop
  | .case, s => s = ""
  | .marker, s => s ≠ "" ∧ Text.trim s = ""

/-- The form that takes such a name. -/
def taking : Part → String → Json
  | .case, s => .str s
  | .marker, s => longhand s

/-- The form that does not take such a name. -/
def notTaking : Part → String → Json
  | .case, s => longhand s
  | .marker, s => .str s

/-- **Any other name is read alike in the two forms.** -/
theorem same_of_not_oneForm {s : String} : ∀ {p : Part}, ¬ p.OneForm s → ∀ place,
    ReadsAlike p.Same (p.read place (.str s)) (p.read place (longhand s))
  | .case, h, place => by
    have hobject : Declaration.caseOf place (longhand s) = .ok ⟨s, none, []⟩ := by
      rw [longhand, Declaration.caseOf, requiredString_name h]
      rfl
    rw [read, hobject]
    exact .read (Case.ReadAlike.refl _)
  | .marker, h, place => by
    by_cases hs : s = ""
    · subst hs
      exact .refused
    · have htrim : (Text.trim s).isEmpty = false := by
        rw [Bool.eq_false_iff, ne_eq, String.isEmpty_iff]
        exact fun htrim => h ⟨hs, htrim⟩
      have hstring : Declaration.attributeOf place (.str s) = .ok ⟨Text.trim s, none⟩ := by
        simp only [Declaration.attributeOf, htrim]
        rfl
      have hobject : Declaration.attributeOf place (longhand s) = .ok ⟨s, none⟩ := by
        rw [longhand, Declaration.attributeOf, requiredString_name hs]
        rfl
      rw [read, hstring, hobject]
      refine .read ⟨?_, rfl⟩
      rw [Attribute.marker, Attribute.marker, Naming.normalizeMarker, Naming.normalizeMarker,
        trim_trim]

theorem refused_notTaking {s : String} : ∀ {p : Part}, p.OneForm s → ∀ place,
    Refused (p.read place (p.notTaking s))
  | .case, rfl, place => ⟨_, rfl⟩
  | .marker, ⟨_, htrim⟩, place => by
    refine ⟨.emptyAttribute place, ?_⟩
    rw [notTaking, read, Declaration.attributeOf, htrim]
    rfl

end Part

/-! ## The same declarations -/

/-- Data that are both refused, or hold declarations that are extracted alike under all
    overrides: as one type, or with errors that differ at most in the marker they quote. -/
def SameMeaning (data data' : Json) : Prop :=
  ReadsAlike (List.Forall₂ fun d d' => ∀ overrides,
    (extracted d' overrides).mapError unquoted = (extracted d overrides).mapError unquoted)
    (declarationsOf data) (declarationsOf data')

theorem sameMeaning_of_readsAlike {data data' : Json}
    (h : ReadsAlike (List.Forall₂ (Declaration.ReadAlike unquoted)) (declarationsOf data)
      (declarationsOf data')) : SameMeaning data data' :=
  h.imp fun _ _ hds => hds.imp fun _ _ hd _ =>
    mapError_extracted_congr hd.toSameHead fun options _ => hd.alike options.strategy

/-- **When a name alone and an object with that name mean the same.**  They do so wherever the
    part stands and whatever stands around it, but for a name that only one of the two forms
    takes: then the data must be refused for another reason. -/
theorem sameMeaning_iff {p : Part} (pl : DataPlace p) (s : String) :
    SameMeaning (pl.fill (.str s)) (pl.fill (longhand s)) ↔
      ¬ p.OneForm s ∨ Refused (declarationsOf (pl.fill (p.taking s))) := by
  by_cases hs : p.OneForm s
  · have hrefused := pl.carries.refused (Part.refused_notTaking hs) ""
    refine Iff.trans ?_ (or_iff_right (not_not_intro hs)).symm
    cases p with
    | case => exact ⟨fun h => h.refused_iff.2 hrefused, fun h => .of_refused h hrefused⟩
    | marker => exact ⟨fun h => h.refused_iff.1 hrefused, fun h => .of_refused hrefused h⟩
  · refine ⟨fun _ => .inl hs, fun _ => ?_⟩
    exact sameMeaning_of_readsAlike (pl.carries.alike (Part.same_of_not_oneForm hs) "")

/-- The coding keys of a note, with its only case open. -/
def noteKeys : OpenList "cases" :=
  ⟨[("name", .str "CodingKeys"), ("inherits", .arr [.str "CodingKey"])], [], [], [], by decide⟩

/-- A note, with the only case of its coding keys open. -/
def note : DataPlace .case :=
  .alone ⟨⟨[("type_name", .str "Note")], [], [], [], by decide⟩, .case noteKeys⟩ rfl

/-- An empty name of a case is taken alone, and not in an object. -/
theorem emptyCase_note : (∃ ds, declarationsOf (note.fill (.str "")) = .ok ds) ∧
    declarationsOf (note.fill (longhand "")) =
      .error (.emptyString "enum 'CodingKeys' case" "name") :=
  ⟨⟨_, rfl⟩, rfl⟩

/-- A blank name of an attribute is taken in an object, and not alone. -/
example : Declaration.attributeOf "case" (longhand " ") = .ok ⟨" ", none⟩ ∧
    Declaration.attributeOf "case" (.str " ") = .error (.emptyAttribute "case") :=
  ⟨rfl, rfl⟩

end CodecForge
