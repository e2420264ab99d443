/-
  CodecForge — parts of declarations, and the data around them.

  A case, or an attribute of a case, stands in an enumeration, which may be nested in others,
  in a declaration; and a declaration stands alone, in a list, or under an entry.

  * `OpenList` is an object with an item of one of its lists left open; `EnumPlace`,
    `DeclarationPlace` and `DataPlace` are what may stand around a part, of an enumeration, of
    a declaration and of the whole data;
  * `ReadsAlike` says that two readings are refused both, or give related results, and
    `Carries` that what is read of a part decides so of the whole;
  * `OpenList.carries_attribute`, `carries_case`, `carries_enum` and `carries_declaration` are
    the steps from a part to what stands around it, and `DataPlace.carries` the way out to the
    data.
-/
import CodecForge.Proofs.Extraction.Congruence

namespace CodecForge

open Extraction

/-! ## Readings -/

section
variable {ε α β γ δ : Type}

/-- Two readings are refused both, or give related results. -/
inductive ReadsAlike (R : α → β → Prop) : Except ε α → Except ε β → Prop
  | refused {e e' : ε} : ReadsAlike R (.error e) (.error e')
  | read {a : α} {b : β} (h : R a b) : ReadsAlike R (.ok a) (.ok b)

/-- A reading that fails. -/
def Refused (x : Except ε α) : Prop := ∃ e, x = .error e

namespace ReadsAlike

variable {R : α → β → Prop} {x : Except ε α} {y : Except ε β}

theorem of_refused (hx : Refused x) (hy : Refused y) : ReadsAlike R x y := by
  obtain ⟨e, rfl⟩ := hx
  obtain ⟨e', rfl⟩ := hy
  exact .refused

theorem imp {S : α → β → Prop} (hRS : ∀ a b, R a b → S a b) (h : ReadsAlike R x y) :
    ReadsAlike S x y := by
  cases h with
  | refused => exact .refused
  | read hab => exact .read (hRS _ _ hab)

theorem refused_iff (h : ReadsAlike R x y) : Refused x ↔ Refused y := by
  cases h with
  | refused => exact ⟨fun _ => ⟨_, rfl⟩, fun _ => ⟨_, rfl⟩⟩
  | read hab => exact ⟨nofun, nofun⟩

theorem bind {S : γ → δ → Prop} {f : α → Except ε γ} {g : β → Except ε δ}
    (h : ReadsAlike R x y) (hfg : ∀ a b, R a b → ReadsAlike S (f a) (g b)) :
    ReadsAlike S (x >>= f) (y >>= g) := by
  cases h with
  | refused => exact .refused
  | read hab => exact hfg _ _ hab

theorem refl {R : α → α → Prop} (hR : ∀ a, R a a) (x : Except ε α) : ReadsAlike R x x := by
  cases x with
  | error e => exact .refused
  | ok a => exact .read (hR a)

theorem refl_list {R : α → α → Prop} (hR : ∀ a, R a a) (x : Except ε (List α)) :
    ReadsAlike (List.Forall₂ R) x x :=
  refl (fun _ => List.forall₂_same.2 fun a _ => hR a) x

end ReadsAlike

theorem Refused.bind {x : Except ε α} (h : Refused x) (f : α → Except ε β) :
    Refused (x >>= f) := by
  obtain ⟨e, rfl⟩ := h
  exact ⟨e, rfl⟩

theorem refused_bind {f : α → Except ε β} (h : ∀ a, Refused (f a)) (x : Except ε α) :
    Refused (x >>= f) := by
  cases x with
  | error e => exact ⟨e, rfl⟩
  | ok a => exact h a

end

/-- A reading of a value, under the place that errors name. -/
abbrev Reader (α : Type) := String → Json → Except DeclarationError α

/-- What is read of a part decides what is read of the whole: wholes of which the parts read
    alike read alike, and one of which the part is refused is refused. -/
structure Carries {α β : Type} (R : α → α → Prop) (S : β → β → Prop) (part : Reader α)
    (whole : Reader β) : Prop where
  alike {x x' : Json} (h : ∀ place, ReadsAlike R (part place x) (part place x')) (place : String) :
    ReadsAlike S (whole place x) (whole place x')
  refused {x : Json} (h : ∀ place, Refused (part place x)) (place : String) :
    Refused (whole place x)

namespace Carries

variable {α β γ : Type} {R : α → α → Prop} {S : β → β → Prop} {T : γ → γ → Prop}
  {part : Reader α} {whole : Reader β}

theorem refl (R : α → α → Prop) (part : Reader α) : Carries R R part part := ⟨id, id⟩

/-- The part under places of its own. -/
theorem elsewhere (h : Carries R S part whole) (f : String → String) :
    Carries R S part fun place x => whole (f place) x :=
  ⟨fun hx place => h.alike hx (f place), fun hx place => h.refused hx (f place)⟩

/-- A part within a part: what stands between is filled in by `fill`. -/
theorem within {fill : Json → Json} {outer : Reader γ}
    (houter : Carries S T whole fun place x => outer place x)
    (h : Carries R S part fun place x => whole place (fill x)) :
    Carries R T part fun place x => outer place (fill x) :=
  ⟨fun hx => houter.alike (h.alike hx), fun hx => houter.refused (h.refused hx)⟩

/-- What is read before the whole does not depend on the part. -/
theorem before {whole : γ → Reader β} (h : ∀ c, Carries R S part (whole c))
    (first : String → Except DeclarationError γ) :
    Carries R S part fun place x => first place >>= fun c => whole c place x where
  alike hx place := (ReadsAlike.refl (R := Eq) (fun _ => rfl) (first place)).bind fun c c' hc => by
    subst hc
    exact (h c).alike hx place
  refused hx place := refused_bind (fun c => (h c).refused hx place) (first place)

/-- What is made of the whole keeps it alike. -/
theorem after (h : Carries R S part whole) {rest : String → β → Except DeclarationError γ}
    (hrest : ∀ place b b', S b b' → ReadsAlike T (rest place b) (rest place b')) :
    Carries R T part fun place x => whole place x >>= rest place where
  alike hx place := (h.alike hx place).bind (hrest place)
  refused hx place := (h.refused hx place).bind (rest place)

/-- What fails whatever the part is. -/
theorem failed (e : String → DeclarationError) : Carries R S part fun place _ => .error (e place) :=
  ⟨fun _ _ => .refused, fun _ place => ⟨e place, rfl⟩⟩

/-- An item of a list decides how the list reads. -/
theorem item (hS : ∀ b, S b b) (read : Reader β) : ∀ left right : List Json,
    Carries S (List.Forall₂ S) read fun place x => (left ++ x :: right).mapM (read place)
  | [], right => by
    simp only [List.nil_append, List.mapM_cons]
    refine (Carries.refl S read).after fun place b b' hb => ?_
    exact (ReadsAlike.refl_list hS _).bind fun bs bs' hbs => .read (.cons hb hbs)
  | y :: left, right => by
    simp only [List.cons_append, List.mapM_cons]
    refine before (fun b => ?_) fun place => read place y
    exact (item hS read left right).after fun place bs bs' hbs => .read (.cons (hS b) hbs)

end Carries

/-! ## Objects with an item left open -/

/-- An object of which one item of the list under `key` is left open. -/
structure OpenList (key : String) where
  before : List (String × Json)
  left : List Json
  right : List Json
  after : List (String × Json)
  first : key ∉ before.map (·.1)

namespace OpenList

open Declaration

variable {key : String} (o : OpenList key) {k : String}

/-- The list with an item filled in. -/
def items (x : Json) : List Json := o.left ++ x :: o.right

/-- The entries with an item filled in. -/
def entries (x : Json) : List (String × Json) := o.before ++ (key, .arr (o.items x)) :: o.after

/-- The object with an item filled in. -/
def fill (x : Json) : Json := .obj (o.entries x)

theorem get?_entries_self (x : Json) :
    Entries.get? key (o.entries x) = some (.arr (o.items x)) := by
  rw [entries, Entries.get?_append, Entries.get?_eq_none_iff.2 o.first, Entries.get?, if_pos rfl]
  rfl

/-- What stands under another key does not depend on the item. -/
theorem get?_entries_of_ne (h : key ≠ k) (x : Json) :
    Entries.get? k (o.entries x) = Entries.get? k (o.before ++ o.after) := by
  rw [entries, Entries.get?_append, Entries.get?_append, Entries.get?, if_neg h]

theorem listEntry_self (x : Json) (place : String) :
    listEntry (o.entries x) key place = .ok (o.items x) := by
  rw [listEntry, o.get?_entries_self]

theorem listEntry_of_ne (h : key ≠ k) (x : Json) (place : String) :
    listEntry (o.entries x) k place = listEntry (o.before ++ o.after) k place := by
  rw [listEntry, o.get?_entries_of_ne h, listEntry]

theorem requiredString_of_ne (h : key ≠ k) (x : Json) (place : String) :
    requiredString (o.entries x) k place = requiredString (o.before ++ o.after) k place := by
  rw [requiredString, o.get?_entries_of_ne h, requiredString]

theorem optionalString_of_ne (h : key ≠ k) (x : Json) (place : String) :
    optionalString (o.entries x) k place = optionalString (o.before ++ o.after) k place := by
  rw [optionalString, o.get?_entries_of_ne h, optionalString]

theorem optionsOf_of_ne (h : key ≠ "options") (x : Json) (place : String) :
    optionsOf (o.entries x) place = optionsOf (o.before ++ o.after) place := by
  rw [optionsOf, o.get?_entries_of_ne h, optionsOf]

end OpenList

/-! ## What a part decides -/

namespace Declaration

theorem enumsOf_eq_mapM (place : String) (xs : List Json) :
    enumsOf place xs = xs.mapM (enumOf place) := by
  induction xs with
  | nil => rfl
  | cons x xs ih => rw [enumsOf, ih, List.mapM_cons]

theorem enumsIn_eq (place : String) (es : Entries) :
    enumsIn place es = listEntry es "enums" place >>= fun xs => xs.mapM (enumOf place) := by
  induction es with
  | nil => rfl
  | cons e es ih =>
    obtain ⟨key, value⟩ := e
    unfold enumsIn listEntry Entries.get?
    split
    · next hkey =>
      subst hkey
      cases value with
      | arr xs => exact enumsOf_eq_mapM place xs
      | _ => rfl
    · exact ih

end Declaration

/-- An error without the marker that it quotes. -/
def SchemaError.unquoted : SchemaError → SchemaError
  | .groupWithoutName place name _ => .groupWithoutName place name ""
  | .markerWithoutType place name _ => .markerWithoutType place name ""
  | e => e

/-- Attributes with the same marker and argument. -/
structure Attribute.SameMarker (a a' : Attribute) : Prop where
  marker : a'.marker = a.marker
  argument : a'.argument = a.argument

theorem Attribute.SameMarker.refl (a : Attribute) : a.SameMarker a := ⟨rfl, rfl⟩

theorem Attribute.SameMarker.readAlike {a a' : Attribute} (h : a.SameMarker a') :
    a.ReadAlike SchemaError.unquoted a' :=
  ⟨h.argument, fun _ _ => rfl, fun _ _ => rfl⟩

theorem Case.readAlike_of_sameMarker {name : String} {rawValue : Option String}
    {as as' : List Attribute} (h : List.Forall₂ Attribute.SameMarker as as') :
    Case.ReadAlike SchemaError.unquoted ⟨name, rawValue, as⟩ ⟨name, rawValue, as'⟩ where
  name := rfl
  rawValue := rfl
  attribute? m _ := rel_imp (fun _ _ ha => ha.readAlike)
    (rel_find? h fun _ _ ha => by rw [ha.marker])

theorem Declaration.ReadAlike.refl (d : Declaration) : d.ReadAlike SchemaError.unquoted d :=
  ⟨⟨rfl, rfl, rfl⟩, List.forall₂_same.2 fun e _ => .refl e⟩

/-! ### From a part to what is around it -/

open SchemaError (unquoted)

/-- Heads of enumerations with the same name and inherited types, and with cases read alike. -/
structure Declaration.EnumHead.ReadAlike (head head' : EnumHead) : Prop where
  name : head'.name = head.name
  inherits : head'.inherits = head.inherits
  cases : List.Forall₂ (Case.ReadAlike unquoted) head.cases head'.cases

namespace OpenList

open Declaration

/-- An attribute decides how its case reads. -/
theorem carries_attribute (o : OpenList "attributes") :
    Carries Attribute.SameMarker (Case.ReadAlike unquoted) attributeOf
      fun place x => caseOf place (o.fill x) := by
  have hitem := Carries.item (S := Attribute.SameMarker) .refl attributeOf o.left o.right
  simp only [fill, caseOf, o.listEntry_self, o.requiredString_of_ne (k := "name") (by decide),
    o.optionalString_of_ne (k := "raw_value") (by decide)]
  refine .before (fun name => .before (fun rawValue => ?_) _) _
  exact (hitem.elsewhere fun place => s!"{place} '{name}'").after fun place as as' h =>
    .read (Case.readAlike_of_sameMarker h)

theorem carries_head (o : OpenList "cases") :
    Carries (Case.ReadAlike unquoted) EnumHead.ReadAlike caseOf
      fun place x => enumHeadOf place (o.entries x) := by
  have hitem := Carries.item (S := Case.ReadAlike unquoted) .refl caseOf o.left o.right
  simp only [enumHeadOf, o.listEntry_self, o.requiredString_of_ne (k := "name") (by decide),
    o.listEntry_of_ne (k := "inherits") (by decide)]
  refine .before (fun name => .before (fun inherits => ?_) _) _
  cases stringsOf inherits with
  | none => exact .failed _
  | some inherits =>
    exact (hitem.elsewhere fun _ => s!"{enumPlace name} case").after fun place cases cases' h =>
      .read ⟨rfl, rfl, h⟩

/-- A case decides how its enumeration reads. -/
theorem carries_case (o : OpenList "cases") :
    Carries (Case.ReadAlike unquoted) (Enumeration.ReadAlike unquoted) caseOf
      fun place x => enumOf place (o.fill x) := by
  simp only [fill, enumOf, enumsIn_eq, o.listEntry_of_ne (k := "enums") (by decide)]
  refine o.carries_head.after fun place head head' hhead => ?_
  rw [hhead.name, hhead.inherits]
  exact (ReadsAlike.refl_list .refl _).bind fun enums enums' henums =>
    .read (.mk hhead.cases henums)

/-- A nested enumeration decides how the enumeration around it reads. -/
theorem carries_enum (o : OpenList "enums") :
    Carries (Enumeration.ReadAlike unquoted) (Enumeration.ReadAlike unquoted) enumOf
      fun place x => enumOf place (o.fill x) := by
  have hitem := Carries.item (S := Enumeration.ReadAlike unquoted) .refl enumOf o.left o.right
  simp only [fill, enumOf, enumsIn_eq, enumHeadOf, o.listEntry_self,
    o.requiredString_of_ne (k := "name") (by decide),
    o.listEntry_of_ne (k := "inherits") (by decide), o.listEntry_of_ne (k := "cases") (by decide)]
  refine .before (fun head => ?_) _
  exact (hitem.elsewhere fun _ => enumPlace head.name).after fun place enums enums' h =>
    .read (.mk (List.forall₂_same.2 fun c _ => .refl c) h)

/-- An enumeration decides how the declaration around it reads. -/
theorem carries_declaration (o : OpenList "enums") :
    Carries (Enumeration.ReadAlike unquoted) (Declaration.ReadAlike unquoted) enumOf
      fun _ x => ofJson (o.fill x) := by
  have hitem := Carries.item (S := Enumeration.ReadAlike unquoted) .refl enumOf o.left o.right
  simp only [fill, ofJson, enumsIn_eq, o.listEntry_self, o.optionsOf_of_ne (by decide),
    o.requiredString_of_ne (k := "type_name") (by decide),
    o.optionalString_of_ne (k := "kind") (by decide),
    o.optionalString_of_ne (k := "type_kind") (by decide)]
  refine .before (fun typeName => .before (fun options => .before (fun kind =>
    .before (fun typeKind => ?_) _) _) _) _
  exact (hitem.elsewhere fun _ => s!"declaration '{typeName}'").after fun place enums enums' h =>
    .read ⟨⟨rfl, rfl, rfl⟩, h⟩

end OpenList

/-! ## Places in the data -/

/-- What may be given by its name alone. -/
inductive Part where
  | case
  | marker

namespace Part

/-- What a part is read as. -/
def Value : Part → Type
  | .case => Case
  | .marker => Attribute

/-- How a part is read. -/
def read : (p : Part) → Reader p.Value
  | .case => Declaration.caseOf
  | .marker => Declaration.attributeOf

/-- Values of a part that say the same. -/
def Same : (p : Part) → p.Value → p.Value → Prop
  | .case => Case.ReadAlike unquoted
  | .marker => Attribute.SameMarker

end Part

/-- A place for a part in an enumeration: in one of its cases, or in an enumeration nested in
    it. -/
inductive EnumPlace : Part → Type
  | case (cases : OpenList "cases") : EnumPlace .case
  | marker (cases : OpenList "cases") (attributes : OpenList "attributes") :
    EnumPlace .marker
  | nested {p : Part} (enums : OpenList "enums") (inside : EnumPlace p) : EnumPlace p

/-- The enumeration with a part filled in. -/
def EnumPlace.fill {p : Part} : EnumPlace p → Json → Json
  | .case cases, x => cases.fill x
  | .marker cases attributes, x => cases.fill (attributes.fill x)
  | .nested enums inside, x => enums.fill (inside.fill x)

/-- A part decides how the enumeration around it reads. -/
theorem EnumPlace.carries {p : Part} : ∀ pl : EnumPlace p,
    Carries p.Same (Enumeration.ReadAlike unquoted) p.read
      fun place x => Declaration.enumOf place (pl.fill x)
  | .case cases => cases.carries_case
  | .marker cases attributes => cases.carries_case.within attributes.carries_attribute
  | .nested enums inside => enums.carries_enum.within inside.carries

/-- A place for a part in a declaration. -/
structure DeclarationPlace (p : Part) where
  enums : OpenList "enums"
  inside : EnumPlace p

/-- The declaration with a part filled in. -/
def DeclarationPlace.fill {p : Part} (d : DeclarationPlace p) (x : Json) : Json :=
  d.enums.fill (d.inside.fill x)

/-- A part decides how the declaration around it reads. -/
theorem DeclarationPlace.carries {p : Part} (d : DeclarationPlace p) :
    Carries p.Same (Declaration.ReadAlike unquoted) p.read
      fun _ x => Declaration.ofJson (d.fill x) :=
  d.enums.carries_declaration.within d.inside.carries

/-- A place for a part in data: in a declaration, alone or in a list, which may stand under the
    entry `declarations`. -/
inductive DataPlace (p : Part)
  | alone (d : DeclarationPlace p)
    (bare : Entries.get? "declarations" (d.enums.before ++ d.enums.after) = none)
  | item (left right : List Json) (d : DeclarationPlace p)
  | entry (before after : List (String × Json)) (first : "declarations" ∉ before.map (·.1))
    (d : DeclarationPlace p)
  | entryItem (declarations : OpenList "declarations") (d : DeclarationPlace p)

/-- The data with a part filled in. -/
def DataPlace.fill {p : Part} : DataPlace p → Json → Json
  | .alone d _, x => d.fill x
  | .item left right d, x => .arr (left ++ d.fill x :: right)
  | .entry before after _ d, x => .obj (before ++ ("declarations", d.fill x) :: after)
  | .entryItem declarations d, x => declarations.fill (d.fill x)

/-- What stands in the place of declarations, one or a list. -/
def Declaration.listed : Json → Except DeclarationError (List Declaration)
  | .arr xs => xs.mapM ofJson
  | v => do return [← ofJson v]

theorem declarationsOf_eq (data : Json) :
    declarationsOf data = Declaration.listed ((data.field? "declarations").getD data) :=
  rfl

theorem declarationsOf_under {before after : List (String × Json)}
    (first : "declarations" ∉ before.map (·.1)) (v : Json) :
    declarationsOf (.obj (before ++ ("declarations", v) :: after)) = Declaration.listed v := by
  rw [declarationsOf_eq, Json.field?, Entries.get?_append, Entries.get?_eq_none_iff.2 first,
    Entries.get?, if_pos rfl]
  rfl

/-- **A part decides how the data around it are read.** -/
theorem DataPlace.carries {p : Part} (pl : DataPlace p) :
    Carries p.Same (List.Forall₂ (Declaration.ReadAlike unquoted)) p.read
      fun _ x => declarationsOf (pl.fill x) := by
  have hlone (d : DeclarationPlace p) :
      Carries p.Same (List.Forall₂ (Declaration.ReadAlike unquoted)) p.read
        fun _ x => Declaration.ofJson (d.fill x) >>= fun d => pure [d] :=
    d.carries.after fun _ _ _ h => ReadsAlike.read (List.Forall₂.cons h .nil)
  have hitem (left right : List Json) (d : DeclarationPlace p) :=
    (Carries.item .refl (fun _ => Declaration.ofJson) left right).within d.carries
  cases pl with
  | alone d bare =>
    have hdata (x : Json) : declarationsOf (d.fill x) = Declaration.listed (d.fill x) := by
      rw [declarationsOf_eq, DeclarationPlace.fill, OpenList.fill, Json.field?,
        d.enums.get?_entries_of_ne (by decide), bare]
      rfl
    simp only [fill, hdata]
    exact hlone d
  | item left right d => exact hitem left right d
  | entry before after first d =>
    simp only [fill, declarationsOf_under first]
    exact hlone d
  | entryItem declarations d =>
    simp only [fill, OpenList.fill, OpenList.entries, declarationsOf_under declarations.first]
    exact hitem _ _ d

end CodecForge
