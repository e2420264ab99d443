/-
  CodecForge — the names that stand in a source.

  What a source writes besides plain text are its names.  They are found part by part,
  since the names of parts that follow each other are the names of the parts:

  * `Source.names` are the tokens that are no text; runtime names, types and functions
    of a source are those among its names (`runtimeNames_eq`, `mem_types`, `mem_functions`);
  * `Source.defined` are the functions that its lines define, none if no function stands
    in it (`defined_eq_nil`).
-/
import CodecForge.Source
import Mathlib

namespace CodecForge

/-! ## Tokens and lines -/

namespace Token

/-- Whether a token is a name. -/
@[simp]
def isName : Token → Bool
  | text _ => false
  | _ => true

/-- The name of the runtime that a token is. -/
@[simp]
def runtime? : Token → Option RuntimeName
  | runtime n => some n
  | _ => none

end Token

namespace Line

/-- The names that stand in a line. -/
def names (l : Line) : List Token := l.filter Token.isName

/-- The function that a line defines. -/
def defined? : Line → Option String
  | .text "def " :: .function name :: _ => some name
  | _ => none

@[simp]
theorem names_nil : names [] = [] := rfl

@[simp]
theorem names_cons (t : Token) (l : Line) :
    names (t :: l) = if t.isName then t :: names l else names l :=
  List.filter_cons

@[simp]
theorem names_append (l l' : Line) : names (l ++ l') = names l ++ names l' :=
  List.filter_append ..

theorem function_mem_names {l : Line} {name : String} (h : l.defined? = some name) :
    .function name ∈ l.names := by
  unfold defined? at h
  split at h
  · cases h
    simp
  · cases h

end Line

/-! ## Sources -/

namespace Source

/-- The names that stand in the lines. -/
def names (s : Source) : List Token := s.flatMap Line.names

/-- The functions that the lines define. -/
def defined (s : Source) : List String := s.filterMap Line.defined?

@[simp]
theorem names_nil : names [] = [] := rfl

@[simp]
theorem names_append (s s' : Source) : names (s ++ s') = names s ++ names s' :=
  List.flatMap_append

@[simp]
theorem names_plain (text : String) : names (plain text) = [] := rfl

@[simp]
theorem names_line (l : Line) : names (line l) = l.names := by simp [names, line]

@[simp]
theorem names_map {α : Type} (xs : List α) (f : α → Line) :
    names (xs.map f) = xs.flatMap fun x => (f x).names :=
  List.flatMap_map ..

@[simp]
theorem names_flatMap {α : Type} (xs : List α) (f : α → Source) :
    names (xs.flatMap f) = xs.flatMap fun x => (f x).names :=
  List.flatMap_assoc ..

theorem names_eq_filter (s : Source) : s.names = s.flatten.filter Token.isName := by
  rw [List.filter_flatten, List.flatten_eq_flatMap, List.flatMap_map]
  rfl

section
variable {α : Type} {f : Token → Option α} {g : α → Token}

/-- What is no text is found among the names as among all tokens. -/
theorem filterMap_names (hf : ∀ text, f (.text text) = none) (s : Source) :
    s.names.filterMap f = s.flatten.filterMap f := by
  rw [names_eq_filter, List.filterMap_filter]
  refine List.filterMap_congr fun t _ => ?_
  cases t <;> simp [hf]

theorem mem_filterMap_flatten (hf : ∀ t a, f t = some a ↔ t = g a) (hg : ∀ a, (g a).isName)
    (s : Source) {a : α} : a ∈ s.flatten.filterMap f ↔ g a ∈ s.names := by
  rw [List.mem_filterMap, names_eq_filter, List.mem_filter]
  constructor
  · rintro ⟨t, ht, h⟩
    rw [(hf t a).1 h] at ht
    exact ⟨ht, hg a⟩
  · exact fun h => ⟨g a, h.1, (hf _ a).2 rfl⟩

end

theorem runtimeNames_eq (s : Source) : s.runtimeNames = s.names.filterMap Token.runtime? :=
  (filterMap_names (fun _ => rfl) s).symm

theorem mem_runtimeNames {s : Source} {n : RuntimeName} :
    n ∈ s.runtimeNames ↔ .runtime n ∈ s.names :=
  mem_filterMap_flatten (by rintro (_ | _ | _ | _ | _) _ <;> simp) (fun _ => rfl) s

theorem mem_types {s : Source} {name : String} : name ∈ s.types ↔ .type name ∈ s.names :=
  mem_filterMap_flatten (by rintro (_ | _ | _ | _ | _) _ <;> simp) (fun _ => rfl) s

theorem mem_functions {s : Source} {name : String} :
    name ∈ s.functions ↔ .function name ∈ s.names :=
  mem_filterMap_flatten (by rintro (_ | _ | _ | _ | _) _ <;> simp) (fun _ => rfl) s

@[simp]
theorem defined_append (s s' : Source) : defined (s ++ s') = defined s ++ defined s' :=
  List.filterMap_append

theorem defined_flatMap {α : Type} (xs : List α) (f : α → Source) :
    defined (xs.flatMap f) = xs.flatMap fun x => (f x).defined :=
  List.filterMap_flatMap ..

/-- Lines in which no function stands define none. -/
theorem defined_eq_nil {s : Source} (h : ∀ name, .function name ∉ s.names) : s.defined = [] := by
  refine List.filterMap_eq_nil_iff.2 fun l hl => Option.eq_none_iff_forall_not_mem.2 ?_
  exact fun name hname => h name (List.mem_flatMap.2 ⟨l, hl, Line.function_mem_names hname⟩)

end Source

end CodecForge
