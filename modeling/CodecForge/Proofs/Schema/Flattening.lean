/-
  CodecForge — the leaves of a schema and their places.

  A place is the way from the top to a field: the positions of the groups around it, outermost
  first, and then its own.  From left to right means in the order of the places, which are
  compared as words are.

  * `fieldAt?` is the field at a place, `PairedAt` says what stands beside the leaf at a place;
  * `ListsLeaves` says of pairs that they are those of all leaves, each one once, from left to
    right; `ListsLeaves.cons` puts a field before others;
  * `exists_listsLeaves`: flattening lists the leaves of fields of any depth.
-/
import CodecForge.Schema
import Mathlib

namespace CodecForge

/-! ## Places -/

/-- The fields of a group. -/
def Field.members : Field → List Field
  | .leaf _ => []
  | .group _ _ fields => fields

/-- The field at a place. -/
def fieldAt? : List Field → List Nat → Option Field
  | _, [] => none
  | fs, [k] => fs[k]?
  | fs, k :: l :: p => fs[k]?.bind fun f => fieldAt? f.members (l :: p)

/-- A place moved behind a field more. -/
def later : List Nat → List Nat
  | [] => []
  | k :: p => (k + 1) :: p

section
variable {f : Field} {fs : List Field} {p q : List Nat}

theorem fieldAt?_nil (p : List Nat) : fieldAt? [] p = none := by
  match p with
  | [] | [_] | _ :: _ :: _ => rfl

theorem fieldAt?_below (hp : p ≠ []) : fieldAt? (f :: fs) (0 :: p) = fieldAt? f.members p := by
  cases p with
  | nil => exact absurd rfl hp
  | cons l p => rfl

theorem fieldAt?_later : fieldAt? (f :: fs) (later p) = fieldAt? fs p := by
  cases p with
  | nil => rfl
  | cons k p => cases p <;> rfl

/-- A place among fields is at the first one or below it, or behind it. -/
theorem exists_of_fieldAt? {g : Field} (h : fieldAt? (f :: fs) p = some g) :
    (∃ r, p = 0 :: r) ∨ ∃ r, p = later r := by
  match p with
  | [] => cases h
  | 0 :: r => exact .inl ⟨r, rfl⟩
  | (k + 1) :: r => exact .inr ⟨k :: r, rfl⟩

theorem length_later : (later p).length = p.length := by
  cases p <;> rfl

theorem dropLast_later (h : p.length ≠ 1) : (later p).dropLast = later p.dropLast := by
  match p with
  | [] => rfl
  | [_] => exact absurd rfl h
  | _ :: _ :: _ => rfl

theorem later_lt_later (hpq : p < q) : later p < later q := by
  cases p with
  | nil =>
    cases q with
    | nil => exact absurd hpq (lt_irrefl _)
    | cons l q => exact List.nil_lt_cons ..
  | cons k p =>
    cases q with
    | nil => exact absurd hpq (List.not_lt_nil _)
    | cons l q =>
      simpa [later, List.cons_lt_cons_iff] using hpq

theorem zero_cons_lt_later (hq : q ≠ []) : 0 :: p < later q := by
  cases q with
  | nil => exact absurd rfl hq
  | cons l q => exact List.cons_lt_cons_iff.2 (.inl l.succ_pos)

end

/-! ## Leaves with their groups -/

/-- Beside the leaf at a place among fields stands the group that holds it: `holder` at the top,
    below it the group in which the place ends. -/
structure PairedAt (holder : Option FieldInfo) (fs : List Field) (p : List Nat)
    (q : FieldInfo × Option FieldInfo) : Prop where
  leaf : fieldAt? fs p = some (.leaf q.1)
  top : p.length = 1 → q.2 = holder
  below : p.length ≠ 1 → ∃ i name members,
    fieldAt? fs p.dropLast = some (.group i name members) ∧ q.2 = some i

/-- The leaves of fields are listed once each, in the order of their places. -/
structure ListsLeaves (holder : Option FieldInfo) (fs : List Field) (places : List (List Nat))
    (qs : List (FieldInfo × Option FieldInfo)) : Prop where
  sorted : places.Pairwise (· < ·)
  mem_iff : ∀ p, p ∈ places ↔ ∃ i, fieldAt? fs p = some (.leaf i)
  paired : List.Forall₂ (PairedAt holder fs) places qs

section
variable {holder : Option FieldInfo} {f : Field} {fs : List Field} {p : List Nat}
  {q : FieldInfo × Option FieldInfo}

theorem PairedAt.later (h : PairedAt holder fs p q) :
    PairedAt holder (f :: fs) (later p) q where
  leaf := fieldAt?_later.trans h.leaf
  top hp := h.top (length_later ▸ hp)
  below hp := by
    rw [length_later] at hp
    rw [dropLast_later hp, fieldAt?_later]
    exact h.below hp

/-- What the groups below a group hold stays with them; the others are held by it. -/
theorem PairedAt.below_group {i : FieldInfo} {name : String} {members : List Field}
    (h : PairedAt (some i) members p q) :
    PairedAt holder (.group i name members :: fs) (0 :: p) q := by
  have hp : p ≠ [] := by
    rintro rfl
    cases h.leaf
  refine ⟨(fieldAt?_below hp).trans h.leaf, fun hlength => ?_, fun _ => ?_⟩
  · exact absurd (List.length_eq_zero_iff.1 (Nat.succ.inj hlength)) hp
  rw [List.dropLast_cons_of_ne_nil hp]
  by_cases hone : p.length = 1
  · obtain ⟨k, rfl⟩ := List.length_eq_one_iff.1 hone
    exact ⟨i, name, members, rfl, h.top hone⟩
  · obtain ⟨j, name', members', hat, hq⟩ := h.below hone
    have hdrop : p.dropLast ≠ [] := by
      intro hnil
      rw [hnil] at hat
      cases hat
    exact ⟨j, name', members', (fieldAt?_below hdrop).trans hat, hq⟩

/-- **The leaves of a first field and those of the others, listed together.** -/
theorem ListsLeaves.cons {firsts places : List (List Nat)}
    {qs₁ qs₂ : List (FieldInfo × Option FieldInfo)} (hsorted : firsts.Pairwise (· < ·))
    (hfirst : ∀ p ∈ firsts, ∃ r, p = 0 :: r)
    (hmem : ∀ r, 0 :: r ∈ firsts ↔ ∃ i, fieldAt? (f :: fs) (0 :: r) = some (.leaf i))
    (hpaired : List.Forall₂ (PairedAt holder (f :: fs)) firsts qs₁)
    (h : ListsLeaves holder fs places qs₂) :
    ListsLeaves holder (f :: fs) (firsts ++ places.map later) (qs₁ ++ qs₂) where
  sorted := by
    have hne : ∀ p ∈ places, p ≠ [] := by
      rintro _ hp rfl
      obtain ⟨i, hi⟩ := (h.mem_iff []).1 hp
      cases hi
    refine List.pairwise_append.2 ⟨hsorted, ?_, ?_⟩
    · exact List.pairwise_map.2 (h.sorted.imp later_lt_later)
    · intro p hp p' hp'
      obtain ⟨r, rfl⟩ := hfirst p hp
      obtain ⟨q, hq, rfl⟩ := List.mem_map.1 hp'
      exact zero_cons_lt_later (hne q hq)
  mem_iff p := by
    rw [List.mem_append, List.mem_map]
    constructor
    · rintro (hp | ⟨r, hr, rfl⟩)
      · obtain ⟨r, rfl⟩ := hfirst p hp
        exact (hmem r).1 hp
      · rw [fieldAt?_later]
        exact (h.mem_iff r).1 hr
    · rintro ⟨i, hi⟩
      rcases exists_of_fieldAt? hi with ⟨r, rfl⟩ | ⟨r, rfl⟩
      · exact .inl ((hmem r).2 ⟨i, hi⟩)
      · rw [fieldAt?_later] at hi
        exact .inr ⟨r, (h.mem_iff r).2 ⟨i, hi⟩, rfl⟩
  paired := by
    refine List.rel_append hpaired ?_
    rw [List.forall₂_map_left_iff]
    exact h.paired.imp fun _ _ hq => hq.later

theorem ListsLeaves.nil : ListsLeaves holder [] [] [] where
  sorted := .nil
  mem_iff p := by simp [fieldAt?_nil]
  paired := .nil

theorem ListsLeaves.leaf {i : FieldInfo} {places : List (List Nat)}
    {qs : List (FieldInfo × Option FieldInfo)} (h : ListsLeaves holder fs places qs) :
    ListsLeaves holder (.leaf i :: fs) ([[0]] ++ places.map later)
      ([(i, holder)] ++ qs) := by
  refine .cons (List.pairwise_singleton _ _) ?_ (fun r => ?_)
    (.cons ⟨rfl, fun _ => rfl, fun hp => absurd rfl hp⟩ .nil) h
  · intro p hp
    exact ⟨[], List.mem_singleton.1 hp⟩
  · cases r with
    | nil => simp [fieldAt?]
    | cons l r =>
      have hnone : fieldAt? (.leaf i :: fs) (0 :: l :: r) = none := fieldAt?_nil (l :: r)
      simp [hnone]

theorem ListsLeaves.group {i : FieldInfo} {name : String} {members : List Field}
    {inner places : List (List Nat)} {qs₁ qs₂ : List (FieldInfo × Option FieldInfo)}
    (hinner : ListsLeaves (some i) members inner qs₁) (h : ListsLeaves holder fs places qs₂) :
    ListsLeaves holder (.group i name members :: fs)
      (inner.map (0 :: ·) ++ places.map later) (qs₁ ++ qs₂) := by
  refine ListsLeaves.cons ?_ ?_ (fun r => ?_) ?_ h
  · rw [List.pairwise_map]
    exact hinner.sorted.imp fun hpq => List.cons_lt_cons_iff.2 (.inr ⟨rfl, hpq⟩)
  · intro p hp
    obtain ⟨r, -, rfl⟩ := List.mem_map.1 hp
    exact ⟨r, rfl⟩
  · rw [List.mem_map_of_injective (List.cons_injective), hinner.mem_iff]
    cases r with
    | nil => simp [fieldAt?]
    | cons l r => rw [fieldAt?_below (List.cons_ne_nil l r)]; rfl
  · rw [List.forall₂_map_left_iff]
    exact hinner.paired.imp fun _ _ hq => hq.below_group

end

/-! ## Flattening -/

/-- **Flattening lists the leaves of fields of any depth.** -/
theorem exists_listsLeaves (holder : Option FieldInfo) : ∀ fs : List Field,
    ∃ places, ListsLeaves holder fs places (flattenedFields holder fs)
  | [] => ⟨[], .nil⟩
  | .leaf i :: fs => by
    obtain ⟨places, h⟩ := exists_listsLeaves holder fs
    exact ⟨_, h.leaf⟩
  | .group i name members :: fs => by
    obtain ⟨inner, hinner⟩ := exists_listsLeaves (some i) members
    obtain ⟨places, h⟩ := exists_listsLeaves holder fs
    exact ⟨_, hinner.group h⟩

end CodecForge
