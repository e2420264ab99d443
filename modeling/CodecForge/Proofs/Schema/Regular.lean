/-
  CodecForge — regular schemas.

  `Schema.Regular` is what every schema of an accepted keyed type has: keys that
  differ at each level, leaves that differ by name, and no group inside a group.

  In a regular schema a leaf stands at the top or in one group at the top
  (`mem_flattened_none`, `mem_flattened_some`), and it is found by its name
  (`eq_of_leaf_eq`) as well as by its place, the keys that lead to it
  (`nodup_places`).
-/
import CodecForge.Schema
import Mathlib

namespace CodecForge

theorem mem_flattenedFields {holder : Option FieldInfo} {p : FieldInfo × Option FieldInfo}
    {fs : List Field} : p ∈ flattenedFields holder fs ↔ ∃ f ∈ fs, p ∈ f.flattenedIn holder := by
  induction fs with
  | nil => simp [flattenedFields]
  | cons f fs ih => simp [flattenedFields, ih]

theorem flattenedFields_leaves (holder : Option FieldInfo) :
    ∀ {fs : List Field}, (∀ f ∈ fs, ∃ j, f = .leaf j) →
      flattenedFields holder fs = fs.map fun f => (f.info, holder)
  | [], _ => rfl
  | f :: fs, h => by
    obtain ⟨j, rfl⟩ := h f (by simp)
    rw [flattenedFields, flattenedFields_leaves holder fun f hf => h f (by simp [hf])]
    rfl

/-- The keys that lead to a leaf. -/
def leafPlace (p : FieldInfo × Option FieldInfo) : Option String × String :=
  (p.2.map (·.key), p.1.key)

/-- What the schema of every accepted keyed type has. -/
structure Schema.Regular (s : Schema) : Prop where
  keys_nodup : s.keys.Nodup
  leaf_of_member : ∀ {i name members}, Field.group i name members ∈ s.fields →
    ∀ f ∈ members, ∃ j, f = .leaf j
  memberKeys_nodup : ∀ {i name members}, Field.group i name members ∈ s.fields →
    (members.map (·.info.key)).Nodup
  leafNames_nodup : (s.leaves.map (·.localName)).Nodup

namespace Schema.Regular

variable {s : Schema} (hs : s.Regular)
include hs

theorem field_eq_of_key_eq {f g : Field} (hf : f ∈ s.fields) (hg : g ∈ s.fields)
    (h : f.info.key = g.info.key) : f = g :=
  List.inj_on_of_nodup_map hs.keys_nodup hf hg h

theorem mem_flattened_none {f : FieldInfo} : (f, none) ∈ s.flattened ↔ Field.leaf f ∈ s.fields := by
  unfold flattened
  rw [mem_flattenedFields]
  constructor
  · rintro ⟨_ | ⟨i, name, members⟩, hg, hf⟩
    · simp only [Field.flattenedIn, List.mem_singleton, Prod.mk.injEq, and_true] at hf
      rwa [hf]
    · rw [Field.flattenedIn, flattenedFields_leaves _ (hs.leaf_of_member hg)] at hf
      simp at hf
  · exact fun hf => ⟨_, hf, by simp [Field.flattenedIn]⟩

theorem mem_flattened_some {f g : FieldInfo} : (f, some g) ∈ s.flattened ↔
    ∃ name members, Field.group g name members ∈ s.fields ∧ Field.leaf f ∈ members := by
  unfold flattened
  rw [mem_flattenedFields]
  constructor
  · rintro ⟨_ | ⟨i, name, members⟩, hg, hf⟩
    · simp [Field.flattenedIn] at hf
    · rw [Field.flattenedIn, flattenedFields_leaves _ (hs.leaf_of_member hg)] at hf
      obtain ⟨m, hm, he⟩ := List.mem_map.1 hf
      obtain ⟨j, rfl⟩ := hs.leaf_of_member hg m hm
      cases he
      exact ⟨name, members, hg, hm⟩
  · rintro ⟨name, members, hg, hf⟩
    refine ⟨_, hg, ?_⟩
    rw [Field.flattenedIn, flattenedFields_leaves _ (hs.leaf_of_member hg)]
    exact List.mem_map.2 ⟨_, hf, rfl⟩

/-- A leaf stands once. -/
theorem eq_of_leaf_eq {p q : FieldInfo × Option FieldInfo} (hp : p ∈ s.flattened)
    (hq : q ∈ s.flattened) (h : p.1 = q.1) : p = q := by
  have hnd := hs.leafNames_nodup
  rw [leaves, List.map_map] at hnd
  exact List.inj_on_of_nodup_map hnd hp hq (by simp [h])

theorem eq_of_place_eq {p q : FieldInfo × Option FieldInfo} (hp : p ∈ s.flattened)
    (hq : q ∈ s.flattened) (h : leafPlace p = leafPlace q) : p = q := by
  obtain ⟨f, _ | g⟩ := p <;> obtain ⟨f', _ | g'⟩ := q <;>
    simp only [leafPlace, Option.map_none, Option.map_some, Prod.mk.injEq, Option.some.injEq,
      reduceCtorEq, false_and, true_and] at h
  · have := hs.field_eq_of_key_eq (hs.mem_flattened_none.1 hp) (hs.mem_flattened_none.1 hq) h
    cases this; rfl
  · obtain ⟨name, members, hg, hf⟩ := hs.mem_flattened_some.1 hp
    obtain ⟨name', members', hg', hf'⟩ := hs.mem_flattened_some.1 hq
    cases hs.field_eq_of_key_eq hg hg' h.1
    cases List.inj_on_of_nodup_map (hs.memberKeys_nodup hg) hf hf' h.2
    rfl

/-- **The places of the leaves differ.** -/
theorem nodup_places : (s.flattened.map leafPlace).Nodup := by
  have hnd : s.flattened.Nodup := by
    have hnd := hs.leafNames_nodup
    rw [leaves, List.map_map] at hnd
    exact hnd.of_map
  exact hnd.map_on fun p hp q hq => hs.eq_of_place_eq hp hq

end Schema.Regular

end CodecForge
