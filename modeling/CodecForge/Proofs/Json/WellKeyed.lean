/-
  CodecForge — the keys of JSON values.

  In a text a key of an object may stand twice; in a value that was read it stands
  once, in the value itself and in every value inside it:

  * `WellKeyed` says so of a value, `wellKeyed_of_read` of every value that is read.
-/
import CodecForge.Json.Reader
import Mathlib

namespace CodecForge

namespace Json

/-- No key stands twice in an object, here or inside. -/
inductive WellKeyed : Json → Prop
  | null : WellKeyed .null
  | bool (b : Bool) : WellKeyed (.bool b)
  | int (n : Int) : WellKeyed (.int n)
  | float (x : Double) : WellKeyed (.float x)
  | str (s : String) : WellKeyed (.str s)
  | arr {xs : List Json} (h : ∀ x ∈ xs, WellKeyed x) : WellKeyed (.arr xs)
  | obj {es : List (String × Json)} (hkeys : (es.map (·.1)).Nodup)
      (h : ∀ e ∈ es, WellKeyed e.2) : WellKeyed (.obj es)

theorem WellKeyed.nodup {es : List (String × Json)} (h : WellKeyed (.obj es)) :
    (es.map (·.1)).Nodup := by
  cases h with
  | obj hkeys _ => exact hkeys

theorem WellKeyed.get? {k : String} {v : Json} :
    ∀ {es : List (String × Json)}, WellKeyed (.obj es) → Entries.get? k es = some v → v.WellKeyed
  | [], _, hv => by cases hv
  | (k', w) :: es, .obj hkeys h, hv => by
    rw [List.forall_mem_cons] at h
    unfold Entries.get? at hv
    split at hv
    · cases hv
      exact h.1
    · exact WellKeyed.get? (.obj (List.nodup_cons.1 hkeys).2 h.2) hv

theorem wellKeyed_ofPairs {pairs : List (String × Json)} (h : ∀ e ∈ pairs, e.2.WellKeyed) :
    WellKeyed (.obj (Entries.ofPairs pairs)) :=
  .obj (Entries.nodup_keys_ofPairs pairs) (Entries.forall_ofPairs h)

/-! ## Reading

One theorem for each part of the reader; `acc` holds what was read before. -/

/-- What a part of the reader finds, if it finds something, is well-keyed. -/
def FindsWellKeyed (x : Except Stop (Json × Rest)) : Prop := ∀ p, x = .ok p → p.1.WellKeyed

theorem findsWellKeyed_error (e : Stop) : FindsWellKeyed (.error e) := nofun

theorem findsWellKeyed_ok {v : Json} (h : v.WellKeyed) (r : Rest) :
    FindsWellKeyed (.ok (v, r)) := by
  rintro _ ⟨⟩
  exact h

theorem findsWellKeyed_ite {c : Prop} [Decidable c] {x y : Except Stop (Json × Rest)}
    (hx : FindsWellKeyed x) (hy : FindsWellKeyed y) : FindsWellKeyed (if c then x else y) := by
  split
  · exact hx
  · exact hy

theorem findsWellKeyed_bind {α : Type} {x : Except Stop α} {f : α → Except Stop (Json × Rest)}
    (h : ∀ a, x = .ok a → FindsWellKeyed (f a)) : FindsWellKeyed (x >>= f) := by
  cases x with
  | error e => exact findsWellKeyed_error e
  | ok a => exact h a rfl

theorem wellKeyed_of_word? {r : Rest} {p : Json × Rest} (h : r.word? = some p) :
    p.1.WellKeyed := by
  obtain ⟨⟨word, w⟩, hmem, hw⟩ := List.exists_of_findSome?_eq_some h
  obtain ⟨_, -, rfl⟩ := Option.map_eq_some_iff.1 hw
  simp only [words, List.mem_cons, Prod.mk.injEq, List.not_mem_nil, or_false] at hmem
  rcases hmem with ⟨-, rfl⟩ | ⟨-, rfl⟩ | ⟨-, rfl⟩ | ⟨-, rfl⟩ | ⟨-, rfl⟩ | ⟨-, rfl⟩
  all_goals constructor

theorem findsWellKeyed_readNumber (r : Rest) : FindsWellKeyed (readNumber r) := by
  unfold readNumber
  dsimp only
  -- with a sign and without one
  split
  all_goals
    refine findsWellKeyed_ite (findsWellKeyed_error _) (findsWellKeyed_ite ?_ ?_)
    · exact findsWellKeyed_ite (findsWellKeyed_error _) (findsWellKeyed_ok (.int _) _)
    · exact findsWellKeyed_ok (.float _) _

mutual

theorem findsWellKeyed_readValue :
    ∀ (fuel depth : Nat) (r : Rest), FindsWellKeyed (readValue fuel depth r)
  | 0, _, _ => findsWellKeyed_error _
  | fuel + 1, depth, r => by
    rw [readValue]
    split
    · exact findsWellKeyed_bind fun a _ => findsWellKeyed_ok (.str a.1) a.2
    · refine findsWellKeyed_ite (findsWellKeyed_error _) ?_
      dsimp only
      split
      · exact findsWellKeyed_ok (.obj (by simp) (by simp)) _
      · exact findsWellKeyed_readEntries fuel (depth - 1) [] _ (by simp)
    · refine findsWellKeyed_ite (findsWellKeyed_error _) ?_
      dsimp only
      split
      · exact findsWellKeyed_ok (.arr (by simp)) _
      · exact findsWellKeyed_readItems fuel (depth - 1) [] _ (by simp)
    · split
      · next hword => exact findsWellKeyed_ok (wellKeyed_of_word? hword) _
      · exact findsWellKeyed_readNumber r

theorem findsWellKeyed_readEntries :
    ∀ (fuel depth : Nat) (acc : List (String × Json)) (r : Rest), (∀ e ∈ acc, e.2.WellKeyed) →
      FindsWellKeyed (readEntries fuel depth acc r)
  | 0, _, _, _, _ => findsWellKeyed_error _
  | fuel + 1, depth, acc, r, hacc => by
    rw [readEntries]
    split
    · refine findsWellKeyed_bind fun key _ => ?_
      dsimp only
      split
      · refine findsWellKeyed_bind fun value hvalue => ?_
        have hacc' : ∀ e ∈ (key.1, value.1) :: acc, e.2.WellKeyed :=
          List.forall_mem_cons.2 ⟨findsWellKeyed_readValue fuel depth _ value hvalue, hacc⟩
        split
        · exact findsWellKeyed_ok (wellKeyed_ofPairs fun e he => hacc' e (List.mem_reverse.1 he)) _
        · exact findsWellKeyed_readEntries fuel depth _ _ hacc'
        · exact findsWellKeyed_error _
      · exact findsWellKeyed_error _
    · exact findsWellKeyed_error _

theorem findsWellKeyed_readItems :
    ∀ (fuel depth : Nat) (acc : List Json) (r : Rest), (∀ x ∈ acc, x.WellKeyed) →
      FindsWellKeyed (readItems fuel depth acc r)
  | 0, _, _, _, _ => findsWellKeyed_error _
  | fuel + 1, depth, acc, r, hacc => by
    rw [readItems]
    refine findsWellKeyed_bind fun value hvalue => ?_
    have hacc' := List.forall_mem_cons.2 ⟨findsWellKeyed_readValue fuel depth r value hvalue, hacc⟩
    dsimp only
    split
    · exact findsWellKeyed_ok (.arr fun x hx => hacc' x (List.mem_reverse.1 hx)) _
    · exact findsWellKeyed_readItems fuel depth _ _ hacc'
    · exact findsWellKeyed_error _

end

/-- **A value that was read is well-keyed.** -/
theorem wellKeyed_of_read {s : String} {v : Json} (h : read s = .ok v) : v.WellKeyed := by
  unfold read at h
  dsimp only at h
  split at h
  · cases h
  · cases hv : readValue (2 * s.toList.length + 2) maxDepth (Rest.skip ⟨s.toList, 0⟩) with
    | error e =>
      rw [hv] at h
      cases h
    | ok p =>
      rw [hv] at h
      dsimp only [bind, Except.bind] at h
      split at h
      · cases h
        exact findsWellKeyed_readValue _ _ _ p hv
      · cases h

end Json

end CodecForge
