/-
  CodecForge — lists related item by item.

  What a program makes of a list item by item is related to the list by
  `List.Forall₂`; each item of the one list then has its item in the other
  (`exists_of_mem_right`), at the same position (`forall₂_position`), and what
  related items agree on the lists agree on (`map_eq_of_forall₂`); so items are found
  in both lists or in none (`rel_find?`, `findSome?_eq_of_forall₂`).  A program that
  refuses no item makes a list of a list (`exists_mapM_eq_ok`), and one that may refuse
  some stops at the first of these (`mapM_cases`); a program that returns does so in
  each of its steps (`exists_of_bind_eq_ok`, `exists_of_map_eq_ok`), and one that stops
  does so in one of them (`of_bind_eq_error`).  An item that differs from the others does
  so from those before it and those after it (`notMem_map_of_nodup`).  If not all items
  have a property, one is the first that lacks it (`forall_or_exists_first`,
  `forall₂_or_exists_first`).  Items that fail a test outlast the dropping of those that
  pass it at an end (`filter_dropWhile`, `filter_rdropWhile`), and what stands in a list
  without one of its items stands on one side of the item (`infix_append_cons`).
-/
import Mathlib

namespace CodecForge

variable {α β γ : Type} {R : α → β → Prop}

theorem exists_of_mem_right {xs : List α} {ys : List β} (h : List.Forall₂ R xs ys) :
    ∀ y ∈ ys, ∃ x ∈ xs, R x y := by
  induction h with
  | nil => simp
  | cons hxy _ ih =>
    rintro y hy
    rcases List.mem_cons.1 hy with rfl | hy
    · exact ⟨_, List.mem_cons_self, hxy⟩
    · obtain ⟨x, hx, hR⟩ := ih y hy
      exact ⟨x, List.mem_cons_of_mem _ hx, hR⟩

theorem exists_forall₂ : ∀ {xs : List α}, (∀ x ∈ xs, ∃ y, R x y) → ∃ ys, List.Forall₂ R xs ys
  | [], _ => ⟨[], .nil⟩
  | x :: xs, h => by
    obtain ⟨y, hy⟩ := h x List.mem_cons_self
    obtain ⟨ys, hys⟩ := exists_forall₂ fun x hx => h x (List.mem_cons_of_mem _ hx)
    exact ⟨y :: ys, .cons hy hys⟩

theorem forall₂_imp_mem {S : α → β → Prop} {xs : List α} {ys : List β}
    (h : List.Forall₂ R xs ys) (hRS : ∀ x ∈ xs, ∀ y ∈ ys, R x y → S x y) :
    List.Forall₂ S xs ys := by
  rw [List.forall₂_iff_zip] at h ⊢
  refine ⟨h.1, fun {x y} hmem => ?_⟩
  exact hRS x (List.of_mem_zip hmem).1 y (List.of_mem_zip hmem).2 (h.2 hmem)

theorem forall_or_exists_first (P : α → Prop) (xs : List α) :
    (∀ x ∈ xs, P x) ∨
      ∃ before x after, xs = before ++ x :: after ∧ (∀ y ∈ before, P y) ∧ ¬ P x := by
  induction xs with
  | nil => exact .inl (by simp)
  | cons x xs ih =>
    by_cases hx : P x
    · rcases ih with hall | ⟨before, y, after, rfl, hbefore, hy⟩
      · exact .inl (List.forall_mem_cons.2 ⟨hx, hall⟩)
      · exact .inr ⟨x :: before, y, after, rfl, List.forall_mem_cons.2 ⟨hx, hbefore⟩, hy⟩
    · exact .inr ⟨[], x, xs, rfl, by simp, hx⟩

theorem forall₂_or_exists_first (R : α → β → Prop) {xs : List α} {ys : List β}
    (hlen : xs.length = ys.length) :
    List.Forall₂ R xs ys ∨
      ∃ xs₁ x xs₂ ys₁ y ys₂, xs = xs₁ ++ x :: xs₂ ∧ ys = ys₁ ++ y :: ys₂ ∧
        xs₂.length = ys₂.length ∧ List.Forall₂ R xs₁ ys₁ ∧ ¬ R x y := by
  induction xs generalizing ys with
  | nil =>
    cases ys with
    | nil => exact .inl .nil
    | cons y ys => cases hlen
  | cons x xs ih =>
    cases ys with
    | nil => cases hlen
    | cons y ys =>
      have hlen' : xs.length = ys.length := Nat.succ.inj hlen
      by_cases hxy : R x y
      · rcases ih hlen' with hall | ⟨xs₁, x', xs₂, ys₁, y', ys₂, rfl, rfl, htail, hbefore, hnot⟩
        · exact .inl (.cons hxy hall)
        · exact .inr ⟨x :: xs₁, x', xs₂, y :: ys₁, y', ys₂, rfl, rfl, htail, .cons hxy hbefore,
            hnot⟩
      · exact .inr ⟨[], x, xs, [], y, ys, rfl, rfl, hlen', .nil, hxy⟩

theorem exists_mapM_eq_ok {ε : Type} {f : α → Except ε β} : ∀ {xs : List α},
    (∀ x ∈ xs, ∃ y, f x = .ok y ∧ R x y) → ∃ ys, xs.mapM f = .ok ys ∧ List.Forall₂ R xs ys
  | [], _ => ⟨[], rfl, .nil⟩
  | x :: xs, h => by
    obtain ⟨y, hy, hR⟩ := h x List.mem_cons_self
    obtain ⟨ys, hys, hf⟩ := exists_mapM_eq_ok fun x hx => h x (List.mem_cons_of_mem _ hx)
    refine ⟨y :: ys, ?_, .cons hR hf⟩
    rw [List.mapM_cons, hy, hys]
    rfl

/-- A program makes something of every item of a list, or stops at the first that it refuses. -/
theorem mapM_cases {ε : Type} (f : α → Except ε β) (xs : List α) :
    (∃ ys, xs.mapM f = .ok ys ∧ List.Forall₂ (fun x y => f x = .ok y) xs ys) ∨
      ∃ before x after e, xs = before ++ x :: after ∧ (∀ y ∈ before, ∃ z, f y = .ok z) ∧
        f x = .error e ∧ xs.mapM f = .error e := by
  induction xs with
  | nil => exact .inl ⟨[], rfl, .nil⟩
  | cons x xs ih =>
    rw [List.mapM_cons]
    cases hx : f x with
    | error e => exact .inr ⟨[], x, xs, e, rfl, by simp, hx, rfl⟩
    | ok y =>
      rcases ih with ⟨ys, hys, hf⟩ | ⟨before, x', after, e, rfl, hbefore, hx', he⟩
      · rw [hys]
        exact .inl ⟨y :: ys, rfl, .cons hx hf⟩
      · rw [he]
        exact .inr ⟨x :: before, x', after, e, rfl,
          List.forall_mem_cons.2 ⟨⟨y, hx⟩, hbefore⟩, hx', rfl⟩

theorem exists_of_bind_eq_ok {ε : Type} {x : Except ε α} {f : α → Except ε β} {b : β}
    (h : x >>= f = .ok b) : ∃ a, x = .ok a ∧ f a = .ok b := by
  cases x with
  | error e => cases h
  | ok a => exact ⟨a, rfl, h⟩

theorem of_bind_eq_error {ε : Type} {x : Except ε α} {f : α → Except ε β} {e : ε}
    (h : x >>= f = .error e) : x = .error e ∨ ∃ a, f a = .error e := by
  cases x with
  | error e' =>
    cases h
    exact .inl rfl
  | ok a => exact .inr ⟨a, h⟩

theorem exists_of_map_eq_ok {ε : Type} {x : Except ε α} {f : α → β} {b : β}
    (h : x.map f = .ok b) : ∃ a, x = .ok a ∧ f a = b := by
  cases x with
  | error e => cases h
  | ok a => exact ⟨a, rfl, Except.ok.inj h⟩

theorem findSome?_cons_or (f : α → Option β) (x : α) (xs : List α) :
    (x :: xs).findSome? f = (f x).or (xs.findSome? f) := by
  rw [List.findSome?_cons]
  cases f x <;> rfl

theorem map_eq_of_forall₂ {xs : List α} {ys : List β} (h : List.Forall₂ R xs ys) {f : α → γ}
    {g : β → γ} (hfg : ∀ x ∈ xs, ∀ y, R x y → g y = f x) : ys.map g = xs.map f := by
  induction h with
  | nil => rfl
  | cons hxy _ ih =>
    rw [List.map_cons, List.map_cons, hfg _ List.mem_cons_self _ hxy,
      ih fun x hx => hfg x (List.mem_cons_of_mem _ hx)]

/-- Lists related to one list are related to each other. -/
theorem forall₂_of_common {S : α → γ → Prop} {xs : List α} {ys : List β} {zs : List γ}
    (h : List.Forall₂ R xs ys) (h' : List.Forall₂ S xs zs) :
    List.Forall₂ (fun y z => ∃ x, R x y ∧ S x z) ys zs := by
  induction h generalizing zs with
  | nil =>
    cases h'
    exact .nil
  | cons hxy _ ih =>
    cases h' with
    | cons hxz htail => exact .cons ⟨_, hxy, hxz⟩ (ih htail)

/-- Related items stand at one position. -/
theorem forall₂_position {xs : List α} {ys : List β} (h : List.Forall₂ R xs ys) :
    List.Forall₂ (fun x y => R x y ∧ ∃ j : Nat, xs[j]? = some x ∧ ys[j]? = some y) xs ys := by
  induction h with
  | nil => exact .nil
  | cons hxy _ ih =>
    refine .cons ⟨hxy, 0, rfl, rfl⟩ (ih.imp fun x y hpos => ?_)
    obtain ⟨hR, j, hx, hy⟩ := hpos
    exact ⟨hR, j + 1, hx, hy⟩

/-- The first items that pass a test are related, if related items pass it alike. -/
theorem rel_find? {xs : List α} {ys : List β} (h : List.Forall₂ R xs ys) {p : α → Bool}
    {q : β → Bool} (hpq : ∀ x y, R x y → q y = p x) : Option.Rel R (xs.find? p) (ys.find? q) := by
  induction h with
  | nil => exact .none
  | @cons x y _ _ hxy _ ih =>
    rw [List.find?_cons, List.find?_cons, hpq x y hxy]
    cases p x with
    | true => exact .some hxy
    | false => exact ih

theorem related_of_find? {xs : List α} {ys : List β} (h : List.Forall₂ R xs ys) {p : α → Bool}
    {q : β → Bool} (hpq : ∀ x y, R x y → p x = q y) {x : α} {y : β}
    (hx : xs.find? p = some x) (hy : ys.find? q = some y) : R x y := by
  have hfound := rel_find? h fun a b hab => (hpq a b hab).symm
  rw [hx, hy] at hfound
  cases hfound with
  | some hxy => exact hxy

theorem rel_imp {S : α → β → Prop} (hRS : ∀ x y, R x y → S x y) {o : Option α} {o' : Option β}
    (h : Option.Rel R o o') : Option.Rel S o o' := by
  cases h with
  | none => exact .none
  | some hxy => exact .some (hRS _ _ hxy)

theorem findSome?_eq_of_forall₂ {xs : List α} {ys : List β} (h : List.Forall₂ R xs ys)
    {f : α → Option γ} {g : β → Option γ} (hfg : ∀ x y, R x y → g y = f x) :
    ys.findSome? g = xs.findSome? f := by
  induction h with
  | nil => rfl
  | cons hxy _ ih => rw [List.findSome?_cons, List.findSome?_cons, hfg _ _ hxy, ih]

/-- Of items that differ under a map, the one with a given image is found. -/
theorem find?_eq_some_iff_of_nodup [BEq β] [LawfulBEq β] {f : α → β} {xs : List α}
    (h : (xs.map f).Nodup) {x : α} {b : β} :
    xs.find? (f · == b) = some x ↔ x ∈ xs ∧ f x = b := by
  constructor
  · intro hx
    have hb := List.find?_some hx
    exact ⟨List.mem_of_find?_eq_some hx, eq_of_beq hb⟩
  · rintro ⟨hx, rfl⟩
    cases hfound : xs.find? (f · == f x) with
    | none => exact absurd BEq.rfl (List.find?_eq_none.1 hfound x hx)
    | some y =>
      have hy := List.find?_some hfound
      rw [List.inj_on_of_nodup_map h (List.mem_of_find?_eq_some hfound) hx (eq_of_beq hy)]

theorem notMem_map_of_nodup {xs ys : List α} {y : α} {f : α → β}
    (h : ((xs ++ y :: ys).map f).Nodup) : f y ∉ xs.map f ∧ f y ∉ ys.map f := by
  rw [List.map_append, List.map_cons, List.nodup_middle, List.nodup_cons, List.mem_append,
    not_or] at h
  exact h.1

/-- What stands in a list without one of its items stands before the item or after it. -/
theorem infix_append_cons {w xs ys : List α} {x : α} (hx : x ∉ w) (h : w <:+: xs ++ x :: ys) :
    w <:+: xs ∨ w <:+: ys := by
  have hnil : ∀ {u}, u <+: x :: ys → x ∉ u → u = [] := by
    intro u hu hmem
    rcases List.prefix_cons_iff.1 hu with rfl | ⟨t, rfl, -⟩
    · rfl
    · exact absurd List.mem_cons_self hmem
  rcases List.infix_append_iff.1 h with hxs | hys | ⟨t, u, rfl, ht, hu⟩
  · exact .inl hxs
  · rcases List.infix_cons_iff.1 hys with hw | hw
    · rw [hnil hw hx]
      exact .inl List.nil_infix
    · exact .inr hw
  · rw [hnil hu fun hmem => hx (List.mem_append_right _ hmem), List.append_nil]
    exact .inl ht.isInfix

theorem filter_dropWhile (p : α → Bool) (xs : List α) :
    (xs.dropWhile p).filter (!p ·) = xs.filter (!p ·) := by
  have htake : (xs.takeWhile p).filter (!p ·) = [] :=
    List.filter_eq_nil_iff.2 fun x hx => by simpa using List.mem_takeWhile_imp hx
  conv_rhs => rw [← List.takeWhile_append_dropWhile (p := p) (l := xs)]
  rw [List.filter_append, htake, List.nil_append]

theorem filter_rdropWhile (p : α → Bool) (xs : List α) :
    (xs.rdropWhile p).filter (!p ·) = xs.filter (!p ·) := by
  rw [List.rdropWhile, List.filter_reverse, filter_dropWhile, List.filter_reverse,
    List.reverse_reverse]

end CodecForge
