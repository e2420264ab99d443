/-
  CodecForge — the search for variables.

  The variable of a group is looked for among numbered candidates: as long as a candidate is
  taken, the next one is tried.

  * `Search` is this loop, with the count of its retries; `search_iff` says where it ends;
  * `foundAfter_freshVariable`: for all names that may be taken it ends, after no more retries
    than there are different ones, at the free candidate with the least number, and this is the
    variable that a group gets;
  * `variables_of_walk`: so a walk finds the variables of the containers that it opens, which
    differ from each other and from the names of the leaves.
-/
import CodecForge.Proofs.Plan.Steps
import CodecForge.Proofs.Plan.Variables

namespace CodecForge

/-! ## The loop -/

section
variable (style : VariableStyle) (localName : String) (taken : List String)

/-- The search from candidate `i` on comes to the variable `v` after some retries. -/
inductive Search : Int → Nat → String → Prop
  | free {i : Int} (h : containerVariable style localName i ∉ taken) :
      Search i 0 (containerVariable style localName i)
  | retry {i : Int} {n : Nat} {v : String} (h : containerVariable style localName i ∈ taken)
      (hnext : Search (i + 1) n v) : Search i (n + 1) v

/-- `v` is found after `n` retries, as the free candidate with the least number. -/
structure FoundAfter (n : Nat) (v : String) : Prop where
  ends : Search style localName taken 1 n v
  retries_le : n ≤ taken.toFinset.card
  eq_candidate : v = containerVariable style localName (n + 1)
  isLeast : IsLeast {m : Int | 1 ≤ m ∧ containerVariable style localName m ∉ taken} (n + 1)

variable {style localName taken} {v : String} {n : Nat}

/-- **Where the search ends**: at a free candidate after candidates that are all taken. -/
theorem search_iff : ∀ {n : Nat} {i : Int}, Search style localName taken i n v ↔
    v = containerVariable style localName (i + n) ∧ v ∉ taken ∧
      ∀ k < n, containerVariable style localName (i + k) ∈ taken
  | 0, i => by
    constructor
    · rintro (h | _)
      exact ⟨by simp, h, nofun⟩
    · rintro ⟨rfl, h, -⟩
      rw [Nat.cast_zero, add_zero] at h ⊢
      exact .free h
  | n + 1, i => by
    have hshift : ∀ k : Nat, i + 1 + (k : Int) = i + (k + 1 : Nat) := by
      intro k
      push_cast
      ring
    constructor
    · rintro (_ | ⟨h, hnext⟩)
      obtain ⟨hv, hfree, htaken⟩ := search_iff.1 hnext
      refine ⟨hshift n ▸ hv, hfree, fun k hk => ?_⟩
      cases k with
      | zero => simpa using h
      | succ k => exact hshift k ▸ htaken k (Nat.lt_of_succ_lt_succ hk)
    · rintro ⟨hv, hfree, htaken⟩
      refine .retry (by simpa using htaken 0 n.succ_pos) (search_iff.2 ⟨?_, hfree, fun k hk => ?_⟩)
      · rw [hv, hshift]
      · rw [hshift]
        exact htaken (k + 1) (Nat.succ_lt_succ hk)

/-- Every retry was at another name that is taken. -/
theorem Search.retries_le (h : Search style localName taken 1 n v) : n ≤ taken.toFinset.card := by
  obtain ⟨-, -, htaken⟩ := search_iff.1 h
  rw [← Finset.card_range n]
  refine Finset.card_le_card_of_injOn (fun k => containerVariable style localName (1 + (k : Int)))
    (fun k hk => ?_) fun k _ l _ hkl => ?_
  · rw [Finset.mem_coe, List.mem_toFinset]
    exact htaken k (List.mem_range.1 (by simpa using hk))
  · have := containerVariable_inj hkl
    omega

theorem Search.isLeast (h : Search style localName taken 1 n v) :
    IsLeast {m : Int | 1 ≤ m ∧ containerVariable style localName m ∉ taken} (n + 1) := by
  obtain ⟨rfl, hfree, htaken⟩ := search_iff.1 h
  rw [add_comm] at hfree
  refine ⟨⟨by omega, hfree⟩, fun m ⟨hm, hfree⟩ => ?_⟩
  by_contra hlt
  have hk : m = 1 + ((m - 1).toNat : Int) := by omega
  exact hfree (hk ▸ htaken (m - 1).toNat (by omega))

theorem Search.foundAfter (h : Search style localName taken 1 n v) :
    FoundAfter style localName taken n v where
  ends := h
  retries_le := h.retries_le
  eq_candidate := add_comm (1 : Int) n ▸ (search_iff.1 h).1
  isLeast := h.isLeast

variable (style localName taken)

/-- **The search ends**, at the variable that a group gets. -/
theorem foundAfter_freshVariable :
    ∃ n, FoundAfter style localName taken n (freshVariable style localName taken) := by
  have hfree := freshVariable_not_mem style localName taken
  have heq : freshVariable style localName taken = (((List.range (taken.length + 1)).find?
      fun i : Nat => !taken.contains (containerVariable style localName ((i : Int) + 1))).map
        fun i : Nat => containerVariable style localName ((i : Int) + 1)).getD
          (containerVariable style localName 1) := by
    rw [freshVariable, List.find?_map]
    rfl
  cases hfind : (List.range (taken.length + 1)).find?
      fun i : Nat => !taken.contains (containerVariable style localName ((i : Int) + 1)) with
  | none =>
    -- then the first candidate is taken, but it is the variable
    rw [hfind] at heq
    have hfirst := List.find?_eq_none.1 hfind 0 (List.mem_range.2 (Nat.succ_pos _))
    rw [heq] at hfree
    simp only [Option.map_none, Option.getD_none] at hfree
    simp [hfree] at hfirst
  | some n =>
    rw [hfind] at heq
    obtain ⟨-, -, hbefore⟩ := List.find?_range_eq_some.1 hfind
    have hsearch : Search style localName taken 1 n (freshVariable style localName taken) := by
      refine search_iff.2 ⟨?_, hfree, fun k hk => ?_⟩
      · rw [heq, add_comm]
        rfl
      · simpa [add_comm] using hbefore k hk
    exact ⟨n, hsearch.foundAfter⟩

end

/-! ## Walks -/

/-- The names that are taken when the groups before the `k`-th have their variables, the last
    one first. -/
def Schema.takenBefore (s : Schema) (style : VariableStyle) (k : Nat) : List String :=
  (((s.walk style).containers.tail.take k).map (·.variable_)).reverse ++ s.takenNames

/-- Each of the containers of groups has the variable that is found for it. -/
theorem found_groupContainers (style : VariableStyle) (s : Schema) {k : Nat} {i : FieldInfo}
    {g : Schema} : ∀ {gs : List (FieldInfo × Schema)} (taken : List String),
      gs[k]? = some (i, g) → ∃ c n, (groupContainers style s taken gs)[k]? = some c ∧
        c.IsOpenedFor s i g.name ∧
        FoundAfter style i.localName
          ((((groupContainers style s taken gs).take k).map (·.variable_)).reverse ++ taken) n
          c.variable_
  | [], _, h => nomatch h
  | (f, l) :: gs, taken, h => by
    cases k with
    | zero =>
      cases h
      obtain ⟨n, hn⟩ := foundAfter_freshVariable style i.localName taken
      exact ⟨_, n, rfl, ⟨rfl, rfl, rfl, rfl⟩, hn⟩
    | succ k =>
      obtain ⟨c, n, hc, hopen, hfound⟩ := found_groupContainers style s
        (freshVariable style f.localName taken :: taken) (List.getElem?_cons_succ ▸ h)
      refine ⟨c, n, hc, hopen, ?_⟩
      rw [groupContainers, List.take_succ_cons, List.map_cons, List.reverse_cons,
        List.append_assoc]
      exact hfound

/-- **The variables of a walk are fresh, and the search for them ends.**  Whatever the shape of
    a schema and its names: the containers that a walk opens are the root and one for each group
    at the top; their variables differ, and none of those of groups is the name of a leaf.  The
    search for the variable of a group ends, after no more retries than there are names that are
    taken: by the root, by the leaves and by the groups before; and it ends at the least of the
    candidates that are free. -/
theorem variables_of_walk (s : Schema) (style : VariableStyle) :
    (s.walk style).containers.head? = some (rootContainer s) ∧
      (s.walk style).containers.tail.length = s.groups.length ∧
      ((s.walk style).containers.map (·.variable_)).Nodup ∧
      (∀ c ∈ (s.walk style).containers.tail, ∀ f ∈ s.leaves, c.variable_ ≠ f.localName) ∧
      ∀ k i g, s.groups[k]? = some (i, g) → ∃ c n,
        (s.walk style).containers.tail[k]? = some c ∧ c.IsOpenedFor s i g.name ∧
        FoundAfter style i.localName (s.takenBefore style k) n c.variable_ := by
  refine ⟨rfl, ?_, nodup_variables s style, fun c hc f hf hname => ?_, fun k i g hg => ?_⟩
  · exact (isOpenedFor_groupContainers style s s.groups s.takenNames).length_eq.symm
  · have hfresh := (variables_groupContainers style s s.groups s.takenNames).2 c hc
    exact hfresh (List.mem_cons_of_mem _ (List.mem_map.2 ⟨f, hf, hname.symm⟩))
  · exact found_groupContainers style s s.takenNames hg

/-! ## A box -/

/-- A box with two groups that are spelled alike in snake case. -/
def box : Schema where
  name := "CodingKeys"
  fields := [.group ⟨"fooBar", "fooBar", false, none, none, none⟩ "FooBarCodingKeys"
      [.leaf ⟨"a", "a", false, none, none, none⟩],
    .group ⟨"foo_bar", "foo_bar", false, none, none, none⟩ "Foo_barCodingKeys"
      [.leaf ⟨"b", "b", false, none, none, none⟩]]

/-- The second group gets the second candidate, for the first one is taken by the first group. -/
theorem variables_of_walk_box :
    ∃ i g, box.groups[1]? = some (i, g) ∧ i.localName = "foo_bar" ∧
      ∃ c, (box.walk .snake).containers.tail[1]? = some c ∧ c.variable_ = "foo_bar_container_2" ∧
        FoundAfter .snake "foo_bar" ["foo_bar_container", "container", "a", "b"] 1 c.variable_ := by
  obtain ⟨i, g, hg, hname⟩ : ∃ i g, box.groups[1]? = some (i, g) ∧ i.localName = "foo_bar" :=
    ⟨_, _, rfl, rfl⟩
  obtain ⟨-, -, -, -, hfound⟩ := variables_of_walk box .snake
  obtain ⟨c, n, hc, -, hfound⟩ := hfound 1 i g hg
  have hvariable : c.variable_ = "foo_bar_container_2" := by
    cases hc
    rfl
  have htaken : box.takenBefore .snake 1 = ["foo_bar_container", "container", "a", "b"] := by rfl
  rw [htaken, hname] at hfound
  have hn : (n : Int) + 1 = 2 := by
    have hsame : containerVariable .snake "foo_bar" (n + 1) =
        containerVariable .snake "foo_bar" 2 := by
      rw [← hfound.eq_candidate, hvariable]
      rfl
    exact containerVariable_inj hsame
  obtain rfl : n = 1 := by omega
  exact ⟨i, g, hg, hname, c, hc, hvariable, hfound⟩

end CodecForge
