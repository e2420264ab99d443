/-
  CodecForge — walks of schemas of any depth.

  A walk opens containers for the groups at the top only, and it looks for the container of a
  leaf by the local name of the group that holds the leaf, however deep that group is.

  * `Schema.houses` tells whether a group at the top has that local name;
  * `isSome_containerFor` says that this decides whether a container is found, and
    `localName_containerFor` which one it may be;
  * `walk_of_flattened`: so a walk, which goes as far as containers are found (`visitsOf_eq`),
    opens its containers, visits the leaves before the first one for which there is none, and
    stops there.
-/
import CodecForge.Proofs.Plan.Steps
import CodecForge.Proofs.Schema.Flattening

namespace CodecForge

/-! ## Containers that are found -/

/-- Whether the leaves of the group `holder` have a container to go to: those at the top do, the
    others if a group at the top has the local name of their own. -/
def Schema.houses (s : Schema) (holder : Option FieldInfo) : Bool :=
  holder.all fun i => s.groups.any fun g => g.1.localName == i.localName

theorem Schema.houses_eq_false_iff {s : Schema} {holder : Option FieldInfo} :
    s.houses holder = false ↔
      ∃ i, holder = some i ∧ ∀ g ∈ s.groups, g.1.localName ≠ i.localName := by
  cases holder with
  | none => simp [houses]
  | some i => simp [houses]

section
variable (s : Schema) (style : VariableStyle)

/-- **A container is found exactly for the leaves that are housed.** -/
theorem isSome_containerFor (holder : Option FieldInfo) :
    (Schema.containerFor (s.containers style) (rootContainer s) holder).isSome =
      s.houses holder := by
  cases holder with
  | none => rfl
  | some i =>
    rw [Bool.eq_iff_iff, Schema.containerFor, List.find?_isSome, Schema.houses, Option.all_some,
      List.any_eq_true]
    constructor
    · rintro ⟨c, hc, hname⟩
      rw [beq_iff_eq] at hname
      rcases List.mem_cons.1 (List.mem_reverse.1 hc) with rfl | hc
      · cases hname
      · obtain ⟨g, hg, hopen⟩ := isOpenedFor_of_mem hc
        rw [hopen.localName, Option.some.injEq] at hname
        exact ⟨g, hg, by simpa using hname⟩
    · rintro ⟨⟨j, g⟩, hg, hname⟩
      obtain ⟨c, hc, hopen⟩ := exists_groupContainer style s s.takenNames hg
      refine ⟨c, List.mem_reverse.2 (List.mem_cons_of_mem _ hc), ?_⟩
      rw [hopen.localName, eq_of_beq hname]
      exact beq_self_eq_true _

variable {s style}

/-- What is found is the root, or opened for a group with the local name that is looked for. -/
theorem localName_containerFor {holder : Option FieldInfo} {c : Container}
    (h : Schema.containerFor (s.containers style) (rootContainer s) holder = some c) :
    c ∈ s.containers style ∧ c.localName = holder.map (·.localName) := by
  cases holder with
  | none =>
    cases h
    exact ⟨List.mem_cons_self, rfl⟩
  | some i =>
    have hname := List.find?_some h
    rw [beq_iff_eq] at hname
    exact ⟨List.mem_reverse.1 (List.mem_of_find?_eq_some h), hname⟩

end

/-! ## Walks -/

/-- **A walk of a schema of any depth.**  The leaves are flattened from left to right, each one
    once, with the groups expanded in place and beside each leaf the innermost group that holds
    it.  The walk opens the root and one container for each group at the top, in order, and
    visits the leaves in order, each with the root or a container of the local name of its group.
    It stops at the first leaf whose group has a local name that no group at the top has, and
    visits exactly the leaves before it. -/
theorem walk_of_flattened (s : Schema) (style : VariableStyle) :
    (∃ places, ListsLeaves none s.fields places s.flattened) ∧
    ∃ nested,
      List.Forall₂ (fun g c => Container.IsOpenedFor c s g.1 g.2.name) s.groups nested ∧
      (s.walk style).events = .opened (rootContainer s) :: nested.map .opened ++
        (s.walk style).visits.map (fun v => .visited v.1 v.2) ∧
      List.Forall₂ (fun q v => v.1 = q.1 ∧ v.2 ∈ rootContainer s :: nested ∧
          v.2.localName = q.2.map (·.localName))
        (s.flattened.takeWhile fun q => s.houses q.2) (s.walk style).visits ∧
      (s.walk style).missing =
        (s.flattened.find? fun q => !s.houses q.2).bind (fun q => q.2.map (·.localName)) ∧
      ((s.walk style).missing ≠ none ↔ ∃ q ∈ s.flattened, ∃ i, q.2 = some i ∧
        ∀ g ∈ s.groups, g.1.localName ≠ i.localName) := by
  obtain ⟨hvisits, hmissing⟩ := visitsOf_eq (s.containers style) (rootContainer s) s.flattened
  simp only [isSome_containerFor] at hvisits hmissing
  refine ⟨exists_listsLeaves none s.fields, _,
    isOpenedFor_groupContainers style s s.groups s.takenNames, rfl, ?_, hmissing, ?_⟩
  · exact hvisits.imp fun q v hv => ⟨hv.1, localName_containerFor hv.2⟩
  · have hwalk : (s.walk style).missing = _ := hmissing
    rw [hwalk]
    cases hfound : s.flattened.find? (fun q => !s.houses q.2) with
    | none =>
      refine iff_of_false (fun hne => hne rfl) ?_
      rintro ⟨q, hq, hgroups⟩
      have hhoused := List.find?_eq_none.1 hfound q hq
      rw [Schema.houses_eq_false_iff.2 hgroups] at hhoused
      exact hhoused rfl
    | some q =>
      have hunhoused := List.find?_some hfound
      rw [Bool.not_eq_true', Schema.houses_eq_false_iff] at hunhoused
      obtain ⟨i, hi, hgroups⟩ := hunhoused
      exact iff_of_true (by simp [hi]) ⟨q, List.mem_of_find?_eq_some hfound, i, hi, hgroups⟩

/-- A walk that stops at a group in a group, before the last leaf of all. -/
example : let leaf name := Field.leaf ⟨name, name, false, none, none, none⟩
    let group name fs := Field.group ⟨name, name, false, none, none, none⟩ "" fs
    let s : Schema :=
      ⟨"CodingKeys", [leaf "a", group "outer" [leaf "b", group "inner" [leaf "c"]], leaf "d"]⟩
    ((s.walk .snake).visits.map (·.1.key), (s.walk .snake).missing) =
      (["a", "b"], some "inner") := by
  rfl

end CodecForge
