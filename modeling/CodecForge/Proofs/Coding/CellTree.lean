/-
  CodecForge — the tree of open containers.

  * `Encoder.Tree`: cells hold later cells only, and none is held twice; this is so for new
    encoders and stays so when a container is opened (`Tree.openTop`, `Tree.openAt`) or a
    value is written (`Tree.write`);
  * `Encoder.Leads`: keys lead from the container at the top to a cell, to one cell by one
    path; there the representation has the dictionary of the cell (`at?_of_leads`);
  * a write cuts the cells off to which the keys went through the entry (`leads_write`), and
    leaves the representation alone if none lead to its cell (`value_write_of_unreached`).
-/
import CodecForge.Proofs.Coding.Cells
import CodecForge.Proofs.Coding.Navigation

namespace CodecForge.Coding

/-! ## Cells -/

namespace Cell

/-- An open container stands in the only entry for its key that holds one, and before all
    others for that key. -/
inductive Proper : Cell → Prop
  | nil : Proper []
  | cons {x : Value × Slot} {c : Cell}
      (hkey : ∀ m, x.2 = .cell m → ∃ key, x.1.same (.str key) = true)
      (hrest : ∀ y ∈ c, ∀ m, y.2 = .cell m → ∀ key, x.1.same (.str key) = true →
        y.1.same (.str key) = false)
      (h : Proper c) : Proper (x :: c)

theorem mem_put {x : Value × Slot} {key : String} {s : Slot} {c : Cell} (hx : x ∈ put key s c) :
    x ∈ c ∨ x.1.same (.str key) = true ∧ x.2 = s := by
  induction c with
  | nil =>
    rw [put, List.mem_singleton] at hx
    subst hx
    exact .inr ⟨by simp, rfl⟩
  | cons e c ih =>
    unfold put at hx
    split at hx
    · next he =>
      rcases List.mem_cons.1 hx with rfl | hx
      · exact .inr ⟨he, rfl⟩
      · exact .inl (List.mem_cons_of_mem _ hx)
    · rcases List.mem_cons.1 hx with rfl | hx
      · exact .inl List.mem_cons_self
      · exact (ih hx).imp_left (List.mem_cons_of_mem _)

theorem Proper.put {c : Cell} (hc : c.Proper) (key : String) (s : Slot) : (put key s c).Proper := by
  induction hc with
  | nil =>
    exact .cons (fun _ _ => ⟨key, by simp⟩) nofun .nil
  | @cons x c hkey hrest h ih =>
    unfold Cell.put
    split
    · next hx => exact .cons (fun _ _ => ⟨key, hx⟩) hrest h
    · next hx =>
      refine .cons hkey (fun y hy m hm key' hx' => ?_) ih
      rcases mem_put hy with hy | ⟨hykey, -⟩
      · exact hrest y hy m hm key' hx'
      · -- the entry that is written has another key than the first one
        rw [Value.same_str_of_same_str hykey, beq_eq_false_iff_ne]
        rintro rfl
        exact hx hx'

theorem proper_ofEntries (es : List (Value × Value)) : (ofEntries es).Proper := by
  induction es with
  | nil => exact .nil
  | cons e es ih =>
    refine .cons nofun (fun y hy m hm => ?_) ih
    obtain ⟨e', -, rfl⟩ := List.mem_map.1 hy
    cases hm

/-- An open container is found under its key. -/
theorem Proper.find_of_mem {c : Cell} (hc : c.Proper) {x : Value × Slot} (hx : x ∈ c) {m : Nat}
    (hm : x.2 = .cell m) : ∃ key, x.1.same (.str key) = true ∧ find key c = some (.cell m) := by
  induction hc with
  | nil => cases hx
  | @cons e c hkey hrest _ ih =>
    rcases List.mem_cons.1 hx with rfl | hx
    · obtain ⟨key, hsame⟩ := hkey m hm
      exact ⟨key, hsame, by rw [find_cons, if_pos hsame, hm]⟩
    · obtain ⟨key, hsame, hfind⟩ := ih hx
      refine ⟨key, hsame, ?_⟩
      have hne : ¬ e.1.same (.str key) = true := by
        intro he
        exact Bool.false_ne_true ((hrest x hx m hm key he).symm.trans hsame)
      rw [find_cons, if_neg hne, hfind]

theorem find_ofEntries_ne_cell (es : List (Value × Value)) (key : String) (m : Nat) :
    find key (ofEntries es) ≠ some (.cell m) := by
  induction es with
  | nil => nofun
  | cons e es ih =>
    rw [ofEntries, List.map_cons, find_cons]
    split
    · nofun
    · exact ih

end Cell

namespace Encoder

variable {e : Encoder}

/-! ## Trees -/

/-- The open containers are a tree, in which the one at the top is the first. -/
structure Tree (e : Encoder) : Prop where
  proper : ∀ n, (e.cellAt n).Proper
  up : ∀ {n key m}, e.slot n key = some (.cell m) → n < m ∧ m < e.cells.length
  once : ∀ {n key n' key' m}, e.slot n key = some (.cell m) → e.slot n' key' = some (.cell m) →
    n = n' ∧ key = key'
  top : ∀ {n}, e.content = some (.cell n) → n = 0 ∧ 0 < e.cells.length

/-- Keys lead from the container at the top to a cell. -/
inductive Leads (e : Encoder) : CodingPath → Nat → Prop
  | top {n : Nat} (hcontent : e.content = some (.cell n)) : Leads e [] n
  | inner {p : CodingPath} {n m : Nat} {key : String} (hto : Leads e p n)
      (hslot : e.slot n key = some (.cell m)) : Leads e (p ++ [key]) m

theorem leads_nil_iff {n : Nat} : e.Leads [] n ↔ e.content = some (.cell n) := by
  refine ⟨fun h => ?_, .top⟩
  generalize hp : ([] : CodingPath) = p at h
  cases h with
  | top hcontent => exact hcontent
  | inner => simp at hp

theorem leads_append_iff {p : CodingPath} {key : String} {m : Nat} :
    e.Leads (p ++ [key]) m ↔ ∃ n, e.Leads p n ∧ e.slot n key = some (.cell m) := by
  refine ⟨fun h => ?_, fun ⟨n, hto, hslot⟩ => .inner hto hslot⟩
  generalize hp : p ++ [key] = p' at h
  cases h with
  | top => simp at hp
  | @inner p' n _ key' hto hslot =>
    obtain ⟨rfl, hkey⟩ := List.append_inj' hp rfl
    cases hkey
    exact ⟨n, hto, hslot⟩

theorem Leads.cell_eq {p : CodingPath} {n m : Nat} (h : e.Leads p n) (h' : e.Leads p m) :
    n = m := by
  induction h generalizing m with
  | top hcontent =>
    cases hcontent.symm.trans (leads_nil_iff.1 h')
    rfl
  | inner _ hslot ih =>
    obtain ⟨n', hto, hslot'⟩ := leads_append_iff.1 h'
    obtain rfl := ih hto
    cases hslot.symm.trans hslot'
    rfl

theorem Leads.lt (ht : e.Tree) {p : CodingPath} {n : Nat} (h : e.Leads p n) :
    n < e.cells.length := by
  cases h with
  | top hcontent =>
    obtain ⟨rfl, hlt⟩ := ht.top hcontent
    exact hlt
  | inner _ hslot => exact (ht.up hslot).2

/-- A cell that is held by another one is not at the top. -/
theorem Leads.parent (ht : e.Tree) {q : CodingPath} {n m : Nat} {key : String}
    (h : e.Leads q m) (hslot : e.slot n key = some (.cell m)) :
    ∃ p, q = p ++ [key] ∧ e.Leads p n := by
  cases h with
  | top hcontent =>
    obtain ⟨rfl, -⟩ := ht.top hcontent
    exact absurd (ht.up hslot).1 (Nat.not_lt_zero n)
  | @inner p n' _ key' hto hslot' =>
    obtain ⟨rfl, rfl⟩ := ht.once hslot hslot'
    exact ⟨p, rfl, hto⟩

theorem Leads.path_eq (ht : e.Tree) {p q : CodingPath} {n : Nat} (h : e.Leads p n)
    (h' : e.Leads q n) : p = q := by
  induction h generalizing q with
  | top hcontent =>
    obtain ⟨rfl, -⟩ := ht.top hcontent
    generalize hn : 0 = n at h'
    cases h' with
    | top => rfl
    | inner _ hslot => exact absurd (hn ▸ (ht.up hslot).1) (Nat.not_lt_zero _)
  | inner _ hslot ih =>
    obtain ⟨p', rfl, hto⟩ := h'.parent ht hslot
    rw [ih hto]

/-! ## What cells denote -/

/-- What a slot denotes. -/
def denoted (e : Encoder) (s : Slot) : Value := resolve e.cells e.cells.length s

theorem value_of_content {s : Slot} (h : e.content = some s) : e.value = e.denoted s := by
  rw [value, h]
  rfl

/-- As many steps are enough as there are cells from the cell on. -/
theorem resolve_cell (ht : e.Tree) {fuel fuel' n : Nat} (hn : n < e.cells.length)
    (h : e.cells.length - n ≤ fuel) (h' : e.cells.length - n ≤ fuel') :
    resolve e.cells fuel (.cell n) = resolve e.cells fuel' (.cell n) := by
  induction fuel generalizing fuel' n with
  | zero => omega
  | succ fuel ih =>
    cases fuel' with
    | zero => omega
    | succ fuel' =>
      rw [resolve, resolve]
      refine congrArg Value.dict (List.map_congr_left fun x hx => ?_)
      cases hs : x.2 with
      | done v => rw [resolve_done, resolve_done]
      | cell m =>
        obtain ⟨key, -, hfind⟩ := (ht.proper n).find_of_mem hx hs
        have hup : n < m ∧ m < e.cells.length := ht.up hfind
        have heq : resolve e.cells fuel (.cell m) = resolve e.cells fuel' (.cell m) :=
          ih hup.2 (by omega) (by omega)
        rw [heq]

theorem denoted_cell (ht : e.Tree) {n : Nat} (hn : n < e.cells.length) :
    e.denoted (.cell n) = .dict (e.entries e.cells.length n) := by
  have hfuel : e.denoted (.cell n) = resolve e.cells (e.cells.length + 1) (.cell n) :=
    resolve_cell ht hn (by omega) (by omega)
  rw [hfuel, resolve]
  rfl

/-- The representation has the dictionary of a cell where keys lead to it. -/
theorem at?_of_leads (ht : e.Tree) {p : CodingPath} {n : Nat} (h : e.Leads p n) :
    e.value.at? p = some (e.denoted (.cell n)) := by
  induction h with
  | top hcontent => rw [Value.at?_nil, value_of_content hcontent]
  | @inner p n m key hto hslot ih =>
    rw [Value.at?_append, ih, Option.bind_some, denoted_cell ht (hto.lt ht), Value.at?_cons,
      Value.child?, lookup_entries, hslot]
    rfl

/-- What stands under a key of such a cell is in the representation. -/
theorem at?_of_slot (ht : e.Tree) {p : CodingPath} {n : Nat} (h : e.Leads p n) {key : String}
    {v : Value} (hslot : e.slot n key = some (.done v)) : e.value.at? (p ++ [key]) = some v := by
  rw [Value.at?_append, at?_of_leads ht h, Option.bind_some, denoted_cell ht (h.lt ht),
    Value.at?_cons, Value.child?, lookup_entries, hslot, Option.map_some, resolve_done]
  rfl

/-! ## Writing a value -/

section
variable {n : Nat} {key : String} {r : Value}

theorem slot_write_done (hn : n < e.cells.length) {n' : Nat} {key' : String} {m : Nat} :
    (e.write n key (.done r)).slot n' key' = some (.cell m) ↔
      ¬ (n = n' ∧ key = key') ∧ e.slot n' key' = some (.cell m) := by
  rw [slot_write e hn]
  split
  · next h => simp [h]
  · next h => simp [h]

theorem Tree.write (ht : e.Tree) (hn : n < e.cells.length) : (e.write n key (.done r)).Tree where
  proper n' := by
    rw [cellAt_write e hn]
    split
    · exact (ht.proper n).put key _
    · exact ht.proper n'
  up h := by
    rw [length_write]
    exact ht.up ((slot_write_done hn).1 h).2
  once h h' := ht.once ((slot_write_done hn).1 h).2 ((slot_write_done hn).1 h').2
  top h := by
    rw [length_write]
    exact ht.top h

/-- A write cuts off what keys led to through the entry, and nothing else. -/
theorem leads_write (hn : n < e.cells.length) {q : CodingPath} {m : Nat} :
    (e.write n key (.done r)).Leads q m ↔
      e.Leads q m ∧ ∀ p, e.Leads p n → ¬ p ++ [key] <+: q := by
  constructor
  · intro h
    induction h with
    | top hcontent =>
      refine ⟨.top hcontent, fun p _ hpre => ?_⟩
      simpa using List.prefix_nil.1 hpre
    | @inner q n' m key' _ hslot ih =>
      obtain ⟨hne, hslot⟩ := (slot_write_done hn).1 hslot
      refine ⟨.inner ih.1 hslot, fun p hp hpre => ?_⟩
      rcases List.prefix_concat_iff.1 hpre with heq | hpre
      · obtain ⟨rfl, hkey⟩ := List.append_inj' heq rfl
        cases hkey
        exact hne ⟨hp.cell_eq ih.1, rfl⟩
      · exact ih.2 p hp hpre
  · rintro ⟨h, hcut⟩
    induction h with
    | top hcontent => exact .top hcontent
    | @inner q n' m key' hto hslot ih =>
      have hpre : q <+: q ++ [key'] := List.prefix_append _ _
      refine .inner (ih fun p hp hq => hcut p hp (hq.trans hpre)) ?_
      refine (slot_write_done hn).2 ⟨?_, hslot⟩
      rintro ⟨rfl, rfl⟩
      exact hcut q hto (List.prefix_refl _)

theorem resolve_write_of_unreached (ht : e.Tree) (hn : n < e.cells.length)
    (hout : ∀ q, ¬ e.Leads q n) {s : Slot} {fuel m : Nat} {q : CodingPath} (hq : e.Leads q m) :
    resolve (e.write n key s).cells fuel (.cell m) = resolve e.cells fuel (.cell m) := by
  induction fuel generalizing m q with
  | zero => rfl
  | succ fuel ih =>
    have hne : n ≠ m := by
      rintro rfl
      exact hout q hq
    have hcell : (e.write n key s).cells.getD m [] = e.cells.getD m [] :=
      (cellAt_write e hn key s m).trans (if_neg hne)
    rw [resolve, resolve, hcell]
    refine congrArg Value.dict (List.map_congr_left fun x hx => ?_)
    cases hs : x.2 with
    | done v => rw [resolve_done, resolve_done]
    | cell m' =>
      obtain ⟨key', -, hfind⟩ := (ht.proper m).find_of_mem hx hs
      rw [ih (.inner hq hfind)]

/-- What is written in a cell that no keys lead to is no part of the representation. -/
theorem value_write_of_unreached (ht : e.Tree) (hn : n < e.cells.length)
    (hout : ∀ q, ¬ e.Leads q n) (s : Slot) : (e.write n key s).value = e.value := by
  have hcontent : (e.write n key s).content = e.content := rfl
  unfold value
  rw [hcontent, length_write]
  cases hc : e.content with
  | none => rfl
  | some top =>
    cases top with
    | done v => exact (resolve_done _ _ v).trans (resolve_done e _ v).symm
    | cell m => exact resolve_write_of_unreached ht hn hout (.top hc)

end

/-! ## Opening a container -/

section
variable {n : Nat} {key : String} {es : List (Value × Value)}

theorem slot_openAt (ht : e.Tree) (hn : n < e.cells.length)
    (hslot : ∀ m, e.slot n key ≠ some (.cell m)) {n' : Nat} {key' : String} {m : Nat} :
    (e.openAt n key es).slot n' key' =
        some (.cell m) ↔
      (n = n' ∧ key = key' ∧ m = e.cells.length) ∨ e.slot n' key' = some (.cell m) := by
  have hn' : n < (e.push (Cell.ofEntries es)).cells.length := by
    rw [length_push]
    omega
  rw [openAt, slot_write _ hn', slot_push]
  by_cases h : n = n' ∧ key = key'
  · obtain ⟨rfl, rfl⟩ := h
    simp [hslot, eq_comm]
  · rw [if_neg h]
    split
    · next hlength =>
      refine iff_of_false (Cell.find_ofEntries_ne_cell es key' m) ?_
      rintro (⟨rfl, rfl, -⟩ | hold)
      · exact h ⟨rfl, rfl⟩
      · have hup := ht.up hold
        omega
    · refine ⟨.inr, ?_⟩
      rintro (⟨rfl, rfl, -⟩ | hold)
      · exact absurd ⟨rfl, rfl⟩ h
      · exact hold

theorem Tree.openAt (ht : e.Tree) (hn : n < e.cells.length)
    (hslot : ∀ m, e.slot n key ≠ some (.cell m)) :
    (e.openAt n key es).Tree where
  proper n' := by
    have hn' : n < (e.push (Cell.ofEntries es)).cells.length := by
      rw [length_push]
      omega
    have hpush : ∀ n, ((e.push (Cell.ofEntries es)).cellAt n).Proper := by
      intro n
      rw [cellAt_push]
      split
      · exact Cell.proper_ofEntries es
      · exact ht.proper n
    rw [Encoder.openAt, cellAt_write _ hn']
    split
    · exact (hpush n).put key _
    · exact hpush n'
  up h := by
    rw [length_openAt]
    rcases (slot_openAt ht hn hslot).1 h with ⟨rfl, -, rfl⟩ | hold
    · omega
    · have hup := ht.up hold
      omega
  once h h' := by
    rcases (slot_openAt ht hn hslot).1 h with ⟨rfl, rfl, rfl⟩ | hold
    · rcases (slot_openAt ht hn hslot).1 h' with ⟨rfl, rfl, -⟩ | hold'
      · exact ⟨rfl, rfl⟩
      · exact absurd (ht.up hold').2 (Nat.lt_irrefl _)
    · rcases (slot_openAt ht hn hslot).1 h' with ⟨rfl, rfl, rfl⟩ | hold'
      · exact absurd (ht.up hold).2 (Nat.lt_irrefl _)
      · exact ht.once hold hold'
  top h := by
    rw [length_openAt]
    exact ⟨(ht.top h).1, Nat.succ_pos _⟩

/-- Keys lead to what they led to, and through the entry to the new container. -/
theorem leads_openAt (ht : e.Tree) (hn : n < e.cells.length)
    (hslot : ∀ m, e.slot n key ≠ some (.cell m)) {q : CodingPath} {m : Nat} :
    (e.openAt n key es).Leads q m ↔
      e.Leads q m ∨ m = e.cells.length ∧ ∃ p, q = p ++ [key] ∧ e.Leads p n := by
  have hold : ∀ {q m}, e.Leads q m →
      (e.openAt n key es).Leads q m := by
    intro q m h
    induction h with
    | top hcontent => exact .top hcontent
    | inner _ hs ih => exact .inner ih ((slot_openAt ht hn hslot).2 (.inr hs))
  constructor
  · intro h
    induction h with
    | top hcontent => exact .inl (.top hcontent)
    | @inner p n' m key' _ hs ih =>
      rcases (slot_openAt ht hn hslot).1 hs with ⟨rfl, rfl, rfl⟩ | hs
      · rcases ih with hto | ⟨rfl, -⟩
        · exact .inr ⟨rfl, p, rfl, hto⟩
        · exact absurd hn (Nat.lt_irrefl _)
      · rcases ih with hto | ⟨rfl, -⟩
        · exact .inl (.inner hto hs)
        · have hup := ht.up hs
          omega
  · rintro (h | ⟨rfl, p, rfl, hto⟩)
    · exact hold h
    · exact .inner (hold hto) ((slot_openAt ht hn hslot).2 (.inl ⟨rfl, rfl, rfl⟩))

end

/-! ## The container at the top -/

section
variable (path : CodingPath) (es : List (Value × Value))

theorem slot_top_ne_cell (n : Nat) (key : String) (m : Nat) :
    (Encoder.mk path (some (.cell 0)) [Cell.ofEntries es]).slot n key ≠ some (.cell m) := by
  cases n with
  | zero => exact Cell.find_ofEntries_ne_cell es key m
  | succ n => nofun

theorem Tree.openTop : (Encoder.mk path (some (.cell 0)) [Cell.ofEntries es]).Tree where
  proper n := by
    cases n with
    | zero => exact Cell.proper_ofEntries es
    | succ n => exact .nil
  up h := absurd h (slot_top_ne_cell path es _ _ _)
  once h := absurd h (slot_top_ne_cell path es _ _ _)
  top h := by
    cases h
    exact ⟨rfl, Nat.one_pos⟩

/-- Without an open container there is nothing to be led to. -/
theorem Tree.unopened (content : Option Slot) (h : ∀ n, content ≠ some (.cell n)) :
    (Encoder.mk path content []).Tree where
  proper _ := .nil
  up h := by cases h
  once h := by cases h
  top h' := absurd h' (h _)

end

end Encoder

end CodecForge.Coding
