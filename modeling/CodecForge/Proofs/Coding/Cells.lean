/-
  CodecForge — what stands in the open containers of an encoder.

  * `Encoder.slot` is what stands under a key of a cell; a write changes the slot it is
    made to, and no other (`slot_write`), a new cell brings its own (`slot_push`);
  * `lookup_entries`: the dictionary that a cell denotes holds what its slots denote;
  * `KeyedHandle.nested_of_none` and its like: what opening a container under a key comes to
    is decided by the slot.
-/
import CodecForge.Coding.Encoder
import Mathlib

namespace CodecForge.Coding

theorem Value.same_str_iff (s : String) : ∀ v : Value, v.same (.str s) = true ↔ v.plain = .str s
  | .member _ _ true v => by simpa [same, plain] using same_str_iff s v
  | .branded _ v => by simpa [same, plain] using same_str_iff s v
  | .member _ _ false _ => by simp [same, plain]
  | .null | .bool _ | .int _ | .float _ | .str _ | .list _ | .tuple _ | .set _ | .frozenset _
  | .dict _ | .bytes _ | .bytearray _ | .record _ _ | .classObject _ _ _ => by
    simp [same, plain, asInt?]

/-- A key is equal to one text at most. -/
theorem Value.same_str_of_same_str {v : Value} {s : String} (h : v.same (.str s)) (t : String) :
    v.same (.str t) = (s == t) := by
  rw [Bool.eq_iff_iff, same_str_iff, (same_str_iff s v).1 h]
  simp

namespace Cell

theorem find_cons (e : Value × Slot) (c : Cell) (key : String) :
    find key (e :: c) = if e.1.same (.str key) then some e.2 else find key c := by
  rw [find, List.find?_cons]
  cases e.1.same (.str key) <;> rfl

theorem find_put (key key' : String) (s : Slot) (c : Cell) :
    find key' (put key s c) = if key = key' then some s else find key' c := by
  induction c with
  | nil => simp [put, find, Value.same_str_iff, Value.plain]
  | cons e c ih =>
    unfold put
    split
    · next h =>
      rw [find_cons, find_cons, Value.same_str_of_same_str h]
      simp only [beq_iff_eq]
      split <;> rfl
    · next h =>
      rw [find_cons, find_cons, ih]
      split
      · next h' =>
        have hne : key ≠ key' := by
          rintro rfl
          exact h h'
        rw [if_neg hne]
      · rfl

end Cell

namespace Encoder

variable (e : Encoder)

/-- What stands under a key of a cell. -/
def slot (n : Nat) (key : String) : Option Slot := (e.cellAt n).find key

theorem cellAt_push (c : Cell) (n : Nat) :
    (e.push c).cellAt n = if n = e.cells.length then c else e.cellAt n := by
  unfold cellAt push
  rw [List.getD_eq_getElem?_getD, List.getD_eq_getElem?_getD, List.getElem?_append]
  rcases Nat.lt_trichotomy n e.cells.length with hlt | rfl | hgt
  · rw [if_pos hlt, if_neg hlt.ne]
  · simp
  · have hnone : e.cells[n]? = none := List.getElem?_eq_none hgt.le
    have hnone' : [c][n - e.cells.length]? = none := List.getElem?_eq_none (by simp; omega)
    rw [if_neg (by omega), if_neg hgt.ne', hnone, hnone']

theorem cellAt_write {n : Nat} (hn : n < e.cells.length) (key : String) (s : Slot) (n' : Nat) :
    (e.write n key s).cellAt n' = if n = n' then (e.cellAt n).put key s else e.cellAt n' := by
  unfold cellAt write
  rw [List.getD_eq_getElem?_getD, List.getD_eq_getElem?_getD, List.getD_eq_getElem?_getD,
    List.getElem?_modify]
  split
  · next h =>
    subst h
    rw [List.getElem?_eq_getElem hn]
    rfl
  · simp

theorem slot_push (c : Cell) (n : Nat) (key : String) :
    (e.push c).slot n key = if n = e.cells.length then c.find key else e.slot n key := by
  rw [slot, cellAt_push]
  split <;> rfl

/-- A new cell without entries changes no slot. -/
theorem slot_push_nil (n : Nat) (key : String) : (e.push []).slot n key = e.slot n key := by
  rw [slot_push]
  split
  · next h =>
    have hnone : e.cells[n]? = none := List.getElem?_eq_none h.ge
    rw [slot, cellAt, List.getD_eq_getElem?_getD, hnone]
    rfl
  · rfl

theorem slot_write {n : Nat} (hn : n < e.cells.length) (key : String) (s : Slot) (n' : Nat)
    (key' : String) : (e.write n key s).slot n' key' =
      if n = n' ∧ key = key' then some s else e.slot n' key' := by
  rw [slot, cellAt_write e hn]
  by_cases h : n = n'
  · subst h
    simp [Cell.find_put, slot]
  · simp [h, slot]

@[simp] theorem length_push (c : Cell) : (e.push c).cells.length = e.cells.length + 1 := by
  simp [push]

@[simp] theorem length_write (n : Nat) (key : String) (s : Slot) :
    (e.write n key s).cells.length = e.cells.length := by
  simp [write]

/-- The encoder with a container opened under a key of a cell. -/
def openAt (n : Nat) (key : String) (es : List (Value × Value)) : Encoder :=
  (e.push (Cell.ofEntries es)).write n key (.cell e.cells.length)

@[simp] theorem length_openAt (n : Nat) (key : String) (es : List (Value × Value)) :
    (e.openAt n key es).cells.length = e.cells.length + 1 := by
  rw [openAt, length_write, length_push]

/-- The entries of the dictionary that a cell denotes. -/
def entries (fuel n : Nat) : List (Value × Value) :=
  (e.cellAt n).map fun x => (x.1, resolve e.cells fuel x.2)

theorem lookup_entries (fuel n : Nat) (key : String) :
    Value.lookup (.str key) (e.entries fuel n) = (e.slot n key).map (resolve e.cells fuel) := by
  simp [Value.lookup, entries, slot, Cell.find, List.find?_map, Function.comp_def]

theorem resolve_done (fuel : Nat) (v : Value) : resolve e.cells fuel (.done v) = v := by
  cases fuel <;> rfl

/-- What is done under a key is what the dictionary has there. -/
theorem lookup_done (fuel : Nat) {n : Nat} {key : String} {v : Option Value}
    (h : e.slot n key = v.map .done) : Value.lookup (.str key) (e.entries fuel n) = v := by
  rw [lookup_entries, h]
  cases v with
  | none => rfl
  | some v => rw [Option.map_some, Option.map_some, resolve_done]

end Encoder

/-! ## Opening a container under a key -/

namespace KeyedHandle

variable (h : KeyedHandle) {key : String} {e : Encoder}

theorem nested_of_cell {n : Nat} (hslot : e.slot h.cell key = some (.cell n)) :
    h.nested key e = .ok ⟨n, h.path ++ [key]⟩ e := by
  have hfind : (e.cellAt h.cell).find key = some (.cell n) := hslot
  simp only [nested, bind, EStateM.bind, get, getThe, MonadStateOf.get, EStateM.get, hfind]
  rfl

theorem nested_of_none (hslot : e.slot h.cell key = none) :
    h.nested key e = .ok ⟨e.cells.length, h.path ++ [key]⟩ (e.openAt h.cell key []) := by
  have hfind : (e.cellAt h.cell).find key = none := hslot
  simp only [nested, bind, EStateM.bind, get, getThe, MonadStateOf.get, EStateM.get, hfind]
  rfl

theorem nested_of_done {v : Value} (hslot : e.slot h.cell key = some (.done v)) :
    h.nested key e = match v with
      | .dict es => .ok ⟨e.cells.length, h.path ++ [key]⟩ (e.openAt h.cell key es)
      | _ => .error (.at (.notContainer key) (h.path ++ [key])) e := by
  have hfind : (e.cellAt h.cell).find key = some (.done v) := hslot
  simp only [nested, bind, EStateM.bind, get, getThe, MonadStateOf.get, EStateM.get, hfind]
  cases v <;> rfl

end KeyedHandle

end CodecForge.Coding
