/-
  CodecForge — lists and dictionaries that are encoded and decoded.

  * `ofTexts` are the entries of a dictionary with texts for keys; pairs with such keys denote
    what their texts do (`entriesOf_ofTexts`), with each text standing once themselves
    (`entriesOf_of_nodup`);
  * items and entries are written and read one by one: what is known of each of them
    is known of all (`encodeItems_of_forall₂` and its like), and all that are read are read one
    by one (`forall₂_of_decodeItems`, `forall₂_of_decodeEntries`); the first one that is not
    read is the one that reading fails for (`decodeItems_error`, `decodeEntries_error`).
-/
import CodecForge.Coding.Decode
import CodecForge.Proofs.Related

namespace CodecForge.Coding

/-! ## Dictionaries with texts for keys -/

namespace Value

theorem eq_null {v : Value} (h : v.isNull) : v = .null := by
  cases v <;> first | rfl | cases h

/-- Entries with texts for keys. -/
def ofTexts (ps : List (String × Value)) : List (Value × Value) := ps.map fun p => (.str p.1, p.2)

@[simp] theorem ofTexts_nil : ofTexts [] = [] := rfl

@[simp] theorem ofTexts_cons (p : String × Value) (ps : List (String × Value)) :
    ofTexts (p :: ps) = (.str p.1, p.2) :: ofTexts ps := rfl

theorem mem_ofTexts {key : String} {v : Value} {ps : List (String × Value)} :
    (.str key, v) ∈ ofTexts ps ↔ (key, v) ∈ ps := by
  simp [ofTexts]

/-- A text leads to one value only, if no text stands twice. -/
theorem eq_of_mem_ofTexts {ps : List (String × Value)} (h : (ps.map (·.1)).Nodup) {key : String}
    {v w : Value} (hv : (.str key, v) ∈ ofTexts ps) (hw : (.str key, w) ∈ ofTexts ps) : v = w := by
  rw [mem_ofTexts] at hv hw
  exact Option.some.inj ((Entries.get?_of_mem h hv).symm.trans (Entries.get?_of_mem h hw))

@[simp] theorem same_str (s t : String) : same (.str s) (.str t) = (s == t) := by
  simp [same, plain]

@[simp] theorem lookup_ofTexts (key : String) (ps : List (String × Value)) :
    lookup (.str key) (ofTexts ps) = Entries.get? key ps := by
  induction ps with
  | nil => rfl
  | cons p ps ih =>
    rw [ofTexts_cons, lookup, List.find?_cons, same_str, Entries.get?]
    cases h : p.1 == key with
    | true => rw [if_pos (eq_of_beq h)]; rfl
    | false => rw [if_neg (ne_of_beq_false h)]; exact ih

theorem insert_ofTexts (key : String) (v : Value) (ps : List (String × Value)) :
    insert (.str key) v (ofTexts ps) = ofTexts (Entries.put key v ps) := by
  induction ps with
  | nil => rfl
  | cons p ps ih =>
    rw [ofTexts_cons, insert, same_str, Entries.put]
    cases h : p.1 == key with
    | true => rw [if_pos rfl, if_pos (eq_of_beq h), ofTexts_cons]
    | false => rw [if_neg Bool.false_ne_true, if_neg (ne_of_beq_false h), ofTexts_cons, ih]

/-- What pairs with texts for keys denote as a dictionary. -/
theorem entriesOf_ofTexts (ps : List (String × Value)) :
    entriesOf (ofTexts ps) = ofTexts (Entries.ofPairs ps) := by
  have hfoldl : ∀ (ps es : List (String × Value)),
      (ofTexts ps).foldl (fun es e => insert e.1 e.2 es) (ofTexts es) =
        ofTexts (Entries.putAll es ps) := by
    intro ps
    induction ps with
    | nil => exact fun es => rfl
    | cons p ps ih =>
      intro es
      rw [ofTexts_cons, List.foldl_cons, insert_ofTexts, ih]
      rfl
  exact hfoldl ps []

/-- Entries in which each text stands once are the dictionary they denote. -/
theorem entriesOf_of_nodup {ps : List (String × Value)} (h : (ps.map (·.1)).Nodup) :
    entriesOf (ofTexts ps) = ofTexts ps := by
  rw [entriesOf_ofTexts, Entries.ofPairs_of_nodup h]

end Value

/-! ## Writing -/

variable {c : Context} {ambient : Encoding}

theorem encodeItems_of_forall₂ {xs rs : List Value}
    (h : List.Forall₂ (fun x r => ∀ path, encodeWith c ambient x path = .ok r) xs rs)
    (path : CodingPath) (index : Nat) : encodeItems c ambient path index xs = .ok rs := by
  induction h generalizing index with
  | nil => rw [encodeItems]
  | cons hx _ ih =>
    rw [encodeItems, hx, ih]
    rfl

theorem encodeEntries_of_forall₂ {ps rs : List (String × Value)}
    (h : List.Forall₂
      (fun p r => r.1 = p.1 ∧ ∀ path, encodeWith c ambient p.2 path = .ok r.2) ps rs)
    (path : CodingPath) :
    encodeEntries c ambient path (Value.ofTexts ps) = .ok (Value.ofTexts rs) := by
  induction h with
  | nil => simp [encodeEntries]
  | cons hp _ ih =>
    rw [Value.ofTexts_cons, encodeEntries, hp.2, ih, Value.ofTexts_cons, hp.1]
    rfl

/-! ## Reading -/

variable {read : Value → CodingPath → Except Failure Value}

theorem decodeItems_of_forall₂ {xs rs : List Value}
    (h : List.Forall₂ (fun x r => ∀ path, read r path = .ok x) xs rs) (path : CodingPath)
    (index : Nat) : decodeItems read path index rs = .ok xs := by
  induction h generalizing index with
  | nil => rfl
  | cons hx _ ih =>
    rw [decodeItems, hx, ih]
    rfl

theorem decodeEntries_of_forall₂ {ps rs : List (String × Value)}
    (h : List.Forall₂ (fun p r => r.1 = p.1 ∧ ∀ path, read r.2 path = .ok p.2) ps rs)
    (path : CodingPath) :
    decodeEntries read path (Value.ofTexts rs) = .ok (Value.ofTexts ps) := by
  induction h with
  | nil => rfl
  | cons hp _ ih =>
    rw [Value.ofTexts_cons, decodeEntries, hp.2, ih, Value.ofTexts_cons, hp.1]
    rfl

theorem forall₂_of_decodeItems {path : CodingPath} {index : Nat} {xs vs : List Value}
    (h : decodeItems read path index xs = .ok vs) :
    List.Forall₂ (fun x v => ∃ path, read x path = .ok v) xs vs := by
  induction xs generalizing index vs with
  | nil =>
    cases h
    exact .nil
  | cons x xs ih =>
    obtain ⟨v, hv, h⟩ := exists_of_bind_eq_ok h
    obtain ⟨vs', hvs, h⟩ := exists_of_bind_eq_ok h
    cases h
    exact .cons ⟨_, hv⟩ (ih hvs)

theorem forall₂_of_decodeEntries {path : CodingPath} {ps : List (String × Value)}
    {es : List (Value × Value)}
    (h : decodeEntries read path (Value.ofTexts ps) = .ok es) :
    ∃ rs, es = Value.ofTexts rs ∧
      List.Forall₂ (fun p r => r.1 = p.1 ∧ ∃ path, read p.2 path = .ok r.2) ps rs := by
  induction ps generalizing es with
  | nil =>
    cases h
    exact ⟨[], rfl, .nil⟩
  | cons p ps ih =>
    obtain ⟨v, hv, h⟩ := exists_of_bind_eq_ok h
    obtain ⟨es', hes, h⟩ := exists_of_bind_eq_ok h
    cases h
    obtain ⟨rs, rfl, hrs⟩ := ih hes
    exact ⟨(p.1, v) :: rs, rfl, .cons ⟨rfl, _, hv⟩ hrs⟩

theorem decodeItems_error {before : List Value} {x : Value}
    (hbefore : ∀ y ∈ before, ∃ v, ∀ path, read y path = .ok v) {path : CodingPath} {index : Nat}
    {f : Failure} (hx : read x (path ++ [toString (index + before.length)]) = .error f)
    (after : List Value) : decodeItems read path index (before ++ x :: after) = .error f := by
  induction before generalizing index with
  | nil =>
    rw [List.nil_append, decodeItems, show read x (path ++ [toString index]) = .error f from hx]
    rfl
  | cons y before ih =>
    rw [List.forall_mem_cons] at hbefore
    obtain ⟨v, hv⟩ := hbefore.1
    have hindex : index + 1 + before.length = index + (y :: before).length := by
      simp only [List.length_cons]
      omega
    rw [List.cons_append, decodeItems, hv, ih hbefore.2 (hindex ▸ hx)]
    rfl

theorem decodeEntries_error {before : List (String × Value)} {key : String} {x : Value}
    (hbefore : ∀ p ∈ before, ∃ v, ∀ path, read p.2 path = .ok v) {path : CodingPath} {f : Failure}
    (hx : read x (path ++ [key]) = .error f) (after : List (String × Value)) :
    decodeEntries read path (Value.ofTexts (before ++ (key, x) :: after)) = .error f := by
  induction before with
  | nil =>
    have hkey : (Value.str key).text = key := rfl
    rw [List.nil_append, Value.ofTexts_cons, decodeEntries, hkey, hx]
    rfl
  | cons p before ih =>
    rw [List.forall_mem_cons] at hbefore
    obtain ⟨v, hv⟩ := hbefore.1
    rw [List.cons_append, Value.ofTexts_cons, decodeEntries, hv, ih hbefore.2]
    rfl

/-! ## Contexts without codecs -/

theorem Context.writer?_of_nil (hc : c.codecs = []) (v : Value) : c.writer? v = none := by
  have hnone : ∀ names : List String,
      names.findSome? (fun name => Entries.get? name ([] : CodecTable)) = none := by
    intro names
    simp [Entries.get?]
  rw [Context.writer?, hc, CodecTable.codecFor, hnone]
  rfl

theorem Context.reader?_of_nil (hc : c.codecs = []) (name : String) : c.reader? name = none := by
  rw [Context.reader?, hc]
  rfl

end CodecForge.Coding
