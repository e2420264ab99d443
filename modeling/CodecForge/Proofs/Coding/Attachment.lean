/-
  CodecForge — which writes are part of the representation.

  A handle goes on writing to its container also when the container has been replaced by a
  value; it is detached then.

  * `marksAfter` says what an operation does to the handles: one that is obtained is attached
    if the one it is obtained through is, and a value written through an attached handle
    detaches those of the containers from its place on; `attached` are the handles that are
    attached after operations;
  * `Sound`: the open containers are a tree, and keys lead to the container of a handle, along
    its path, exactly if it is attached; each operation keeps it so (`Sound.step`), hence it
    holds after all (`sound_after`);
  * `written_iff_attached`: so a value that is written stands in the representation at the
    path of the handle and its key if the handle is attached; else the representation stays
    as it was (`exists_lost`);
  * `attached_of_top`: the handles of the container at the top are always attached.
-/
import CodecForge.Proofs.Coding.CellTree
import CodecForge.Proofs.Coding.Operations

namespace CodecForge.Coding

namespace Writing

/-! ## Attached handles -/

/-- Whether the container of a handle is at or below the place of a key in that of another. -/
def isBelow (w : Writing) (j i : Nat) (key : String) : Bool :=
  match w.handles[i]?, w.handles[j]? with
  | some h, some h' => (h.path ++ [key]).isPrefixOf h'.path
  | _, _ => false

/-- Which handles are left attached by a value that is written through one of them. -/
def cut (w : Writing) (marks : Nat → Bool) (i : Nat) (key : String) : Nat → Bool :=
  fun j => marks j && !(marks i && w.isBelow j i key)

theorem cut_eq_true_iff {w : Writing} {marks : Nat → Bool} {i j : Nat} {key : String} :
    w.cut marks i key j = true ↔
      marks j = true ∧ ¬ (marks i = true ∧ w.isBelow j i key = true) := by
  rw [cut, Bool.and_eq_true, Bool.not_eq_true', ← Bool.not_eq_true, Bool.and_eq_true]

/-- Which handles are attached after an operation that has succeeded. -/
def marksAfter (w : Writing) (marks : Nat → Bool) : Operation → Nat → Bool
  | .container => Function.update marks w.handles.length true
  | .nested i _ => Function.update marks w.handles.length (marks i)
  | .put i _ key => w.cut marks i key
  | .putIfPresent i v key => if v.isNull then marks else w.cut marks i key
  | .putSingle _ | .putNull => marks

/-- Which handles are attached after an operation; a failing one changes none. -/
def mark (enc : Encoding) (w : Writing) (marks : Nat → Bool) (op : Operation) : Nat → Bool :=
  match op.perform enc w with
  | .ok _ _ => w.marksAfter marks op
  | .error _ _ => marks

/-- Which handles are attached after further operations. -/
def attachedFrom (enc : Encoding) (w : Writing) (marks : Nat → Bool) : List Operation → Nat → Bool
  | [] => marks
  | op :: ops => attachedFrom enc (w.step enc op) (w.mark enc marks op) ops

/-- Which handles are attached after operations on a new encoder. -/
def attached (enc : Encoding) (path : CodingPath) (ops : List Operation) : Nat → Bool :=
  attachedFrom enc ⟨⟨path, none, []⟩, []⟩ (fun _ => false) ops

/-! ## Soundness -/

/-- Keys lead to the container of a handle. -/
def Standing (e : Encoder) (h : KeyedHandle) : Prop := ∃ q, e.Leads q h.cell

/-- A handle of a cell has the path of the keys that lead there. -/
structure Placed (e : Encoder) (h : KeyedHandle) : Prop where
  lt : h.cell < e.cells.length
  below : ∃ p, h.path = e.path ++ p
  along : ∀ {q}, e.Leads q h.cell → h.path = e.path ++ q

/-- What holds of an encoder and its handles, of which those that are marked are attached. -/
structure Sound (w : Writing) (marks : Nat → Bool) : Prop where
  tree : w.encoder.Tree
  unopened : (∀ n, w.encoder.content ≠ some (.cell n)) → w.encoder.cells = [] ∧ w.handles = []
  placed : ∀ {j : Nat} {h : KeyedHandle}, w.handles[j]? = some h → Placed w.encoder h
  marks : ∀ {j : Nat} {h : KeyedHandle}, w.handles[j]? = some h →
    (marks j = true ↔ Standing w.encoder h)

variable {enc : Encoding} {w : Writing} {marks : Nat → Bool}

/-- A handle is one of those before, or the one that has been obtained. -/
theorem getElem?_keep {h h' : KeyedHandle} {j : Nat} (hh : (w.handles ++ [h])[j]? = some h') :
    (j ≠ w.handles.length ∧ w.handles[j]? = some h') ∨ j = w.handles.length ∧ h' = h := by
  rcases Nat.lt_trichotomy j w.handles.length with hlt | rfl | hgt
  · rw [List.getElem?_append_left hlt] at hh
    exact .inl ⟨hlt.ne, hh⟩
  · rw [List.getElem?_concat_length] at hh
    exact .inr ⟨rfl, (Option.some.inj hh).symm⟩
  · rw [List.getElem?_eq_none (by simp; omega)] at hh
    cases hh

/-- A handle stays placed as long as keys lead to its cell only where they did before. -/
theorem Placed.of_leads {e e' : Encoder} {h : KeyedHandle} (hp : Placed e h)
    (hlen : e.cells.length ≤ e'.cells.length) (hpath : e'.path = e.path)
    (hleads : ∀ q, e'.Leads q h.cell → e.Leads q h.cell) : Placed e' h where
  lt := hp.lt.trans_le hlen
  below := hpath ▸ hp.below
  along hq := by
    rw [hpath]
    exact hp.along (hleads _ hq)

theorem Sound.congr (hs : Sound w marks) {marks' : Nat → Bool}
    (h : ∀ {j : Nat} {h : KeyedHandle}, w.handles[j]? = some h → marks' j = marks j) :
    Sound w marks' where
  tree := hs.tree
  unopened := hs.unopened
  placed := hs.placed
  marks hh := by
    rw [h hh]
    exact hs.marks hh

/-- A handle is obtained for a container that is open. -/
theorem Sound.keep (hs : Sound w marks) {h : KeyedHandle} (hplaced : Placed w.encoder h)
    {mark : Bool} (hmark : mark = true ↔ Standing w.encoder h) :
    Sound (w.keep h) (Function.update marks w.handles.length mark) where
  tree := hs.tree
  unopened hnot := by
    obtain ⟨hcells, -⟩ := hs.unopened hnot
    have hlt := hplaced.lt
    rw [hcells] at hlt
    exact absurd hlt (Nat.not_lt_zero _)
  placed hh := by
    rcases getElem?_keep hh with ⟨-, hh⟩ | ⟨-, rfl⟩
    · exact hs.placed hh
    · exact hplaced
  marks hh := by
    rcases getElem?_keep hh with ⟨hne, hh⟩ | ⟨rfl, rfl⟩
    · rw [Function.update_of_ne hne]
      exact hs.marks hh
    · rw [Function.update_self]
      exact hmark

/-! ## Operations -/

theorem Sound.top (hs : Sound w marks) {n : Nat} (hcontent : w.encoder.content = some (.cell n)) :
    Sound (w.keep ⟨n, w.encoder.path⟩) (Function.update marks w.handles.length true) := by
  have htop : w.encoder.Leads [] n := .top hcontent
  refine hs.keep ⟨htop.lt hs.tree, ⟨[], by simp⟩, fun hq => ?_⟩ (iff_of_true rfl ⟨[], htop⟩)
  rw [hq.path_eq hs.tree htop, List.append_nil]

theorem Sound.topOpened (hs : Sound w marks) {es : List (Value × Value)}
    (hcontent : ∀ n, w.encoder.content ≠ some (.cell n)) :
    Sound ⟨{ w.encoder.push (Cell.ofEntries es) with
        content := some (.cell w.encoder.cells.length) },
        w.handles ++ [⟨w.encoder.cells.length, w.encoder.path⟩]⟩
      (Function.update marks w.handles.length true) := by
  obtain ⟨⟨path, content, cells⟩, handles⟩ := w
  obtain ⟨rfl, rfl⟩ : cells = [] ∧ handles = [] := hs.unopened hcontent
  have htree : (Encoder.mk path (some (.cell 0)) [Cell.ofEntries es]).Tree := .openTop path es
  have hsound : Sound ⟨⟨path, some (.cell 0), [Cell.ofEntries es]⟩, []⟩ marks :=
    ⟨htree, fun hnot => absurd rfl (hnot 0), nofun, nofun⟩
  exact hsound.top rfl

theorem Sound.inner (hs : Sound w marks) {i : Nat} {h : KeyedHandle} {key : String} {n : Nat}
    (hh : w.handles[i]? = some h) (hslot : w.encoder.slot h.cell key = some (.cell n)) :
    Sound (w.keep ⟨n, h.path ++ [key]⟩) (Function.update marks w.handles.length (marks i)) := by
  have hplaced := hs.placed hh
  obtain ⟨p, hp⟩ := hplaced.below
  refine hs.keep ⟨(hs.tree.up hslot).2, ⟨p ++ [key], ?_⟩, fun hq => ?_⟩ ((hs.marks hh).trans ?_)
  · rw [hp, List.append_assoc]
  · obtain ⟨p', rfl, hto⟩ := hq.parent hs.tree hslot
    rw [hplaced.along hto, List.append_assoc]
  · constructor
    · rintro ⟨q, hq⟩
      exact ⟨q ++ [key], .inner hq hslot⟩
    · rintro ⟨q, hq⟩
      obtain ⟨p', -, hto⟩ := hq.parent hs.tree hslot
      exact ⟨p', hto⟩

theorem Sound.innerOpened (hs : Sound w marks) {i : Nat} {h : KeyedHandle} {key : String}
    {es : List (Value × Value)} (hh : w.handles[i]? = some h)
    (hslot : ∀ m, w.encoder.slot h.cell key ≠ some (.cell m)) :
    Sound ⟨w.encoder.openAt h.cell key es,
        w.handles ++ [⟨w.encoder.cells.length, h.path ++ [key]⟩]⟩
      (Function.update marks w.handles.length (marks i)) := by
  have hlt : h.cell < w.encoder.cells.length := (hs.placed hh).lt
  -- for the handles there were, keys lead to what they led to
  have hleads : ∀ {j : Nat} {h' : KeyedHandle}, w.handles[j]? = some h' → ∀ q,
      (w.encoder.openAt h.cell key es).Leads q h'.cell ↔ w.encoder.Leads q h'.cell := by
    intro j h' hh' q
    rw [Encoder.leads_openAt hs.tree hlt hslot]
    refine or_iff_left ?_
    rintro ⟨hcell, -⟩
    exact (hs.placed hh').lt.ne hcell
  have hsound : Sound ⟨w.encoder.openAt h.cell key es, w.handles⟩ marks :=
    { tree := hs.tree.openAt hlt hslot
      unopened := fun hnot => by
        obtain ⟨-, hhandles⟩ := hs.unopened hnot
        rw [hhandles] at hh
        cases hh
      placed := fun hh' => (hs.placed hh').of_leads (by simp) rfl fun q => (hleads hh' q).1
      marks := fun hh' => (hs.marks hh').trans (exists_congr fun q => (hleads hh' q).symm) }
  exact hsound.inner hh ((Encoder.slot_openAt hs.tree hlt hslot).2 (.inl ⟨rfl, rfl, rfl⟩))

theorem standing_write (hs : Sound w marks) {i j : Nat} {h h' : KeyedHandle}
    (hh : w.handles[i]? = some h) (hh' : w.handles[j]? = some h') (key : String) (r : Value) :
    Standing (w.encoder.write h.cell key (.done r)) h' ↔
      Standing w.encoder h' ∧ ¬ (Standing w.encoder h ∧ h.path ++ [key] <+: h'.path) := by
  have hpre : ∀ {p q}, w.encoder.Leads p h.cell → w.encoder.Leads q h'.cell →
      (h.path ++ [key] <+: h'.path ↔ p ++ [key] <+: q) := by
    intro p q hp hq
    rw [(hs.placed hh).along hp, (hs.placed hh').along hq, List.append_assoc,
      List.prefix_append_right_inj]
  constructor
  · rintro ⟨q, hq⟩
    obtain ⟨hq, hcut⟩ := (Encoder.leads_write (hs.placed hh).lt).1 hq
    refine ⟨⟨q, hq⟩, ?_⟩
    rintro ⟨⟨p, hp⟩, hbelow⟩
    exact hcut p hp ((hpre hp hq).1 hbelow)
  · rintro ⟨⟨q, hq⟩, hnot⟩
    refine ⟨q, (Encoder.leads_write (hs.placed hh).lt).2 ⟨hq, fun p hp hbelow => ?_⟩⟩
    exact hnot ⟨⟨p, hp⟩, (hpre hp hq).2 hbelow⟩

theorem Sound.written (hs : Sound w marks) {i : Nat} {h : KeyedHandle} {key : String}
    (hh : w.handles[i]? = some h) (r : Value) :
    Sound ⟨w.encoder.write h.cell key (.done r), w.handles⟩ (w.cut marks i key) where
  tree := hs.tree.write (hs.placed hh).lt
  unopened hnot := by
    obtain ⟨-, hhandles⟩ := hs.unopened hnot
    rw [hhandles] at hh
    cases hh
  placed hh' := (hs.placed hh').of_leads (Encoder.length_write _ _ _ _).ge rfl fun q hq =>
    ((Encoder.leads_write (hs.placed hh).lt).1 hq).1
  marks {j h'} hh' := by
    have hbelow : w.isBelow j i key = true ↔ h.path ++ [key] <+: h'.path := by
      rw [isBelow, hh, hh']
      exact List.isPrefixOf_iff_prefix
    have hstanding := standing_write hs hh hh' key r
    rw [← hs.marks hh, ← hs.marks hh', ← hbelow] at hstanding
    exact cut_eq_true_iff.trans hstanding.symm

theorem Sound.single (hs : Sound w marks) (hcontent : w.encoder.content = none) (r : Value) :
    Sound ⟨{ w.encoder with content := some (.done r) }, w.handles⟩ marks := by
  obtain ⟨⟨path, content, cells⟩, handles⟩ := w
  obtain rfl : content = none := hcontent
  obtain ⟨rfl, rfl⟩ : cells = [] ∧ handles = [] := hs.unopened nofun
  exact ⟨.unopened path (some (.done r)) nofun, fun _ => ⟨rfl, rfl⟩, nofun, nofun⟩

/-! ## Runs -/

theorem marksAfter_of_writes {op : Operation} {i : Nat} {v : Value} {key : String}
    (hop : op.writes? = some (i, v, key)) : w.marksAfter marks op = w.cut marks i key := by
  cases op with
  | put i' v' key' =>
    cases hop
    rfl
  | putIfPresent i' v' key' =>
    obtain ⟨hv, heq⟩ := Option.ite_none_left_eq_some.1 hop
    cases heq
    exact if_neg hv
  | _ => cases hop

/-- Where there is no handle nothing becomes of the others. -/
theorem marksAfter_of_unknown {op : Operation} {i : Nat} (hop : op.handle? = some i)
    (hh : w.handles[i]? = none) {j : Nat} (hj : j < w.handles.length) :
    w.marksAfter marks op j = marks j := by
  have hcut : ∀ key, w.cut marks i key = marks := by
    intro key
    funext j
    simp [cut, isBelow, hh]
  cases op with
  | nested i' key => exact Function.update_of_ne hj.ne _ _
  | put i' v key =>
    cases hop
    exact congrFun (hcut key) j
  | putIfPresent i' v key =>
    cases hop
    rw [marksAfter, hcut, ite_self]
  | _ => cases hop

/-- An operation keeps what holds of encoders with handles. -/
theorem Sound.step (hs : Sound w marks) (op : Operation) :
    Sound (w.step enc op) (w.mark enc marks op) := by
  have hperformed := performed_perform enc w op
  unfold Writing.step mark
  generalize op.perform enc w = result at hperformed ⊢
  cases hperformed with
  | unknown hop hh =>
    refine hs.congr fun hh' => marksAfter_of_unknown hop hh ?_
    exact (List.getElem?_eq_some_iff.1 hh').1
  | skipped hv =>
    refine hs.congr fun _ => ?_
    rw [marksAfter, if_pos hv]
  | failed => exact hs
  | top hcontent => exact hs.top hcontent
  | topOpened hcontent =>
    refine hs.topOpened fun n hn => ?_
    rcases hcontent with ⟨hnone, -⟩ | hdone
    · cases hnone.symm.trans hn
    · cases hdone.symm.trans hn
  | inner hh hslot => exact hs.inner hh hslot
  | innerOpened hh hslot =>
    refine hs.innerOpened hh fun m hm => ?_
    rcases hslot with ⟨hnone, -⟩ | hdone
    · cases hnone.symm.trans hm
    · cases hdone.symm.trans hm
  | @written _ _ _ _ r _ hop hh _ =>
    dsimp only
    rw [marksAfter_of_writes hop]
    exact hs.written hh r
  | @single _ r hop hcontent =>
    rcases hop with ⟨rfl, -⟩ | ⟨v, rfl, -⟩
    · exact hs.single hcontent r
    · exact hs.single hcontent r

theorem sound_after (enc : Encoding) (path : CodingPath) (ops : List Operation) :
    Sound (after enc path ops) (attached enc path ops) := by
  have hrun : ∀ {w : Writing} {marks : Nat → Bool}, Sound w marks →
      Sound (ops.foldl (Writing.step enc) w) (attachedFrom enc w marks ops) := by
    induction ops with
    | nil => exact id
    | cons op ops ih => exact fun hs => ih (hs.step op)
  exact hrun ⟨.unopened path none nofun, fun _ => ⟨rfl, rfl⟩, nofun, nofun⟩

theorem path_step (op : Operation) : (w.step enc op).encoder.path = w.encoder.path := by
  have hperformed := performed_perform enc w op
  unfold Writing.step
  generalize op.perform enc w = result at hperformed ⊢
  cases hperformed <;> rfl

theorem path_after (enc : Encoding) (path : CodingPath) (ops : List Operation) :
    (after enc path ops).encoder.path = path := by
  have hrun : ∀ w : Writing, (ops.foldl (Writing.step enc) w).encoder.path = w.encoder.path := by
    induction ops with
    | nil => exact fun _ => rfl
    | cons op ops ih => exact fun w => (ih _).trans (path_step op)
  exact hrun _

/-! ## The handles of the container at the top -/

/-- The handles of the container at the top are attached. -/
def Topped (w : Writing) (marks : Nat → Bool) : Prop :=
  ∀ (j : Nat) (h : KeyedHandle), w.handles[j]? = some h → h.path = w.encoder.path → marks j = true

theorem Topped.keep (ht : Topped w marks) {e : Encoder} (hpath : e.path = w.encoder.path)
    {h : KeyedHandle} {mark : Bool} (hmark : h.path = e.path → mark = true) :
    Topped ⟨e, w.handles ++ [h]⟩ (Function.update marks w.handles.length mark) := by
  intro j h' hh htop
  rcases getElem?_keep hh with ⟨hne, hh⟩ | ⟨rfl, rfl⟩
  · rw [Function.update_of_ne hne]
    exact ht _ _ hh (htop.trans hpath)
  · rw [Function.update_self]
    exact hmark htop

/-- What is below the place of a key is not at the top. -/
theorem Sound.not_top (hs : Sound w marks) {i : Nat} {h : KeyedHandle}
    (hh : w.handles[i]? = some h) (key : String) : ¬ h.path ++ [key] <+: w.encoder.path := by
  intro hpre
  obtain ⟨p, hp⟩ := (hs.placed hh).below
  have hlength := hpre.length_le
  rw [hp, List.length_append, List.length_append, List.length_singleton] at hlength
  omega

theorem Topped.step (ht : Topped w marks) (hs : Sound w marks) (op : Operation) :
    Topped (w.step enc op) (w.mark enc marks op) := by
  have hperformed := performed_perform enc w op
  unfold Writing.step mark
  generalize op.perform enc w = result at hperformed ⊢
  cases hperformed with
  | unknown hop hh =>
    intro j h' hh' htop
    have hlt : j < w.handles.length := (List.getElem?_eq_some_iff.1 hh').1
    exact (marksAfter_of_unknown hop hh hlt).trans (ht j h' hh' htop)
  | skipped hv =>
    intro j h' hh' htop
    dsimp only
    rw [marksAfter, if_pos hv]
    exact ht j h' hh' htop
  | failed => exact ht
  | top | topOpened => exact ht.keep rfl fun _ => rfl
  | @inner i h key _ hh | @innerOpened i h key _ hh =>
    refine ht.keep rfl fun htop => ?_
    have heq : h.path ++ [key] = w.encoder.path := htop
    exact absurd (heq ▸ List.prefix_rfl) (hs.not_top hh key)
  | @written _ i h _ r key hop hh _ =>
    intro j h' hh' htop
    dsimp only
    rw [marksAfter_of_writes hop, cut_eq_true_iff]
    refine ⟨ht j h' hh' htop, ?_⟩
    rintro ⟨-, hbelow⟩
    rw [isBelow, hh, hh'] at hbelow
    have hpre : h.path ++ [key] <+: h'.path := List.isPrefixOf_iff_prefix.1 hbelow
    exact hs.not_top hh key (htop ▸ hpre)
  | single hop hcontent =>
    rcases hop with ⟨rfl, -⟩ | ⟨v, rfl, -⟩
    · exact ht
    · exact ht

/-- What is written through a handle of the container at the top is never lost. -/
theorem attached_of_top (enc : Encoding) (path : CodingPath) (ops : List Operation) {i : Nat}
    {h : KeyedHandle} (hh : (after enc path ops).handles[i]? = some h) (hpath : h.path = path) :
    attached enc path ops i = true := by
  have hrun : ∀ {w : Writing} {marks : Nat → Bool}, Sound w marks → Topped w marks →
      Topped (ops.foldl (Writing.step enc) w) (attachedFrom enc w marks ops) := by
    clear hh
    induction ops with
    | nil => exact fun _ ht => ht
    | cons op ops ih => exact fun hs ht => ih (hs.step op) (ht.step hs op)
  have htopped : Topped (after enc path ops) (attached enc path ops) :=
    hrun (sound_after enc path []) nofun
  exact htopped i h hh (hpath.trans (path_after enc path ops).symm)

/-! ## Writes -/

/-- A value that is written through a handle. -/
theorem Sound.write (hs : Sound w marks) {op : Operation} {i : Nat} {v : Value} {key : String}
    {h : KeyedHandle} {w' : Writing} (hop : op.writes? = some (i, v, key))
    (hh : w.handles[i]? = some h) (hperform : op.perform enc w = .ok () w') :
    ∃ p r, h.path = w.encoder.path ++ p ∧ enc v (h.path ++ [key]) = .ok r ∧
      (marks i = true → w'.encoder.value.at? (p ++ [key]) = some r) ∧
      (marks i = false → w'.encoder.value = w.encoder.value) := by
  have hplaced := hs.placed hh
  obtain ⟨p, hp⟩ := hplaced.below
  have hperformed := performed_perform enc w op
  rw [hperform] at hperformed
  cases hperformed with
  | unknown hop' hh' =>
    cases (Operation.handle?_of_writes? hop).symm.trans hop'
    cases hh.symm.trans hh'
  | skipped hv =>
    rw [Operation.writes?, if_pos hv] at hop
    cases hop
  | @written _ i' h' v' r key' hop' hh' henc =>
    cases hop.symm.trans hop'
    cases hh.symm.trans hh'
    refine ⟨p, r, hp, henc, fun hmark => ?_, fun hmark => ?_⟩
    · obtain ⟨q, hq⟩ := (hs.marks hh).1 hmark
      obtain rfl : p = q := List.append_cancel_left (hp.symm.trans (hplaced.along hq))
      have hleads : (w.encoder.write h.cell key (.done r)).Leads p h.cell := by
        refine (Encoder.leads_write hplaced.lt).2 ⟨hq, fun p' hp' hpre => ?_⟩
        obtain rfl := hp'.path_eq hs.tree hq
        have hlength := hpre.length_le
        rw [List.length_append, List.length_singleton] at hlength
        omega
      have hslot : (w.encoder.write h.cell key (.done r)).slot h.cell key = some (.done r) := by
        rw [Encoder.slot_write _ hplaced.lt, if_pos ⟨rfl, rfl⟩]
      exact Encoder.at?_of_slot (hs.tree.write hplaced.lt) hleads hslot
    · refine Encoder.value_write_of_unreached hs.tree hplaced.lt (fun q hq => ?_) _
      rw [(hs.marks hh).2 ⟨q, hq⟩] at hmark
      cases hmark
  | single hop' =>
    rcases hop' with ⟨rfl, -⟩ | ⟨v, rfl, -⟩
    · cases hop
    · cases hop
  | _ => cases hop

/-- **When a write is part of the representation.**  Whatever has been done with an encoder
    before, a value that is written through a handle stands at the path of the handle and its
    key exactly if the handle is attached or the same value has stood there; through a handle
    that is not attached nothing is written to the representation. -/
theorem written_iff_attached (c : Context) (path : CodingPath) (ops : List Operation)
    {op : Operation} {i : Nat} {v : Value} {key : String} {h : KeyedHandle} {w' : Writing}
    (hop : op.writes? = some (i, v, key))
    (hh : (after (encodeValue c) path ops).handles[i]? = some h)
    (hperform : op.perform (encodeValue c) (after (encodeValue c) path ops) = .ok () w') :
    ∃ p r, h.path = path ++ p ∧ encodeValue c v (h.path ++ [key]) = .ok r ∧
      (w'.encoder.value.at? (p ++ [key]) = some r ↔
        attached (encodeValue c) path ops i = true ∨
          (after (encodeValue c) path ops).encoder.value.at? (p ++ [key]) = some r) ∧
      (attached (encodeValue c) path ops i = false →
        w'.encoder.value = (after (encodeValue c) path ops).encoder.value) := by
  obtain ⟨p, r, hp, hr, hheld, hlost⟩ :=
    (sound_after (encodeValue c) path ops).write hop hh hperform
  rw [path_after] at hp
  refine ⟨p, r, hp, hr, ?_, hlost⟩
  cases hmark : attached (encodeValue c) path ops i with
  | true => exact iff_of_true (hheld hmark) (.inl rfl)
  | false =>
    rw [hlost hmark]
    exact (or_iff_right Bool.false_ne_true).symm

/-- The container under a key is replaced by a dictionary while there is a handle of it. -/
def replacement : List Operation :=
  [.container, .nested 0 "a", .put 0 (.dict [(.str "x", .int 0)]) "a"]

theorem after_replacement : after (encodeValue ⟨[], []⟩) [] replacement =
    ⟨⟨[], some (.cell 0), [[(.str "a", .done (.dict [(.str "x", .int 0)]))], []]⟩,
      [⟨0, []⟩, ⟨1, ["a"]⟩]⟩ := by
  have hwrite : after (encodeValue ⟨[], []⟩) [] replacement =
      ⟨(Encoder.mk [] (some (.cell 0)) [[(.str "a", .cell 1)], []]).write 0 "a"
        (.done (.dict [(.str "x", .int 0)])), [⟨0, []⟩, ⟨1, ["a"]⟩]⟩ := rfl
  rw [hwrite]
  simp [Encoder.write, Cell.put]

/-- The handle of the dictionary that has been replaced is not attached: the number that is
    written through it stands nowhere. -/
theorem written_iff_attached_replacement : ∃ w',
    (Operation.put 1 (.int 2) "b").perform (encodeValue ⟨[], []⟩)
      (after (encodeValue ⟨[], []⟩) [] replacement) = .ok () w' ∧
    w'.encoder.value = .dict [(.str "a", .dict [(.str "x", .int 0)])] := by
  have hhandle : (after (encodeValue ⟨[], []⟩) [] replacement).handles[1]? = some ⟨1, ["a"]⟩ := rfl
  have hperform : (Operation.put 1 (.int 2) "b").perform (encodeValue ⟨[], []⟩)
      (after (encodeValue ⟨[], []⟩) [] replacement) = .ok () _ := rfl
  obtain ⟨p, r, -, -, -, hlost⟩ := written_iff_attached ⟨[], []⟩ [] replacement rfl hhandle hperform
  refine ⟨_, hperform, (hlost rfl).trans ?_⟩
  rw [after_replacement]
  rfl

/-- Not every write is part of the representation. -/
theorem exists_lost : ∃ w',
    (after (encodeValue ⟨[], []⟩) [] replacement).handles[1]? = some ⟨1, ["a"]⟩ ∧
    (Operation.put 1 (.int 2) "b").perform (encodeValue ⟨[], []⟩)
      (after (encodeValue ⟨[], []⟩) [] replacement) = .ok () w' ∧
    encodeValue ⟨[], []⟩ (.int 2) ["a", "b"] = .ok (.int 2) ∧
    w'.encoder.value.at? ["a", "b"] = none := by
  have hvalue : ((Encoder.mk [] (some (.cell 0))
      [[(.str "a", .done (.dict [(.str "x", .int 0)]))], []]).write 1 "b" (.done (.int 2))).value =
        .dict [(.str "a", .dict [(.str "x", .int 0)])] := rfl
  rw [after_replacement]
  refine ⟨_, rfl, rfl, rfl, (congrArg (Value.at? · ["a", "b"]) hvalue).trans ?_⟩
  simp [Value.at?_cons, Value.child?, Value.lookup]

end Writing

end CodecForge.Coding
