/-
  CodecForge — the same text at different widths.

  Laying a text out at a width changes the blanks at the beginnings of its lines, drops blank
  lines and drops blanks at the ends of lines.

  * `splitOn_joinWith`, `strip_joinWith`: a text as its lines;
  * `lines_format`: the lines at a width are the lines at the width of the source itself, each
    one reindented, since no line becomes blank and none ceases to be;
  * `Aligned` is source whose indentation is a multiple of the unit in every line;
    `reindented_format_iff`: only such source is laid out level by level;
  * `Fits` says that no line has more blanks than a text can have, and `HasRoom` is that for
    widths that are not negative; `formatWith_eq_ok_iff_fits` and `formatWith_eq_ok_iff`: only
    then a text has a layout.
-/
import CodecForge.Layout
import CodecForge.Proofs.Naming.Safety

namespace CodecForge

/-! ## Texts as their lines -/

namespace Text

variable {c : Char}

theorem splitOn_append (c : Char) (a b : List Char) :
    splitOn c (a ++ c :: b) = splitOn c a ++ splitOn c b := by
  induction a with
  | nil => simp [splitOn]
  | cons x xs ih =>
    rw [List.cons_append, splitOn, splitOn, ih]
    split
    · rfl
    · cases hs : splitOn c xs with
      | nil => exact absurd hs (splitOn_ne_nil c xs)
      | cons p ps => rfl

theorem splitOn_of_notMem {l : List Char} (h : c ∉ l) : splitOn c l = [l] := by
  induction l with
  | nil => rfl
  | cons x xs ih =>
    rw [List.mem_cons, not_or] at h
    rw [splitOn, if_neg (Ne.symm h.1), ih h.2]

theorem notMem_of_mem_splitOn : ∀ {cs l : List Char}, l ∈ splitOn c cs → c ∉ l
  | [], l, h => by
    rw [List.mem_singleton.1 h]
    exact List.not_mem_nil
  | x :: xs, l, h => by
    rw [splitOn] at h
    split at h
    · rcases List.mem_cons.1 h with rfl | h
      · exact List.not_mem_nil
      · exact notMem_of_mem_splitOn h
    · next hx =>
      cases hs : splitOn c xs with
      | nil => exact absurd hs (splitOn_ne_nil c xs)
      | cons p ps =>
        rw [hs] at h
        rcases List.mem_cons.1 h with rfl | h
        · have hp : c ∉ p := notMem_of_mem_splitOn (hs ▸ List.mem_cons_self)
          rw [List.mem_cons, not_or]
          exact ⟨Ne.symm hx, hp⟩
        · exact notMem_of_mem_splitOn (hs ▸ List.mem_cons_of_mem p h)

/-- **Lines that are put together are the lines of the text.** -/
theorem splitOn_joinWith : ∀ {ls : List (List Char)}, ls ≠ [] → (∀ l ∈ ls, c ∉ l) →
    splitOn c (joinWith c ls) = ls
  | [], h, _ => absurd rfl h
  | [l], _, h => splitOn_of_notMem (h l List.mem_cons_self)
  | l :: m :: ls, _, h => by
    rw [joinWith, splitOn_append, splitOn_of_notMem (h l List.mem_cons_self),
      splitOn_joinWith (List.cons_ne_nil m ls) fun k hk => h k (List.mem_cons_of_mem l hk)]
    rfl

theorem joinWith_concat {ls : List (List Char)} (h : ls ≠ []) (l : List Char) :
    joinWith c (ls ++ [l]) = joinWith c ls ++ c :: l := by
  induction ls with
  | nil => exact absurd rfl h
  | cons m ls ih =>
    cases ls with
    | nil => rfl
    | cons k ls =>
      have hrest := ih (List.cons_ne_nil k ls)
      simp only [List.cons_append, joinWith, List.append_assoc] at hrest ⊢
      rw [hrest]

/-! ### Blank lines at the ends -/

/-- The lines without the empty ones at both ends. -/
def withoutEmptyEnds (ls : List (List Char)) : List (List Char) :=
  (ls.dropWhile List.isEmpty).rdropWhile List.isEmpty

theorem mem_of_mem_withoutEmptyEnds {ls : List (List Char)} {l : List Char}
    (h : l ∈ withoutEmptyEnds ls) : l ∈ ls :=
  (List.dropWhile_sublist _).mem ((List.rdropWhile_prefix ..).mem h)

theorem mem_withoutEmptyEnds_iff {ls : List (List Char)} {l : List Char} (hl : l ≠ []) :
    l ∈ withoutEmptyEnds ls ↔ l ∈ ls := by
  have hdrop : ∀ ks : List (List Char), l ∈ ks.dropWhile List.isEmpty ↔ l ∈ ks := by
    intro ks
    induction ks with
    | nil => rfl
    | cons k ks ih =>
      rw [List.dropWhile_cons]
      split
      · next hk =>
        rw [ih, List.mem_cons, or_iff_right]
        rintro rfl
        exact hl (List.isEmpty_iff.1 hk)
      · rfl
  rw [withoutEmptyEnds, List.rdropWhile, List.mem_reverse, hdrop, List.mem_reverse, hdrop]

theorem withoutEmptyEnds_map {f : List Char → List Char} {ls : List (List Char)}
    (h : ∀ l ∈ ls, (f l).isEmpty = l.isEmpty) :
    withoutEmptyEnds (ls.map f) = (withoutEmptyEnds ls).map f := by
  have hdrop : ∀ ks : List (List Char), (∀ l ∈ ks, (f l).isEmpty = l.isEmpty) →
      (ks.map f).dropWhile List.isEmpty = (ks.dropWhile List.isEmpty).map f := by
    intro ks hks
    induction ks with
    | nil => rfl
    | cons k ks ih =>
      rw [List.map_cons, List.dropWhile_cons, List.dropWhile_cons, hks k List.mem_cons_self]
      split
      · exact ih fun l hl => hks l (List.mem_cons_of_mem k hl)
      · rfl
  simp only [withoutEmptyEnds, List.rdropWhile]
  rw [hdrop ls h, ← List.map_reverse, hdrop _ fun l hl => h l ((List.dropWhile_sublist _).mem
    (List.mem_reverse.1 hl)), List.map_reverse]

section
variable {ls : List (List Char)} (h : ∀ l ∈ ls, c ∉ l)
include h

theorem dropWhile_joinWith :
    (joinWith c ls).dropWhile (· == c) = joinWith c (ls.dropWhile List.isEmpty) := by
  induction ls with
  | nil => rfl
  | cons l ls ih =>
    have hrest := ih fun k hk => h k (List.mem_cons_of_mem l hk)
    cases l with
    | nil =>
      cases ls with
      | nil => rfl
      | cons m ls => simpa [joinWith] using hrest
    | cons x xs =>
      have hx : (x == c) = false := by
        rw [beq_eq_false_iff_ne]
        rintro rfl
        exact h _ List.mem_cons_self List.mem_cons_self
      cases ls <;> simp [joinWith, hx]

theorem dropEnd_joinWith :
    dropEnd (· == c) (joinWith c ls) = joinWith c (ls.rdropWhile List.isEmpty) := by
  change (joinWith c ls).rdropWhile (· == c) = _
  induction ls using List.reverseRecOn with
  | nil => rfl
  | append_singleton ls l ih =>
    have hrest := ih fun k hk => h k (List.mem_append_left _ hk)
    by_cases hl : l = []
    · rw [List.rdropWhile_concat_pos _ _ _ (List.isEmpty_iff.2 hl), ← hrest, hl]
      cases ls with
      | nil => rfl
      | cons m ls =>
        rw [joinWith_concat (List.cons_ne_nil m ls)]
        exact List.rdropWhile_concat_pos _ _ _ (beq_self_eq_true c)
    · have hlast : c ∉ l := h l (List.mem_append_right _ List.mem_cons_self)
      rw [List.rdropWhile_concat_neg _ _ _ (fun he => hl (List.isEmpty_iff.1 he)),
        List.rdropWhile_eq_self_iff]
      intro hne heq
      refine hlast ?_
      rw [← eq_of_beq heq]
      cases ls with
      | nil => exact List.getLast_mem hl
      | cons m ls =>
        simp only [joinWith_concat (List.cons_ne_nil m ls)]
        rw [List.getLast_append_of_right_ne_nil _ _ (List.cons_ne_nil c l),
          List.getLast_cons hl]
        exact List.getLast_mem hl

/-- **A text without separators at its ends has the same lines but for empty ones there.** -/
theorem strip_joinWith : strip (· == c) (joinWith c ls) = joinWith c (withoutEmptyEnds ls) := by
  rw [strip, dropWhile_joinWith h, dropEnd_joinWith fun l hl =>
    h l ((List.dropWhile_sublist _).mem hl)]
  rfl

end

end Text

namespace Layout

open Text (splitOn dropEnd isBlank withoutEmptyEnds)

variable {size : Int} {code : String} {l : List Char}

/-! ## Lines at a width -/

theorem map_reindent_unit (ls : List (List Char)) : ls.map (reindent unit) = ls :=
  List.map_id'' (fun _ => if_pos rfl) ls

/-- A line that does not end with a blank is more than blanks. -/
theorem dropWhile_dropEnd_ne_nil (h : dropEnd isBlank l ≠ []) :
    (dropEnd isBlank l).dropWhile (· == ' ') ≠ [] := by
  intro hempty
  rw [List.dropWhile_eq_nil_iff] at hempty
  have hlast := Text.getLast_dropEnd h
  rw [eq_of_beq (hempty _ (List.getLast_mem h))] at hlast
  cases hlast

/-- A line that does not end with a blank is not made empty, nor an empty line anything else. -/
theorem isEmpty_reindent (size : Int) (l : List Char) :
    (reindent size (dropEnd isBlank l)).isEmpty = (dropEnd isBlank l).isEmpty := by
  unfold reindent
  split
  · rfl
  · by_cases h : dropEnd isBlank l = []
    · simp [h, leadingBlanks, widthOf]
    · rw [List.isEmpty_eq_false_iff.2 h, List.isEmpty_eq_false_iff]
      exact List.append_ne_nil_of_right_ne_nil _ (dropWhile_dropEnd_ne_nil h)

theorem squeeze_map {f : List Char → List Char} : ∀ {n : Nat} {ls : List (List Char)},
    (∀ l ∈ ls, (f l).isEmpty = l.isEmpty) → squeeze n (ls.map f) = (squeeze n ls).map f
  | _, [], _ => rfl
  | n, l :: ls, h => by
    have hrest := fun k => squeeze_map (n := k) fun m hm => h m (List.mem_cons_of_mem l hm)
    rw [List.map_cons, squeeze, squeeze, h l List.mem_cons_self, hrest, hrest]
    split
    · split <;> rfl
    · rfl

theorem mem_of_mem_squeeze : ∀ {n : Nat} {ls : List (List Char)}, l ∈ squeeze n ls → l ∈ ls
  | _, [], h => h
  | n, m :: ls, h => by
    rw [squeeze] at h
    split at h
    · split at h
      · exact (List.mem_cons.1 h).elim (· ▸ List.mem_cons_self) fun h =>
          List.mem_cons_of_mem m (mem_of_mem_squeeze h)
      · exact List.mem_cons_of_mem m (mem_of_mem_squeeze h)
    · exact (List.mem_cons.1 h).elim (· ▸ List.mem_cons_self) fun h =>
        List.mem_cons_of_mem m (mem_of_mem_squeeze h)

/-- Only empty lines are dropped. -/
theorem mem_squeeze_iff (hl : l ≠ []) : ∀ {n : Nat} {ls : List (List Char)},
    l ∈ squeeze n ls ↔ l ∈ ls
  | _, [] => Iff.rfl
  | n, m :: ls => by
    have hskip : m.isEmpty → (l ∈ ls ↔ l ∈ m :: ls) := by
      intro hm
      rw [List.mem_cons, or_iff_right]
      rintro rfl
      exact hl (List.isEmpty_iff.1 hm)
    rw [squeeze]
    split
    · next hm =>
      split
      · rw [List.mem_cons, List.mem_cons, mem_squeeze_iff hl]
      · rw [mem_squeeze_iff hl, hskip hm]
    · rw [List.mem_cons, List.mem_cons, mem_squeeze_iff hl]

/-- The lines of a text without blanks at their ends. -/
def trimmedLines (code : List Char) : List (List Char) :=
  (splitOn '\n' code).map (dropEnd isBlank)

theorem notMem_of_mem_trimmedLines {code : List Char} (h : l ∈ trimmedLines code) : '\n' ∉ l := by
  obtain ⟨m, hm, rfl⟩ := List.mem_map.1 h
  exact fun hl => Text.notMem_of_mem_splitOn hm ((Text.isPrefix_dropEnd _ _).mem hl)

/-- The lines of a text at the width of the source, up to its last line feed. -/
def keptLines (code : List Char) : List (List Char) :=
  withoutEmptyEnds (squeeze 0 (trimmedLines code))

theorem mem_trimmedLines_of_mem_keptLines {code : List Char} (h : l ∈ keptLines code) :
    l ∈ trimmedLines code :=
  mem_of_mem_squeeze (Text.mem_of_mem_withoutEmptyEnds h)

theorem mem_keptLines_iff {code : List Char} (hl : l ≠ []) :
    l ∈ keptLines code ↔ l ∈ trimmedLines code := by
  rw [keptLines, Text.mem_withoutEmptyEnds_iff hl, mem_squeeze_iff hl]

theorem notMem_reindent (h : '\n' ∉ l) : '\n' ∉ reindent size l := by
  unfold reindent
  split
  · exact h
  · rw [List.mem_append, not_or, List.mem_replicate]
    refine ⟨fun hfeed => absurd hfeed.2 (by decide), fun hfeed => ?_⟩
    exact h ((List.dropWhile_sublist _).mem hfeed)

/-- **Which lines a text has does not depend on the width.** -/
theorem formatChars_eq (size : Int) (code : List Char) : formatChars size code =
    Text.joinWith '\n' ((keptLines code).map (reindent size)) ++ ['\n'] := by
  have hempty : ∀ l ∈ trimmedLines code, (reindent size l).isEmpty = l.isEmpty := by
    intro l hl
    obtain ⟨m, -, rfl⟩ := List.mem_map.1 hl
    exact isEmpty_reindent size m
  have hlines : formattedLines size code =
      (squeeze 0 (trimmedLines code)).map (reindent size) := by
    rw [← squeeze_map hempty, trimmedLines, List.map_map]
    rfl
  have hfeed : ∀ l ∈ formattedLines size code, '\n' ∉ l := by
    intro l hl
    rw [hlines] at hl
    obtain ⟨m, hm, rfl⟩ := List.mem_map.1 hl
    exact notMem_reindent (notMem_of_mem_trimmedLines (mem_of_mem_squeeze hm))
  rw [formatChars, Text.strip_joinWith hfeed, hlines,
    Text.withoutEmptyEnds_map fun l hl => hempty l (mem_of_mem_squeeze hl)]
  rfl

/-- The lines of a text at a width: the last one is empty, and a text of blank lines has an
    empty line besides. -/
theorem splitOn_formatChars (size : Int) (code : List Char) :
    splitOn '\n' (formatChars size code) =
      (if (keptLines code).isEmpty then [[]] else (keptLines code).map (reindent size)) ++
        [[]] := by
  rw [formatChars_eq, Text.splitOn_append]
  congr 1
  split
  · next h =>
    rw [List.isEmpty_iff.1 h]
    rfl
  · next h =>
    refine Text.splitOn_joinWith (fun hnil => ?_) fun l hl => ?_
    · exact h (List.isEmpty_iff.2 (List.map_eq_nil_iff.1 hnil))
    · obtain ⟨m, hm, rfl⟩ := List.mem_map.1 hl
      exact notMem_reindent (notMem_of_mem_trimmedLines (mem_trimmedLines_of_mem_keptLines hm))

/-- **The lines at a width are the lines of the source, each one reindented.** -/
theorem lines_format (size : Int) (code : String) : Text.lines (format size code) =
    (Text.lines (format unit code)).map fun l => String.ofList (reindent size l.toList) := by
  have hempty : reindent size [] = [] := List.isEmpty_iff.1 (isEmpty_reindent size [])
  simp only [Text.lines, Text.parts, format, String.toList_ofList, splitOn_formatChars,
    map_reindent_unit, List.map_map, Function.comp_def]
  split <;> simp [hempty, Function.comp_def]

/-- What holds of an empty line holds of the lines at the width of the source exactly if it holds
    of the lines of the source without blanks at their ends. -/
theorem forall_lines_format {P : List Char → Prop} (hP : P []) :
    (∀ l ∈ Text.lines (format unit code), P l.toList) ↔
      ∀ l ∈ splitOn '\n' code.toList, P (dropEnd isBlank l) := by
  have hkept : (∀ l ∈ Text.lines (format unit code), P l.toList) ↔
      ∀ l ∈ keptLines code.toList, P l := by
    simp only [Text.lines, Text.parts, format, String.toList_ofList, splitOn_formatChars,
      map_reindent_unit, List.forall_mem_map, List.forall_mem_append, List.forall_mem_singleton]
    rw [and_iff_left hP]
    split
    · next h =>
      rw [List.isEmpty_iff.1 h]
      simp [hP]
    · rfl
  rw [hkept]
  constructor
  · intro h l hl
    by_cases hempty : dropEnd isBlank l = []
    · rwa [hempty]
    · exact h _ ((mem_keptLines_iff hempty).2 (List.mem_map_of_mem hl))
  · intro h l hl
    obtain ⟨m, hm, rfl⟩ := List.mem_map.1 (mem_trimmedLines_of_mem_keptLines hl)
    exact h m hm

/-! ## Source in whole levels -/

/-- Source of which every line is indented by whole levels. -/
def Aligned (code : String) : Prop :=
  ∀ l ∈ splitOn '\n' code.toList, unit ∣ leadingBlanks (dropEnd isBlank l)

/-- A line at the width of the source, and the same line at `n` blanks for a level. -/
def Reindented (n : Nat) (l l' : String) : Prop :=
  ∃ (k : Nat) (body : List Char), body.head? ≠ some ' ' ∧
    l.toList = List.replicate (unit * k) ' ' ++ body ∧
    l'.toList = List.replicate (n * k) ' ' ++ body

/-- A line is its leading blanks and what follows them. -/
theorem eq_replicate_append (l : List Char) :
    l = List.replicate (leadingBlanks l) ' ' ++ l.dropWhile (· == ' ') := by
  have hblanks : l.takeWhile (· == ' ') = List.replicate (leadingBlanks l) ' ' := by
    refine List.eq_replicate_iff.2 ⟨rfl, fun c hc => ?_⟩
    have hblank := List.mem_takeWhile_imp (p := (· == ' ')) hc
    exact eq_of_beq hblank
  rw [← hblanks]
  exact List.takeWhile_append_dropWhile.symm

theorem head?_dropWhile (l : List Char) : (l.dropWhile (· == ' ')).head? ≠ some ' ' := by
  intro h
  have hnot := List.head?_dropWhile_not (· == ' ') l
  rw [h] at hnot
  exact absurd hnot (by decide)

theorem leadingBlanks_replicate (n : Nat) {body : List Char} (h : body.head? ≠ some ' ') :
    leadingBlanks (List.replicate n ' ' ++ body) = n := by
  have hbody : body.takeWhile (· == ' ') = [] := by
    cases body with
    | nil => rfl
    | cons c cs =>
      have hc : c ≠ ' ' := fun hc => h (congrArg some hc)
      simp [hc]
  rw [leadingBlanks, List.takeWhile_append_of_pos fun c hc => by
    rw [List.eq_of_mem_replicate hc, beq_self_eq_true], hbody, List.append_nil,
    List.length_replicate]

/-- A line is reindented level by level exactly if it is indented by whole levels. -/
theorem reindented_reindent_iff (n : Nat) (l : String) :
    Reindented n l (String.ofList (reindent n l.toList)) ↔ unit ∣ leadingBlanks l.toList := by
  constructor
  · rintro ⟨k, body, hbody, hl, -⟩
    rw [hl, leadingBlanks_replicate _ hbody]
    exact dvd_mul_right unit k
  · rintro ⟨k, hk⟩
    have hl := eq_replicate_append l.toList
    rw [hk] at hl
    refine ⟨k, _, head?_dropWhile l.toList, hl, ?_⟩
    rw [String.toList_ofList, reindent]
    split
    · next hn =>
      rw [Int.ofNat_inj.1 hn]
      exact hl
    · have hwidth : (widthOf n (leadingBlanks l.toList)).toNat = n * k := by
        rw [hk, widthOf, Nat.mul_div_cancel_left k (by decide), Nat.mul_mod_right]
        push_cast
        rw [add_zero, ← Nat.cast_mul, Int.toNat_natCast, mul_comm]
      rw [hwidth]

/-- **A text is laid out level by level exactly if it is written in whole levels.** -/
theorem reindented_format_iff (n : Nat) (code : String) :
    List.Forall₂ (Reindented n) (Text.lines (format unit code)) (Text.lines (format n code)) ↔
      Aligned code := by
  rw [lines_format n, List.forall₂_map_right_iff, List.forall₂_same]
  simp only [reindented_reindent_iff]
  exact forall_lines_format (P := fun l => unit ∣ leadingBlanks l) (dvd_zero unit)

/-! ## Room -/

theorem faultOf?_eq_none_iff {count : Int} :
    faultOf? count = none ↔ -countBound ≤ count ∧ count < roomBound := by
  have hbounds : roomBound ≤ countBound := by decide
  unfold faultOf?
  split
  · next hwide =>
    rw [Bool.or_eq_true, decide_eq_true_eq, decide_eq_true_eq] at hwide
    exact iff_of_false nofun (by omega)
  · next hwide =>
    rw [Bool.or_eq_true, decide_eq_true_eq, decide_eq_true_eq] at hwide
    split
    · exact iff_of_false nofun (by omega)
    · exact iff_of_true rfl (by omega)

/-- At a width, which may be negative, every line of a text begins with a count of blanks that a
    text can have and that there is room for. -/
def Fits (size : Int) (code : String) : Prop :=
  size = unit ∨ ∀ l ∈ Text.lines (format unit code),
    -countBound ≤ widthOf size (leadingBlanks l.toList) ∧
      widthOf size (leadingBlanks l.toList) < roomBound

theorem lineFault?_eq_none_iff (size : Int) (code : String) :
    lineFault? size code = none ↔ Fits size code := by
  have hempty : -countBound ≤ widthOf size (leadingBlanks []) ∧
      widthOf size (leadingBlanks []) < roomBound := by
    simp [widthOf, leadingBlanks, roomBound, countBound]
  rw [lineFault?, Fits]
  split
  · next h => exact iff_of_true rfl (.inl h)
  · next h =>
    rw [or_iff_right h, List.findSome?_eq_none_iff, forall_lines_format
      (P := fun l => -countBound ≤ widthOf size (leadingBlanks l) ∧
        widthOf size (leadingBlanks l) < roomBound) hempty]
    simp only [Text.lines, Text.parts, List.forall_mem_map, String.toList_ofList,
      faultOf?_eq_none_iff]

/-- **A text has a layout at the width for which a value stands exactly if its lines fit.** -/
theorem formatWith_eq_ok_iff_fits {value : Json} {laidOut : String} :
    formatWith value code = .ok laidOut ↔
      ∃ size, sizeOf? value = some size ∧ Fits size code ∧ laidOut = format size code := by
  rw [formatWith]
  split
  · next hsize => simp [hsize]
  · next size hsize =>
    rw [hsize]
    simp only [Option.some.injEq, exists_eq_left', ← lineFault?_eq_none_iff]
    split
    · next fault h => simp [h]
    · next h => simp [h, eq_comm]

/-- There is room for every line of a text at a width. -/
def HasRoom (n : Nat) (code : String) : Prop :=
  n = unit ∨ ∀ l ∈ Text.lines (format unit code), widthOf n (leadingBlanks l.toList) < roomBound

/-- At a width that is not negative, all that lines need is room. -/
theorem fits_iff_hasRoom (n : Nat) (code : String) : Fits n code ↔ HasRoom n code := by
  have hcount : ∀ k, -countBound ≤ widthOf n k := by
    intro k
    have hpos : 0 ≤ widthOf n k := by
      unfold widthOf
      positivity
    exact le_trans (by decide) hpos
  simp only [Fits, HasRoom, hcount, true_and, Nat.cast_inj]

/-- **A text has a layout at a width exactly if there is room for its lines.** -/
theorem formatWith_eq_ok_iff {n : Nat} {laidOut : String} :
    formatWith (.int n) code = .ok laidOut ↔ HasRoom n code ∧ laidOut = format n code := by
  rw [formatWith_eq_ok_iff_fits, ← fits_iff_hasRoom]
  simp [sizeOf?]

end Layout

end CodecForge
