/-
  CodecForge — what laying out makes of a text.

  * `filter_squeeze`, `filter_withoutEmptyEnds`: only blank lines are dropped, so the lines in
    which something is written come through in order (`writtenLines_format`);
  * `not_crowded_squeeze`: no more than two blank lines are left in a row, and
    `squeeze_eq_self`: where there are no more, none is dropped;
  * `Tidy` is a text without blank lines and blanks at its ends, `Reset` a line before and after;
    `format_normalizes` puts these together.
-/
import CodecForge.Proofs.Layout.Reindenting
import CodecForge.Proofs.Related

namespace CodecForge.Layout

open Text (splitOn dropEnd isBlank withoutEmptyEnds)

variable {l : List Char} {ls ks : List (List Char)} {code : String}

/-! ## Blank lines in a row -/

/-- Three blank lines in a row. -/
def Crowded (ls : List (List Char)) : Prop := List.replicate 3 [] <:+: ls

theorem Crowded.of_infix (h : Crowded ls) (hls : ls <:+: ks) : Crowded ks := h.trans hls

/-- Blank lines in a row stand before or after a line in which something stands. -/
theorem crowded_append_cons (hl : l.isEmpty = false) (h : Crowded (ks ++ l :: ls)) :
    Crowded ks ∨ Crowded ls := by
  have hl' : l ∉ List.replicate 3 [] := by
    rw [List.mem_replicate]
    rintro ⟨-, rfl⟩
    cases hl
  exact infix_append_cons hl' h

/-- One blank line more is not too many after a line in which something stands. -/
theorem not_crowded_concat (h : ¬ Crowded ls) (hlast : ∀ l ∈ ls.getLast?, l.isEmpty = false) :
    ¬ Crowded (ls ++ [[]]) := by
  rcases List.eq_nil_or_concat ls with rfl | ⟨before, l, rfl⟩
  · exact fun hcrowded => absurd hcrowded.length_le (by decide)
  · rw [List.concat_eq_append] at h
    intro hcrowded
    rw [List.concat_append] at hcrowded
    rcases crowded_append_cons (hlast l (by simp)) hcrowded with hbefore | hafter
    · exact h (hbefore.of_infix (List.prefix_append ..).isInfix)
    · exact absurd hafter.length_le (by decide)

/-- Of blank lines in a row two are left, counted with those before. -/
theorem not_crowded_squeeze (ls : List (List Char)) :
    ∀ n, ¬ Crowded (List.replicate (min n 2) [] ++ squeeze n ls) := by
  induction ls with
  | nil =>
    intro n h
    have hlen := h.length_le
    simp only [squeeze, List.append_nil, List.length_replicate] at hlen
    omega
  | cons l ls ih =>
    intro n h
    rw [squeeze] at h
    cases hl : l.isEmpty with
    | false =>
      rw [hl, if_neg Bool.false_ne_true] at h
      rcases crowded_append_cons hl h with h | h
      · exact ih n (h.of_infix (List.infix_append_left ..))
      · exact ih 0 h
    | true =>
      rw [hl, if_pos rfl] at h
      cases List.isEmpty_iff.1 hl
      refine ih (n + 1) ?_
      split at h
      · next hn =>
        rw [Nat.min_eq_left (by omega)] at h ⊢
        rw [List.replicate_succ']
        simpa using h
      · next hn =>
        rw [Nat.min_eq_right (by omega)] at h ⊢
        exact h

/-- Where blank lines stand in no larger numbers, none is dropped. -/
theorem squeeze_eq_self : ∀ {n : Nat} {ls : List (List Char)}, n ≤ 2 →
    ¬ Crowded (List.replicate n [] ++ ls) → squeeze n ls = ls
  | _, [], _, _ => rfl
  | n, l :: ls, hn, h => by
    rw [squeeze]
    cases hl : l.isEmpty with
    | false =>
      have hls : ¬ Crowded ls := by
        intro hls
        have htail : ls <:+: l :: ls := List.infix_cons (List.infix_refl ls)
        exact h (hls.of_infix (List.infix_append_of_infix_right htail))
      rw [if_neg Bool.false_ne_true, squeeze_eq_self (Nat.zero_le 2) hls]
    | true =>
      cases List.isEmpty_iff.1 hl
      have hcons : List.replicate n [] ++ [] :: ls = List.replicate (n + 1) [] ++ ls := by
        rw [List.replicate_succ']
        simp
      rw [hcons] at h
      have hlt : n < 2 := by
        by_contra hge
        refine h ?_
        rw [show n = 2 by omega]
        exact List.infix_append_left ..
      rw [if_pos rfl, if_pos hlt, squeeze_eq_self hlt h]

/-! ## Lines that are not blank -/

theorem filter_squeeze (ls : List (List Char)) (n : Nat) :
    (squeeze n ls).filter (!·.isEmpty) = ls.filter (!·.isEmpty) := by
  induction ls generalizing n with
  | nil => rfl
  | cons l ls ih =>
    rw [squeeze]
    cases hl : l.isEmpty with
    | false => simp [hl, ih]
    | true =>
      rw [if_pos rfl]
      split <;> simp [hl, ih]

theorem filter_withoutEmptyEnds (ls : List (List Char)) :
    (withoutEmptyEnds ls).filter (!·.isEmpty) = ls.filter (!·.isEmpty) :=
  (filter_rdropWhile _ _).trans (filter_dropWhile _ _)

theorem isEmpty_dropEnd (l : List Char) : (dropEnd isBlank l).isEmpty = l.all isBlank := by
  rw [Bool.eq_iff_iff, List.isEmpty_iff, List.all_eq_true]
  exact List.rdropWhile_eq_nil_iff

/-- The lines that are kept say what the lines of the text say. -/
theorem filter_keptLines (code : List Char) : (keptLines code).filter (!·.isEmpty) =
    ((splitOn '\n' code).filter fun l => !l.all isBlank).map (dropEnd isBlank) := by
  rw [keptLines, filter_withoutEmptyEnds, filter_squeeze, trimmedLines, List.filter_map]
  congr 1
  exact List.filter_congr fun l _ => by rw [Function.comp_apply, isEmpty_dropEnd]

/-! ## Ends of lines -/

theorem not_isBlank_of_getLast? {c : Char} (h : (dropEnd isBlank l).getLast? = some c) :
    isBlank c = false := by
  obtain ⟨hne, rfl⟩ := List.mem_getLast?_eq_getLast h
  exact Text.getLast_dropEnd hne

/-- The end of a line stays where the line is reindented. -/
theorem getLast?_reindent (size : Int) (l : List Char) :
    (reindent size (dropEnd isBlank l)).getLast? = (dropEnd isBlank l).getLast? := by
  by_cases h : dropEnd isBlank l = []
  · have hnil := isEmpty_reindent size l
    rw [h] at hnil ⊢
    rw [List.isEmpty_iff.1 hnil]
  unfold reindent
  split
  · rfl
  · have hrest := dropWhile_dropEnd_ne_nil h
    conv_rhs => rw [eq_replicate_append (dropEnd isBlank l)]
    rw [List.getLast?_append_of_ne_nil _ hrest, List.getLast?_append_of_ne_nil _ hrest]

/-- A line at a width is blank only if it is empty. -/
theorem all_isBlank_reindent (size : Int) (l : List Char) :
    (reindent size (dropEnd isBlank l)).all isBlank = (dropEnd isBlank l).isEmpty := by
  cases h : (dropEnd isBlank l).getLast? with
  | none =>
    have hnil : dropEnd isBlank l = [] := List.getLast?_eq_none_iff.1 h
    have hempty := isEmpty_reindent size l
    rw [hnil] at hempty ⊢
    rw [List.isEmpty_iff.1 hempty]
    rfl
  | some c =>
    have hmem := List.mem_of_getLast? ((getLast?_reindent size l).trans h)
    have hne : dropEnd isBlank l ≠ [] := fun hnil => by simp [hnil] at h
    rw [List.isEmpty_eq_false_iff.2 hne, List.all_eq_false]
    exact ⟨c, hmem, by simp [not_isBlank_of_getLast? h]⟩

/-! ### The first and the last line -/

theorem head?_withoutEmptyEnds (ls : List (List Char)) :
    (withoutEmptyEnds ls).head? ≠ some [] := by
  intro h
  obtain ⟨rest, hrest⟩ : withoutEmptyEnds ls <+: ls.dropWhile List.isEmpty :=
    List.rdropWhile_prefix ..
  have hhead := List.head?_dropWhile_not List.isEmpty ls
  rw [← hrest, List.head?_append, h] at hhead
  cases hhead

theorem getLast?_withoutEmptyEnds (ls : List (List Char)) :
    (withoutEmptyEnds ls).getLast? ≠ some [] := by
  intro h
  obtain ⟨hne, hlast⟩ := List.mem_getLast?_eq_getLast h
  exact List.rdropWhile_last_not _ _ hne (hlast ▸ rfl)

/-- A blank line after the last one is dropped, and no other line. -/
theorem withoutEmptyEnds_append (ls : List (List Char)) :
    withoutEmptyEnds (withoutEmptyEnds ls ++ [[]]) = withoutEmptyEnds ls := by
  have hhead := head?_withoutEmptyEnds ls
  have hlast := getLast?_withoutEmptyEnds ls
  generalize withoutEmptyEnds ls = ks at hhead hlast
  cases ks with
  | nil => rfl
  | cons k ks =>
    have hk : k.isEmpty = false := List.isEmpty_eq_false_iff.2 fun h => hhead (congrArg some h)
    rw [withoutEmptyEnds, List.cons_append, List.dropWhile_cons_of_neg (by simp [hk]),
      ← List.cons_append, List.rdropWhile_concat_pos _ _ _ rfl, List.rdropWhile_eq_self_iff]
    intro hne hempty
    exact hlast (by rw [List.getLast?_eq_some_getLast hne, List.isEmpty_iff.1 hempty])

/-! ## The lines of a text at a width -/

/-- **No three blank lines in a row are left.** -/
theorem not_crowded_formatChars (size : Int) (code : List Char) :
    ¬ Crowded (splitOn '\n' (formatChars size code)) := by
  have hempty : ∀ l ∈ trimmedLines code, (reindent size l).isEmpty = l.isEmpty :=
    List.forall_mem_map.2 fun m _ => isEmpty_reindent size m
  have hlines : ¬ Crowded ((keptLines code).map (reindent size)) := by
    intro h
    have hsqueezed : (keptLines code).map (reindent size) <:+:
        squeeze 0 ((trimmedLines code).map (reindent size)) := by
      rw [squeeze_map hempty]
      exact List.IsInfix.map _ ((List.rdropWhile_prefix ..).isInfix.trans
        (List.dropWhile_suffix _).isInfix)
    exact not_crowded_squeeze _ 0 (h.of_infix hsqueezed)
  have hlast : ∀ l ∈ ((keptLines code).map (reindent size)).getLast?, l.isEmpty = false := by
    rw [List.getLast?_map]
    intro l hl
    obtain ⟨m, hm, rfl⟩ := Option.map_eq_some_iff.1 hl
    rw [hempty m (mem_trimmedLines_of_mem_keptLines (List.mem_of_getLast? hm))]
    exact List.isEmpty_eq_false_iff.2 fun hnil => getLast?_withoutEmptyEnds _ (hnil ▸ hm)
  rw [splitOn_formatChars]
  split
  · exact fun h => absurd h.length_le (by decide)
  · exact not_crowded_concat hlines hlast

/-- No line that is laid out ends in white space. -/
theorem not_isBlank_of_mem_formatChars {size : Int} {code : List Char}
    (hl : l ∈ splitOn '\n' (formatChars size code)) : ∀ c ∈ l.getLast?, isBlank c = false := by
  have hempty : ∀ c ∈ ([] : List Char).getLast?, isBlank c = false := by simp
  rw [splitOn_formatChars, List.mem_append, List.mem_singleton] at hl
  rcases hl with hl | rfl
  · split at hl
    · rwa [List.mem_singleton.1 hl]
    · obtain ⟨m, hm, rfl⟩ := List.mem_map.1 hl
      obtain ⟨k, -, rfl⟩ := List.mem_map.1 (mem_trimmedLines_of_mem_keptLines hm)
      rw [getLast?_reindent]
      exact fun c hc => not_isBlank_of_getLast? hc
  · exact hempty

/-- **A text that is laid out keeps its lines.** -/
theorem keptLines_formatChars (code : List Char) :
    keptLines (formatChars unit code) = keptLines code := by
  have hlines : trimmedLines (formatChars unit code) = splitOn '\n' (formatChars unit code) := by
    have hself : ∀ l ∈ splitOn '\n' (formatChars unit code), dropEnd isBlank l = id l := by
      intro l hl
      refine List.rdropWhile_eq_self_iff.2 fun hne hblank => ?_
      rw [not_isBlank_of_mem_formatChars hl _ (List.getLast?_eq_some_getLast hne)] at hblank
      cases hblank
    exact (List.map_congr_left hself).trans (List.map_id _)
  rw [keptLines, hlines, squeeze_eq_self (Nat.zero_le 2) (not_crowded_formatChars unit code),
    splitOn_formatChars, map_reindent_unit]
  split
  · next h =>
    rw [List.isEmpty_iff.1 h]
    rfl
  · exact withoutEmptyEnds_append _

/-- **A text that is laid out stays as it is.** -/
theorem format_format (code : String) : format unit (format unit code) = format unit code := by
  rw [format, format, String.toList_ofList, formatChars_eq, keptLines_formatChars,
    ← formatChars_eq]

/-! ## Before and after -/

/-- A line of white space. -/
def isBlankLine (l : String) : Bool := l.toList.all isBlank

/-- The lines of a text in which something is written. -/
def writtenLines (s : String) : List String := (Text.lines s).filter fun l => !isBlankLine l

/-- A line in which something is written, and what becomes of it at a width: the white space at
    its end is gone, and its levels are written in that width. -/
def Reset (size : Nat) (l l' : String) : Prop :=
  ∃ (n : Nat) (body tail : List Char), body.head? ≠ some ' ' ∧
    (∃ c, body.getLast? = some c ∧ isBlank c = false) ∧ (∀ c ∈ tail, isBlank c) ∧
    l.toList = List.replicate n ' ' ++ body ++ tail ∧
    l'.toList = List.replicate (n / unit * size + n % unit) ' ' ++ body

/-- A text without blank lines and blanks at its ends. -/
structure Tidy (s : String) : Prop where
  /-- one line feed ends it -/
  ended : ∃ body : List Char, s.toList = body ++ ['\n'] ∧ body.getLast? ≠ some '\n'
  /-- a blank line begins it only if there is no other -/
  begun : (Text.lines s).head?.any isBlankLine → s = "\n"
  /-- no line ends in white space -/
  trimmed : ∀ l ∈ Text.lines s, ∀ c ∈ l.toList.getLast?, isBlank c = false
  /-- no three blank lines follow each other -/
  spaced : ∀ a b c, [a, b, c] <:+: Text.lines s →
    ¬ (isBlankLine a ∧ isBlankLine b ∧ isBlankLine c)

theorem lines_eq (s : String) : Text.lines s = (splitOn '\n' s.toList).map String.ofList := rfl

theorem toList_lines (s : String) : (Text.lines s).map String.toList = splitOn '\n' s.toList := by
  rw [lines_eq, List.map_map]
  exact List.map_id'' (fun _ => String.toList_ofList) _

theorem writtenLines_eq (s : String) : writtenLines s =
    ((splitOn '\n' s.toList).filter fun l => !l.all isBlank).map String.ofList := by
  rw [writtenLines, lines_eq, List.filter_map]
  congr 1
  exact List.filter_congr fun l _ => by rw [Function.comp_apply, isBlankLine, String.toList_ofList]

/-- **What is written comes through, line by line.** -/
theorem writtenLines_format (size : Int) (code : String) : writtenLines (format size code) =
    (writtenLines code).map fun l => String.ofList (reindent size (dropEnd isBlank l.toList)) := by
  have hkept : ((keptLines code.toList).map (reindent size)).filter (fun l => !l.all isBlank) =
      ((keptLines code.toList).filter (!·.isEmpty)).map (reindent size) := by
    rw [List.filter_map]
    congr 1
    refine List.filter_congr fun l hl => ?_
    obtain ⟨m, -, rfl⟩ := List.mem_map.1 (mem_trimmedLines_of_mem_keptLines hl)
    rw [Function.comp_apply, all_isBlank_reindent]
  have hlines : (splitOn '\n' (formatChars size code.toList)).filter (fun l => !l.all isBlank) =
      ((keptLines code.toList).map (reindent size)).filter fun l => !l.all isBlank := by
    rw [splitOn_formatChars, List.filter_append]
    split
    · next h =>
      rw [List.isEmpty_iff.1 h]
      rfl
    · simp
  rw [writtenLines_eq, format, String.toList_ofList, hlines, hkept, filter_keptLines,
    writtenLines_eq]
  simp only [List.map_map, Function.comp_def, String.toList_ofList]

theorem reset_reindent (size : Nat) {l : String} (hl : isBlankLine l = false) :
    Reset size l (String.ofList (reindent size (dropEnd isBlank l.toList))) := by
  obtain ⟨tail, htail, hsplit⟩ : ∃ tail : List Char, (∀ c ∈ tail, isBlank c) ∧
      dropEnd isBlank l.toList ++ tail = l.toList := by
    refine ⟨l.toList.rtakeWhile isBlank, fun c => List.mem_rtakeWhile_imp, ?_⟩
    exact List.rdropWhile_append_rtakeWhile ..
  rw [isBlankLine, ← isEmpty_dropEnd, List.isEmpty_eq_false_iff] at hl
  have hbody := eq_replicate_append (dropEnd isBlank l.toList)
  have hne := dropWhile_dropEnd_ne_nil hl
  refine ⟨leadingBlanks (dropEnd isBlank l.toList), _, tail, head?_dropWhile _, ?_, htail,
    hbody ▸ hsplit.symm, ?_⟩
  · refine ⟨_, List.getLast?_eq_some_getLast hne, not_isBlank_of_getLast? (l := l.toList) ?_⟩
    conv_lhs => rw [hbody]
    rw [List.getLast?_append_of_ne_nil _ hne, List.getLast?_eq_some_getLast hne]
  · rw [String.toList_ofList, reindent]
    split
    · next hsize =>
      rw [Int.ofNat_inj.1 hsize, Nat.div_add_mod']
      exact hbody
    · rw [widthOf]
      norm_cast

theorem eq_empty_of_isBlankLine {l : String} (hs : ∀ c ∈ l.toList.getLast?, isBlank c = false)
    (hl : isBlankLine l) : l.toList = [] := by
  rw [isBlankLine, List.all_eq_true] at hl
  cases h : l.toList.getLast? with
  | none => exact List.getLast?_eq_none_iff.1 h
  | some c => exact absurd (hl c (List.mem_of_getLast? h)) (by simp [hs c h])

/-- **A text that is laid out is tidy.** -/
theorem tidy_format (size : Int) (code : String) : Tidy (format size code) := by
  have htrimmed : ∀ l ∈ Text.lines (format size code), ∀ c ∈ l.toList.getLast?,
      isBlank c = false := by
    rw [lines_eq, format, String.toList_ofList, List.forall_mem_map]
    intro l hl
    rw [String.toList_ofList]
    exact not_isBlank_of_mem_formatChars hl
  refine ⟨⟨_, String.toList_ofList, fun hfeed => ?_⟩, fun hblank => ?_, htrimmed, ?_⟩
  · obtain ⟨hne, hlast⟩ := List.mem_getLast?_eq_getLast hfeed
    exact absurd (Text.getLast_strip hne) (by simp [← hlast])
  · by_cases hkept : keptLines code.toList = []
    · rw [format, formatChars_eq, hkept]
      rfl
    · obtain ⟨k, ks, hks⟩ := List.exists_cons_of_ne_nil hkept
      obtain ⟨m, -, rfl⟩ := List.mem_map.1
        (mem_trimmedLines_of_mem_keptLines (hks ▸ List.mem_cons_self))
      have hhead : (Text.lines (format size code)).head? =
          some (String.ofList (reindent size (dropEnd isBlank m))) := by
        rw [lines_eq, format, String.toList_ofList, splitOn_formatChars, hks]
        rfl
      rw [hhead, Option.any_some, isBlankLine, String.toList_ofList, all_isBlank_reindent,
        List.isEmpty_iff] at hblank
      exact absurd (hblank ▸ congrArg List.head? hks) (head?_withoutEmptyEnds _)
  · rintro a b c habc ⟨ha, hb, hc⟩
    have hempty : ∀ l ∈ [a, b, c], isBlankLine l → l.toList = [] := fun l hl =>
      eq_empty_of_isBlankLine (htrimmed l (habc.mem hl))
    have hcrowded := habc.map String.toList
    rw [toList_lines, List.map_cons, List.map_cons, List.map_singleton, hempty a (by simp) ha,
      hempty b (by simp) hb, hempty c (by simp) hc, format, String.toList_ofList] at hcrowded
    exact not_crowded_formatChars size code.toList hcrowded

/-- **Laying out a text normalizes it and loses nothing.**  At any width a text has a layout
    unless there is no room for a line.  The layout is tidy, and its lines in which something is
    written are those of the text, in order, each one without the white space at its end and with
    its levels in that width.  At the width of the source no line is reindented, and a text that
    is laid out stays as it is. -/
theorem format_normalizes (n : Nat) (code : String) :
    (∀ laidOut, formatWith (.int n) code = .ok laidOut ↔
      HasRoom n code ∧ laidOut = format n code) ∧
    Tidy (format n code) ∧
    List.Forall₂ (Reset n) (writtenLines code) (writtenLines (format n code)) ∧
    writtenLines (format unit code) = (writtenLines code).map Text.trimEnd ∧
    format unit (format unit code) = format unit code := by
  refine ⟨fun _ => formatWith_eq_ok_iff, tidy_format n code, ?_, ?_, format_format code⟩
  · rw [writtenLines_format, List.forall₂_map_right_iff, List.forall₂_same]
    intro l hl
    exact reset_reindent n (by simpa using (List.mem_filter.1 hl).2)
  · rw [writtenLines_format]
    exact List.map_congr_left fun l _ => congrArg String.ofList (if_pos rfl)

/-- A block at two blanks for a level; of the four blank lines two stay. -/
example : format 2 "def f():  \n    if x:\n\n\n\n\n        y\n\n" =
    "def f():\n  if x:\n\n\n    y\n" := by
  decide +kernel

end CodecForge.Layout
