/-
  CodecForge — source in whole levels, part by part.

  * `aligned_append`, `aligned_text`, `aligned_intercalate`, `aligned_trimEnd`: texts put
    together are in whole levels exactly if the texts are;
  * `Neat` is a line that begins with whole levels; one is made of an opening and of texts
    without line feeds (`Neat.append`), and it is in whole levels (`Neat.aligned`);
  * `aligned_around`: so is a line around an identifier, which may bring a line feed along;
  * `aligned_comment`: the lines of a comment begin with its mark, whatever they say.
-/
import CodecForge.Proofs.Extraction.Identifiers
import CodecForge.Proofs.Json.Escapes
import CodecForge.Proofs.Layout.Reindenting
import CodecForge.Proofs.Plan.VariableNames
import CodecForge.Proofs.Target.Composition

namespace CodecForge

open Text (splitOn dropEnd isBlank isNameChar)

/-! ## Characters that a text avoids -/

/-- A text on one line, in the wide sense of what ends a line. -/
abbrev Text.OneLine (s : String) : Prop := Avoids isLineBreak s

/-- A text without line feeds. -/
abbrev Text.NoFeed (s : String) : Prop := Avoids (· == '\n') s

namespace Text

variable {p : Char → Bool} {a b s : String}

theorem noFeed_iff : NoFeed s ↔ '\n' ∉ s.toList := by
  simp only [Avoids, beq_eq_false_iff_ne]
  exact ⟨fun h hmem => h _ hmem rfl, fun h c hc heq => h (heq ▸ hc)⟩

theorem OneLine.noFeed (h : OneLine s) : NoFeed s := by
  rw [noFeed_iff]
  exact fun hmem => nomatch h _ hmem

theorem oneLine_of_nameChars (h : ∀ c ∈ s.toList, isNameChar c) : OneLine s := by
  intro c hc
  have hascii := Naming.lt_of_isNameChar (h c hc)
  have hall : ∀ n < 128, isNameChar (Char.ofNat n) → isLineBreak (Char.ofNat n) = false := by
    decide
  exact Naming.forall_ascii (P := fun c => isNameChar c → isLineBreak c = false) hall hascii
    (h c hc)

theorem IsWord.oneLine (h : IsWord s) : OneLine s := oneLine_of_nameChars h.nameChars

end Text

namespace Layout

open Text (Avoids NoFeed OneLine IsWord)

variable {a b s : String}

/-! ## Texts put together -/

theorem aligned_empty : Aligned "" := by
  intro l hl
  rw [List.mem_singleton.1 hl]
  exact dvd_zero unit

/-- **Lines before and after a line feed are in whole levels on their own.** -/
theorem aligned_append : Aligned (a ++ "\n" ++ b) ↔ Aligned a ∧ Aligned b := by
  have hlist : (a ++ "\n" ++ b).toList = a.toList ++ '\n' :: b.toList := by simp
  rw [Aligned, hlist, Text.splitOn_append, List.forall_mem_append]
  rfl

theorem aligned_feed : Aligned (a ++ "\n") ↔ Aligned a := by
  have happend : a ++ "\n" = a ++ "\n" ++ "" := by simp
  rw [happend, aligned_append, and_iff_left aligned_empty]

/-- The lines of a text in tokens, each with what tokens bring along. -/
theorem aligned_text {s : Source} : Aligned s.text ↔ ∀ l ∈ s, Aligned l.text := by
  induction s with
  | nil => simp [aligned_empty]
  | cons l ls ih =>
    have hcons : Source.text (l :: ls) = l.text ++ "\n" ++ Source.text ls := by
      simp [Source.text, String.join_cons]
    rw [hcons, aligned_append, ih, List.forall_mem_cons]

theorem aligned_append_feeds (n : Nat) :
    Aligned (a ++ String.ofList (List.replicate (n + 1) '\n') ++ b) ↔ Aligned a ∧ Aligned b := by
  induction n generalizing a with
  | zero => exact aligned_append
  | succ n ih =>
    have hsplit : a ++ String.ofList (List.replicate (n + 1 + 1) '\n') ++ b =
        a ++ "\n" ++ String.ofList (List.replicate (n + 1) '\n') ++ b := by
      apply String.toList_inj.1
      simp [List.replicate_succ]
    rw [hsplit, ih, aligned_feed]

/-- Texts with line feeds between them. -/
theorem aligned_intercalate (feeds : String) (n : Nat)
    (hfeeds : feeds = String.ofList (List.replicate (n + 1) '\n')) :
    ∀ {xs : List String}, Aligned (feeds.intercalate xs) ↔ ∀ x ∈ xs, Aligned x
  | [] => by simpa using aligned_empty
  | [x] => by simp
  | x :: y :: ys => by
    rw [String.intercalate_cons_of_ne_nil (List.cons_ne_nil y ys), hfeeds, aligned_append_feeds,
      ← hfeeds, aligned_intercalate feeds n hfeeds, List.forall_mem_cons (a := x)]

/-- A text is one line, or has a last line after a line feed. -/
theorem exists_lastLine (s : String) :
    '\n' ∉ s.toList ∨ ∃ before last : String, '\n' ∉ last.toList ∧ s = before ++ "\n" ++ last := by
  by_cases h : '\n' ∈ s.toList
  · obtain ⟨last, before, hs, hlast⟩ := List.eq_append_cons_of_mem (List.mem_reverse.2 h)
    refine .inr ⟨String.ofList before.reverse, String.ofList last.reverse, by simpa using hlast, ?_⟩
    apply String.toList_inj.1
    rw [← List.reverse_inj, hs]
    simp
  · exact .inl h

theorem aligned_iff_of_notMem (h : '\n' ∉ s.toList) :
    Aligned s ↔ unit ∣ leadingBlanks (dropEnd isBlank s.toList) := by
  rw [Aligned, Text.splitOn_of_notMem h, List.forall_mem_singleton]

/-- A blank at the end is in no line that is laid out. -/
theorem aligned_append_blank {c : Char} (hc : isBlank c) :
    Aligned (s ++ String.ofList [c]) ↔ Aligned s := by
  by_cases hfeed : c = '\n'
  · subst hfeed
    exact aligned_feed
  · have hline : ∀ l : String, '\n' ∉ l.toList →
        (Aligned (l ++ String.ofList [c]) ↔ Aligned l) := by
      intro l hl
      have hconcat : '\n' ∉ (l ++ String.ofList [c]).toList := by
        simpa using ⟨hl, Ne.symm hfeed⟩
      have htrim : dropEnd isBlank (l ++ String.ofList [c]).toList = dropEnd isBlank l.toList := by
        rw [String.toList_append, String.toList_ofList]
        exact List.rdropWhile_concat_pos _ _ _ hc
      rw [aligned_iff_of_notMem hconcat, aligned_iff_of_notMem hl, htrim]
    rcases exists_lastLine s with h | ⟨before, last, hlast, rfl⟩
    · exact hline s h
    · rw [String.append_assoc, aligned_append, aligned_append, hline last hlast]

theorem aligned_append_blanks {w : List Char} (hw : ∀ c ∈ w, isBlank c) :
    Aligned (s ++ String.ofList w) ↔ Aligned s := by
  induction w generalizing s with
  | nil => simp
  | cons c w ih =>
    have happend : s ++ String.ofList (c :: w) = s ++ String.ofList [c] ++ String.ofList w := by
      apply String.toList_inj.1
      simp
    rw [happend, ih fun d hd => hw d (List.mem_cons_of_mem c hd),
      aligned_append_blank (hw c List.mem_cons_self)]

/-- **Trimming leaves the levels of a text as they are.** -/
theorem aligned_trimEnd : Aligned (Text.trimEnd s) ↔ Aligned s := by
  have hs : s = Text.trimEnd s ++ String.ofList (s.toList.rtakeWhile isBlank) := by
    apply String.toList_inj.1
    rw [String.toList_append, String.toList_ofList, Text.trimEnd, String.toList_ofList]
    exact (List.rdropWhile_append_rtakeWhile ..).symm
  conv_rhs => rw [hs]
  exact (aligned_append_blanks fun c hc => List.mem_rtakeWhile_imp hc).symm

/-! ## Lines that begin with whole levels -/

/-- A text that begins with whole levels and goes on with something else than a blank. -/
def Opens (s : String) : Prop :=
  ∃ (k : Nat) (c : Char) (cs : List Char), ¬ isBlank c ∧
    s.toList = List.replicate (unit * k) ' ' ++ c :: cs

/-- Whether characters begin with whole levels. -/
def opensLevel (cs : List Char) : Bool :=
  match cs.dropWhile (· == ' ') with
  | [] => false
  | c :: _ => !isBlank c && leadingBlanks cs % unit == 0

theorem opens_ofList {cs : List Char} (h : opensLevel cs = true) : Opens (String.ofList cs) := by
  unfold opensLevel at h
  split at h
  · cases h
  · next c rest hrest =>
    rw [Bool.and_eq_true, Bool.not_eq_true', beq_iff_eq] at h
    obtain ⟨k, hk⟩ := Nat.dvd_of_mod_eq_zero h.2
    have hcs := eq_replicate_append cs
    rw [hk, hrest] at hcs
    exact ⟨k, c, rest, Bool.eq_false_iff.1 h.1, by rw [String.toList_ofList, ← hcs]⟩

theorem Opens.append (h : Opens a) (b : String) : Opens (a ++ b) := by
  obtain ⟨k, c, cs, hc, ha⟩ := h
  exact ⟨k, c, cs ++ b.toList, hc, by simp [ha]⟩

/-- A text moved in by a level. -/
theorem Opens.indent (h : Opens s) : Opens ("    " ++ s) := by
  obtain ⟨k, c, cs, hc, hs⟩ := h
  refine ⟨k + 1, c, cs, hc, ?_⟩
  rw [String.toList_append, hs, Nat.mul_succ, Nat.add_comm, List.replicate_add]
  rfl

theorem opens_of_isWord (h : IsWord s) : Opens s := by
  cases hs : s.toList with
  | nil => exact absurd (String.toList_eq_nil_iff.1 hs) h.ne_empty
  | cons c cs =>
    refine ⟨0, c, cs, fun hblank => ?_, hs⟩
    have hchar := h.nameChars c (hs ▸ List.mem_cons_self)
    have hall : ∀ n < 128, Text.isNameChar (Char.ofNat n) → ¬ isBlank (Char.ofNat n) := by decide
    exact Naming.forall_ascii (P := fun c => Text.isNameChar c → ¬ isBlank c) hall
      (Naming.lt_of_isNameChar hchar) hchar hblank

theorem dropEnd_append (cs ds : List Char) : dropEnd isBlank (cs ++ ds) =
    if (dropEnd isBlank ds).isEmpty then dropEnd isBlank cs else cs ++ dropEnd isBlank ds := by
  simp only [dropEnd, List.reverse_append, List.dropWhile_append, List.isEmpty_reverse]
  split
  · rfl
  · rw [List.reverse_append, List.reverse_reverse]

/-- A line moved in by a level is in whole levels exactly if the line is. -/
theorem aligned_indent_iff (h : '\n' ∉ s.toList) : Aligned ("    " ++ s) ↔ Aligned s := by
  have hlist : ("    " ++ s).toList = List.replicate unit ' ' ++ s.toList := by
    rw [String.toList_append]
    rfl
  have hfeed : '\n' ∉ ("    " ++ s).toList := by
    rw [hlist, List.mem_append, not_or]
    exact ⟨by decide, h⟩
  rw [aligned_iff_of_notMem hfeed, aligned_iff_of_notMem h, hlist, dropEnd_append]
  split
  · next hempty =>
    rw [List.isEmpty_iff.1 hempty]
    exact Iff.rfl
  · have hlevel : leadingBlanks (List.replicate unit ' ' ++ dropEnd isBlank s.toList) =
        unit + leadingBlanks (dropEnd isBlank s.toList) := by
      rw [leadingBlanks, List.takeWhile_append_of_pos fun c hc => by
        rw [List.eq_of_mem_replicate hc, beq_self_eq_true], List.length_append,
        List.length_replicate]
      rfl
    rw [hlevel, Nat.dvd_add_right (dvd_refl unit)]

/-- What begins with something else than a blank still does so without the blanks at its end. -/
theorem exists_dropEnd_cons {c : Char} (hc : ¬ isBlank c) (cs : List Char) :
    ∃ rest, dropEnd isBlank (c :: cs) = c :: rest := by
  have hone : dropEnd isBlank [c] = [c] := by simp [dropEnd, hc]
  rw [← List.singleton_append, dropEnd_append, hone]
  split
  · exact ⟨[], rfl⟩
  · exact ⟨_, rfl⟩

/-- A line that begins with whole levels, without the characters of a kind. -/
structure Neat (p : Char → Bool) (s : String) : Prop where
  opens : Opens s
  avoids : Avoids p s

section
variable {p : Char → Bool}

/-- A line that begins with whole levels, without line feeds. -/
abbrev NeatLine (s : String) : Prop := Neat (· == '\n') s

theorem neat_ofList {cs : List Char} (hopens : opensLevel cs = true)
    (havoids : cs.all (fun c => !p c) = true) : Neat p (String.ofList cs) :=
  ⟨opens_ofList hopens, Text.avoids_ofList havoids⟩

theorem Neat.append (ha : Neat p a) (hb : Avoids p b) : Neat p (a ++ b) :=
  ⟨ha.opens.append b, ha.avoids.append hb⟩

/-- The same with a text that is given by its characters. -/
theorem Neat.text {cs : List Char} (ha : Neat p a) (hcs : cs.all (fun c => !p c) = true) :
    Neat p (a ++ String.ofList cs) :=
  ha.append (Text.avoids_ofList hcs)

theorem Neat.indent (h : Neat p s) (hp : p ' ' = false) : Neat p ("    " ++ s) :=
  ⟨h.opens.indent, Avoids.append (Text.avoids_ofList (by simp [hp])) h.avoids⟩

theorem Neat.indentTwice (h : Neat p s) (hp : p ' ' = false) : Neat p ("        " ++ s) := by
  have hindented := (h.indent hp).indent hp
  rwa [← String.append_assoc] at hindented

/-- A text without line breaks has no line feeds. -/
theorem Neat.noFeed (h : Neat Text.isLineBreak s) : NeatLine s :=
  ⟨h.opens, Text.OneLine.noFeed h.avoids⟩

theorem neat_of_isWord (h : IsWord s) : Neat Text.isLineBreak s := ⟨opens_of_isWord h, h.oneLine⟩

theorem Neat.aligned (hp : p '\n' = true) (h : Neat p s) : Aligned s := by
  have hfeed : '\n' ∉ s.toList := fun hmem => nomatch hp.symm.trans (h.avoids _ hmem)
  obtain ⟨k, c, cs, hc, hs⟩ := h.opens
  obtain ⟨rest, hrest⟩ := exists_dropEnd_cons hc cs
  have hhead : (c :: rest).head? ≠ some ' ' := by
    rintro ⟨⟩
    exact hc rfl
  rw [aligned_iff_of_notMem hfeed, hs, dropEnd_append, hrest, if_neg (by simp),
    leadingBlanks_replicate _ hhead]
  exact dvd_mul_right unit k

end

/-! ## Lines around an identifier -/

/-- **A line around an identifier is in whole levels.**  If the identifier has a line feed, the
    line is cut in two after it. -/
theorem aligned_around {name : String} (ha : NeatLine a)
    (hname : Text.isAsciiIdentifier name) (hb : NoFeed b) (haligned : Aligned b) :
    Aligned (a ++ name ++ b) := by
  have hstem : ∀ stem : String, Text.isPlainName stem.toList → NeatLine (a ++ stem) :=
    fun _ hplain => ha.append (Text.isWord_of_isPlainName hplain).oneLine.noFeed
  rcases Text.isAsciiIdentifier_iff.1 hname with hplain | ⟨stem, hplain, rfl⟩
  · exact ((hstem name hplain).append hb).aligned rfl
  · rw [← String.append_assoc, aligned_append]
    exact ⟨(hstem stem hplain).aligned rfl, haligned⟩

/-- What stands after a blank must not come to a line of its own. -/
theorem aligned_around_iff {name : String} (ha : NeatLine a)
    (hname : Text.isAsciiIdentifier name) (hb : NoFeed b) (haligned : ¬ Aligned b) :
    Aligned (a ++ name ++ b) ↔ '\n' ∉ name.toList := by
  rcases Text.isAsciiIdentifier_iff.1 hname with hplain | ⟨stem, hplain, rfl⟩
  · have hword := (Text.isWord_of_isPlainName hplain).oneLine.noFeed
    exact iff_of_true (((ha.append hword).append hb).aligned rfl) (Text.noFeed_iff.1 hword)
  · rw [← String.append_assoc, aligned_append]
    exact iff_of_false (fun h => haligned h.2) (by simp)

/-! ## Comments -/

/-- **The lines of a comment begin with its mark, whatever they say.** -/
theorem aligned_comment {mark : String} (hmark : NeatLine mark) (text : String) :
    Aligned (comment mark text) := by
  rw [comment, Text.unlines, aligned_intercalate "\n" 0 rfl, List.forall_mem_map]
  intro l hl
  obtain ⟨cs, hcs, rfl⟩ := List.mem_map.1 hl
  have hfeed : NoFeed (String.ofList cs) := by
    rw [Text.noFeed_iff, String.toList_ofList]
    exact Text.notMem_of_mem_splitOn hcs
  split
  · exact hmark.aligned rfl
  · exact ((hmark.append (Text.avoids_ofList rfl)).append hfeed).aligned rfl

end Layout

/-! ## Literals -/

/-- A literal is written without line feeds. -/
theorem noFeed_literal (s : String) : Text.NoFeed (literal s) :=
  (Json.noControl_stringLiteral false s).imp fun _ hc => beq_iff_eq.1 hc ▸ rfl

theorem neat_literal (s : String) : Layout.NeatLine (literal s) := by
  have hlist : (literal s).toList =
      List.replicate (Layout.unit * 0) ' ' ++ '"' :: (s.toList.flatMap (Json.literalChar false) ++
        ['"']) := by
    rw [literal, Json.stringLiteral, String.toList_ofList]
    rfl
  exact ⟨⟨0, '"', _, by decide, hlist⟩, noFeed_literal s⟩

/-! ## Lines in tokens -/

namespace Line

variable {t : Token} {l : Line}

@[simp]
theorem text_nil : text [] = "" := rfl

@[simp]
theorem text_cons : text (t :: l) = t.written ++ text l := by simp [text]

theorem text_text (s : String) : text [.text s] = s := by simp [Token.written]

@[simp]
theorem text_append {l' : Line} : text (l ++ l') = text l ++ text l' := by simp [text]

end Line

namespace Source

variable {P : Line → Prop}

theorem forall_mem_plain {x : String} : (∀ l ∈ plain x, P l) ↔ P [.text x] :=
  List.forall_mem_singleton

theorem forall_mem_line {l : Line} : (∀ l' ∈ line l, P l') ↔ P l := List.forall_mem_singleton

theorem forall_mem_blank : (∀ l ∈ blank, P l) ↔ P [] := List.forall_mem_singleton

theorem aligned_blank : ∀ l ∈ blank, Layout.Aligned l.text :=
  forall_mem_blank.2 Layout.aligned_empty

theorem toList_text (s : Source) : s.text.toList = s.flatMap fun l => l.text.toList ++ ['\n'] := by
  simp [text, String.toList_join, List.flatMap_map]

end Source

end CodecForge
