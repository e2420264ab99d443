/-
  CodecForge — Swift members in an extension and on their own.

  The members of a type are joined, or moved into an extension one by one.

  * `Text.lines_append_feed` and `Text.unlines_append`: texts with a line feed between them have
    the lines of both;
  * `Filled` is a text without blank lines, and the text of a member is one: something stands in
    each of its lines (`MemberLine.filled`), and a brace ends it (`Member.exists_init`);
  * `indented_eq`: such a text is moved in line by line, and `intercalate_indented`: so are
    several, where the lines between them stay blank.
-/
import CodecForge.Proofs.Layout.Tidiness
import CodecForge.Proofs.Target.Composition
import CodecForge.Proofs.Target.Widths

namespace CodecForge

open Layout (isBlankLine Neat)
open Text (OneLine isLineBreak)

/-! ## Lines of texts put together -/

namespace Text

theorem lines_append_feed (a b : String) : lines (a ++ "\n" ++ b) = lines a ++ lines b := by
  have hlist : (a ++ "\n" ++ b).toList = a.toList ++ '\n' :: b.toList := by
    simp only [String.toList_append, List.append_assoc]
    rfl
  rw [lines, parts, hlist, splitOn_append, List.map_append]
  rfl

theorem lines_ne_nil (s : String) : lines s ≠ [] :=
  fun h => splitOn_ne_nil _ _ (List.map_eq_nil_iff.1 h)

/-- A text without line feeds is one line. -/
theorem lines_of_oneLine {s : String} (h : OneLine s) : lines s = [s] := by
  rw [lines, parts, splitOn_of_notMem (noFeed_iff.1 h.noFeed), List.map_singleton,
    String.ofList_toList]

theorem unlines_append {ls ks : List String} (hls : ls ≠ []) (hks : ks ≠ []) :
    unlines (ls ++ ks) = unlines ls ++ "\n" ++ unlines ks :=
  String.intercalate_append_of_ne_nil hls hks

end Text

namespace Swift

/-! ## Texts without blank lines -/

/-- A text in each line of which something is written. -/
def Filled (s : String) : Prop := ∀ l ∈ Text.lines s, isBlankLine l = false

variable {a b s : String}

theorem filled_append_feed : Filled (a ++ "\n" ++ b) ↔ Filled a ∧ Filled b := by
  rw [Filled, Text.lines_append_feed, List.forall_mem_append]
  rfl

theorem filled_of_neat (h : Neat isLineBreak s) : Filled s := by
  obtain ⟨k, c, cs, hc, hs⟩ := h.opens
  rw [Filled, Text.lines_of_oneLine h.avoids, List.forall_mem_singleton, isBlankLine,
    List.all_eq_false]
  exact ⟨c, hs ▸ List.mem_append_right _ List.mem_cons_self, hc⟩

/-- **Something stands in each line of a member**, also after an identifier that brings a line
    feed along. -/
theorem MemberLine.filled (h : MemberLine s) : Filled s := by
  cases h with
  | neat h => exact filled_of_neat h
  | @around a name b ha hname hb =>
    have hstem : ∀ stem : String, Text.isPlainName stem.toList → Neat isLineBreak (a ++ stem) :=
      fun _ hplain => ha.append (Text.isWord_of_isPlainName hplain).oneLine
    rcases Text.isAsciiIdentifier_iff.1 hname with hplain | ⟨stem, hplain, rfl⟩
    · exact filled_of_neat ((hstem name hplain).append hb.avoids)
    · rw [← String.append_assoc, filled_append_feed]
      exact ⟨filled_of_neat (hstem stem hplain), filled_of_neat hb⟩

theorem filled_text_append {src : Source} (h : ∀ l ∈ src, Filled l.text) (hs : Filled s) :
    Filled (src.text ++ s) := by
  induction src with
  | nil => rwa [Source.text_nil, String.empty_append]
  | cons l src ih =>
    obtain ⟨hl, hsrc⟩ := List.forall_mem_cons.1 h
    have hcons : Source.text (l :: src) = l.text ++ "\n" ++ Source.text src := by
      rw [← Source.text_line, ← Source.text_append]
      rfl
    rw [hcons, String.append_assoc, filled_append_feed]
    exact ⟨hl, ih hsrc⟩

/-- A brace ends every member. -/
theorem Member.exists_init (m : Member) (k : ContainerKind) (d : Direction) :
    ∃ init, m.source k d = init ++ Source.plain "\x7d" := by
  cases k <;> cases d <;> exact ⟨_, rfl⟩

/-- **The text of a member has no blank lines.** -/
theorem filled_memberText {p : CodecPlan} (hp : p.OneLine) : Filled (memberText p) := by
  obtain ⟨init, hinit⟩ := (memberOf p).exists_init p.kind p.direction
  have hlines : ∀ l ∈ init ++ Source.plain "\x7d", Filled l.text := by
    rw [← hinit]
    exact fun l hl => (memberLine_memberSource hp l hl).filled
  obtain ⟨hfilled, hbrace⟩ := List.forall_mem_append.1 hlines
  rw [Source.forall_mem_plain, Line.text_text] at hbrace
  have htext : memberText p = init.text ++ "\x7d" := by
    rw [memberText, memberSource, hinit, Source.text_append, Source.text_plain]
    exact Text.trimEnd_brace init.text
  rw [htext]
  exact filled_text_append hfilled hbrace

/-! ## Moving in -/

/-- A line with four blanks before it if something is written in it, an empty line otherwise. -/
def movedIn (l : String) : String := if isBlankLine l then "" else "    " ++ l

theorem movedIn_of_not_isBlankLine {l : String} (h : isBlankLine l = false) :
    movedIn l = "    " ++ l := by
  rw [movedIn, h, if_neg Bool.false_ne_true]

/-- **A text without blank lines is moved in line by line.** -/
theorem indented_eq (hs : Indentable s) (hfilled : Filled s) :
    indented s = Text.unlines ((Text.lines s).map movedIn) := by
  obtain ⟨l, ls, hcons⟩ := List.exists_cons_of_ne_nil (Text.lines_ne_nil s)
  rw [Filled, hcons, List.forall_mem_cons] at hfilled
  have hrest : ∀ k ∈ ls, (if k.isEmpty then k else "    " ++ k) = movedIn k := by
    intro k hk
    have hempty : k.isEmpty = false := by
      rw [String.isEmpty_eq_false_iff]
      rintro rfl
      exact absurd (hfilled.2 _ hk) (by decide)
    rw [movedIn_of_not_isBlankLine (hfilled.2 k hk), hempty, if_neg Bool.false_ne_true]
  rw [indented, brokenLines_eq_lines hs, hcons]
  dsimp only
  rw [List.map_cons, movedIn_of_not_isBlankLine hfilled.1, List.map_congr_left hrest]

/-- **Members are moved in as their joined text is**: what stands between them is a blank line
    before and after. -/
theorem intercalate_indented : ∀ {members : List String}, members ≠ [] →
    (∀ m ∈ members, Indentable m ∧ Filled m) →
    "\n".intercalate (members.map (indented · ++ "\n")) =
      Text.unlines ((Text.lines ("\n\n".intercalate members)).map movedIn) ++ "\n"
  | [], hne, _ => absurd rfl hne
  | [m], _, h => by
    obtain ⟨hm, hfilled⟩ := h m List.mem_cons_self
    simp [indented_eq hm hfilled]
  | m :: n :: ms, _, h => by
    obtain ⟨hm, hfilled⟩ := h m List.mem_cons_self
    have hrest := intercalate_indented (List.cons_ne_nil n ms)
      fun k hk => h k (List.mem_cons_of_mem m hk)
    have hlines : Text.lines ("\n\n".intercalate (m :: n :: ms)) =
        Text.lines m ++ [""] ++ Text.lines ("\n\n".intercalate (n :: ms)) := by
      rw [String.intercalate_cons_of_ne_nil (List.cons_ne_nil n ms), twoFeeds,
        ← String.append_assoc, Text.lines_append_feed, ← String.append_empty (s := m ++ "\n"),
        Text.lines_append_feed]
      rfl
    have hmap : (Text.lines m).map movedIn ≠ [] := by simpa using Text.lines_ne_nil m
    rw [List.map_cons, String.intercalate_cons_of_ne_nil (by simp), hrest, indented_eq hm hfilled,
      hlines, List.map_append, List.map_append, Text.unlines_append (by simp [hmap])
        (by simpa using Text.lines_ne_nil _), Text.unlines_append hmap (by simp)]
    simp [Text.unlines, movedIn, isBlankLine, String.append_assoc]

theorem wrapped_unlines (typeName : String) {ls : List String} (hls : ls ≠ []) :
    wrapped typeName (Text.unlines ls ++ "\n") =
      Text.unlines (("extension " ++ typeName ++ " \x7b") :: ls ++ ["\x7d"]) := by
  rw [List.cons_append, ← List.singleton_append, Text.unlines_append (by simp) (by simp),
    Text.unlines_append hls (by simp)]
  simp [wrapped, Text.unlines, String.append_assoc]

end Swift

/-! ## Types -/

namespace Generator

/-- The generator of Swift that moves members into an extension, or leaves them on their own. -/
def swiftWrapping (s : Settings) (own : SwiftSettings) (wrap : Bool) : Generator :=
  swift s { own with wrapInExtension := wrap }

/-- **Wrapping in an extension only moves in.**  If the names of an extracted type, its
    enumerations, cases and adapters are on one line each, its text in an extension has three
    parts, after all calls: the line that opens the extension, the lines of its text on its own,
    each with four blanks before it unless it is blank, and the line that closes the extension.
    In the text on its own, only line feeds end lines. -/
theorem wrapped_of_extracted (s : Settings) (own : SwiftSettings) {t : CodableType}
    (h : t.IsExtracted) (ht : ∀ name, t.Mentions name → OneLine name) :
    ∃ members, (∀ c ∈ members.toList, isLineBreak c → c = '\n') ∧ ∀ calls,
      (swiftWrapping s own false).outcome calls ((swiftWrapping s own false).writeBlock t) =
        .ok members ∧
      (swiftWrapping s own true).outcome calls ((swiftWrapping s own true).writeBlock t) =
        .ok (Text.unlines (("extension " ++ t.typeName ++ " \x7b") ::
          (Text.lines members).map Swift.movedIn ++ ["\x7d"])) := by
  obtain ⟨ps, hps, hne, hplans⟩ := (swift s own).exists_oneLine_plansOf h ht
  have hmembers : ∀ m ∈ ps.map Swift.memberText, Swift.Indentable m ∧ Swift.Filled m :=
    List.forall_mem_map.2 fun p hp =>
      ⟨Swift.indentable_memberText (hplans p hp).1, Swift.filled_memberText (hplans p hp).1⟩
  have hblock : ∀ wrap calls,
      (swiftWrapping s own wrap).outcome calls ((swiftWrapping s own wrap).writeBlock t) =
        .ok ((swiftWrapping s own wrap).blockOf t.typeName ps) := by
    intro wrap calls
    obtain ⟨-, hout, htext⟩ := (swiftWrapping s own wrap).outcome_of_plansOf hps calls
    rw [hout, htext]
  refine ⟨"\n\n".intercalate (ps.map Swift.memberText), ?_, fun calls => ⟨?_, ?_⟩⟩
  · have hfeeds : ∀ c ∈ ("\n\n".intercalate (ps.map Swift.memberText)).toList,
        (isLineBreak c && c != '\n') = false := by
      refine Text.avoids_intercalate (Text.avoids_ofList rfl) fun m hm c hc => ?_
      simpa using (hmembers m hm).1.feeds c hc
    simpa using hfeeds
  · rw [hblock]
    rfl
  · have hjoined := Swift.intercalate_indented (by simpa using hne) hmembers
    rw [hblock, ← Swift.wrapped_unlines _ (by simpa using Text.lines_ne_nil _), ← hjoined,
      ← Swift.trimEnd_extensionSource]
    rfl

/-- The members for a parcel and for a counter whose property has a line feed are moved in. -/
theorem wrapped_of_extracted_parcel :
    (∃ members, (swiftWrapping {} .standalone false).outcome []
        ((swiftWrapping {} .standalone false).writeBlock parcelType) = .ok members ∧
      (swiftWrapping {} .standalone true).outcome []
          ((swiftWrapping {} .standalone true).writeBlock parcelType) =
        .ok (Text.unlines ("extension Parcel \x7b" :: (Text.lines members).map Swift.movedIn ++
          ["\x7d"]))) ∧
    ∃ members, (swiftWrapping {} .standalone false).outcome []
        ((swiftWrapping {} .standalone false).writeBlock (counterType "count\n")) = .ok members ∧
      (swiftWrapping {} .standalone true).outcome []
          ((swiftWrapping {} .standalone true).writeBlock (counterType "count\n")) =
        .ok (Text.unlines ("extension Counter \x7b" :: (Text.lines members).map Swift.movedIn ++
          ["\x7d"])) := by
  have hcount : (counterType "count\n").IsExtracted := ⟨counterAs "count\n", [], {}, {}, by rfl⟩
  obtain ⟨members, -, hparcel⟩ :=
    wrapped_of_extracted {} .standalone isExtracted_parcel oneLine_of_mentions_parcel
  obtain ⟨members', -, hcounter⟩ :=
    wrapped_of_extracted {} .standalone hcount (oneLine_of_mentions_counter "count\n")
  exact ⟨⟨members, hparcel []⟩, members', hcounter []⟩

end Generator

end CodecForge
