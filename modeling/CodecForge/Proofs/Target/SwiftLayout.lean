/-
  CodecForge — Swift source in whole levels.

  Members are moved into an extension line by line, where more than line feeds end a line.

  * `Indentable` is a text in whole levels that only line feeds cut; moving it in keeps it in
    whole levels (`aligned_indented`);
  * `MemberLine` is a line that begins with whole levels and has no line breaks, but for an
    identifier in it, which may bring a line feed along; such a line is indentable;
  * `Member.memberLine_source`: the lines of a member are of this kind if its names are on one
    line each, and a single value that brings a line feed along does not matter here;
  * `aligned_fileOf`: so is every file.
-/
import CodecForge.Proofs.Plan.OneLine
import CodecForge.Proofs.Target.Properties

namespace CodecForge

open Layout (Aligned Neat neat_ofList neat_of_isWord)
open Source (plain line blank)
open Text (IsWord OneLine avoids_ofList isLineBreak)

namespace Swift

/-! ## Texts that can be moved in -/

/-- A text in whole levels that only line feeds cut into lines. -/
structure Indentable (s : String) : Prop where
  aligned : Aligned s
  feeds : ∀ c ∈ s.toList, isLineBreak c → c = '\n'

theorem indentable_of_neat {s : String} (h : Neat isLineBreak s) : Indentable s :=
  ⟨h.aligned rfl, fun c hc hbreak => absurd hbreak (Bool.eq_false_iff.1 (h.avoids c hc))⟩

/-- Within a text that only line feeds cut, the wide sense of a line is the narrow one. -/
theorem brokenLinesFrom_eq_splitOn {cs : List Char} (h : ∀ c ∈ cs, isLineBreak c → c = '\n')
    {cur : List Char} (hcur : '\n' ∉ cur) :
    Text.brokenLinesFrom cur (cs ++ ['\n']) = Text.splitOn '\n' (cur.reverse ++ cs) := by
  induction cs generalizing cur with
  | nil =>
    rw [List.append_nil, Text.splitOn_of_notMem (by simpa using hcur)]
    rfl
  | cons c cs ih =>
    obtain ⟨hc, hcs⟩ := List.forall_mem_cons.1 h
    have hreturn : c ≠ '\r' := by
      rintro rfl
      exact absurd (hc rfl) (by decide)
    rw [List.cons_append, Text.brokenLinesFrom.eq_3 _ _ _ fun _ heq => absurd heq hreturn]
    split
    · next hbreak =>
      rw [hc hbreak, Text.splitOn_append, Text.splitOn_of_notMem (by simpa using hcur),
        ih hcs List.not_mem_nil]
      rfl
    · next hbreak =>
      have hfeed : c ≠ '\n' := by
        rintro rfl
        exact hbreak rfl
      rw [ih hcs (by simpa using ⟨Ne.symm hfeed, hcur⟩)]
      simp

theorem brokenLines_eq_lines {s : String} (h : Indentable s) :
    Text.brokenLines (s ++ "\n") = Text.lines s := by
  have hlist : (s ++ "\n").toList = s.toList ++ ['\n'] := by simp
  rw [Text.brokenLines, hlist, brokenLinesFrom_eq_splitOn h.feeds List.not_mem_nil]
  rfl

/-- **A text that can be moved in is in whole levels afterwards, too.** -/
theorem aligned_indented {s : String} (h : Indentable s) : Aligned (indented s) := by
  have hline : ∀ l ∈ Text.lines s, Aligned l ∧ Aligned ("    " ++ l) := by
    intro l hl
    obtain ⟨cs, hcs, rfl⟩ := List.mem_map.1 hl
    have hfeed : '\n' ∉ (String.ofList cs).toList := by
      rw [String.toList_ofList]
      exact Text.notMem_of_mem_splitOn hcs
    have hlevel : Aligned (String.ofList cs) := by
      rw [Layout.aligned_iff_of_notMem hfeed, String.toList_ofList]
      exact h.aligned cs hcs
    exact ⟨hlevel, (Layout.aligned_indent_iff hfeed).2 hlevel⟩
  rw [indented, brokenLines_eq_lines h]
  split
  · next hnil => exact absurd (List.map_eq_nil_iff.1 hnil) (Text.splitOn_ne_nil _ _)
  · next l ls hcons =>
    rw [hcons, List.forall_mem_cons] at hline
    rw [Text.unlines, Layout.aligned_intercalate "\n" 0 rfl,
      List.forall_mem_cons, List.forall_mem_map]
    refine ⟨hline.1.2, fun k hk => ?_⟩
    split
    · exact (hline.2 k hk).1
    · exact (hline.2 k hk).2

/-! ## Lines of members -/

/-- A line that begins with whole levels and has no line breaks, but for the one that an
    identifier may bring along; what follows the identifier begins with something else than a
    blank then. -/
inductive MemberLine : String → Prop
  | neat {s : String} (h : Neat isLineBreak s) : MemberLine s
  | around {a name b : String} (ha : Neat isLineBreak a) (hname : Text.isAsciiIdentifier name)
      (hb : Neat isLineBreak b) : MemberLine (a ++ name ++ b)

/-- **A line of a member can be moved in.** -/
theorem MemberLine.indentable {s : String} (h : MemberLine s) : Indentable s := by
  cases h with
  | neat h => exact indentable_of_neat h
  | @around a name b ha hname hb =>
    refine ⟨Layout.aligned_around ha.noFeed hname hb.noFeed.avoids (hb.aligned rfl), ?_⟩
    refine forall_append.2 ⟨forall_append.2 ⟨(indentable_of_neat ha).feeds, fun c hc hbreak => ?_⟩,
      (indentable_of_neat hb).feeds⟩
    rcases Text.isNamePart_of_isAsciiIdentifier hname c hc with hchar | hfeed
    · have hword : OneLine (String.ofList [c]) := Text.oneLine_of_nameChars (by simpa using hchar)
      have hfree := hword c (by simp)
      rw [hfree] at hbreak
      cases hbreak
    · exact hfeed

/-- A line that is always the same is of this kind if it begins with whole levels. -/
theorem memberLine_fixed {cs : List Char} (hopens : Layout.opensLevel cs = true)
    (hbreaks : cs.all (fun c => !isLineBreak c) = true) :
    ∀ l ∈ plain (String.ofList cs), MemberLine l.text := by
  rw [Source.forall_mem_plain, Line.text_text]
  exact .neat (neat_ofList hopens hbreaks)

/-! ## Members -/

namespace Member

/-- A member of which all names are on one line, but perhaps for a single value. -/
structure OneLine (m : Member) : Prop where
  modifier : m.modifier = "" ∨ m.modifier = "public "
  keysName : Text.OneLine m.keysName
  containers : ∀ c ∈ m.containers, IsWord c.variable_ ∧ Text.OneLine c.parent ∧
    Text.OneLine c.keysName ∧ Text.OneLine c.label
  steps : ∀ t ∈ m.steps, IsWord t.container ∧ IsWord t.label ∧ Text.OneLine t.reference ∧
    ∀ a, t.transform = some a → Text.OneLine a
  cases : ∀ label ∈ m.cases, IsWord label

theorem oneLine_ifPresent (t : Step) : Text.OneLine (ifPresent t) := by
  unfold ifPresent
  split <;> exact avoids_ofList rfl

variable {m : Member} (h : m.OneLine)
include h

theorem memberLine_signatureSource (d : Direction) :
    ∀ l ∈ m.signatureSource d, MemberLine l.text := by
  have hmodifier : ∀ s, Neat isLineBreak s → Neat isLineBreak (m.modifier ++ s) := by
    intro s hs
    rcases h.modifier with hm | hm
    · rwa [hm, String.empty_append]
    · rw [hm]
      exact (neat_ofList rfl rfl : Neat isLineBreak "public ").append hs.avoids
  cases d <;> simp only [signatureSource, Source.forall_mem_plain, Line.text_text]
  · exact MemberLine.neat (hmodifier _ (neat_ofList rfl rfl))
  · exact MemberLine.neat (hmodifier _ (neat_ofList rfl rfl))

theorem memberLine_nestedSource {keyword attempt : String} (hkeyword : Neat isLineBreak keyword)
    (hattempt : Text.OneLine attempt) :
    ∀ l ∈ m.nestedSource keyword attempt, MemberLine l.text := by
  rw [nestedSource, List.forall_mem_flatMap]
  intro c hc
  obtain ⟨hvariable, hparent, hkeys, hlabel⟩ := h.containers c hc
  have hopening := hkeyword.indent rfl
  have hkeyed : Neat isLineBreak "        keyedBy: " := neat_ofList rfl rfl
  have hfor : Neat isLineBreak "        forKey: ." := neat_ofList rfl rfl
  simp only [List.forall_mem_append, and_assoc]
  refine ⟨?_, ?_, ?_, memberLine_fixed rfl rfl⟩
  · rw [Source.forall_mem_plain, Line.text_text]
    exact hopening.text rfl |>.append hvariable.oneLine |>.text rfl |>.append hattempt
      |>.append hparent |>.text rfl |> MemberLine.neat
  · rw [Source.forall_mem_plain, Line.text_text]
    exact hkeyed.append hkeys |>.text rfl |> MemberLine.neat
  · rw [Source.forall_mem_plain, Line.text_text]
    exact hfor.append hlabel |> MemberLine.neat

theorem memberLine_encodeStep {t : Step} (ht : t ∈ m.steps) : MemberLine (encodeStep t).text := by
  obtain ⟨hcontainer, hlabel, hreference, htransform⟩ := h.steps t ht
  have htry : Neat isLineBreak "    try " := neat_ofList rfl rfl
  have hcall : Neat isLineBreak ("    try " ++ t.container ++ ".encode" ++ ifPresent t ++ "(") :=
    htry.append hcontainer.oneLine |>.text rfl |>.append (oneLine_ifPresent t) |>.text rfl
  have hvalue : Text.OneLine (valueTokens t).text := by
    unfold valueTokens
    dsimp only
    split
    · next adapter ha =>
      simp only [Line.text_cons, Line.text_nil, String.append_empty, ← String.append_assoc]
      exact (htransform _ ha).text rfl |>.append hreference |>.text rfl
    · simp only [Line.text_cons, Line.text_nil, String.append_empty]
      exact hreference
  have hkey : Text.OneLine ", forKey: ." := avoids_ofList rfl
  have hrest : Text.OneLine (", forKey: ." ++ t.label ++ ")") :=
    hkey.append hlabel.oneLine |>.text rfl
  simp only [encodeStep, Line.text_cons, Line.text_append, Line.text_nil, String.append_empty,
    Token.written]
  exact hcall.append hvalue |>.append hrest |> MemberLine.neat

theorem neat_decodeStep {t : Step} (ht : t ∈ m.steps) : Neat isLineBreak (decodeStep t).text := by
  obtain ⟨hcontainer, hlabel, -, htransform⟩ := h.steps t ht
  have hcall : Neat isLineBreak ("        " ++ t.label ++ ": " ++ t.container ++ ".decode" ++
      ifPresent t ++ "(") :=
    (neat_of_isWord hlabel).indentTwice rfl |>.text rfl |>.append hcontainer.oneLine |>.text rfl
      |>.append (oneLine_ifPresent t) |>.text rfl
  have hself : Text.OneLine ".self, forKey: ." := avoids_ofList rfl
  have hfor : Text.OneLine "for: ." := avoids_ofList rfl
  have hchain : Text.OneLine (if t.conditional then "?" else "") := by
    split <;> exact avoids_ofList rfl
  simp only [decodeStep, Line.text_cons, Token.written]
  refine Neat.append hcall ?_
  split
  · next adapter ha =>
    simp only [Line.text_cons, Line.text_nil, Token.written, String.append_empty]
    exact (htransform _ ha).append (hself.append hlabel.oneLine |>.text rfl |>.append hchain
      |>.text rfl)
  · simp only [Line.text_cons, Line.text_nil, Token.written, String.append_empty]
    exact hfor.append hlabel.oneLine |>.text rfl

theorem memberLine_decodeSteps : ∀ {ts : List Step}, (∀ t ∈ ts, t ∈ m.steps) →
    ∀ l ∈ decodeSteps ts, MemberLine l.text
  | [], _ => nofun
  | [t], hts => by
    rw [decodeSteps, Source.forall_mem_line]
    exact MemberLine.neat (neat_decodeStep h (hts t List.mem_cons_self))
  | t :: u :: ts, hts => by
    have hcomma : Text.OneLine "," := avoids_ofList rfl
    rw [decodeSteps, List.forall_mem_append, Source.forall_mem_line, Line.text_append,
      Line.text_text]
    exact ⟨(neat_decodeStep h (hts t List.mem_cons_self)).append hcomma |> MemberLine.neat,
      memberLine_decodeSteps fun v hv => hts v (List.mem_cons_of_mem t hv)⟩

theorem memberLine_keyedEncode : ∀ l ∈ m.keyedEncode, MemberLine l.text := by
  have hroot : Neat isLineBreak "    var container = encoder.container(keyedBy: " :=
    neat_ofList rfl rfl
  simp only [keyedEncode, List.forall_mem_append, and_assoc]
  refine ⟨memberLine_signatureSource h _, ?_,
    memberLine_nestedSource h (neat_ofList rfl rfl) (avoids_ofList rfl), ?_,
    memberLine_fixed rfl rfl⟩
  · rw [Source.forall_mem_plain, Line.text_text]
    exact hroot.append h.keysName |>.text rfl |> MemberLine.neat
  · rw [List.forall_mem_map]
    exact fun t ht => memberLine_encodeStep h ht

theorem memberLine_keyedDecode : ∀ l ∈ m.keyedDecode, MemberLine l.text := by
  have hroot : Neat isLineBreak "    let container = try decoder.container(keyedBy: " :=
    neat_ofList rfl rfl
  simp only [keyedDecode, List.forall_mem_append, and_assoc]
  refine ⟨memberLine_signatureSource h _, ?_,
    memberLine_nestedSource h (neat_ofList rfl rfl) (avoids_ofList rfl), ?_,
    memberLine_fixed rfl rfl⟩
  · rw [Source.forall_mem_plain, Line.text_text]
    exact hroot.append h.keysName |>.text rfl |> MemberLine.neat
  · split
    · exact memberLine_fixed rfl rfl
    · simp only [List.forall_mem_append, and_assoc]
      exact ⟨memberLine_fixed rfl rfl, memberLine_decodeSteps h fun t ht => ht,
        memberLine_fixed rfl rfl⟩

theorem memberLine_singleValueEncode (hb : Text.isAsciiIdentifier m.binding) :
    ∀ l ∈ m.singleValueEncode, MemberLine l.text := by
  simp only [singleValueEncode, List.forall_mem_append, and_assoc]
  refine ⟨memberLine_signatureSource h _, memberLine_fixed rfl rfl, ?_, memberLine_fixed rfl rfl⟩
  simp only [Source.forall_mem_line, Line.text_cons, Line.text_nil, Token.written,
    String.append_empty, ← String.append_assoc]
  exact MemberLine.around (neat_ofList rfl rfl) hb (neat_ofList rfl rfl)

theorem memberLine_singleValueDecode (hb : Text.isAsciiIdentifier m.binding) :
    ∀ l ∈ m.singleValueDecode, MemberLine l.text := by
  simp only [singleValueDecode, List.forall_mem_append, and_assoc]
  refine ⟨memberLine_signatureSource h _, memberLine_fixed rfl rfl, ?_, memberLine_fixed rfl rfl⟩
  rw [Source.forall_mem_plain, Line.text_text]
  exact MemberLine.around (neat_ofList rfl rfl) hb (neat_ofList rfl rfl)

theorem memberLine_enumEncode : ∀ l ∈ m.enumEncode, MemberLine l.text := by
  have hcase : Neat isLineBreak "    case ." := neat_ofList rfl rfl
  have hcall : Neat isLineBreak "        try container.encode(" := neat_ofList rfl rfl
  simp only [enumEncode, List.forall_mem_append, and_assoc]
  refine ⟨memberLine_signatureSource h _, memberLine_fixed rfl rfl, memberLine_fixed rfl rfl, ?_,
    memberLine_fixed rfl rfl, memberLine_fixed rfl rfl⟩
  rw [List.forall_mem_flatMap]
  intro label hlabel
  have hname := (h.cases label hlabel).oneLine
  simp only [List.forall_mem_append, Source.forall_mem_plain, Line.text_text]
  exact ⟨hcase.append hname |>.text rfl |> MemberLine.neat,
    hcall.append h.keysName |>.text rfl |>.append hname |>.text rfl |> MemberLine.neat⟩

theorem memberLine_enumDecode : ∀ l ∈ m.enumDecode, MemberLine l.text := by
  have hcase : Neat isLineBreak "    case " := neat_ofList rfl rfl
  have hself : Neat isLineBreak "        self = ." := neat_ofList rfl rfl
  simp only [enumDecode, List.forall_mem_append, and_assoc]
  refine ⟨memberLine_signatureSource h _, memberLine_fixed rfl rfl, memberLine_fixed rfl rfl,
    memberLine_fixed rfl rfl, ?_, memberLine_fixed rfl rfl, memberLine_fixed rfl rfl,
    memberLine_fixed rfl rfl, memberLine_fixed rfl rfl, memberLine_fixed rfl rfl,
    memberLine_fixed rfl rfl, memberLine_fixed rfl rfl⟩
  rw [List.forall_mem_flatMap]
  intro label hlabel
  have hname := (h.cases label hlabel).oneLine
  simp only [List.forall_mem_append, Source.forall_mem_plain, Line.text_text]
  exact ⟨hcase.append h.keysName |>.text rfl |>.append hname |>.text rfl |> MemberLine.neat,
    hself.append hname |> MemberLine.neat⟩

/-- **The lines of a member begin with whole levels and break at an identifier only.** -/
theorem memberLine_source {k : ContainerKind}
    (hb : k = .singleValue → Text.isAsciiIdentifier m.binding) (d : Direction) :
    ∀ l ∈ m.source k d, MemberLine l.text := by
  cases k <;> cases d
  · exact memberLine_keyedEncode h
  · exact memberLine_keyedDecode h
  · exact memberLine_singleValueEncode h (hb rfl)
  · exact memberLine_singleValueDecode h (hb rfl)
  · exact memberLine_enumEncode h
  · exact memberLine_enumDecode h

end Member

/-! ## Members of plans -/

theorem oneLine_reference {name : String} (h : OneLine name) : OneLine (reference name) := by
  unfold reference
  split
  · exact (avoids_ofList rfl).append h |>.text rfl
  · exact h

section
variable {p : CodecPlan} (hp : p.OneLine)
include hp

theorem oneLine_memberOf : (memberOf p).OneLine where
  modifier := modifier_memberOf p
  keysName := by
    rw [memberOf]
    dsimp only
    cases hk : p.keysName? with
    | none => exact avoids_ofList rfl
    | some name => exact hp.keysName name hk
  containers := by
    simp only [memberOf, List.forall_mem_map]
    exact fun c hc => ⟨(hp.nested c hc).variable_, (hp.nested c hc).parent,
      (hp.nested c hc).keysName, (hp.nested c hc).localName⟩
  steps := by
    simp only [memberOf, List.forall_mem_map]
    exact fun st hst => ⟨(hp.steps st hst).container, (hp.steps st hst).localName,
      oneLine_reference (hp.steps st hst).localName.oneLine, (hp.steps st hst).transform⟩
  cases := by
    simp only [memberOf, List.forall_mem_map]
    exact hp.cases

theorem memberLine_memberSource : ∀ l ∈ memberSource p, MemberLine l.text := by
  refine Member.memberLine_source (oneLine_memberOf hp) (fun hk => ?_) p.direction
  obtain ⟨b, hb⟩ := exists_binding_of_kind hk
  rw [memberOf, hb]
  exact hp.binding b hb

/-- The text of a member can be moved in. -/
theorem indentable_memberText : Indentable (memberText p) := by
  have hlines : ∀ l ∈ memberSource p, Indentable l.text := fun l hl =>
    (memberLine_memberSource hp l hl).indentable
  refine ⟨Layout.aligned_trimEnd.2 (Layout.aligned_text.2 fun l hl => (hlines l hl).aligned), ?_⟩
  intro c hc hbreak
  rw [memberText, Text.trimEnd, String.toList_ofList] at hc
  have hmem := (Text.isPrefix_dropEnd _ _).mem hc
  rw [Source.toList_text] at hmem
  obtain ⟨l, hl, hmem⟩ := List.mem_flatMap.1 hmem
  rcases List.mem_append.1 hmem with hmem | hmem
  · exact (hlines l hl).feeds c hmem hbreak
  · exact List.mem_singleton.1 hmem

end

/-! ## Types and files -/

theorem aligned_memberLines : ∀ {members : List String}, (∀ m ∈ members, Indentable m) →
    ∀ l ∈ memberLines members, Aligned l.text
  | [], _ => nofun
  | [m], h => by
    rw [memberLines, Source.forall_mem_plain, Line.text_text]
    exact aligned_indented (h m List.mem_cons_self)
  | m :: n :: ms, h => by
    rw [List.forall_mem_cons] at h
    rw [memberLines, List.forall_mem_append, List.forall_mem_append, Source.forall_mem_plain,
      Line.text_text]
    exact ⟨⟨aligned_indented h.1, Source.aligned_blank⟩, aligned_memberLines h.2⟩

/-- The text of a type is in whole levels, in an extension or not. -/
theorem aligned_blockOf {own : SwiftSettings} {typeName : String} {plans : List CodecPlan}
    (htype : OneLine typeName) (hplans : ∀ p ∈ plans, p.OneLine) :
    Aligned (blockOf own typeName plans) := by
  have hmembers : ∀ m ∈ plans.map memberText, Indentable m := by
    rw [List.forall_mem_map]
    exact fun p hp => indentable_memberText (hplans p hp)
  unfold blockOf
  dsimp only
  split
  · rw [Layout.aligned_trimEnd, Layout.aligned_text, extensionSource, List.forall_mem_append,
      List.forall_mem_append, Source.forall_mem_line]
    have hopening : Neat isLineBreak "extension " := neat_ofList rfl rfl
    refine ⟨⟨?_, aligned_memberLines hmembers⟩,
      fun l hl => (memberLine_fixed rfl rfl l hl).indentable.aligned⟩
    simp only [Line.text_cons, Line.text_nil, Token.written, String.append_empty,
      ← String.append_assoc]
    exact hopening.append htype |>.text rfl |>.aligned rfl
  · rw [Layout.aligned_intercalate "\n\n" 1 rfl]
    exact fun m hm => (hmembers m hm).aligned

theorem aligned_blockLines : ∀ {blocks : List String}, (∀ b ∈ blocks, Aligned b) →
    ∀ l ∈ blockLines blocks, Aligned l.text
  | [], _ => nofun
  | [b], h => by
    rw [blockLines, Source.forall_mem_plain, Line.text_text]
    exact h b List.mem_cons_self
  | b :: c :: bs, h => by
    rw [List.forall_mem_cons] at h
    rw [blockLines, List.forall_mem_append, List.forall_mem_append, Source.forall_mem_plain,
      Line.text_text]
    exact ⟨⟨h.1, Source.aligned_blank⟩, aligned_blockLines h.2⟩

theorem aligned_decodeHelper : ∀ l ∈ decodeHelper, Aligned l.text := by
  have hfixed : ∀ cs : List Char, Layout.opensLevel cs = true →
      cs.all (fun c => !isLineBreak c) = true → ∀ l ∈ plain (String.ofList cs), Aligned l.text :=
    fun cs hopens hbreaks l hl => (memberLine_fixed hopens hbreaks l hl).indentable.aligned
  simp only [decodeHelper, List.forall_mem_append, and_assoc]
  exact ⟨Source.aligned_blank, hfixed _ rfl rfl, hfixed _ rfl rfl, hfixed _ rfl rfl,
    hfixed _ rfl rfl, hfixed _ rfl rfl⟩

/-- **Every file is in whole levels**, whatever its header says. -/
theorem aligned_source {f : File} (himports : ∀ name ∈ f.imports, OneLine name)
    (hblocks : ∀ b ∈ f.blocks, Aligned b) : Aligned f.source.text := by
  have himport : ∀ l ∈ f.imports.flatMap (fun name => plain s!"import {name}"),
      Aligned l.text := by
    rw [List.forall_mem_flatMap]
    intro name hname
    have hopening : Neat isLineBreak "import " := neat_ofList rfl rfl
    rw [Source.forall_mem_plain, Line.text_text]
    exact hopening.append (himports name hname) |>.aligned rfl
  rw [Layout.aligned_text, File.source, File.prologue]
  simp only [List.forall_mem_append, and_assoc]
  refine ⟨?_, himport, ?_, aligned_blockLines hblocks, ?_⟩
  · split
    · exact List.forall_mem_nil _
    · rw [List.forall_mem_append, Source.forall_mem_plain, Line.text_cons, Line.text_nil,
        String.append_empty]
      exact ⟨Layout.aligned_comment (neat_ofList rfl rfl) _, Source.aligned_blank⟩
  · split
    · exact List.forall_mem_nil _
    · exact Source.aligned_blank
  · split
    · exact aligned_decodeHelper
    · exact List.forall_mem_nil _

end Swift

end CodecForge
