/-
  CodecForge — the names that get through extraction.

  Names of cases and of properties are written into source as they are, so an extraction lets
  only identifiers through.  Its test, though, takes a line feed at the end for the end of the
  text.

  * `Text.isAsciiIdentifier_iff`: what passes the test is a plain name, or one with a line feed
    after it;
  * `CodableType.Names` are the names that a type brings along: the local names at all levels
    of its schema, and the property of a single value;
  * `isAsciiIdentifier_of_names`: all of them have passed the test; hence `plain_iff_of_run`: they
    are plain names but for a line feed at the end, which a property has only if it is given as
    an object.
-/
import CodecForge.Proofs.Extraction.Invariants

namespace CodecForge

open Extraction

/-! ## Identifiers -/

namespace Text

theorem lineFeed_notMem_of_isPlainName {cs : List Char} (h : isPlainName cs) : '\n' ∉ cs :=
  fun hmem => absurd (isNameChar_of_isPlainName h _ hmem) (by decide)

/-- **What passes for an identifier** is a plain name, or a plain name with a line feed. -/
theorem isAsciiIdentifier_iff {s : String} : isAsciiIdentifier s ↔
    isPlainName s.toList ∨ ∃ stem : String, isPlainName stem.toList ∧ s = stem ++ "\n" := by
  rw [isAsciiIdentifier, Bool.or_eq_true, Bool.and_eq_true, beq_iff_eq]
  refine or_congr_right ⟨?_, ?_⟩
  · rintro ⟨hlast, hplain⟩
    obtain ⟨cs, hcs⟩ := List.getLast?_eq_some_iff.1 hlast
    rw [hcs, List.dropLast_concat] at hplain
    refine ⟨String.ofList cs, by rwa [String.toList_ofList], ?_⟩
    apply String.toList_inj.1
    rw [hcs, String.toList_append, String.toList_ofList]
    rfl
  · rintro ⟨stem, hplain, rfl⟩
    rw [String.toList_append, show "\n".toList = ['\n'] from rfl]
    exact ⟨List.getLast?_concat, by rwa [List.dropLast_concat]⟩

/-- What passes for an identifier is a plain name exactly if there is no line feed in it. -/
theorem isPlainName_iff_of_isAsciiIdentifier {s : String} (h : isAsciiIdentifier s) :
    isPlainName s.toList ↔ '\n' ∉ s.toList := by
  refine ⟨lineFeed_notMem_of_isPlainName, fun hfeed => ?_⟩
  rcases isAsciiIdentifier_iff.1 h with hplain | ⟨stem, -, rfl⟩
  · exact hplain
  · rw [String.toList_append] at hfeed
    exact absurd (List.mem_append_right _ (List.mem_singleton_self _)) hfeed

end Text

/-! ## Properties -/

namespace CodingOptions

variable {binding : String}

/-- The property in a call has none of the characters that surround it. -/
theorem isBindingChar_of_callBinding? {cs : List Char} (h : callBinding? cs = some binding) :
    ∀ c ∈ binding.toList, isBindingChar c := by
  unfold callBinding? at h
  obtain ⟨cs₁, -, h⟩ := Option.bind_eq_some_iff.1 h
  obtain ⟨cs₂, -, h⟩ := Option.bind_eq_some_iff.1 h
  dsimp only at h
  split at h
  · split at h
    · cases h
      intro c hc
      rw [String.toList_ofList] at hc
      exact List.mem_takeWhile_imp hc
    · cases h
  · cases h

theorem eq_of_bindingOf {v : Json} (h : bindingOf v = .ok (.singleValue binding)) :
    v = .str binding := by
  unfold bindingOf at h
  split at h
  · split at h
    · cases h
      rfl
    · cases h
  · cases h

/-- A property with a line feed is given as an object. -/
theorem exists_object_of_containerOf {v : Json} (h : containerOf v = .ok (.singleValue binding))
    (hfeed : '\n' ∈ binding.toList) : ∃ key, v = .obj [(key, .str binding)] := by
  unfold containerOf at h
  split at h
  · unfold containerOfText at h
    dsimp only at h
    split at h
    · next s b hcall =>
      cases eq_of_bindingOf h
      have hchar := isBindingChar_of_callBinding? hcall _ hfeed
      cases hchar
    · split at h <;> cases h
  · next key v =>
    split at h
    · exact ⟨key, by rw [eq_of_bindingOf h]⟩
    · cases h
  · cases h

end CodingOptions

theorem Strategy.eq_of_binding? {s : Strategy} {b : String} (h : s.binding? = some b) :
    s = .singleValue b := by
  cases s with
  | singleValue b' =>
    cases h
    rfl
  | keyed | singleValueForEnum => cases h

/-! ## Types -/

/-- The names that a type brings into source: the local names at all levels of its schema, and
    the property of a single value. -/
inductive CodableType.Names (t : CodableType) : String → Prop
  | field {s l : Schema} {f : Field} (hs : t.schema? = some s) (hl : s.Level l)
      (hf : f ∈ l.fields) : Names t f.info.localName
  | binding {b : String} (hb : t.strategy.binding? = some b) : Names t b

namespace Enumeration

variable {e : Enumeration} {l : Schema} {f : Field}

/-- The local names at all levels of a schema are identifiers. -/
theorem IsTop.isAsciiIdentifier (h : e.IsTop) (hl : e.schema.Level l) (hf : f ∈ l.fields) :
    Text.isAsciiIdentifier f.info.localName := by
  rcases eq_of_level hl with rfl | ⟨c, hc, g, hg, rfl⟩
  · obtain ⟨c, hc, rfl⟩ := List.mem_map.1 hf
    rw [(info_field e c).2]
    exact h.names c hc
  · obtain ⟨m, hm, rfl⟩ := List.mem_map.1 hf
    exact (h.groups c hc g hg).names m hm

theorem isAsciiIdentifier_of_tagsFault? {typeName : String} (h : tagsFault? typeName e = none) :
    ∀ c ∈ e.cases, Text.isAsciiIdentifier c.name := by
  rw [tagsFault?, Option.or_eq_none_iff, List.findSome?_eq_none_iff] at h
  exact fun c hc => nameFault?_eq_none.1 (h.1 c hc)

theorem isAsciiIdentifier_of_tags {typeName : String} (h : tagsFault? typeName e = none)
    (hl : e.tags.Level l) (hf : f ∈ l.fields) : Text.isAsciiIdentifier f.info.localName := by
  rw [eq_of_level_tags hl] at hf
  obtain ⟨c, hc, rfl⟩ := List.mem_map.1 hf
  exact isAsciiIdentifier_of_tagsFault? h c hc

end Enumeration

variable {d : Declaration} {overrides : List (String × Json)} {t : CodableType} {n n' : Notices}

/-- **All names of an accepted type have passed for identifiers.** -/
theorem isAsciiIdentifier_of_names (h : run d overrides n = .ok t n') {name : String}
    (hname : t.Names name) : Text.isAsciiIdentifier name := by
  cases hname with
  | @field s l f hs hl hf =>
    obtain ⟨e, -, ⟨-, htop, rfl⟩ | ⟨-, hfault, rfl⟩⟩ := codingKeys_of_run h hs
    · exact htop.isAsciiIdentifier hl hf
    · exact Enumeration.isAsciiIdentifier_of_tags hfault hl hf
  | binding hb =>
    obtain ⟨options, ho, hstrategy⟩ := strategy_of_run h
    rw [hstrategy] at hb
    exact CodingOptions.isAsciiIdentifier_of_resolve ho (Strategy.eq_of_binding? hb)

/-- **When the names of an accepted type are plain.**  A name consists of letters, digits and
    underscores of ASCII, and does not begin with a digit, exactly if there is no line feed in
    it; otherwise it is such a name with a line feed at its end.  The property of a single value
    can only be of the second kind if the options give it as an object. -/
theorem plain_iff_of_run (h : run d overrides n = .ok t n') :
    (∀ name, t.Names name → (Text.isPlainName name.toList ↔ '\n' ∉ name.toList) ∧
      ('\n' ∈ name.toList →
        ∃ stem : String, Text.isPlainName stem.toList ∧ name = stem ++ "\n")) ∧
    ∀ b, t.strategy.binding? = some b → '\n' ∈ b.toList →
      ∃ key, CodingOptions.container? d.options overrides = some (.obj [(key, .str b)]) := by
  constructor
  · intro name hname
    have hid := isAsciiIdentifier_of_names h hname
    refine ⟨Text.isPlainName_iff_of_isAsciiIdentifier hid, fun hfeed => ?_⟩
    rcases Text.isAsciiIdentifier_iff.1 hid with hplain | hstem
    · exact absurd hfeed (Text.lineFeed_notMem_of_isPlainName hplain)
    · exact hstem
  · intro b hb hfeed
    obtain ⟨options, ho, hstrategy⟩ := strategy_of_run h
    rw [hstrategy] at hb
    obtain ⟨v, hv, hcontainer⟩ :=
      CodingOptions.exists_container_of_resolve ho (Strategy.eq_of_binding? hb)
    obtain ⟨key, rfl⟩ := CodingOptions.exists_object_of_containerOf hcontainer hfeed
    exact ⟨key, hv⟩

/-! ## A counter -/

/-- A counter with a line feed after the name of a case, and a group of limits. -/
def counter : Declaration where
  typeName := "Counter"
  kind := "extension"
  typeKind := "struct"
  enums := [⟨"CodingKeys", ["String", "CodingKey"],
    [⟨"count\n", some "count", []⟩, ⟨"limits", none, []⟩],
    [⟨"LimitsCodingKeys", ["String", "CodingKey"], [⟨"top", none, []⟩], []⟩]⟩]
  options := []

/-- The same name as the property of a single value. -/
def countOnly : List (String × Json) := [("container", .obj [("single_value", .str "count\n")])]

theorem plain_iff_of_run_counter :
    (∃ t n', run counter [] {} = .ok t n' ∧ t.Names "count\n" ∧ t.Names "top" ∧
      ¬ Text.isPlainName "count\n".toList ∧ Text.isPlainName "top".toList ∧
      ∃ stem : String, Text.isPlainName stem.toList ∧ "count\n" = stem ++ "\n") ∧
    ∃ t n', run counter countOnly {} = .ok t n' ∧ t.Names "count\n" ∧
      ∃ key, CodingOptions.container? counter.options countOnly =
        some (.obj [(key, .str "count\n")]) := by
  have hfeed : '\n' ∈ "count\n".toList := by decide
  have htop : '\n' ∉ "top".toList := by decide
  constructor
  · obtain ⟨t, n', h, s, hs, hcount, hlimits⟩ : ∃ t n', run counter [] {} = .ok t n' ∧
        ∃ s, t.schema? = some s ∧
          Field.leaf ⟨"count", "count\n", false, none, none, none⟩ ∈ s.fields ∧
          Field.group ⟨"limits", "limits", false, none, none, none⟩ "LimitsCodingKeys"
            [.leaf ⟨"top", "top", false, none, none, none⟩] ∈ s.fields :=
      ⟨_, _, rfl, _, rfl, .head _, .tail _ (.head _)⟩
    have hname : t.Names "count\n" := .field hs .top hcount
    have hname' : t.Names "top" :=
      .field hs (.group .top (mem_groups (g := ⟨_, _⟩).2 hlimits)) List.mem_cons_self
    obtain ⟨hnames, -⟩ := plain_iff_of_run h
    refine ⟨t, n', h, hname, hname', ?_, (hnames _ hname').1.2 htop, (hnames _ hname).2 hfeed⟩
    exact fun hplain => (hnames _ hname).1.1 hplain hfeed
  · obtain ⟨t, n', h, hb⟩ : ∃ t n', run counter countOnly {} = .ok t n' ∧
        t.strategy.binding? = some "count\n" := ⟨_, _, rfl, rfl⟩
    exact ⟨t, n', h, .binding hb, (plain_iff_of_run h).2 _ hb hfeed⟩

/-- Not every name that gets through extraction is plain. -/
theorem exists_lineFeed_name : ¬ ∀ (d : Declaration) (overrides : List (String × Json))
    (n : Notices) (t : CodableType) (n' : Notices), run d overrides n = .ok t n' →
      ∀ name, t.Names name → Text.isPlainName name.toList := by
  intro h
  obtain ⟨t, n', hrun, s, hs, hcount⟩ : ∃ t n', run counter [] {} = .ok t n' ∧
      ∃ s, t.schema? = some s ∧
        Field.leaf ⟨"count", "count\n", false, none, none, none⟩ ∈ s.fields :=
    ⟨_, _, rfl, _, rfl, .head _⟩
  have hplain := h counter [] {} t n' hrun _ (.field hs .top hcount)
  revert hplain
  decide

end CodecForge
