/-
  CodecForge — keys in generated Python functions.

  Keys are any texts.  They are written as literals, which Python reads as the keys
  (`Python.denoted?_literal`), and the lines in which they stand are laid out at a width.

  * `Holds` says that the literal of a key stands in a text; a literal has no line feeds, so one
    line of the text holds it (`exists_writtenLine`);
  * `KeepsLiterals` relates a line and the line it becomes, in which every literal is whole;
    `keepsLiterals_reindent`: a literal neither begins nor ends with white space, so laying a
    line out does not touch it;
  * `exists_holds_planSource`: the function of a plan holds each of its keys;
  * `keys_survive` puts these together with what literals denote.
-/
import CodecForge.Proofs.Layout.Aligned
import CodecForge.Proofs.Layout.Tidiness
import CodecForge.Proofs.Target.Denotation
import CodecForge.Proofs.Target.Memory
import CodecForge.Proofs.Target.PythonFunction

namespace CodecForge

open CommandLine.Literal (content?)
open Layout (Fits format formatWith isBlankLine leadingBlanks reindent sizeOf? writtenLines)
open Text (dropEnd isBlank splitOn)

/-! ## Literals in texts -/

/-- The literal of a key stands in a text. -/
def Holds (key s : String) : Prop := (literal key).toList <:+: s.toList

section
variable {key s : String}

theorem holds_between (key a b : String) : Holds key (a ++ literal key ++ b) := by
  rw [Holds, String.toList_append, String.toList_append]
  exact List.infix_append ..

theorem Holds.before (h : Holds key s) (b : String) : Holds key (s ++ b) := by
  rw [Holds, String.toList_append]
  exact List.infix_append_of_infix_left h

theorem holds_text_of_mem {src : Source} {l : Line} (hl : l ∈ src) (h : Holds key l.text) :
    Holds key src.text := by
  obtain ⟨init, rest, rfl⟩ := List.append_of_mem hl
  rw [Holds, Source.toList_text, List.flatMap_append, List.flatMap_cons]
  exact List.infix_append_of_infix_right
    (List.infix_append_of_infix_left (List.infix_append_of_infix_left h))

theorem lineFeed_notMem_literal (key : String) : '\n' ∉ (literal key).toList :=
  Text.noFeed_iff.1 (noFeed_literal key)

/-- What stands in a text without separators stands in one of its parts. -/
theorem exists_mem_splitOn {c : Char} {w cs : List Char} (hw : c ∉ w) (h : w <:+: cs) :
    ∃ l ∈ splitOn c cs, w <:+: l := by
  rw [← Text.joinWith_splitOn c cs] at h
  have hne := Text.splitOn_ne_nil c cs
  generalize splitOn c cs = ls at h hne
  induction ls with
  | nil => exact absurd rfl hne
  | cons l ls ih =>
    cases ls with
    | nil => exact ⟨l, List.mem_cons_self, h⟩
    | cons k ks =>
      rcases infix_append_cons hw h with hl | hrest
      · exact ⟨l, List.mem_cons_self, hl⟩
      · obtain ⟨m, hm, hwm⟩ := ih hrest (List.cons_ne_nil k ks)
        exact ⟨m, List.mem_cons_of_mem l hm, hwm⟩

/-- **A literal stands on one line**, in which something is written. -/
theorem exists_writtenLine (h : Holds key s) : ∃ l ∈ writtenLines s, Holds key l := by
  obtain ⟨l, hl, hinfix⟩ := exists_mem_splitOn (lineFeed_notMem_literal key) h
  have hquote : '"' ∈ l := by
    refine hinfix.mem ?_
    rw [Python.toList_literal]
    exact List.mem_cons_self
  refine ⟨String.ofList l, List.mem_filter.2 ⟨List.mem_map_of_mem hl, ?_⟩, ?_⟩
  · rw [isBlankLine, String.toList_ofList, Bool.not_eq_true', List.all_eq_false]
    exact ⟨'"', hquote, by decide⟩
  · rwa [Holds, String.toList_ofList]

end

/-! ## Literals at a width -/

/-- Every literal in the line `l` stands in the line `l'` as it does in `l`: what is before it is
    reindented, and only the white space at the end of what is after it is gone. -/
def KeepsLiterals (size : Int) (l l' : String) : Prop :=
  ∀ pre key post, l.toList = pre ++ (literal key).toList ++ post →
    l'.toList = reindent size pre ++ (literal key).toList ++ dropEnd isBlank post

theorem dropEnd_literal (pre : List Char) (key : String) (post : List Char) :
    dropEnd isBlank (pre ++ (literal key).toList ++ post) =
      pre ++ (literal key).toList ++ dropEnd isBlank post := by
  have hquote : isBlank '"' = false := by decide
  have hlast : dropEnd isBlank (pre ++ (literal key).toList) = pre ++ (literal key).toList := by
    simp [Python.toList_literal, dropEnd, hquote]
  rw [Layout.dropEnd_append, hlast]
  split
  · next hnil => rw [List.isEmpty_iff.1 hnil, List.append_nil]
  · rfl

theorem Holds.trimEnd {key s : String} (h : Holds key s) : Holds key (Text.trimEnd s) := by
  obtain ⟨pre, post, hsplit⟩ := h
  rw [Holds, Text.trimEnd, String.toList_ofList, ← hsplit, dropEnd_literal]
  exact List.infix_append ..

theorem reindent_literal (size : Int) (pre : List Char) (key : String) (post : List Char) :
    reindent size (pre ++ (literal key).toList ++ post) =
      reindent size pre ++ (literal key).toList ++ post := by
  have hblanks : ∀ cs : List Char,
      (pre ++ '"' :: cs).takeWhile (· == ' ') = pre.takeWhile (· == ' ') ∧
        (pre ++ '"' :: cs).dropWhile (· == ' ') = pre.dropWhile (· == ' ') ++ '"' :: cs := by
    intro cs
    induction pre with
    | nil => exact ⟨rfl, rfl⟩
    | cons c pre ih =>
      by_cases hc : c == ' '
      · simp [hc, ih]
      · simp [hc]
  unfold reindent
  split
  · rfl
  · rw [Python.toList_literal, List.append_assoc, List.cons_append, leadingBlanks,
      (hblanks _).1, (hblanks _).2]
    simp [leadingBlanks]

theorem keepsLiterals_reindent (size : Int) (l : String) :
    KeepsLiterals size l (String.ofList (reindent size (dropEnd isBlank l.toList))) := by
  intro pre key post hl
  rw [String.toList_ofList, hl, dropEnd_literal, reindent_literal]

/-- **Laying a text out keeps every literal in it**, at any width. -/
theorem keepsLiterals_format (size : Int) (code : String) :
    List.Forall₂ (KeepsLiterals size) (writtenLines code) (writtenLines (format size code)) := by
  rw [Layout.writtenLines_format, List.forall₂_map_right_iff, List.forall₂_same]
  exact fun l _ => keepsLiterals_reindent size l

/-! ## Keys of functions -/

namespace PythonFunction

variable (f : PythonFunction)

theorem exists_holds_nestedSource {c : PythonContainer} (hc : c ∈ f.containers) :
    ∃ l ∈ f.nestedSource, Holds c.key l.text := by
  refine ⟨_, List.mem_flatMap.2 ⟨c, hc, List.mem_singleton_self _⟩, ?_⟩
  rw [Line.text_text]
  exact holds_between c.key s!"    {c.variable_} = {c.parent}.nested_container(" ")"

/-- The line of a step holds its key, whatever type or adapter stands in it. -/
theorem holds_stepLine (typeName : String) (d : Direction) (s : PythonStep) :
    Holds s.key (stepLine typeName d s).text := by
  cases d with
  | encode =>
    simp only [stepLine, encodeStep]
    cases s.transform <;> cases s.conditional <;>
      simp only [Line.text_cons, Line.text_nil, Token.written, String.append_empty,
        ← String.append_assoc] <;>
      exact holds_between s.key _ _
  | decode =>
    simp only [stepLine, decodeStep]
    cases s.transform <;> cases s.conditional <;>
      simp only [Line.text_cons, Line.text_append, Line.text_nil, Token.written,
        String.append_empty, ← String.append_assoc] <;>
      exact holds_between s.key _ _ |>.before _ |>.before _

theorem exists_holds_encodeBranches (typeName : String) {c : PythonCase} :
    ∀ {cs : List PythonCase} (word : String), c ∈ cs →
      ∃ l ∈ encodeBranches typeName word cs, Holds c.key l.text
  | d :: cs, word, hc => by
    rw [encodeBranches]
    rcases List.mem_cons.1 hc with rfl | hc
    · refine ⟨_, List.mem_append_left _ (List.mem_append_right _ (List.mem_singleton_self _)), ?_⟩
      rw [Line.text_text]
      exact holds_between c.key "        container.encode(" ")"
    · obtain ⟨l, hl, hkey⟩ := exists_holds_encodeBranches typeName "elif" hc
      exact ⟨l, List.mem_append_right _ hl, hkey⟩

theorem exists_holds_decodeBranch (typeName : String) (c : PythonCase) :
    ∃ l ∈ decodeBranch typeName c, Holds c.key l.text := by
  refine ⟨_, List.mem_append_left _ (List.mem_singleton_self _), ?_⟩
  rw [Line.text_text]
  exact holds_between c.key "    if string_value == " ":"

/-- A function that writes or reads fields holds the keys of its containers and leaves. -/
theorem exists_holds_keyed (d : Direction) {key : String}
    (h : (∃ c ∈ f.containers, c.key = key) ∨ ∃ s ∈ f.steps, s.key = key) :
    ∃ l ∈ f.source .keyed d, Holds key l.text := by
  rcases h with ⟨c, hc, rfl⟩ | ⟨s, hs, rfl⟩
  · obtain ⟨l, hl, hkey⟩ := f.exists_holds_nestedSource hc
    refine ⟨l, ?_, hkey⟩
    cases d <;> exact List.mem_append_left _ (List.mem_append_right _ hl)
  · refine ⟨_, ?_, holds_stepLine f.typeName d s⟩
    cases d with
    | encode => exact List.mem_append_right _ (List.mem_map_of_mem hs)
    | decode =>
      refine List.mem_append_right _ ?_
      rw [initializerCall, if_neg (by simpa using List.ne_nil_of_mem hs)]
      exact List.mem_append_left _ (List.mem_append_right _ (List.mem_map_of_mem hs))

/-- A function that writes or reads a tag holds the keys of the cases. -/
theorem exists_holds_enum (d : Direction) {c : PythonCase} (hc : c ∈ f.cases) :
    ∃ l ∈ f.source .singleValueForEnum d, Holds c.key l.text := by
  cases d with
  | encode =>
    obtain ⟨l, hl, hkey⟩ := exists_holds_encodeBranches f.typeName "if" hc
    exact ⟨l, List.mem_append_left _ (List.mem_append_right _ hl), hkey⟩
  | decode =>
    obtain ⟨l, hl, hkey⟩ := exists_holds_decodeBranch f.typeName c
    exact ⟨l, List.mem_append_left _ (List.mem_append_right _ (List.mem_flatMap.2 ⟨c, hc, hl⟩)),
      hkey⟩

end PythonFunction

/-- The keys that the function of a plan writes. -/
def CodecPlan.keys (p : CodecPlan) : List String :=
  p.nested.filterMap (·.key) ++ p.steps.map (·.field.key) ++ p.cases.map (·.key)

namespace Python

/-- **A line of the function of a plan holds each key of the plan.** -/
theorem exists_holds_planSource (own : PythonSettings) (p : CodecPlan) {key : String}
    (h : key ∈ p.keys) : ∃ l ∈ planSource own p, Holds key l.text := by
  obtain ⟨typeName, d, isPublic, body⟩ := p
  cases body with
  | keyed cs ss =>
    refine (functionOf own _).exists_holds_keyed d ?_
    rcases List.mem_append.1 h with h | h
    · rcases List.mem_append.1 h with h | h
      · obtain ⟨c, hc, hkey⟩ := List.mem_filterMap.1 h
        exact .inl ⟨_, List.mem_map_of_mem hc, by rw [hkey]; rfl⟩
      · obtain ⟨s, hs, rfl⟩ := List.mem_map.1 h
        exact .inr ⟨_, List.mem_map_of_mem hs, rfl⟩
    · cases h
  | singleValue b => cases h
  | singleValueForEnum name cs =>
    obtain ⟨c, hc, rfl⟩ := List.mem_map.1 h
    have hcase : (⟨c.key, attributeName c.localName⟩ : PythonCase) ∈
        (functionOf own ⟨typeName, d, isPublic, .singleValueForEnum name cs⟩).cases :=
      List.mem_map_of_mem hc
    obtain ⟨l, hl, hkey⟩ := PythonFunction.exists_holds_enum _ d hcase
    exact ⟨l, hl, hkey⟩

/-- The text of the function of a plan holds each key of the plan. -/
theorem holds_planSource (own : PythonSettings) (p : CodecPlan) {key : String} (h : key ∈ p.keys) :
    Holds key (Text.trimEnd (planSource own p).text) := by
  obtain ⟨l, hl, hkey⟩ := exists_holds_planSource own p h
  exact (holds_text_of_mem hl hkey).trimEnd

end Python

/-- **Keys survive into the source of Python functions.**  The literal of any key begins and ends
    with a double quote; between them are no control characters, no quote there ends the text
    before the last one does, and Python reads the key, whatever names of characters it knows.
    So different keys have different literals.  A source in which the function of a plan stands
    holds the literal of each key of the plan on a line.  It is laid out at every width at which
    its lines fit, and at any width every literal stays on its line as it is. -/
theorem keys_survive (named : List Char → Option Char) :
    (∀ key, ∃ body, (literal key).toList = '"' :: (body ++ ['"']) ∧
      (∀ c ∈ body, 0x20 ≤ c.toNat) ∧
      (∀ rest, content? ['"'] (body ++ '"' :: rest) = some (body, rest)) ∧
      Python.denoted? named (literal key) = some key) ∧
    Function.Injective literal ∧
    ∀ (s : Settings) (own : PythonSettings) (p : CodecPlan) (code : String),
      ((Generator.python s own).partOf p).toList <:+: code.toList →
      (∀ key ∈ p.keys, ∃ l ∈ writtenLines code, Holds key l) ∧
      (∀ value text, formatWith value code = .ok text ↔
        ∃ size, sizeOf? value = some size ∧ Fits size code ∧ text = format size code) ∧
      ∀ size, List.Forall₂ (KeepsLiterals size) (writtenLines code)
        (writtenLines (format size code)) := by
  refine ⟨fun key => ⟨Python.literalBody key, Python.toList_literal key, fun c hc => ?_,
    Python.content?_literal key, Python.denoted?_literal named key⟩, Python.literal_injective,
    fun s own p code hcode => ⟨fun key hkey => ?_, fun _ _ => Layout.formatWith_eq_ok_iff_fits,
      fun size => keepsLiterals_format size code⟩⟩
  · have hmem : c ∈ (literal key).toList := by
      rw [Python.toList_literal]
      exact List.mem_cons_of_mem _ (List.mem_append_left _ hc)
    simpa [Json.isControl] using Json.noControl_stringLiteral false key c hmem
  · exact exists_writtenLine ((Python.holds_planSource own p hkey).trans hcode)

/-- A plan that writes a tag with quotes and a line feed in it. -/
def greeting : CodecPlan :=
  ⟨"Greeting", .encode, false,
    .singleValueForEnum "CodingKeys" [⟨"say \"hi\"\n", "hello", false, none, none, none⟩]⟩

/-- The tag stands on a line of the function. -/
theorem keys_survive_greeting :
    "say \"hi\"\n" ∈ greeting.keys ∧
      ∃ l ∈ writtenLines ((Generator.python {} (.standalone (.str "net"))).partOf greeting),
        Holds "say \"hi\"\n" l := by
  have hkey : "say \"hi\"\n" ∈ greeting.keys := List.mem_singleton_self _
  obtain ⟨-, -, hplan⟩ := keys_survive fun _ => none
  exact ⟨hkey, (hplan {} (.standalone (.str "net")) greeting _ (List.infix_refl _)).1 _ hkey⟩

end CodecForge
