/-
  CodecForge — Python source in whole levels.

  * `PythonFunction.aligned_source_iff`: if the names of a function are without line feeds, its
    lines are in whole levels exactly if its docstring is;
  * `Python.aligned_planSource_iff`: the docstring of a plan is broken by a single value with a
    line feed, and by nothing else;
  * `Python.aligned_moduleOf_iff`: so the module for types is in whole levels, whatever its
    header, keys and exports say, unless it has such a docstring.
-/
import CodecForge.Proofs.Plan.OneLine
import CodecForge.Proofs.Target.Attributes
import CodecForge.Proofs.Target.PythonModule

namespace CodecForge

open Layout (Aligned Neat NeatLine neat_ofList neat_of_isWord)
open Source (plain line blank)
open Text (IsWord NoFeed avoids_ofList)

/-- A line that is always the same is in whole levels if it begins so. -/
theorem aligned_fixed {cs : List Char} (hopens : Layout.opensLevel cs = true)
    (hfeed : cs.all (fun c => !(c == '\n')) = true) :
    ∀ l ∈ plain (String.ofList cs), Aligned l.text := by
  rw [Source.forall_mem_plain, Line.text_text]
  exact (neat_ofList hopens hfeed : NeatLine _).aligned rfl

namespace PythonFunction

/-- A function of which all names are without line feeds, but perhaps that of a single value. -/
structure OneLine (f : PythonFunction) : Prop where
  signature : NoFeed f.signature.text
  typeName : NoFeed f.typeName
  containers : ∀ c ∈ f.containers, IsWord c.variable_ ∧ NoFeed c.parent
  steps : ∀ s ∈ f.steps, IsWord s.container ∧ IsWord s.member ∧
    ∀ a, s.transform = some a → NoFeed a
  cases : ∀ c ∈ f.cases, NoFeed c.member

/-- The lines below the signature and the docstring. -/
def bodySource (f : PythonFunction) : ContainerKind → Direction → Source
  | .keyed, .encode =>
    plain "    container = encoder.container()" ++ f.nestedSource ++ f.steps.map encodeStep
  | .keyed, .decode =>
    plain "    container = decoder.container()" ++ f.nestedSource ++ f.initializerCall
  | .singleValue, .encode =>
    plain "    container = encoder.single_value_container()" ++
      plain s!"    container.encode(value.{f.binding})"
  | .singleValue, .decode =>
    plain "    container = decoder.single_value_container()" ++
      line (.text "    return " :: .type f.typeName :: .text s!"({f.binding}=container.decode(" ::
        fieldType f.typeName f.binding ++ [.text "))"])
  | .singleValueForEnum, .encode =>
    plain "    container = encoder.single_value_container()" ++
      encodeBranches f.typeName "if" f.cases ++
      if f.cases.isEmpty then refuseValue "    " f.typeName
      else plain "    else:" ++ refuseValue "        " f.typeName
  | .singleValueForEnum, .decode =>
    plain "    container = decoder.single_value_container()" ++
      plain "    string_value = container.decode(str)" ++
      f.cases.flatMap (decodeBranch f.typeName) ++
      line [.text "    raise ", .runtime .dataCorruptedError,
        .text ".in_container(container, f\"Invalid value: \x7bstring_value\x7d\")"]

theorem source_eq (f : PythonFunction) (k : ContainerKind) (d : Direction) :
    f.source k d = f.headSource ++ f.bodySource k d := by
  cases k <;> cases d <;>
    simp only [source, bodySource, keyedEncode, keyedDecode, singleValueEncode, singleValueDecode,
      enumEncode, enumDecode, List.append_assoc]

section
variable {f : PythonFunction} (h : f.OneLine)
include h

theorem aligned_nestedSource : ∀ l ∈ f.nestedSource, Aligned l.text := by
  rw [nestedSource, List.forall_mem_flatMap]
  intro c hc
  obtain ⟨hv, hparent⟩ := h.containers c hc
  have hopening : NeatLine ("    " ++ c.variable_) := (neat_of_isWord hv).noFeed.indent rfl
  rw [Source.forall_mem_plain, Line.text_text]
  exact hopening.text rfl |>.append hparent |>.text rfl |>.append (noFeed_literal c.key)
    |>.text rfl |>.aligned rfl

theorem aligned_encodeStep {s : PythonStep} (hs : s ∈ f.steps) : Aligned (encodeStep s).text := by
  obtain ⟨hcontainer, hmember, htransform⟩ := h.steps s hs
  have hopening : NeatLine ("    " ++ s.container) :=
    (neat_of_isWord hcontainer).noFeed.indent rfl
  have hvalue : NoFeed ("value." ++ s.member) := (avoids_ofList rfl).append hmember.oneLine.noFeed
  have hkey := noFeed_literal s.key
  unfold encodeStep
  dsimp only
  split <;> simp only [Line.text_cons, Line.text_nil, Token.written, RuntimeName.label,
    String.append_empty, ← String.append_assoc]
  · next a ha hc =>
    exact hopening.text rfl |>.text rfl |>.text rfl |>.append (htransform a ha) |>.text rfl
      |>.append hvalue |>.text rfl |>.append hkey |>.text rfl |>.aligned rfl
  · next a ha hc =>
    exact hopening.text rfl |>.append (htransform a ha) |>.text rfl |>.append hvalue |>.text rfl
      |>.append hkey |>.text rfl |>.aligned rfl
  · next ha hc =>
    exact hopening.text rfl |>.append hvalue |>.text rfl |>.append hkey |>.text rfl |>.aligned rfl
  · next ha hc =>
    exact hopening.text rfl |>.append hvalue |>.text rfl |>.append hkey |>.text rfl |>.aligned rfl

theorem OneLine.noFeed_fieldType (member : String) :
    NoFeed (Line.text (fieldType f.typeName member)) := by
  have hopening : NeatLine "field_type" := neat_ofList rfl rfl
  simp only [fieldType, Line.text_cons, Line.text_nil, Token.written, RuntimeName.label,
    String.append_empty, ← String.append_assoc]
  exact (hopening.text rfl |>.append h.typeName |>.text rfl |>.append (noFeed_literal member)
    |>.text rfl).avoids

theorem aligned_decodeStep {s : PythonStep} (hs : s ∈ f.steps) :
    Aligned (decodeStep f.typeName s).text := by
  obtain ⟨hcontainer, hmember, htransform⟩ := h.steps s hs
  have hopening : NeatLine ("        " ++ s.member ++ "=") :=
    ((neat_of_isWord hmember).noFeed.indentTwice rfl).text rfl
  have hname := hcontainer.oneLine.noFeed
  have hkey := noFeed_literal s.key
  have htype := h.noFeed_fieldType s.member
  unfold decodeStep
  dsimp only
  split <;> simp only [Line.text_cons, Line.text_append, Line.text_nil, Token.written,
    RuntimeName.label, String.append_empty, ← String.append_assoc]
  · next a ha hc =>
    exact hopening.text rfl |>.text rfl |>.append hname |>.text rfl |>.append hkey |>.text rfl
      |>.append (htransform a ha) |>.text rfl |>.aligned rfl
  · next a ha hc =>
    exact hopening.append hname |>.text rfl |>.append hkey |>.text rfl
      |>.append (htransform a ha) |>.text rfl |>.aligned rfl
  · next ha hc =>
    exact hopening.append hname |>.text rfl |>.append hkey |>.text rfl |>.append htype
      |>.text rfl |>.aligned rfl
  · next ha hc =>
    exact hopening.append hname |>.text rfl |>.append hkey |>.text rfl |>.append htype
      |>.text rfl |>.aligned rfl

theorem aligned_initializerCall : ∀ l ∈ f.initializerCall, Aligned l.text := by
  have hreturn : NeatLine ("    return " ++ f.typeName) :=
    (neat_ofList rfl rfl : NeatLine "    return ").append h.typeName
  unfold initializerCall
  split
  · simp only [Source.forall_mem_line, Line.text_cons, Line.text_nil, Token.written,
      String.append_empty, ← String.append_assoc]
    exact hreturn.text rfl |>.aligned rfl
  · simp only [List.forall_mem_append, and_assoc, List.forall_mem_map, Source.forall_mem_line,
      Line.text_cons, Line.text_nil, Token.written, String.append_empty, ← String.append_assoc]
    exact ⟨hreturn.text rfl |>.aligned rfl, fun s hs => aligned_decodeStep h hs,
      aligned_fixed rfl rfl⟩

/-- The line that writes one property, and the line that reads it. -/
theorem aligned_bindingLines (hb : Text.isAsciiIdentifier f.binding) :
    Aligned ("    container.encode(value." ++ f.binding ++ ")") ∧
      Aligned ("    return " ++ f.typeName ++ "(" ++ f.binding ++
        ("=container.decode(" ++ Line.text (fieldType f.typeName f.binding) ++ "))")) := by
  constructor
  · have hend : NeatLine ")" := neat_ofList rfl rfl
    exact Layout.aligned_around (neat_ofList rfl rfl) hb hend.avoids (hend.aligned rfl)
  · have hreturn : NeatLine "    return " := neat_ofList rfl rfl
    have hread : NeatLine "=container.decode(" := neat_ofList rfl rfl
    have hend : NoFeed "))" := avoids_ofList rfl
    have hrest := hread.append (h.noFeed_fieldType f.binding) |>.append hend
    exact Layout.aligned_around (hreturn.append h.typeName |>.text rfl) hb hrest.avoids
      (hrest.aligned rfl)

theorem aligned_encodeBranches {word : String} (hword : NeatLine word)
    {cs : List PythonCase} (hcs : ∀ c ∈ cs, NoFeed c.member) :
    ∀ l ∈ encodeBranches f.typeName word cs, Aligned l.text := by
  induction cs generalizing word with
  | nil => exact nofun
  | cons c cs ih =>
    rw [List.forall_mem_cons] at hcs
    have hrest := ih (neat_ofList rfl rfl : NeatLine "elif") hcs.2
    have hopening : NeatLine ("    " ++ word) := hword.indent rfl
    have hcall : NeatLine "        container.encode(" := neat_ofList rfl rfl
    simp only [encodeBranches, List.forall_mem_append, and_assoc, Source.forall_mem_line,
      Source.forall_mem_plain, Line.text_cons, Line.text_nil, Token.written,
      String.append_empty, ← String.append_assoc]
    exact ⟨hopening.text rfl |>.append h.typeName |>.text rfl |>.append hcs.1 |>.text rfl
      |>.aligned rfl, hcall.append (noFeed_literal c.key) |>.text rfl |>.aligned rfl, hrest⟩

omit h in
theorem aligned_refuseValue {indent : String} (hraise : NeatLine (indent ++ "raise "))
    (typeName : String) : ∀ l ∈ refuseValue indent typeName, Aligned l.text := by
  simp only [refuseValue, Source.forall_mem_line, Line.text_cons, Line.text_nil, Token.written,
    RuntimeName.label, String.append_empty, ← String.append_assoc]
  exact hraise.text rfl |>.text rfl |>.append (noFeed_literal _) |>.text rfl |>.aligned rfl

theorem aligned_decodeBranch {c : PythonCase} (hc : NoFeed c.member) :
    ∀ l ∈ decodeBranch f.typeName c, Aligned l.text := by
  have htest : NeatLine "    if string_value == " := neat_ofList rfl rfl
  have hreturn : NeatLine "        return " := neat_ofList rfl rfl
  simp only [decodeBranch, List.forall_mem_append, Source.forall_mem_line,
    Source.forall_mem_plain, Line.text_cons, Line.text_nil, Token.written, String.append_empty,
    ← String.append_assoc]
  exact ⟨htest.append (noFeed_literal c.key) |>.text rfl |>.aligned rfl,
    hreturn.append h.typeName |>.text rfl |>.append hc |>.aligned rfl⟩

/-- **Below its signature and its docstring a function is in whole levels.** -/
theorem aligned_bodySource {k : ContainerKind}
    (hb : k = .singleValue → Text.isAsciiIdentifier f.binding) (d : Direction) :
    ∀ l ∈ f.bodySource k d, Aligned l.text := by
  cases k <;> cases d <;> simp only [bodySource, List.forall_mem_append, and_assoc]
  case keyed.encode =>
    refine ⟨aligned_fixed rfl rfl, aligned_nestedSource h, ?_⟩
    rw [List.forall_mem_map]
    exact fun s hs => aligned_encodeStep h hs
  case keyed.decode =>
    exact ⟨aligned_fixed rfl rfl, aligned_nestedSource h, aligned_initializerCall h⟩
  case singleValue.encode =>
    refine ⟨aligned_fixed rfl rfl, ?_⟩
    rw [Source.forall_mem_plain, Line.text_text]
    exact (aligned_bindingLines h (hb rfl)).1
  case singleValue.decode =>
    refine ⟨aligned_fixed rfl rfl, ?_⟩
    simp only [Source.forall_mem_line, Line.text_cons, Line.text_append, Line.text_nil,
      Token.written, String.append_empty, String.append_assoc]
    have hread := (aligned_bindingLines h (hb rfl)).2
    simp only [String.append_assoc] at hread
    exact hread
  case singleValueForEnum.encode =>
    have hraise : NeatLine "raise " := neat_ofList rfl rfl
    refine ⟨aligned_fixed rfl rfl, aligned_encodeBranches h (neat_ofList rfl rfl) h.cases, ?_⟩
    split
    · exact aligned_refuseValue (hraise.indent rfl) f.typeName
    · rw [List.forall_mem_append]
      exact ⟨aligned_fixed rfl rfl, aligned_refuseValue (hraise.indentTwice rfl) f.typeName⟩
  case singleValueForEnum.decode =>
    refine ⟨aligned_fixed rfl rfl, aligned_fixed rfl rfl, ?_, ?_⟩
    · rw [List.forall_mem_flatMap]
      exact fun c hc => aligned_decodeBranch h (h.cases c hc)
    · have hraise : NeatLine "    raise " := neat_ofList rfl rfl
      simp only [Source.forall_mem_line, Line.text_cons, Line.text_nil, Token.written,
        RuntimeName.label, String.append_empty, ← String.append_assoc]
      exact hraise.text rfl |>.text rfl |>.aligned rfl

/-- The line of the signature is in whole levels. -/
theorem aligned_signature :
    Aligned (Line.text (.text "def " :: f.signature ++ [.text ":"])) := by
  have hdef : NeatLine "def " := neat_ofList rfl rfl
  simp only [Line.text_cons, Line.text_append, Line.text_nil, Token.written, String.append_empty]
  exact hdef.append h.signature |>.text rfl |>.aligned rfl

/-- **A function is in whole levels exactly if its docstring is.** -/
theorem aligned_source_iff {k : ContainerKind}
    (hb : k = .singleValue → Text.isAsciiIdentifier f.binding) (d : Direction) :
    (∀ l ∈ f.source k d, Aligned l.text) ↔
      ∀ doc, f.docstring = some doc → Aligned ("    \"\"\"" ++ doc ++ "\"\"\"") := by
  rw [source_eq, List.forall_mem_append, and_iff_left (aligned_bodySource h hb d), headSource,
    List.forall_mem_append, Source.forall_mem_line, and_iff_right (aligned_signature h),
    docstringSource]
  cases f.docstring with
  | none => simp
  | some doc =>
    simp only [Source.forall_mem_plain, Line.text_text, Option.some.injEq, forall_eq']
    rfl

end

end PythonFunction

/-! ## Functions of plans -/

namespace Python

theorem isPlainName_keyword_underscore {w : String} (h : w ∈ keywords) :
    Text.isPlainName (w ++ "_").toList := by
  revert w
  decide +kernel

theorem isWord_attributeName {name : String} (h : IsWord name) : IsWord (attributeName name) := by
  by_cases hk : name ∈ keywords
  · rw [attributeName_of_mem hk]
    exact Text.isWord_of_isPlainName (isPlainName_keyword_underscore hk)
  · rwa [attributeName_of_notMem hk]

/-- The attribute of an identifier is one, and it has a line feed exactly if the identifier does. -/
theorem isAsciiIdentifier_attributeName {name : String} (h : Text.isAsciiIdentifier name) :
    Text.isAsciiIdentifier (attributeName name) ∧
      ('\n' ∉ (attributeName name).toList ↔ '\n' ∉ name.toList) := by
  by_cases hk : name ∈ keywords
  · have hplain := isPlainName_keyword_underscore hk
    have hfeed := Text.lineFeed_notMem_of_isPlainName hplain
    rw [attributeName_of_mem hk]
    refine ⟨Text.isAsciiIdentifier_iff.2 (.inl hplain), iff_of_true hfeed fun hmem => hfeed ?_⟩
    rw [String.toList_append]
    exact List.mem_append_left _ hmem
  · rw [attributeName_of_notMem hk]
    exact ⟨h, Iff.rfl⟩

theorem noFeed_functionName (typeName : String) (d : Direction) (isPublic : Bool) :
    NoFeed (functionName typeName d isPublic) := by
  have hsanitized : NoFeed (Naming.sanitized words typeName .snake "_") :=
    (Text.oneLine_of_nameChars (Naming.safeFor_sanitized typeName .snake).nameChar).noFeed
  have hlabel : NoFeed d.label := by cases d <;> exact avoids_ofList rfl
  have hmark : NoFeed (if isPublic then "" else "_") := by
    cases isPublic <;> exact avoids_ofList rfl
  exact hmark.append hlabel |>.text rfl |>.append hsanitized

theorem noFeed_signature (own : PythonSettings) {name typeName : String} (hname : NoFeed name)
    (htype : NoFeed typeName) (d : Direction) : NoFeed (signature own name typeName d).text := by
  cases d <;> simp only [signature] <;> split <;>
    simp only [Line.text_cons, Line.text_nil, Token.written, RuntimeName.label,
      String.append_empty, ← String.append_assoc]
  · exact hname.text rfl |>.append htype |>.text rfl |>.text rfl |>.text rfl
  · exact hname.text rfl
  · exact hname.text rfl |>.text rfl |>.text rfl |>.append htype
  · exact hname.text rfl

variable {own : PythonSettings} {p : CodecPlan} (hp : p.OneLine)
include hp

theorem oneLine_functionOf : (functionOf own p).OneLine where
  signature := noFeed_signature own (noFeed_functionName _ _ _) hp.typeName.noFeed p.direction
  typeName := hp.typeName.noFeed
  containers := by
    simp only [functionOf, List.forall_mem_map]
    exact fun c hc => ⟨(hp.nested c hc).variable_, (hp.nested c hc).parent.noFeed⟩
  steps := by
    simp only [functionOf, List.forall_mem_map]
    exact fun st hst => ⟨(hp.steps st hst).container,
      isWord_attributeName (hp.steps st hst).localName,
      fun a ha => ((hp.steps st hst).transform a ha).noFeed⟩
  cases := by
    simp only [functionOf, List.forall_mem_map]
    exact fun c hc => (isWord_attributeName (hp.cases c hc)).oneLine.noFeed

theorem isAsciiIdentifier_bindingOf (hk : p.kind = .singleValue) :
    Text.isAsciiIdentifier (bindingOf p) := by
  obtain ⟨b, hb⟩ := exists_binding_of_kind hk
  rw [bindingOf, hb]
  exact (isAsciiIdentifier_attributeName (hp.binding b hb)).1

omit hp in
theorem aligned_docstring {typeName : String} (h : NoFeed typeName) (binding : String)
    {k : ContainerKind} (hk : k ≠ .singleValue) (d : Direction) :
    Aligned ("    \"\"\"" ++ docstring typeName binding k d ++ "\"\"\"") := by
  have hquotes : NeatLine "    \"\"\"" := neat_ofList rfl rfl
  have hsentence : NoFeed (docstring typeName binding k d) := by
    cases k <;> cases d
    case singleValue.encode | singleValue.decode => exact absurd rfl hk
    all_goals exact (avoids_ofList rfl).append h |>.text rfl
  exact hquotes.append hsentence |>.text rfl |>.aligned rfl

omit hp in
/-- The docstring of a single value goes on after its property. -/
theorem docstring_eq_around {typeName : String} (h : NoFeed typeName) (binding : String)
    (d : Direction) : ∃ opening, NeatLine opening ∧
      "    \"\"\"" ++ docstring typeName binding .singleValue d ++ "\"\"\"" =
        opening ++ binding ++ " value.\"\"\"" := by
  have hquotes : NeatLine "    \"\"\"" := neat_ofList rfl rfl
  have hend : " value." ++ "\"\"\"" = " value.\"\"\"" := rfl
  rw [← hend]
  cases d
  · refine ⟨"    \"\"\"" ++ "Encode " ++ typeName ++ " as its ",
      hquotes.text rfl |>.append h |>.text rfl, ?_⟩
    simp only [docstring, toString, String.append_assoc]
  · refine ⟨"    \"\"\"" ++ "Decode " ++ typeName ++ " from its ",
      hquotes.text rfl |>.append h |>.text rfl, ?_⟩
    simp only [docstring, toString, String.append_assoc]

/-- **A docstring is in whole levels unless a single value brings a line feed along.** -/
theorem aligned_docstring_iff : Aligned ("    \"\"\"" ++
      docstring p.typeName (bindingOf p) p.kind p.direction ++ "\"\"\"") ↔
    ∀ b, p.binding? = some b → '\n' ∉ b.toList := by
  have htype := hp.typeName.noFeed
  by_cases hk : p.kind = .singleValue
  · obtain ⟨b, hb⟩ := exists_binding_of_kind hk
    obtain ⟨opening, hopening, heq⟩ := docstring_eq_around htype (bindingOf p) p.direction
    have hend : ¬ Aligned " value.\"\"\"" := by
      rw [Layout.aligned_iff_of_notMem (by decide)]
      decide
    have hname : bindingOf p = attributeName b := by rw [bindingOf, hb]; rfl
    rw [hk, heq, Layout.aligned_around_iff hopening (isAsciiIdentifier_bindingOf hp hk)
      (avoids_ofList rfl) hend, hname, (isAsciiIdentifier_attributeName (hp.binding b hb)).2, hb]
    simp
  · refine iff_of_true (aligned_docstring htype _ hk _) fun b hb => absurd ?_ hk
    obtain ⟨typeName, d, isPublic, body⟩ := p
    cases body with
    | singleValue b => rfl
    | keyed | singleValueForEnum => cases hb

/-- **The function of a plan is in whole levels unless its docstring is broken.** -/
theorem aligned_planSource_iff : (∀ l ∈ planSource own p, Aligned l.text) ↔
    (own.docstrings → ∀ b, p.binding? = some b → '\n' ∉ b.toList) := by
  rw [planSource, PythonFunction.aligned_source_iff (oneLine_functionOf hp)
    (isAsciiIdentifier_bindingOf hp), ← aligned_docstring_iff hp]
  simp only [functionOf]
  split
  · next hdoc => simp [hdoc]
  · next hdoc => simp [hdoc]

omit hp in
theorem aligned_blockOf_iff {plans : List CodecPlan} (hplans : ∀ p ∈ plans, p.OneLine) :
    Aligned (blockOf own plans) ↔
      (own.docstrings → ∀ p ∈ plans, ∀ b, p.binding? = some b → '\n' ∉ b.toList) := by
  rw [blockOf, Layout.aligned_intercalate "\n\n\n" 2 rfl, List.forall_mem_map]
  have hplan : ∀ p ∈ plans, (Aligned (Text.trimEnd (planSource own p).text) ↔
      (own.docstrings → ∀ b, p.binding? = some b → '\n' ∉ b.toList)) := by
    intro p hp
    rw [Layout.aligned_trimEnd, Layout.aligned_text, aligned_planSource_iff (hplans p hp)]
  rw [forall₂_congr hplan]
  exact ⟨fun h hd p hp => h p hp hd, fun h p hp hd => h hd p hp⟩

end Python

/-! ## Modules -/

namespace PythonModule

/-- A module of which all names are without line feeds; its header may be any text. -/
structure OneLine (m : PythonModule) : Prop where
  runtimeModule : NoFeed m.runtimeModule
  runtimeImports : ∀ n ∈ m.runtimeImports, IsWord n
  typeModule : NoFeed m.typeModule
  typeImports : ∀ n ∈ m.typeImports, NoFeed n
  registrations : ∀ r ∈ m.registrations, NoFeed r.typeName ∧
    (∀ f, r.encode = some f → NoFeed f) ∧ ∀ f, r.decode = some f → NoFeed f

theorem aligned_surrounded {before ls after : Source} (hbefore : ∀ l ∈ before, Aligned l.text)
    (hls : ∀ l ∈ ls, Aligned l.text) (hafter : ∀ l ∈ after, Aligned l.text) :
    ∀ l ∈ surrounded before ls after, Aligned l.text := by
  unfold surrounded
  split
  · exact nofun
  · simp only [List.forall_mem_append]
    exact ⟨⟨hbefore, hls⟩, hafter⟩

theorem aligned_headerSource (m : PythonModule) : ∀ l ∈ m.headerSource, Aligned l.text := by
  unfold headerSource
  split
  · exact nofun
  · rw [Source.forall_mem_plain, Line.text_text]
    exact Layout.aligned_comment (neat_ofList rfl rfl) _

variable {m : PythonModule} (h : m.OneLine)
include h

theorem aligned_runtimeImportSource : ∀ l ∈ surrounded (plain s!"from {m.runtimeModule} import (")
    (m.runtimeImports.flatMap fun n => plain s!"    {n},") (plain ")"), Aligned l.text := by
  have hfrom : NeatLine "from " := neat_ofList rfl rfl
  refine aligned_surrounded ?_ ?_ (aligned_fixed rfl rfl)
  · rw [Source.forall_mem_plain, Line.text_text]
    exact hfrom.append h.runtimeModule |>.text rfl |>.aligned rfl
  · rw [List.forall_mem_flatMap]
    intro n hn
    have hname := (neat_of_isWord (h.runtimeImports n hn)).noFeed.indent rfl
    rw [Source.forall_mem_plain, Line.text_text]
    exact hname.text rfl |>.aligned rfl

theorem aligned_typeImportSource : ∀ l ∈ m.typeImportSource, Aligned l.text := by
  have hfrom : NeatLine "from " := neat_ofList rfl rfl
  have hnames : NoFeed (", ".intercalate m.typeImports) :=
    Text.avoids_intercalate (avoids_ofList rfl) h.typeImports
  unfold typeImportSource
  dsimp only
  split
  · exact nofun
  · rw [Source.forall_mem_plain, Line.text_text]
    exact hfrom.append h.typeModule |>.text rfl |>.append hnames |>.aligned rfl

omit h in
/-- Exports are literals, so any text will do. -/
theorem aligned_exportSource (exports : List String) :
    ∀ l ∈ surrounded (blank ++ plain "__all__ = [")
      (exports.flatMap fun n => plain s!"    {literal n},") (plain "]"), Aligned l.text := by
  refine aligned_surrounded ?_ ?_ (aligned_fixed rfl rfl)
  · rw [List.forall_mem_append]
    exact ⟨Source.aligned_blank, aligned_fixed rfl rfl⟩
  · rw [List.forall_mem_flatMap]
    intro n _
    have hname := (neat_literal n).indent rfl
    rw [Source.forall_mem_plain, Line.text_text]
    exact hname.text rfl |>.aligned rfl

theorem aligned_prologue : ∀ l ∈ m.prologue, Aligned l.text := by
  have hhints : ∀ l ∈ (if m.typeHints then plain "from __future__ import annotations" ++ blank
      else []), Aligned l.text := by
    split
    · rw [List.forall_mem_append]
      exact ⟨aligned_fixed rfl rfl, Source.aligned_blank⟩
    · exact nofun
  simp only [prologue, List.forall_mem_append, and_assoc]
  exact ⟨aligned_headerSource m, hhints, aligned_runtimeImportSource h,
    aligned_typeImportSource h, aligned_exportSource m.exports⟩

theorem aligned_registrationLine {r : PythonRegistration} (hr : r ∈ m.registrations) :
    Aligned (registrationLine r).text := by
  obtain ⟨htype, hencode, hdecode⟩ := h.registrations r hr
  have hargument : ∀ (label : String) (f : Option String), NoFeed label →
      (∀ name, f = some name → NoFeed name) → NoFeed (registrationArgument label f).text := by
    intro label f hlabel hf
    cases f with
    | none => exact avoids_ofList rfl
    | some name =>
      have hcomma : NoFeed ", " := avoids_ofList rfl
      simp only [registrationArgument, Line.text_cons, Line.text_nil, String.append_empty]
      exact hcomma.append hlabel |>.text rfl |>.append (hf name rfl)
  have hopening : NeatLine "register_codec" := neat_ofList rfl rfl
  simp only [registrationLine, Line.text_cons, Line.text_append, Line.text_nil, Token.written,
    RuntimeName.label, String.append_empty, ← String.append_assoc]
  exact hopening.text rfl |>.append htype
    |>.append (hargument "encode" r.encode (avoids_ofList rfl) hencode)
    |>.append (hargument "decode" r.decode (avoids_ofList rfl) hdecode)
    |>.text rfl |>.aligned rfl

theorem aligned_epilogue : ∀ l ∈ m.epilogue, Aligned l.text := by
  refine aligned_surrounded ?_ ?_ nofun
  · rw [List.forall_mem_append]
    exact ⟨Source.aligned_blank, Source.aligned_blank⟩
  · rw [List.forall_mem_map]
    exact fun r hr => aligned_registrationLine h hr

/-- **A module is in whole levels exactly if its functions are.** -/
theorem aligned_source_iff : Aligned m.source.text ↔ ∀ b ∈ m.blocks, Aligned b := by
  rw [Layout.aligned_text, source, List.forall_mem_append, List.forall_mem_append,
    and_iff_right (aligned_prologue h), and_iff_left (aligned_epilogue h), blockSource,
    List.forall_mem_flatMap]
  refine forall₂_congr fun b _ => ?_
  rw [List.forall_mem_append, List.forall_mem_append,
    and_iff_right ⟨Source.aligned_blank, Source.aligned_blank⟩, Source.forall_mem_plain,
    Line.text_text]

end PythonModule

/-! ## Modules of types -/

namespace Python

variable {s : Settings} {own : PythonSettings} {types : List (CodableType × List CodecPlan)}

theorem isWord_label (n : RuntimeName) : IsWord n.label := by
  have hnames : ∀ n : RuntimeName, n.label ≠ "" ∧ n.label.toList.all Text.isNameChar := by
    intro n
    cases n <;> exact ⟨by decide, by rfl⟩
  exact ⟨(hnames n).1, List.all_eq_true.1 (hnames n).2⟩

theorem noFeed_topLevelName {name : String} (h : NoFeed name) : NoFeed (topLevelName name) := by
  intro c hc
  rw [topLevelName, String.toList_ofList] at hc
  exact h c ((List.takeWhile_sublist _).mem hc)

section
variable (hruntime : NoFeed own.runtimeModule.text)
  (htypes : NoFeed (own.typeModule.getD .null).text)
  (hplans : ∀ q ∈ types, NoFeed q.1.typeName ∧ ∀ p ∈ q.2, p.OneLine)
include hruntime htypes hplans

theorem oneLine_moduleOf : (moduleOf s own types).OneLine where
  runtimeModule := hruntime
  runtimeImports n hn := by
    obtain ⟨m, -, rfl⟩ := (mem_runtimeImports s).1 hn
    exact isWord_label m
  typeModule := htypes
  typeImports n hn := by
    obtain ⟨-, q, hq, rfl | ⟨p, hp, rfl | ⟨a, ha, rfl⟩⟩⟩ := (mem_typeImports s).1 hn
    · exact noFeed_topLevelName (hplans q hq).1
    · exact noFeed_topLevelName ((hplans q hq).2 p hp).typeName.noFeed
    · obtain ⟨st, hst, ha⟩ := ha
      exact noFeed_topLevelName ((((hplans q hq).2 p hp).steps st hst).transform a ha).noFeed
  registrations r hr := by
    obtain ⟨q, hq, rfl⟩ := exists_of_mem_registrationsOf hr
    have hfunction : ∀ f ∈ (registrationOf q.1.typeName q.2).encode.toList ++
        (registrationOf q.1.typeName q.2).decode.toList, NoFeed f := by
      intro f hf
      obtain ⟨p, -, rfl⟩ := exists_plan_of_mem_registrationOf hf
      exact noFeed_functionName _ _ _
    rw [List.forall_mem_append] at hfunction
    exact ⟨(hplans q hq).1, fun f hf => hfunction.1 f (Option.mem_toList.2 hf),
      fun f hf => hfunction.2 f (Option.mem_toList.2 hf)⟩

/-- **The module for types is in whole levels unless a docstring is broken.** -/
theorem aligned_moduleOf_iff : Aligned (moduleOf s own types).source.text ↔ (own.docstrings →
      ∀ q ∈ types, ∀ p ∈ q.2, ∀ b, p.binding? = some b → '\n' ∉ b.toList) := by
  rw [PythonModule.aligned_source_iff (oneLine_moduleOf hruntime htypes hplans)]
  have hblock : ∀ q ∈ types, (Aligned (blockOf own q.2) ↔ (own.docstrings →
      ∀ p ∈ q.2, ∀ b, p.binding? = some b → '\n' ∉ b.toList)) :=
    fun q hq => aligned_blockOf_iff (hplans q hq).2
  simp only [moduleOf, List.forall_mem_map]
  rw [forall₂_congr hblock]
  exact ⟨fun h hd q hq => h q hq hd, fun h q hq hd => h hd q hq⟩

end

end Python

end CodecForge
