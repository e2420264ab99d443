/-
  CodecForge — the text for types is composed of the texts of the types.

  The text of a type does not depend on what else a generator is asked (`text`).  The text for
  several types has, between lines that are written once, the texts of the types in their
  order (`Generator.composed`), and the text of a type with both directions has the texts for
  the directions, encode first (`Joins`).

  `composed_of_extracted` puts this together for all extracted types.  It rests on
  `Generator.outcome_eq`: what is remembered decides nothing.
-/
import CodecForge.Proofs.Extraction.Planned
import CodecForge.Proofs.Target.Memory

namespace CodecForge

/-! ## Texts of sources -/

namespace Source

variable (s t : Source)

@[simp]
theorem text_nil : text [] = "" := rfl

@[simp]
theorem text_append : (s ++ t).text = s.text ++ t.text := by
  simp [text]

@[simp]
theorem text_plain (x : String) : (plain x).text = x ++ "\n" := by
  simp [text, plain, Line.text, Token.written]

@[simp]
theorem text_blank : blank.text = "\n" := rfl

theorem text_line (l : Line) : (line l).text = l.text ++ "\n" := by
  simp [text, line]

end Source

/-- A blank line after a line. -/
theorem twoFeeds : ("\n\n" : String) = "\n" ++ "\n" := rfl

/-- The line feed after a last line with a brace is dropped. -/
theorem Text.trimEnd_brace (s : String) : trimEnd (s ++ "\x7d\n") = s ++ "\x7d" := by
  have hbrace : isBlank '\x7d' = false := by decide
  have hfeed : isBlank '\n' = true := by decide
  apply String.toList_inj.1
  simp [trimEnd, dropEnd, hbrace, hfeed]

/-! ## Python -/

namespace PythonModule

open Source

/-- The functions of each type, two blank lines before them. -/
theorem text_blockSource (m : PythonModule) :
    m.blockSource.text = String.join (m.blocks.map fun b => "\n\n" ++ b ++ "\n") := by
  unfold blockSource
  induction m.blocks with
  | nil => rfl
  | cons b bs ih =>
    have hblock : (blank ++ blank ++ plain b).text = "\n\n" ++ b ++ "\n" := by
      simp only [text_append, text_blank, text_plain, twoFeeds, String.append_assoc]
    rw [List.flatMap_cons, text_append, hblock, ih, List.map_cons, String.join_cons]

end PythonModule

/-! ## Swift -/

namespace Swift

/-- Blocks are written with a blank line between them. -/
theorem text_blockLines : ∀ blocks : List String,
    (blockLines blocks).text = "\n".intercalate (blocks.map (· ++ "\n"))
  | [] => rfl
  | [b] => by simp [blockLines]
  | b :: c :: bs => by
    rw [blockLines, Source.text_append, Source.text_append, text_blockLines (c :: bs)]
    simp [String.append_assoc]

/-- Members are moved in and written with a blank line between them. -/
theorem text_memberLines : ∀ members : List String,
    (memberLines members).text = "\n".intercalate (members.map (indented · ++ "\n"))
  | [] => rfl
  | [m] => by simp [memberLines]
  | m :: n :: ms => by
    rw [memberLines, Source.text_append, Source.text_append, text_memberLines (n :: ms)]
    simp [String.append_assoc]

/-- A text inside an extension of a type. -/
def wrapped (typeName body : String) : String :=
  "extension " ++ typeName ++ " \x7b\n" ++ body ++ "\x7d"

theorem trimEnd_extensionSource (typeName : String) (members : List String) :
    Text.trimEnd (extensionSource typeName members).text =
      wrapped typeName ("\n".intercalate (members.map (indented · ++ "\n"))) := by
  have htext : (extensionSource typeName members).text =
      "extension " ++ typeName ++ " \x7b\n" ++
        "\n".intercalate (members.map (indented · ++ "\n")) ++ "\x7d\n" := by
    simp [extensionSource, text_memberLines, Source.text_line, Line.text, Token.written,
      String.append_assoc]
  rw [htext, Text.trimEnd_brace]
  rfl

end Swift

/-! ## Both directions -/

/-- The type with one direction. -/
def CodableType.only (t : CodableType) (d : Direction) : CodableType := { t with directions := [d] }

namespace Generator

variable (g : Generator) {t : CodableType}

/-- An extracted type has one plan for each direction, with both directions or with one. -/
theorem exists_plans_only (ht : t.IsExtracted) : ∃ p : Direction → CodecPlan,
    (∀ d, g.plansOf (t.only d) = .ok [p d]) ∧
      (Direction.encode ∈ t.directions → Direction.decode ∈ t.directions →
        g.plansOf t = .ok [p .encode, p .decode]) := by
  choose p hp _ using fun d => exists_plan ht d g.target.style
  refine ⟨p, fun d => ?_, fun hencode hdecode => ?_⟩
  · have honly : [Direction.encode, .decode].filter (t.only d).directions.contains = [d] := by
      cases d <;> rfl
    have hplan : (t.only d).plan d g.target.style = .ok (p d) := hp d
    rw [plansOf, honly, List.mapM_cons, hplan]
    rfl
  · have hboth : [Direction.encode, .decode].filter t.directions.contains =
        [Direction.encode, .decode] := by
      simp [hencode, hdecode]
    rw [plansOf, hboth, List.mapM_cons, hp .encode, List.mapM_cons, hp .decode]
    rfl

/-- How the text `whole` of a type is made of its texts for one direction, which have the
    parts `e` and `d`. -/
def Joins (typeName e d whole encode decode : String) : Prop :=
  match g with
  | python _ _ => whole = encode ++ "\n\n\n" ++ decode
  | swift _ own =>
    if own.wrapInExtension then
      encode = Swift.wrapped typeName (Swift.indented e ++ "\n") ∧
      decode = Swift.wrapped typeName (Swift.indented d ++ "\n") ∧
      whole = Swift.wrapped typeName (Swift.indented e ++ "\n\n" ++ Swift.indented d ++ "\n")
    else whole = encode ++ "\n\n" ++ decode

theorem joins_enclosed (typeName e d : String) :
    g.Joins typeName e d (g.enclosed typeName [e, d]) (g.enclosed typeName [e])
      (g.enclosed typeName [d]) := by
  cases g with
  | python s own => simp [Joins, enclosed, Python.joined]
  | swift s own =>
    unfold Joins enclosed
    dsimp only
    cases own.wrapInExtension
    · simp
    · simp [Swift.trimEnd_extensionSource, twoFeeds, String.append_assoc]

end Generator

/-! ## Several types -/

namespace Generator

/-- The lines before the texts of types. -/
def prologue (g : Generator) (types : List (CodableType × List CodecPlan)) : String :=
  match g with
  | python s own => (Python.moduleOf s own types).prologue.text
  | swift s own => (Swift.fileOf s own []).prologue.text

/-- The lines after the texts of types: the registrations of Python, the helper of Swift. -/
def epilogue (g : Generator) (types : List (CodableType × List CodecPlan)) : String :=
  match g with
  | python s own => (Python.moduleOf s own types).epilogue.text
  | swift _ own => Source.text (if own.decodeHelper then Swift.decodeHelper else [])

/-- The texts of types one after another. -/
def composed (g : Generator) (blocks : List String) : String :=
  match g with
  | python _ _ => String.join (blocks.map fun b => "\n\n" ++ b ++ "\n")
  | swift _ _ => "\n".intercalate (blocks.map (· ++ "\n"))

variable (g : Generator)

theorem moduleOf_eq (types : List (CodableType × List CodecPlan)) :
    g.moduleOf types = g.prologue types ++
      g.composed (types.map fun t => g.blockOf t.1.typeName t.2) ++ g.epilogue types := by
  cases g with
  | python s own =>
    change (_ ++ _ ++ _ : Source).text = _
    rw [Source.text_append, Source.text_append, PythonModule.text_blockSource]
    rfl
  | swift s own =>
    change (_ ++ _ ++ _ : Source).text = _
    rw [Source.text_append, Source.text_append, Swift.text_blockLines]
    simp only [composed, Swift.fileOf, List.map_map, Function.comp_def]
    rfl

/-- The text of a type, as a new generator writes it. -/
def text (t : CodableType) : String := ((g.outcome [] (g.writeBlock t)).toOption).getD ""

/-- The text for types is composed of the texts of the types. -/
structure Composed (types : List CodableType) : Prop where
  /-- a type has its text whatever was asked before -/
  alone : ∀ t ∈ types, ∀ calls, g.outcome calls (g.writeBlock t) = .ok (g.text t)
  /-- the texts of the types stand in their order between the lines that are written once -/
  together : ∃ planned, g.withPlans types = .ok planned ∧ ∀ calls,
    g.outcome calls (g.writeModule types) =
      .ok (g.prologue planned ++ g.composed (types.map g.text) ++ g.epilogue planned)
  /-- a type with both directions has the texts for one direction -/
  directions : ∀ t ∈ types, Direction.encode ∈ t.directions → Direction.decode ∈ t.directions →
    (∀ d calls, g.outcome calls (g.writeBlock (t.only d)) = .ok (g.text (t.only d))) ∧
    ∃ e d, (∀ calls, g.outcome calls (g.writeParts t) = .ok [e, d] ∧
        g.outcome calls (g.writeParts (t.only .encode)) = .ok [e] ∧
        g.outcome calls (g.writeParts (t.only .decode)) = .ok [d]) ∧
      g.Joins t.typeName e d (g.text t) (g.text (t.only .encode)) (g.text (t.only .decode))

/-- What comes of the plans of a type. -/
theorem outcome_of_plansOf {t : CodableType} {plans : List CodecPlan}
    (h : g.plansOf t = .ok plans) (calls : List Call) :
    g.outcome calls (g.writeParts t) = .ok (plans.map g.partOf) ∧
      g.outcome calls (g.writeBlock t) = .ok (g.text t) ∧
      g.text t = g.blockOf t.typeName plans := by
  have hblock : g.block t = .ok (g.blockOf t.typeName plans) := by
    rw [block, h]
    rfl
  have htext : g.text t = g.blockOf t.typeName plans := by
    rw [text, g.outcome_eq (g.writeBlock_comesTo t), hblock]
    rfl
  refine ⟨?_, ?_, htext⟩
  · rw [g.outcome_eq (g.writeParts_comesTo t), h]
    rfl
  · rw [g.outcome_eq (g.writeBlock_comesTo t), hblock, htext]

/-- **The text for extracted types is composed type by type.** -/
theorem composed_of_extracted {types : List CodableType} (h : ∀ t ∈ types, t.IsExtracted) :
    g.Composed types where
  alone t ht calls := by
    obtain ⟨plans, hplans, -⟩ := g.exists_plansOf (h t ht)
    exact (g.outcome_of_plansOf hplans calls).2.1
  together := by
    have hplans : ∀ t ∈ types, ∃ q : CodableType × List CodecPlan,
        (do return (t, ← g.plansOf t)) = Except.ok q ∧
          g.blockOf q.1.typeName q.2 = g.text t := by
      intro t ht
      obtain ⟨plans, hplans, -⟩ := g.exists_plansOf (h t ht)
      exact ⟨(t, plans), by rw [hplans]; rfl, (g.outcome_of_plansOf hplans []).2.2.symm⟩
    obtain ⟨planned, hplanned, hf⟩ := exists_mapM_eq_ok hplans
    have hblocks : planned.map (fun q => g.blockOf q.1.typeName q.2) = types.map g.text :=
      map_eq_of_forall₂ hf fun _ _ _ hq => hq
    refine ⟨planned, hplanned, fun calls => ?_⟩
    rw [g.outcome_eq (g.writeModule_comesTo types), module, withPlans, hplanned, ← hblocks,
      ← g.moduleOf_eq planned]
    rfl
  directions t ht hencode hdecode := by
    obtain ⟨p, honly, hboth⟩ := g.exists_plans_only (h t ht)
    have hwhole := g.outcome_of_plansOf (hboth hencode hdecode)
    have hone := fun d => g.outcome_of_plansOf (honly d)
    refine ⟨fun d calls => (hone d calls).2.1, g.partOf (p .encode), g.partOf (p .decode),
      fun calls => ⟨(hwhole calls).1, (hone .encode calls).1, (hone .decode calls).1⟩, ?_⟩
    rw [(hwhole []).2.2, (hone .encode []).2.2, (hone .decode []).2.2]
    simp only [blockOf_eq]
    exact g.joins_enclosed t.typeName _ _

/-! ### Two servers -/

/-- A server, declared under a name. -/
def server (typeName : String) : Declaration where
  typeName := typeName
  kind := "extension"
  typeKind := "struct"
  enums := [⟨"CodingKeys", ["String", "CodingKey"], [⟨"port", none, []⟩], []⟩]
  options := []

/-- The type of a server. -/
def serverType (typeName : String) : CodableType :=
  ⟨typeName, .keyed ⟨"CodingKeys", [.leaf ⟨"port", "port", false, none, none, none⟩]⟩, .internal,
    [.encode, .decode], []⟩

/-- Two types whose functions have one name. -/
theorem composed_of_extracted_servers :
    (∀ t ∈ [serverType "HTTPServer", serverType "HttpServer"], t.IsExtracted) ∧
      (python {} (.standalone (.str "net"))).Composed
        [serverType "HTTPServer", serverType "HttpServer"] ∧
      (swift {} .standalone).Composed [serverType "HTTPServer", serverType "HttpServer"] := by
  have h : ∀ t ∈ [serverType "HTTPServer", serverType "HttpServer"], t.IsExtracted := by
    intro t ht
    simp only [List.mem_cons, List.not_mem_nil, or_false] at ht
    rcases ht with rfl | rfl
    · exact ⟨server "HTTPServer", [], {}, {}, by rfl⟩
    · exact ⟨server "HttpServer", [], {}, {}, by rfl⟩
  exact ⟨h, composed_of_extracted _ h, composed_of_extracted _ h⟩

end Generator

end CodecForge
