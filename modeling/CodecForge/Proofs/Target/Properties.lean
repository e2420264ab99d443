/-
  CodecForge — properties in Swift members.

  An encoding member refers to the properties of its type by their names alone, next to names
  that it binds itself: its parameter and the variables of its containers.

  * `Source.boundNames` reads the bound names off the text of the lines, `Line.Encodes` says
    how a property stands in the text of a line;
  * `encodesInOrder_memberSource`, `boundNames_memberSource`: the properties and the bound names
    of a member;
  * `unshadowed_iff_of_run`: the properties of an accepted type are not among the bound names
    unless one of them is called `encoder` or `container`;
  * `escaped_iff_of_run`: they are put in backquotes exactly if they are keywords, unless a
    keyword is the single value.
-/
import CodecForge.Proofs.Extraction.Identifiers
import CodecForge.Proofs.Plan.VariableNames
import CodecForge.Proofs.Target.Names
import CodecForge.Target.Swift

namespace CodecForge

open Extraction
open Source (plain line)

/-! ## Bound names -/

/-- The word after the opening of a text, up to a blank or a colon. -/
def Text.wordAfter? (opening s : String) : Option String :=
  (s.toList.dropPrefix? opening.toList).map fun rest =>
    String.ofList (rest.takeWhile fun c => c ≠ ' ' && c ≠ ':')

/-- The name that a line binds: the parameter of a member that writes, or a variable. -/
def Line.bound? (l : Line) : Option String :=
  Text.wordAfter? "func encode(to " l.text <|> Text.wordAfter? "public func encode(to " l.text <|>
    Text.wordAfter? "    var " l.text

/-- The names that the lines bind. -/
def Source.boundNames (s : Source) : List String := s.filterMap Line.bound?

/-- A character of a name, or the line feed after one. -/
def Text.IsNamePart (c : Char) : Prop := isNameChar c ∨ c = '\n'

theorem Text.isNamePart_of_isAsciiIdentifier {s : String} (h : isAsciiIdentifier s) :
    ∀ c ∈ s.toList, IsNamePart c := by
  rcases isAsciiIdentifier_iff.1 h with hplain | ⟨stem, hplain, rfl⟩
  · exact fun c hc => .inl ((isWord_of_isPlainName hplain).nameChars c hc)
  · refine forall_append.2 ⟨fun c hc => .inl ((isWord_of_isPlainName hplain).nameChars c hc), ?_⟩
    exact fun c hc => .inr (List.mem_singleton.1 hc)

namespace Line

variable {l : Line}

/-- A line that opens otherwise than with a parameter or a variable binds nothing. -/
theorem bound?_eq_none (opening rest : String) (h : l.text = opening ++ rest)
    (hparameter : ∀ cs, (opening.toList ++ cs).dropPrefix? "func encode(to ".toList = none)
    (hpublic : ∀ cs, (opening.toList ++ cs).dropPrefix? "public func encode(to ".toList = none)
    (hvariable : ∀ cs, (opening.toList ++ cs).dropPrefix? "    var ".toList = none) :
    l.bound? = none := by
  simp only [bound?, Text.wordAfter?, h, String.toList_append, hparameter, hpublic, hvariable]
  rfl

/-- A line that declares a variable binds it. -/
theorem bound?_variable {v : String} (rest : String) (h : l.text = "    var " ++ v ++ " = " ++ rest)
    (hv : ∀ c ∈ v.toList, Text.IsNamePart c) : l.bound? = some v := by
  have hwhile : (v.toList ++ " = ".toList ++ rest.toList).takeWhile
      (fun c => c ≠ ' ' && c ≠ ':') = v.toList := by
    rw [List.append_assoc, List.takeWhile_append_of_pos]
    · exact List.append_nil _
    · intro c hc
      rcases hv c hc with hc | rfl
      · have hblank : c ≠ ' ' := by rintro rfl; cases hc
        have hcolon : c ≠ ':' := by rintro rfl; cases hc
        simp [hblank, hcolon]
      · rfl
  have hdrop := List.dropPrefix?_append_of_beq (v.toList ++ " = ".toList ++ rest.toList)
    (beq_self_eq_true "    var ".toList)
  simp only [bound?, Text.wordAfter?, h, String.toList_append, List.append_assoc] at hdrop hwhile ⊢
  rw [hdrop, Option.map_some, hwhile, String.ofList_toList]
  rfl

end Line

namespace Source

@[simp]
theorem boundNames_append (s s' : Source) :
    boundNames (s ++ s') = boundNames s ++ boundNames s' :=
  List.filterMap_append

theorem boundNames_flatMap {α : Type} (xs : List α) (f : α → Source) :
    boundNames (xs.flatMap f) = xs.flatMap fun x => (f x).boundNames :=
  List.filterMap_flatMap ..

theorem boundNames_eq_nil {s : Source} (h : ∀ l ∈ s, l.bound? = none) : s.boundNames = [] :=
  List.filterMap_eq_nil_iff.2 h

theorem boundNames_plain {text : String} : (plain text).boundNames =
    (Line.bound? [.text text]).toList := by
  unfold boundNames plain
  cases h : Line.bound? [.text text] <;> simp [h]

end Source

/-! ## Properties -/

/-- The property that a token is, as it is written. -/
@[simp]
def Token.property? : Token → Option (String × String)
  | property name written => some (name, written)
  | _ => none

theorem Source.properties_eq (s : Source) : s.properties = s.names.filterMap Token.property? :=
  (filterMap_names (fun _ => rfl) s).symm

/-- How a property stands in a line that encodes it: by itself or in an adapter, under the label
    of its field, or as the single value. -/
inductive Line.Encodes (l : Line) (name written : String) : Prop
  | field (call : String) (h : l.text = "    try " ++ call ++ "(" ++ written ++
      ", forKey: ." ++ name ++ ")")
  | adapted (call adapter : String) (h : l.text = "    try " ++ call ++ "(" ++ adapter ++
      "(from: " ++ written ++ "), forKey: ." ++ name ++ ")")
  | value (h : l.text = "    try container.encode(" ++ written ++ ")")

/-- Source with a line for each of these properties that encodes it, in this order. -/
def Source.EncodesInOrder (s : Source) (properties : List (String × String)) : Prop :=
  ∃ ls : Source, ls.Sublist s ∧ List.Forall₂ (fun q l => Line.Encodes l q.1 q.2) properties ls

/-- Neither the name of a property nor the way it is written is bound in the source. -/
def Source.Unshadowed (s : Source) : Prop :=
  ∀ q ∈ s.properties, q.1 ∉ s.boundNames ∧ q.2 ∉ s.boundNames

namespace Swift

/-! ## Expressions -/

/-- `written` is the name, in backquotes exactly if the name is a keyword. -/
structure Escaped (name written : String) : Prop where
  keyword : name ∈ keywords → written = "\x60" ++ name ++ "\x60"
  plain : name ∉ keywords → written = name

theorem escaped_iff {name written : String} :
    Escaped name written ↔ written = reference name := by
  by_cases h : name ∈ keywords
  · have href : reference name = "\x60" ++ name ++ "\x60" := if_pos (List.contains_iff_mem.2 h)
    exact ⟨fun he => (he.keyword h).trans href.symm,
      fun he => ⟨fun _ => he.trans href, fun hn => absurd h hn⟩⟩
  · have href : reference name = name := if_neg fun hc => h (List.contains_iff_mem.1 hc)
    exact ⟨fun he => (he.plain h).trans href.symm,
      fun he => ⟨fun hk => absurd hk h, fun _ => he.trans href⟩⟩

/-- A name that is no keyword is escaped as itself. -/
theorem escaped_self_iff {name : String} : Escaped name name ↔ name ∉ keywords := by
  refine ⟨fun h hk => ?_, fun h => ⟨fun hk => absurd hk h, fun _ => rfl⟩⟩
  have hlength := congrArg String.length (h.keyword hk)
  simp only [String.length_append] at hlength
  have hquote : "\x60".length = 1 := rfl
  omega

/-! ## Members -/

namespace Member

variable {m : Member}

theorem encodes_encodeStep (t : Step) : Line.Encodes (encodeStep t) t.label t.reference := by
  cases h : t.transform with
  | none =>
    refine .field (t.container ++ ".encode" ++ ifPresent t) ?_
    simp [encodeStep, valueTokens, h, Line.text, Token.written, toString, String.append_assoc]
  | some adapter =>
    refine .adapted (t.container ++ ".encode" ++ ifPresent t) adapter ?_
    simp [encodeStep, valueTokens, h, Line.text, Token.written, toString, String.append_assoc]
    exact (String.append_assoc ..).symm

theorem properties_encodeStep (t : Step) :
    (encodeStep t).names.filterMap Token.property? = [(t.label, t.reference)] := by
  cases h : t.transform with
  | none => simp [encodeStep, valueTokens, h]
  | some adapter =>
    simp only [encodeStep, valueTokens, h]
    rfl

theorem names_nestedSource (keyword attempt : String) :
    (m.nestedSource keyword attempt).names = [] := by
  simp [nestedSource]

theorem properties_keyedEncode :
    m.keyedEncode.properties = m.steps.map fun t => (t.label, t.reference) := by
  simp only [Source.properties_eq, keyedEncode, signatureSource, names_nestedSource,
    Source.names_append, Source.names_plain, Source.names_map, List.nil_append, List.append_nil,
    List.filterMap_flatMap, properties_encodeStep]
  exact List.map_eq_flatMap.symm

theorem properties_singleValueEncode :
    m.singleValueEncode.properties = [(m.binding, m.binding)] := by
  simp [Source.properties_eq, singleValueEncode, signatureSource]

theorem properties_enumEncode : m.enumEncode.properties = [] := by
  simp [Source.properties_eq, enumEncode, signatureSource]

theorem encodesInOrder_keyedEncode : m.keyedEncode.EncodesInOrder m.keyedEncode.properties := by
  refine ⟨m.steps.map encodeStep, ?_, ?_⟩
  · rw [keyedEncode]
    exact (List.sublist_append_right _ _).trans (List.sublist_append_left _ _)
  · rw [properties_keyedEncode, List.forall₂_map_left_iff, List.forall₂_map_right_iff,
      List.forall₂_same]
    exact fun t _ => encodes_encodeStep t

theorem encodesInOrder_singleValueEncode :
    m.singleValueEncode.EncodesInOrder m.singleValueEncode.properties := by
  rw [properties_singleValueEncode]
  refine ⟨line [.text "    try container.encode(", .property m.binding m.binding, .text ")"], ?_,
    .cons (.value ?_) .nil⟩
  · rw [singleValueEncode]
    exact (List.sublist_append_right _ _).trans (List.sublist_append_left _ _)
  · simp [Line.text, Token.written, String.append_assoc]

/-- **The properties of a member stand in lines that encode them.** -/
theorem encodesInOrder_source (kind : ContainerKind) :
    (m.source kind .encode).EncodesInOrder (m.source kind .encode).properties := by
  cases kind with
  | keyed => exact encodesInOrder_keyedEncode
  | singleValue => exact encodesInOrder_singleValueEncode
  | singleValueForEnum =>
    rw [source, properties_enumEncode]
    exact ⟨[], List.nil_sublist _, .nil⟩

/-! ### What a member binds -/

theorem boundNames_signatureSource (h : m.modifier = "" ∨ m.modifier = "public ") :
    (m.signatureSource .encode).boundNames = ["encoder"] := by
  rw [signatureSource, Source.boundNames_plain]
  rcases h with h | h <;> rw [h] <;> rfl

theorem boundNames_rootLine (rest : String) :
    (plain ("    var container = " ++ rest)).boundNames = ["container"] := by
  have hroot : ∀ c ∈ "container".toList, Text.IsNamePart c := fun c hc =>
    .inl (List.all_eq_true.1 (by rfl : "container".toList.all Text.isNameChar) c hc)
  rw [Source.boundNames_plain, Line.bound?_variable rest (by
    simp [Line.text, Token.written]) hroot]
  rfl

theorem boundNames_nestedSource
    (h : ∀ c ∈ m.containers, ∀ x ∈ c.variable_.toList, Text.IsNamePart x) :
    (m.nestedSource "var" "").boundNames = m.containers.map (·.variable_) := by
  rw [nestedSource, Source.boundNames_flatMap, List.map_eq_flatMap]
  refine List.flatMap_congr fun c hc => ?_
  have hopened : ∀ keyword attempt, keyword = "var" → attempt = "" →
      Line.bound? [.text s!"    {keyword} {c.variable_} = {attempt}{c.parent}.nestedContainer("] =
        some c.variable_ := by
    rintro _ _ rfl rfl
    refine Line.bound?_variable (c.parent ++ ".nestedContainer(") ?_ (h c hc)
    simp [Line.text, Token.written, toString, String.append_assoc]
  have hkeys : Line.bound? [.text s!"        keyedBy: {c.keysName}.self,"] = none :=
    Line.bound?_eq_none "        keyedBy: " (c.keysName ++ ".self,")
      (by simp [Line.text, Token.written, toString, String.append_assoc]) (fun _ => rfl)
      (fun _ => rfl) (fun _ => rfl)
  have hkey : Line.bound? [.text s!"        forKey: .{c.label}"] = none :=
    Line.bound?_eq_none "        forKey: ." c.label
      (by simp [Line.text, Token.written, toString]) (fun _ => rfl) (fun _ => rfl) (fun _ => rfl)
  simp only [Source.boundNames_append, Source.boundNames_plain, hopened _ _ rfl rfl, hkeys,
    hkey]
  rfl

theorem bound?_encodeStep (t : Step) : (encodeStep t).bound? = none := by
  obtain ⟨call, h⟩ | ⟨call, adapter, h⟩ | ⟨h⟩ := encodes_encodeStep t
  all_goals
    simp only [String.append_assoc] at h
    exact Line.bound?_eq_none _ _ h (fun _ => rfl) (fun _ => rfl) fun _ => rfl

theorem boundNames_brace : (plain "\x7d").boundNames = [] := rfl

/-- **The names that a member binds**: its parameter, and the variables of its containers. -/
theorem boundNames_keyedEncode (hm : m.modifier = "" ∨ m.modifier = "public ")
    (h : ∀ c ∈ m.containers, ∀ x ∈ c.variable_.toList, Text.IsNamePart x) :
    m.keyedEncode.boundNames = "encoder" :: "container" :: m.containers.map (·.variable_) := by
  have hroot : s!"    var container = encoder.container(keyedBy: {m.keysName}.self)" =
      "    var container = " ++ ("encoder.container(keyedBy: " ++ m.keysName ++ ".self)") := by
    simp only [toString, String.append_assoc]
    change "    var container = " ++ "encoder.container(keyedBy: " ++ _ = _
    exact String.append_assoc
  have hsteps : Source.boundNames (m.steps.map encodeStep) = [] :=
    Source.boundNames_eq_nil fun l hl => by
      obtain ⟨t, -, rfl⟩ := List.mem_map.1 hl
      exact bound?_encodeStep t
  rw [keyedEncode, hroot]
  simp only [Source.boundNames_append, boundNames_signatureSource hm, boundNames_rootLine,
    boundNames_nestedSource h, hsteps, boundNames_brace, List.append_nil]
  rfl

theorem boundNames_singleValueEncode (hm : m.modifier = "" ∨ m.modifier = "public ") :
    m.singleValueEncode.boundNames = ["encoder", "container"] := by
  have hvalue : Source.boundNames (line [.text "    try container.encode(",
      .property m.binding m.binding, .text ")"]) = [] := by
    refine Source.boundNames_eq_nil fun l hl => ?_
    rw [List.mem_singleton.1 hl]
    exact Line.bound?_eq_none "    try container.encode(" (m.binding ++ ")")
      (by simp [Line.text, Token.written]) (fun _ => rfl) (fun _ => rfl) fun _ => rfl
  simp only [singleValueEncode, Source.boundNames_append, boundNames_signatureSource hm, hvalue,
    boundNames_brace, List.append_nil]
  rfl

theorem boundNames_enumEncode (hm : m.modifier = "" ∨ m.modifier = "public ") :
    m.enumEncode.boundNames = ["encoder", "container"] := by
  have hcases : Source.boundNames (m.cases.flatMap fun label =>
      plain s!"    case .{label}:" ++
        plain s!"        try container.encode({m.keysName}.{label}.rawValue)") = [] := by
    rw [Source.boundNames_flatMap, List.flatMap_eq_nil_iff]
    intro label _
    have hcase : Line.bound? [.text s!"    case .{label}:"] = none :=
      Line.bound?_eq_none "    case ." (label ++ ":")
        (by simp [Line.text, Token.written, toString, String.append_assoc]) (fun _ => rfl)
        (fun _ => rfl) fun _ => rfl
    have htag : Line.bound?
        [.text s!"        try container.encode({m.keysName}.{label}.rawValue)"] = none :=
      Line.bound?_eq_none "        try container.encode("
        (m.keysName ++ "." ++ label ++ ".rawValue)")
        (by simp [Line.text, Token.written, toString, String.append_assoc]) (fun _ => rfl)
        (fun _ => rfl) fun _ => rfl
    rw [Source.boundNames_append, Source.boundNames_plain, Source.boundNames_plain, hcase, htag]
    rfl
  simp only [enumEncode, Source.boundNames_append, boundNames_signatureSource hm, hcases,
    boundNames_brace, List.append_nil]
  rfl

end Member

end Swift

/-! ## Accepted types -/

namespace CodableType

/-- The properties that an encoding of the type writes: the leaves, or the single value. -/
def encodedNames (t : CodableType) : List String :=
  match t.shape with
  | .keyed s => s.leaves.map (·.localName)
  | .singleValue b => [b]
  | .singleValueForEnum _ => []

/-- How a Swift member of the type writes a property. -/
def swiftExpression (t : CodableType) (name : String) : String :=
  match t.shape with
  | .keyed _ => Swift.reference name
  | _ => name

end CodableType

namespace Swift

/-- What the encoding member of `t`, written from the plan `p`, refers to and binds. -/
structure RefersToProperties (t : CodableType) (p : CodecPlan) : Prop where
  plan : t.plan .encode .camel = .ok p
  properties : (memberSource p).properties =
    t.encodedNames.map fun name => (name, t.swiftExpression name)
  encoded : (memberSource p).EncodesInOrder (memberSource p).properties
  boundNames : (memberSource p).boundNames =
    "encoder" :: "container" :: p.nested.map (·.variable_)
  nameParts : ∀ c ∈ p.nested, ∀ x ∈ c.variable_.toList, Text.IsNamePart x
  apart : ∀ c ∈ p.nested, c.variable_ ∉ t.encodedNames

variable {d : Declaration} {overrides : List (String × Json)} {t : CodableType} {n n' : Notices}
  {p : CodecPlan}

theorem modifier_memberOf (p : CodecPlan) :
    (memberOf p).modifier = "" ∨ (memberOf p).modifier = "public " := by
  rw [memberOf]
  cases p.isPublic
  · exact .inl rfl
  · exact .inr rfl

/-- **What the encoding member of an accepted type refers to and binds.** -/
theorem exists_refersToProperties (h : run d overrides n = .ok t n') :
    ∃ p, RefersToProperties t p := by
  cases hs : t.shape with
  | keyed s =>
    have hschema : t.schema? = some s := by rw [CodableType.schema?, hs]; rfl
    have hencoded : t.encodedNames = s.leaves.map (·.localName) := by
      rw [CodableType.encodedNames, hs]
    obtain ⟨steps, hp, hsteps⟩ := plan_of_regular hs (regular_of_run h hs) .encode .camel
    have hleaves := fields_of_isFor hsteps
    have hparts : ∀ c ∈ groupContainers .camel s s.takenNames s.groups, ∀ x ∈ c.variable_.toList,
        Text.IsNamePart x := by
      intro c hc
      obtain ⟨⟨i, g⟩, hg, k, hk⟩ := exists_candidate_of_mem hc
      have hname : t.Names i.localName := .field hschema .top (mem_groups.1 hg)
      rw [hk]
      exact forall_camelCandidate (fun _ => .inl)
        (Text.isNamePart_of_isAsciiIdentifier (isAsciiIdentifier_of_names h hname)) k
    refine ⟨_, hp, ?_, Member.encodesInOrder_source _, ?_, hparts, fun c hc hmem => ?_⟩
    · change (memberOf _).keyedEncode.properties = _
      rw [Member.properties_keyedEncode, hencoded, ← hleaves]
      simp only [memberOf, CodecPlan.steps, List.map_map, CodableType.swiftExpression, hs]
      rfl
    · change (memberOf _).keyedEncode.boundNames = _
      rw [Member.boundNames_keyedEncode (modifier_memberOf _) ?_]
      · simp only [memberOf, List.map_map]
        rfl
      · simp only [memberOf, List.mem_map]
        rintro _ ⟨c, hc, rfl⟩
        exact hparts c hc
    · rw [hencoded] at hmem
      exact (variables_groupContainers .camel s s.groups s.takenNames).2 c hc
        (List.mem_cons_of_mem _ hmem)
  | singleValue b =>
    refine ⟨⟨t.typeName, .encode, t.isPublic, .singleValue b⟩, ?_, ?_,
      Member.encodesInOrder_source _, ?_, List.forall_mem_nil _, List.forall_mem_nil _⟩
    · rw [CodableType.plan, hs]
      rfl
    · simp only [CodableType.encodedNames, CodableType.swiftExpression, hs]
      exact Member.properties_singleValueEncode
    · exact Member.boundNames_singleValueEncode (modifier_memberOf _)
  | singleValueForEnum s =>
    refine ⟨⟨t.typeName, .encode, t.isPublic,
      .singleValueForEnum s.name (s.fields.map Field.info)⟩, ?_, ?_,
      Member.encodesInOrder_source _, ?_, List.forall_mem_nil _, List.forall_mem_nil _⟩
    · rw [CodableType.plan, hs]
      rfl
    · simp only [CodableType.encodedNames, hs]
      exact Member.properties_enumEncode
    · exact Member.boundNames_enumEncode (modifier_memberOf _)

namespace RefersToProperties

variable (h : RefersToProperties t p)
include h

theorem map_fst_properties : (memberSource p).properties.map (·.1) = t.encodedNames := by
  rw [h.properties, List.map_map]
  exact List.map_id _

/-- No bound name stands in backquotes. -/
theorem isNamePart_of_mem_boundNames {v : String} (hv : v ∈ (memberSource p).boundNames) :
    ∀ x ∈ v.toList, Text.IsNamePart x := by
  have hown : ∀ w : String, w.toList.all Text.isNameChar → ∀ x ∈ w.toList, Text.IsNamePart x :=
    fun w hw x hx => .inl (List.all_eq_true.1 hw x hx)
  rw [h.boundNames, List.mem_cons, List.mem_cons, List.mem_map] at hv
  rcases hv with rfl | rfl | ⟨c, hc, rfl⟩
  · exact hown _ rfl
  · exact hown _ rfl
  · exact h.nameParts c hc

theorem expression_mem_boundNames {name : String}
    (hmem : t.swiftExpression name ∈ (memberSource p).boundNames) :
    name ∈ (memberSource p).boundNames := by
  by_cases heq : t.swiftExpression name = name
  · exact heq ▸ hmem
  · have hquoted : t.swiftExpression name = "\x60" ++ name ++ "\x60" := by
      unfold CodableType.swiftExpression at heq ⊢
      split at heq
      · by_cases hk : name ∈ keywords
        · exact (escaped_iff.2 rfl).keyword hk
        · exact absurd ((escaped_iff.2 rfl).plain hk) heq
      · exact absurd rfl heq
    have hquote := h.isNamePart_of_mem_boundNames hmem '\x60' (by simp [hquoted])
    rcases hquote with hquote | hquote <;> cases hquote

/-- **Which properties are shadowed**: those called like the parameter or the root container. -/
theorem unshadowed_iff : (memberSource p).Unshadowed ↔
    "encoder" ∉ t.encodedNames ∧ "container" ∉ t.encodedNames := by
  constructor
  · intro hfree
    have hnames : ∀ name ∈ t.encodedNames, name ∉ (memberSource p).boundNames := by
      intro name hname
      rw [← h.map_fst_properties] at hname
      obtain ⟨q, hq, rfl⟩ := List.mem_map.1 hname
      exact (hfree q hq).1
    rw [h.boundNames] at hnames
    exact ⟨fun hmem => hnames _ hmem List.mem_cons_self,
      fun hmem => hnames _ hmem (List.mem_cons_of_mem _ List.mem_cons_self)⟩
  · rintro ⟨hencoder, hcontainer⟩ q hq
    rw [h.properties] at hq
    obtain ⟨name, hname, rfl⟩ := List.mem_map.1 hq
    have hfree : name ∉ (memberSource p).boundNames := by
      rw [h.boundNames, List.mem_cons, List.mem_cons, List.mem_map]
      rintro (rfl | rfl | ⟨c, hc, rfl⟩)
      · exact hencoder hname
      · exact hcontainer hname
      · exact h.apart c hc hname
    exact ⟨hfree, fun hmem => hfree (h.expression_mem_boundNames hmem)⟩

/-- **Which properties are escaped**: all but a keyword that is the single value. -/
theorem escaped_iff : (∀ q ∈ (memberSource p).properties, Escaped q.1 q.2) ↔
    ∀ b, t.strategy.binding? = some b → b ∉ keywords := by
  simp only [h.properties, List.forall_mem_map, CodableType.encodedNames,
    CodableType.swiftExpression, CodableType.strategy]
  cases t.shape with
  | keyed s =>
    refine ⟨fun _ b hb => ?_, fun _ _ _ => Swift.escaped_iff.2 rfl⟩
    cases hb
  | singleValue b =>
    simp only [List.mem_singleton, forall_eq, escaped_self_iff]
    exact ⟨fun hk _ hb => Option.some.inj hb ▸ hk, fun hk => hk b rfl⟩
  | singleValueForEnum s =>
    refine ⟨fun _ b hb => ?_, nofun⟩
    cases hb

end RefersToProperties

/-- **When the properties of an accepted type are shadowed.**  In its encoding member there is a
    line for each leaf, or for the single value, that refers to the property.  None of these
    references is a name that the member binds, which are its parameter and the variables of its
    containers, exactly if no property is called `encoder` or `container`. -/
theorem unshadowed_iff_of_run (h : run d overrides n = .ok t n') :
    ∃ p, t.plan .encode .camel = .ok p ∧
      (memberSource p).properties.map (·.1) = t.encodedNames ∧
      (memberSource p).EncodesInOrder (memberSource p).properties ∧
      (memberSource p).boundNames = "encoder" :: "container" :: p.nested.map (·.variable_) ∧
      ((memberSource p).Unshadowed ↔
        "encoder" ∉ t.encodedNames ∧ "container" ∉ t.encodedNames) := by
  obtain ⟨p, hp⟩ := exists_refersToProperties h
  exact ⟨p, hp.plan, hp.map_fst_properties, hp.encoded, hp.boundNames, hp.unshadowed_iff⟩

/-- A crate with a container and a group of boxes, one of them called like a container. -/
def crate : Declaration where
  typeName := "Crate"
  kind := "extension"
  typeKind := "struct"
  enums := [⟨"CodingKeys", ["String", "CodingKey"],
    [⟨"container", none, []⟩, ⟨"boxes", none, []⟩],
    [⟨"BoxesCodingKeys", ["String", "CodingKey"], [⟨"boxesContainer", none, []⟩], []⟩]⟩]
  options := []

/-- As fields the container is shadowed; as a single value the weight is not. -/
theorem unshadowed_iff_of_run_crate :
    (∃ t n', run crate [] {} = .ok t n' ∧ t.encodedNames = ["container", "boxesContainer"] ∧
      ∃ p, t.plan .encode .camel = .ok p ∧
        (memberSource p).boundNames = ["encoder", "container", "boxesContainer2"] ∧
        ¬ (memberSource p).Unshadowed) ∧
    ∃ t n', run crate [("container", .obj [("single_value", .str "weight")])] {} = .ok t n' ∧
      ∃ p, t.plan .encode .camel = .ok p ∧ (memberSource p).Unshadowed := by
  constructor
  · obtain ⟨t, n', h, hnames, hvariables⟩ : ∃ t n', run crate [] {} = .ok t n' ∧
        t.encodedNames = ["container", "boxesContainer"] ∧
        ∀ p, t.plan .encode .camel = .ok p → p.nested.map (·.variable_) = ["boxesContainer2"] := by
      refine ⟨_, _, rfl, rfl, ?_⟩
      rintro p hp
      cases hp
      rfl
    obtain ⟨p, hp, -, -, hbound, hiff⟩ := unshadowed_iff_of_run h
    rw [hvariables p hp] at hbound
    refine ⟨t, n', h, hnames, p, hp, hbound, ?_⟩
    rw [hiff, hnames]
    decide
  · obtain ⟨t, n', h, hnames⟩ : ∃ t n',
        run crate [("container", .obj [("single_value", .str "weight")])] {} = .ok t n' ∧
          t.encodedNames = ["weight"] := ⟨_, _, rfl, rfl⟩
    obtain ⟨p, hp, -, -, -, hiff⟩ := unshadowed_iff_of_run h
    refine ⟨t, n', h, p, hp, ?_⟩
    rw [hiff, hnames]
    decide

/-- Not every reference to a property is free of the names that a member binds. -/
theorem exists_shadowed_property : ¬ ∀ (d : Declaration) (overrides : List (String × Json))
    (n : Notices) (t : CodableType) (n' : Notices), run d overrides n = .ok t n' →
      ∀ p, t.plan .encode .camel = .ok p →
        ∀ q ∈ (memberSource p).properties, q.2 ∉ (memberSource p).boundNames := by
  intro h
  obtain ⟨t, n', hrun, p, hp, hq, hv⟩ : ∃ t n', run crate [] {} = .ok t n' ∧
      ∃ p, t.plan .encode .camel = .ok p ∧
        ("container", "container") ∈ (memberSource p).properties ∧
        "container" ∈ (memberSource p).boundNames :=
    ⟨_, _, rfl, _, rfl, .head _, .tail _ (.head _)⟩
  exact h crate [] {} t n' hrun p hp _ hq hv

/-- **When the properties of an accepted type are escaped.**  In its encoding member there is a
    line for each leaf, or for the single value, that refers to the property.  Each reference is
    the name of the property, in backquotes exactly if that is a keyword, if and only if no
    keyword is the single value. -/
theorem escaped_iff_of_run (h : run d overrides n = .ok t n') :
    ∃ p, t.plan .encode .camel = .ok p ∧
      (memberSource p).properties.map (·.1) = t.encodedNames ∧
      (memberSource p).EncodesInOrder (memberSource p).properties ∧
      ((∀ q ∈ (memberSource p).properties, Escaped q.1 q.2) ↔
        ∀ b, t.strategy.binding? = some b → b ∉ keywords) := by
  obtain ⟨p, hp⟩ := exists_refersToProperties h
  exact ⟨p, hp.plan, hp.map_fst_properties, hp.encoded, hp.escaped_iff⟩

/-- A flag with a case that is called like a keyword. -/
def flag : Declaration where
  typeName := "Flag"
  kind := "extension"
  typeKind := "struct"
  enums := [⟨"CodingKeys", ["String", "CodingKey"], [⟨"default", none, []⟩], []⟩]
  options := []

/-- The case as the property of a single value. -/
def defaultOnly : List (String × Json) := [("container", .obj [("single_value", .str "default")])]

/-- As a field the keyword is escaped, as a single value it is not. -/
theorem escaped_iff_of_run_flag :
    (∃ t n', run flag [] {} = .ok t n' ∧ t.encodedNames = ["default"] ∧
      ∃ p, t.plan .encode .camel = .ok p ∧
        ∀ q ∈ (memberSource p).properties, Escaped q.1 q.2) ∧
    ∃ t n', run flag defaultOnly {} = .ok t n' ∧ t.encodedNames = ["default"] ∧
      ∃ p, t.plan .encode .camel = .ok p ∧
        ¬ ∀ q ∈ (memberSource p).properties, Escaped q.1 q.2 := by
  constructor
  · obtain ⟨t, n', h, hnames, hbinding⟩ : ∃ t n', run flag [] {} = .ok t n' ∧
        t.encodedNames = ["default"] ∧ t.strategy.binding? = none := ⟨_, _, rfl, rfl, rfl⟩
    obtain ⟨p, hp, -, -, hiff⟩ := escaped_iff_of_run h
    refine ⟨t, n', h, hnames, p, hp, hiff.2 fun b hb => ?_⟩
    cases hbinding.symm.trans hb
  · obtain ⟨t, n', h, hnames, hbinding⟩ : ∃ t n', run flag defaultOnly {} = .ok t n' ∧
        t.encodedNames = ["default"] ∧ t.strategy.binding? = some "default" :=
      ⟨_, _, rfl, rfl, rfl⟩
    obtain ⟨p, hp, -, -, hiff⟩ := escaped_iff_of_run h
    refine ⟨t, n', h, hnames, p, hp, fun hall => hiff.1 hall _ hbinding ?_⟩
    decide

/-- Not every keyword among the properties is escaped. -/
theorem exists_unescaped_keyword : ¬ ∀ (d : Declaration) (overrides : List (String × Json))
    (n : Notices) (t : CodableType) (n' : Notices), run d overrides n = .ok t n' →
      ∀ p, t.plan .encode .camel = .ok p →
        ∀ q ∈ (memberSource p).properties, Escaped q.1 q.2 := by
  intro h
  obtain ⟨t, n', hrun, p, hp, hq⟩ : ∃ t n', run flag defaultOnly {} = .ok t n' ∧
      ∃ p, t.plan .encode .camel = .ok p ∧
        ("default", "default") ∈ (memberSource p).properties :=
    ⟨_, _, rfl, _, rfl, .head _⟩
  have hescaped := (h flag defaultOnly {} t n' hrun p hp _ hq).keyword (by decide)
  revert hescaped
  decide

end Swift

end CodecForge
