/-
  CodecForge — the attributes that Python source uses.

  The leaves and cases of an accepted type differ in their local names.  Python source uses an
  attribute for each, which is the local name, or a keyword with an underscore after it.

  * `Python.attributeName_eq_iff`: two names have one attribute exactly if one of them is a
    keyword and the other is the keyword with an underscore;
  * `PythonFunction.endsWithCall_source`, `refersInOrder_source`: the attributes of a function
    are the keywords of the call with which it ends, or the members that its lines refer to;
  * `attributes_nodup_iff_of_run`: the attributes of an accepted type differ exactly if there is
    no such pair among its names.
-/
import CodecForge.Proofs.Coding.Tags
import CodecForge.Proofs.Naming.Safety

namespace CodecForge

open Source (plain line)

/-! ## Attributes -/

namespace Python

variable {names : List String}

theorem attributeName_of_mem {w : String} (h : w ∈ keywords) : attributeName w = w ++ "_" := by
  rw [attributeName, if_pos (List.contains_iff_mem.2 h)]

theorem attributeName_of_notMem {w : String} (h : w ∉ keywords) : attributeName w = w := by
  rw [attributeName, if_neg fun hc => h (List.contains_iff_mem.1 hc)]

/-- `escaped` is the keyword `w` with an underscore. -/
def Escapes (w escaped : String) : Prop := w ∈ keywords ∧ escaped = w ++ "_"

/-- **Which names have one attribute.** -/
theorem attributeName_eq_iff {a b : String} :
    attributeName a = attributeName b ↔ a = b ∨ Escapes a b ∨ Escapes b a := by
  constructor
  · intro h
    by_cases ha : a ∈ keywords
    · rw [attributeName_of_mem ha] at h
      by_cases hb : b ∈ keywords
      · rw [attributeName_of_mem hb] at h
        exact .inl (String.append_left_inj _ |>.1 h)
      · rw [attributeName_of_notMem hb] at h
        exact .inr (.inl ⟨ha, h.symm⟩)
    · rw [attributeName_of_notMem ha] at h
      by_cases hb : b ∈ keywords
      · rw [attributeName_of_mem hb] at h
        exact .inr (.inr ⟨hb, h⟩)
      · rw [attributeName_of_notMem hb] at h
        exact .inl h
  · have hescapes : ∀ {w v}, Escapes w v → attributeName w = attributeName v := by
      rintro w _ ⟨hw, rfl⟩
      rw [attributeName_of_mem hw,
        attributeName_of_notMem (Naming.append_underscore_notMem_keywords w)]
    rintro (rfl | h | h)
    · rfl
    · exact hescapes h
    · exact (hescapes h).symm

/-- No keyword is among the names together with the keyword with an underscore. -/
def EscapesApart (names : List String) : Prop :=
  ∀ w ∈ keywords, w ∈ names → w ++ "_" ∉ names

/-- **Different names have different attributes** unless one of them escapes another. -/
theorem nodup_attributes_iff (h : names.Nodup) :
    (names.map attributeName).Nodup ↔ EscapesApart names := by
  rw [List.nodup_map_iff_inj_on h]
  constructor
  · intro hinj w hw hmem hmem'
    have heq : w = w ++ "_" :=
      hinj w hmem (w ++ "_") hmem' (attributeName_eq_iff.2 (.inr (.inl ⟨hw, rfl⟩)))
    exact Naming.append_underscore_notMem_keywords w (heq ▸ hw)
  · intro hapart a ha b hb hab
    rcases attributeName_eq_iff.1 hab with hab | ⟨hw, rfl⟩ | ⟨hw, rfl⟩
    · exact hab
    · exact absurd hb (hapart a hw ha)
    · exact absurd ha (hapart b hw hb)

end Python

/-! ## Source -/

namespace PythonFunction

/-- The attributes that a function writes or reads. -/
def attributes (f : PythonFunction) : List String :=
  f.steps.map (·.member) ++ f.cases.map (·.member)

/-- A line that passes an argument for a keyword. -/
def PassesArgument (keyword : String) (l : Line) : Prop :=
  ∃ rest, l.text = "        " ++ keyword ++ "=" ++ rest

theorem passesArgument_decodeStep (typeName : String) (s : PythonStep) :
    PassesArgument s.member (decodeStep typeName s) := by
  unfold PassesArgument decodeStep
  cases s.transform <;> cases s.conditional <;>
    simp only [Line.text, Token.written, List.cons_append, List.map_cons, String.join_cons,
      toString, String.append_assoc] <;>
    exact ⟨_, rfl⟩

/-- Source that ends with a call of an initializer, with these keywords. -/
def EndsWithCall (typeName : String) (keywords : List String) (source : Source) : Prop :=
  ∃ before arguments, source = before ++ line [.text "    return ", .type typeName, .text "("] ++
    arguments ++ plain "    )" ∧ List.Forall₂ PassesArgument keywords arguments

/-- **A function that reads fields ends with a call with its attributes.** -/
theorem endsWithCall_source {f : PythonFunction} (hcases : f.cases = [])
    (hne : f.attributes ≠ []) : EndsWithCall f.typeName f.attributes (f.source .keyed .decode) := by
  have hattributes : f.attributes = f.steps.map (·.member) := by
    rw [attributes, hcases, List.map_nil, List.append_nil]
  rw [hattributes] at hne ⊢
  have hsteps : ¬ f.steps.isEmpty := by
    intro hempty
    rw [List.isEmpty_iff.1 hempty] at hne
    exact hne rfl
  refine ⟨f.headSource ++ plain "    container = decoder.container()" ++ f.nestedSource,
    f.steps.map (decodeStep f.typeName), ?_, ?_⟩
  · rw [source, keyedDecode, initializerCall, if_neg hsteps]
    simp only [List.append_assoc]
  · rw [List.forall₂_map_left_iff, List.forall₂_map_right_iff, List.forall₂_same]
    exact fun s _ => passesArgument_decodeStep f.typeName s

/-- A line that refers to a member, where tags are written or read. -/
def RefersTo (typeName : String) : Direction → String → Line → Prop
  | .encode, a, l => ∃ word, l.text = "    " ++ word ++ " value is " ++ typeName ++ "." ++ a ++ ":"
  | .decode, a, l => l.text = "        return " ++ typeName ++ "." ++ a

/-- Source with a line for each of these members, in this order. -/
def RefersInOrder (typeName : String) (d : Direction) (members : List String) (source : Source) :
    Prop :=
  ∃ ls : Source, ls.Sublist source ∧ List.Forall₂ (RefersTo typeName d) members ls

theorem RefersInOrder.of_sublist {typeName : String} {d : Direction} {members : List String}
    {s s' : Source} (h : RefersInOrder typeName d members s) (hs : s.Sublist s') :
    RefersInOrder typeName d members s' := by
  obtain ⟨ls, hls, hrefers⟩ := h
  exact ⟨ls, hls.trans hs, hrefers⟩

theorem refersInOrder_encodeBranches (typeName : String) : ∀ (word : String)
    (cs : List PythonCase), RefersInOrder typeName .encode (cs.map (·.member))
      (encodeBranches typeName word cs)
  | _, [] => ⟨[], .slnil, .nil⟩
  | word, c :: cs => by
    obtain ⟨ls, hls, hrefers⟩ := refersInOrder_encodeBranches typeName "elif" cs
    refine ⟨_ :: ls, .cons_cons _ (.cons _ hls), .cons ⟨word, ?_⟩ hrefers⟩
    simp [toString, Line.text, Token.written, String.append_assoc]

theorem refersInOrder_decodeBranches (typeName : String) : ∀ cs : List PythonCase,
    RefersInOrder typeName .decode (cs.map (·.member)) (cs.flatMap (decodeBranch typeName))
  | [] => ⟨[], .slnil, .nil⟩
  | c :: cs => by
    obtain ⟨ls, hls, hrefers⟩ := refersInOrder_decodeBranches typeName cs
    refine ⟨_ :: ls, .cons _ (.cons_cons _ hls), .cons ?_ hrefers⟩
    simp [RefersTo, toString, Line.text, Token.written, String.append_assoc]

/-- **A function for tags refers to its attributes in order.** -/
theorem refersInOrder_source {f : PythonFunction} (hsteps : f.steps = []) (d : Direction) :
    RefersInOrder f.typeName d f.attributes (f.source .singleValueForEnum d) := by
  rw [attributes, hsteps, List.map_nil, List.nil_append]
  cases d with
  | encode =>
    refine (refersInOrder_encodeBranches f.typeName "if" f.cases).of_sublist ?_
    rw [source, enumEncode]
    exact (List.sublist_append_right _ _).trans (List.sublist_append_left _ _)
  | decode =>
    refine (refersInOrder_decodeBranches f.typeName f.cases).of_sublist ?_
    rw [source, enumDecode]
    exact (List.sublist_append_right _ _).trans (List.sublist_append_left _ _)

end PythonFunction

/-! ## Accepted types -/

open Extraction

variable {d : Declaration} {overrides : List (String × Json)} {t : CodableType} {n n' : Notices}
  {s : Schema}

/-- The local names of the leaves of an accepted type differ. -/
theorem leafNames_nodup_of_run (h : run d overrides n = .ok t n') (hs : t.schema? = some s) :
    (s.leaves.map (·.localName)).Nodup := by
  obtain ⟨e, -, ⟨-, htop, rfl⟩ | ⟨-, hfault, rfl⟩⟩ := codingKeys_of_run h hs
  · exact htop.regular.leafNames_nodup
  · rw [Enumeration.leaves_tags]
    exact (Enumeration.nodup_of_tagsFault? hfault).2

/-- `p` is the plan of a type for the leaves of its schema, as fields or as tags. -/
structure CodecPlan.Writes (p : CodecPlan) (t : CodableType) (s : Schema) (dir : Direction) :
    Prop where
  typeName : p.typeName = t.typeName
  direction : p.direction = dir
  kind : p.kind = t.strategy.kind
  leaves : p.steps.map (·.field) ++ p.cases = s.leaves

theorem exists_plan_of_run (h : run d overrides n = .ok t n') (hs : t.schema? = some s)
    (dir : Direction) (style : VariableStyle) :
    ∃ p, t.plan dir style = .ok p ∧ p.Writes t s dir := by
  obtain ⟨e, -, ⟨hshape, htop, rfl⟩ | ⟨hshape, -, rfl⟩⟩ := codingKeys_of_run h hs
  · obtain ⟨steps, hp, hsteps⟩ := plan_of_regular hshape htop.regular dir style
    refine ⟨_, hp, rfl, rfl, ?_, (List.append_nil _).trans (fields_of_isFor hsteps)⟩
    rw [CodableType.strategy, hshape]
    rfl
  · have hleaves : e.tags.fields.map Field.info = e.tags.leaves := by
      rw [Enumeration.leaves_tags, Enumeration.fields_tags, List.map_map]
      exact List.map_id _
    refine ⟨⟨t.typeName, dir, t.isPublic, .singleValueForEnum e.tags.name
      (e.tags.fields.map Field.info)⟩, ?_, rfl, rfl, ?_, hleaves⟩
    · rw [CodableType.plan, hshape]
      rfl
    · rw [CodableType.strategy, hshape]
      rfl

namespace CodecPlan

variable {p : CodecPlan} {own : PythonSettings}

theorem cases_eq_nil (h : p.kind = .keyed) : (Python.functionOf own p).cases = [] := by
  obtain ⟨typeName, direction, isPublic, body⟩ := p
  cases body with
  | keyed cs steps => rfl
  | singleValue | singleValueForEnum => cases h

theorem steps_eq_nil (h : p.kind = .singleValueForEnum) :
    (Python.functionOf own p).steps = [] := by
  obtain ⟨typeName, direction, isPublic, body⟩ := p
  cases body with
  | singleValueForEnum name cs => rfl
  | keyed | singleValue => cases h

/-- The attributes in the function of a plan are those of the leaves it writes. -/
theorem attributes_functionOf (own : PythonSettings)
    (hp : p.steps.map (·.field) ++ p.cases = s.leaves) :
    (Python.functionOf own p).attributes =
      (s.leaves.map (·.localName)).map Python.attributeName := by
  rw [← hp, PythonFunction.attributes, Python.functionOf]
  simp only [List.map_append, List.map_map]
  rfl

end CodecPlan

/-- **When the attributes of an accepted type differ.**  Those that a Python function writes or
    reads are different exactly if no keyword is the name of a leaf or case while the keyword
    with an underscore is the name of another.  They are the keywords of the call in the
    function that reads fields, and in the functions for tags there is a line for each that
    refers to it as a member. -/
theorem attributes_nodup_iff_of_run (h : run d overrides n = .ok t n') (hs : t.schema? = some s)
    (own : PythonSettings) (dir : Direction) (style : VariableStyle) :
    ∃ p, t.plan dir style = .ok p ∧
      ((Python.functionOf own p).attributes.Nodup ↔
        Python.EscapesApart (s.leaves.map (·.localName))) ∧
      (t.shape = .keyed s → dir = .decode → s.leaves ≠ [] →
        PythonFunction.EndsWithCall t.typeName (Python.functionOf own p).attributes
          (Python.planSource own p)) ∧
      (t.shape = .singleValueForEnum s →
        PythonFunction.RefersInOrder t.typeName dir (Python.functionOf own p).attributes
          (Python.planSource own p)) := by
  obtain ⟨p, hp, htype, hdir, hkind, hleaves⟩ := exists_plan_of_run h hs dir style
  have hattributes := CodecPlan.attributes_functionOf own hleaves
  refine ⟨p, hp, ?_, ?_, ?_⟩
  · rw [hattributes]
    exact Python.nodup_attributes_iff (leafNames_nodup_of_run h hs)
  · rintro hshape rfl hne
    have hkeyed : p.kind = .keyed := by rw [hkind, CodableType.strategy, hshape]; rfl
    have hattributes' : (Python.functionOf own p).attributes ≠ [] := by
      rw [hattributes]
      exact fun hnil => hne (List.map_eq_nil_iff.1 (List.map_eq_nil_iff.1 hnil))
    rw [Python.planSource, hkeyed, hdir, ← htype]
    exact PythonFunction.endsWithCall_source (CodecPlan.cases_eq_nil hkeyed) hattributes'
  · intro hshape
    have htags : p.kind = .singleValueForEnum := by rw [hkind, CodableType.strategy, hshape]; rfl
    rw [Python.planSource, htags, hdir, ← htype]
    exact PythonFunction.refersInOrder_source (CodecPlan.steps_eq_nil htags) dir

/-! ## A ticket -/

/-- A ticket with a class, and a group with another attribute of that name. -/
def ticket (options : List (String × Json)) : Declaration where
  typeName := "Ticket"
  kind := "extension"
  typeKind := "struct"
  enums := [⟨"CodingKeys", ["String", "CodingKey"], [⟨"class", none, []⟩, ⟨"seat", none, []⟩],
    [⟨"SeatCodingKeys", ["String", "CodingKey"],
      [⟨"class_", some "class", []⟩, ⟨"row", none, []⟩], []⟩]⟩]
  options := options

/-- As fields, both classes are passed as `class_`; as tags, `class` and `seat` differ. -/
theorem attributes_nodup_iff_of_run_ticket :
    (∃ t n' s, run (ticket []) [] {} = .ok t n' ∧ t.schema? = some s ∧
      ∃ p, t.plan .decode .snake = .ok p ∧
        ¬ (Python.functionOf (.ofEntries []) p).attributes.Nodup ∧
        PythonFunction.EndsWithCall "Ticket" (Python.functionOf (.ofEntries []) p).attributes
          (Python.planSource (.ofEntries []) p)) ∧
    ∃ t n' s, run (ticket [("container", .str "single_value_for_enum")]) [] {} = .ok t n' ∧
      t.schema? = some s ∧ ∃ p, t.plan .encode .snake = .ok p ∧
        (Python.functionOf (.ofEntries []) p).attributes.Nodup ∧
        PythonFunction.RefersInOrder "Ticket" .encode
          (Python.functionOf (.ofEntries []) p).attributes
          (Python.planSource (.ofEntries []) p) := by
  constructor
  · obtain ⟨t, n', s, h, htype, hs, hnames⟩ : ∃ t n' s, run (ticket []) [] {} = .ok t n' ∧
        t.typeName = "Ticket" ∧ t.shape = .keyed s ∧
          s.leaves.map (·.localName) = ["class", "class_", "row"] := ⟨_, _, _, rfl, rfl, rfl, rfl⟩
    have hschema : t.schema? = some s := by rw [CodableType.schema?, hs]; rfl
    obtain ⟨p, hp, hnodup, hcall, -⟩ :=
      attributes_nodup_iff_of_run h hschema (.ofEntries []) .decode .snake
    have hne : s.leaves ≠ [] := by
      intro hnil
      rw [hnil] at hnames
      cases hnames
    refine ⟨t, n', s, h, hschema, p, hp, ?_, htype ▸ hcall hs rfl hne⟩
    rw [hnodup, hnames]
    exact fun hapart => hapart "class" (by decide) (by decide) (by decide)
  · obtain ⟨t, n', s, h, htype, hs, hnames⟩ : ∃ t n' s,
        run (ticket [("container", .str "single_value_for_enum")]) [] {} = .ok t n' ∧
          t.typeName = "Ticket" ∧ t.shape = .singleValueForEnum s ∧
            s.leaves.map (·.localName) = ["class", "seat"] := ⟨_, _, _, rfl, rfl, rfl, rfl⟩
    have hschema : t.schema? = some s := by rw [CodableType.schema?, hs]; rfl
    obtain ⟨p, hp, hnodup, -, hrefers⟩ :=
      attributes_nodup_iff_of_run h hschema (.ofEntries []) .encode .snake
    refine ⟨t, n', s, h, hschema, p, hp, ?_, htype ▸ hrefers hs⟩
    rw [hnodup, hnames]
    unfold Python.EscapesApart
    decide

/-- Not all accepted types have different attributes. -/
theorem exists_repeated_attribute : ¬ ∀ (d : Declaration) (overrides : List (String × Json))
    (n : Notices) (t : CodableType) (n' : Notices), run d overrides n = .ok t n' →
      ∀ own dir style p, t.plan dir style = .ok p →
        (Python.functionOf own p).attributes.Nodup := by
  intro h
  obtain ⟨t, n', hrun, p, hp, hattributes⟩ : ∃ t n', run (ticket []) [] {} = .ok t n' ∧
      ∃ p, t.plan .decode .snake = .ok p ∧
        (Python.functionOf (.ofEntries []) p).attributes = ["class_", "class_", "row"] :=
    ⟨_, _, rfl, _, rfl, rfl⟩
  have hnodup := h (ticket []) [] {} t n' hrun (.ofEntries []) .decode .snake p hp
  rw [hattributes] at hnodup
  revert hnodup
  decide

end CodecForge
