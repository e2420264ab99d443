/-
  CodecForge — writing again what has been read.

  Data are read under hints for lists, tuples, sets and dictionaries of scalars.

  * `Hint.IsCollected` are these hints, and what `unionOf` makes of them is one again
    (`IsCollected.unionOf`);
  * `ReadFrom`: the data are the tree of what is read from them, unless there is a set in it;
    that is so for every such hint (`readFrom_of_decodeWith`);
  * `written_again_iff`: what has been read is written as the data it was read from, exactly if
    there is no set in it: nothing writes a set.
-/
import CodecForge.Proofs.Coding.Trees
import CodecForge.Proofs.Coding.Shape

namespace CodecForge.Coding

/-! ## Hints and sets -/

/-- A hint for integers, texts or booleans, for lists, tuples, sets or dictionaries of what
    such hints are for, or for what one of several such hints is for. -/
inductive Hint.IsCollected : Hint → Prop
  | scalar {s : Scalar} (hs : s ≠ .float) : IsCollected (.scalar s)
  | items (kind : ItemsKind) {item : Hint} (h : IsCollected item) : IsCollected (.items kind item)
  | tupleOf {item : Hint} (h : IsCollected item) : IsCollected (.tupleOf item)
  | tuple {hs : List Hint} (h : ∀ h ∈ hs, IsCollected h) : IsCollected (.tuple hs)
  | dict (name : String) (key : Hint) {value : Hint} (h : IsCollected value) :
      IsCollected (.dict name key value)
  | union (name : String) {members : List Hint}
      (h : ∀ m ∈ members, m.isNullClass = false → IsCollected m) :
      IsCollected (.union name members)

/-- The union of such hints is one, unless it is null alone. -/
theorem Hint.IsCollected.unionOf {hs : List Hint}
    (h : ∀ k ∈ hs, k.isNullClass = false → IsCollected k)
    (hnull : (Hint.unionOf hs).isNullClass = false) : IsCollected (Hint.unionOf hs) := by
  refine holds_unionOf (fun name members => ⟨fun hunion => ?_, .union name⟩) h hnull
  cases hunion with
  | union _ hmembers => exact hmembers

/-- Scalars are not read by codecs, and no codec writes what lists, tuples, sets and
    dictionaries are. -/
structure Context.KeepsBuiltIn (c : Context) : Prop extends c.KeepsCollections where
  scalars : c.KeepsScalars
  tuple : ∀ xs, c.writer? (.tuple xs) = none
  set : ∀ xs, c.writer? (.set xs) = none
  frozenset : ∀ xs, c.writer? (.frozenset xs) = none

theorem Context.keepsBuiltIn_of_nil {c : Context} (hc : c.codecs = []) : c.KeepsBuiltIn where
  toKeepsCollections := Context.keepsCollections_of_nil hc
  scalars := Context.keepsScalars_of_nil hc
  tuple xs := c.writer?_of_nil hc (.tuple xs)
  set xs := c.writer?_of_nil hc (.set xs)
  frozenset xs := c.writer?_of_nil hc (.frozenset xs)

theorem Hint.IsCollected.structural {c : Context} (hc : c.KeepsScalars) {h : Hint}
    (hh : h.IsCollected) : Structural c h := by
  induction hh with
  | scalar hs => exact .scalar (hc _ hs)
  | items kind _ ih => exact .items kind ih
  | tupleOf _ ih => exact .tupleOf ih
  | tuple _ ih => exact .tuple ih
  | dict name key _ ih => exact .dict name key ih
  | union name _ ih => exact .union name ih

namespace Value

/-- A set, one that may change or one that may not. -/
inductive IsSet : Value → Prop
  | set (xs : List Value) : IsSet (.set xs)
  | frozenset (xs : List Value) : IsSet (.frozenset xs)

/-- There is a set in a value. -/
inductive HasSet : Value → Prop
  | here {v : Value} (h : v.IsSet) : HasSet v
  | item {xs : List Value} {x : Value} (hx : x ∈ xs) (h : HasSet x) : HasSet (.list xs)
  | component {xs : List Value} {x : Value} (hx : x ∈ xs) (h : HasSet x) : HasSet (.tuple xs)
  | entry {es : List (Value × Value)} {e : Value × Value} (he : e ∈ es) (h : HasSet e.2) :
      HasSet (.dict es)

theorem hasSet_list_iff {xs : List Value} : HasSet (.list xs) ↔ ∃ x ∈ xs, HasSet x := by
  constructor
  · rintro (⟨⟨⟩⟩ | ⟨hx, h⟩)
    exact ⟨_, hx, h⟩
  · rintro ⟨x, hx, h⟩
    exact .item hx h

theorem hasSet_tuple_iff {xs : List Value} : HasSet (.tuple xs) ↔ ∃ x ∈ xs, HasSet x := by
  constructor
  · rintro (⟨⟨⟩⟩ | _ | ⟨hx, h⟩)
    exact ⟨_, hx, h⟩
  · rintro ⟨x, hx, h⟩
    exact .component hx h

theorem hasSet_dict_iff {es : List (Value × Value)} :
    HasSet (.dict es) ↔ ∃ e ∈ es, HasSet e.2 := by
  constructor
  · rintro (⟨⟨⟩⟩ | _ | _ | ⟨he, h⟩)
    exact ⟨_, he, h⟩
  · rintro ⟨e, he, h⟩
    exact .entry he h

end Value

/-! ## What is read, and what it is written as -/

section
variable {c : Context} {ambient : Decoding}

/-- A value is read from data: they are its tree, unless there is a set in it; and sets are all
    there is in it that nothing writes. -/
structure ReadFrom (c : Context) (d v : Value) : Prop where
  assembled : c.Assembled v
  isSet : ∀ o ∈ c.objects v, o.2.IsSet
  hasSet : c.objects v = [] ↔ ¬ v.HasSet
  tree : c.objects v = [] → v.tree = d

theorem ReadFrom.of_isSet (hc : c.KeepsBuiltIn) {v : Value} (hv : v.IsSet) (d : Value) :
    ReadFrom c d v := by
  have hunwritable : c.isUnwritable v = true := by
    cases hv with
    | set xs => simp [Context.isUnwritable, Context.hasNoMethod, hc.set]
    | frozenset xs => simp [Context.isUnwritable, Context.hasNoMethod, hc.frozenset]
  have hobjects := objects_of_isUnwritable hunwritable
  refine ⟨.object hunwritable, ?_, ?_, ?_⟩
  · simpa [hobjects] using hv
  · simpa [hobjects] using Value.HasSet.here hv
  · simp [hobjects]

/-- What is known of each item is known of all of them. -/
theorem objectsFrom_of_forall₂ {ds vs : List Value} (h : List.Forall₂ (ReadFrom c) ds vs)
    (index : Nat) :
    (∀ o ∈ c.objectsFrom index vs, o.2.IsSet) ∧
      (c.objectsFrom index vs = [] ↔ ¬ ∃ v ∈ vs, v.HasSet) ∧
      (c.objectsFrom index vs = [] → Value.trees vs = ds) := by
  induction h generalizing index with
  | nil => simp [Context.objectsFrom, Value.trees]
  | cons hv _ ih =>
    obtain ⟨hsets, hhas, htrees⟩ := ih (index + 1)
    rw [Context.objectsFrom, Value.trees, List.append_eq_nil_iff, List.map_eq_nil_iff, hv.hasSet]
    refine ⟨?_, by simp [hhas], ?_⟩
    · rw [List.forall_mem_append, List.forall_mem_map]
      exact ⟨hv.isSet, hsets⟩
    · rintro ⟨hnone, hnones⟩
      rw [hv.tree (hv.hasSet.2 hnone), htrees hnones]

theorem ReadFrom.assembled_of_forall₂ {ds vs : List Value} (h : List.Forall₂ (ReadFrom c) ds vs) :
    ∀ v ∈ vs, c.Assembled v := by
  intro v hv
  obtain ⟨d, -, hd⟩ := exists_of_mem_right h v hv
  exact hd.assembled

theorem ReadFrom.list (hc : c.KeepsBuiltIn) {ds vs : List Value}
    (h : List.Forall₂ (ReadFrom c) ds vs) : ReadFrom c (.list ds) (.list vs) := by
  obtain ⟨hsets, hhas, htrees⟩ := objectsFrom_of_forall₂ h 0
  refine ⟨.list (hc.list vs) (ReadFrom.assembled_of_forall₂ h), ?_, ?_, ?_⟩
  all_goals rw [Context.objects]
  · exact hsets
  · rw [hhas, Value.hasSet_list_iff]
  · intro hnone
    rw [Value.tree, htrees hnone]

theorem ReadFrom.tuple (hc : c.KeepsBuiltIn) {ds vs : List Value}
    (h : List.Forall₂ (ReadFrom c) ds vs) : ReadFrom c (.list ds) (.tuple vs) := by
  obtain ⟨hsets, hhas, htrees⟩ := objectsFrom_of_forall₂ h 0
  refine ⟨.tuple (hc.tuple vs) (ReadFrom.assembled_of_forall₂ h), ?_, ?_, ?_⟩
  all_goals rw [Context.objects]
  · exact hsets
  · rw [hhas, Value.hasSet_tuple_iff]
  · intro hnone
    rw [Value.tree, htrees hnone]

theorem objectsUnder_of_forall₂ {ps rs : List (String × Value)}
    (h : List.Forall₂ (fun p r => r.1 = p.1 ∧ ReadFrom c p.2 r.2) ps rs) :
    (∀ o ∈ c.objectsUnder (Value.ofTexts rs), o.2.IsSet) ∧
      (c.objectsUnder (Value.ofTexts rs) = [] ↔ ¬ ∃ e ∈ Value.ofTexts rs, e.2.HasSet) ∧
      (c.objectsUnder (Value.ofTexts rs) = [] → Value.treesUnder (Value.ofTexts rs) = ps) := by
  induction h with
  | nil => simp [Context.objectsUnder, Value.treesUnder]
  | @cons p r _ _ hr _ ih =>
    obtain ⟨hkey, hv⟩ := hr
    obtain ⟨hsets, hhas, htrees⟩ := ih
    rw [Value.ofTexts_cons, Context.objectsUnder, Value.treesUnder, List.append_eq_nil_iff,
      List.map_eq_nil_iff, hv.hasSet]
    refine ⟨?_, by simp [hhas], ?_⟩
    · rw [List.forall_mem_append, List.forall_mem_map]
      exact ⟨hv.isSet, hsets⟩
    · rintro ⟨hnone, hnones⟩
      rw [hv.tree (hv.hasSet.2 hnone), htrees hnones]
      exact congrArg (· :: _) (Prod.ext hkey rfl)

theorem ReadFrom.dict (hc : c.KeepsBuiltIn) {ps rs : List (String × Value)}
    (hkeys : (ps.map (·.1)).Nodup)
    (h : List.Forall₂ (fun p r => r.1 = p.1 ∧ ReadFrom c p.2 r.2) ps rs) :
    ReadFrom c (.dict (Value.ofTexts ps)) (.dict (Value.ofTexts rs)) := by
  obtain ⟨hsets, hhas, htrees⟩ := objectsUnder_of_forall₂ h
  have hassembled : ∀ e ∈ Value.ofTexts rs, c.Assembled e.2 := by
    refine List.forall_mem_map.2 fun r hr => ?_
    obtain ⟨p, -, -, hp⟩ := exists_of_mem_right h r hr
    exact hp.assembled
  refine ⟨.dict (hc.dict _) hassembled, ?_, ?_, ?_⟩
  all_goals rw [Context.objects]
  · exact hsets
  · rw [hhas, Value.hasSet_dict_iff]
  · intro hnone
    rw [Value.tree, htrees hnone, Entries.ofPairs_of_nodup hkeys]

theorem ReadFrom.collect (hc : c.KeepsBuiltIn) {kind : ItemsKind} {ds vs : List Value} {v : Value}
    (h : List.Forall₂ (ReadFrom c) ds vs) (hv : Coding.collect kind vs = .ok v) :
    ReadFrom c (.list ds) v := by
  -- every kind makes a list or a set
  cases kind with
  | list | sequence =>
    cases hv
    exact .list hc h
  | set | frozenset =>
    rw [Coding.collect] at hv
    split at hv
    · cases hv
      exact .of_isSet hc (by constructor) _
    · cases hv
  | abstractSet => cases hv

/-- JSON data are read from themselves. -/
theorem ReadFrom.of_isJson (hc : c.KeepsBuiltIn) {d : Value} (hd : d.IsJson) : ReadFrom c d d := by
  induction hd with
  | list _ ih => exact .list hc (List.forall₂_same.2 ih)
  | dict hkeys _ ih => exact .dict hc hkeys (List.forall₂_same.2 fun p hp => ⟨rfl, ih p hp⟩)
  | null | bool | int | float | str =>
    refine ⟨by constructor, ?_, ?_, fun _ => rfl⟩
    · simp [Context.objects, Context.isUnwritable, Context.hasNoMethod]
    · simp only [Context.objects, Context.isUnwritable, Context.hasNoMethod, Bool.and_false,
        Bool.false_eq_true, if_false, true_iff]
      rintro ⟨⟨⟩⟩

/-! ## Reading under a hint -/

/-- Each item is read under its hint. -/
theorem forall₂_of_decodeEach {hs : List Hint} {path : CodingPath} {index : Nat}
    {xs vs : List Value} (hlen : hs.length = xs.length)
    (h : decodeEach c ambient hs xs path index = .ok vs) :
    List.Forall₂ (fun p v => ∃ path, decodeWith c ambient p.1 p.2 path = .ok v) (hs.zip xs) vs := by
  induction hs generalizing xs index vs with
  | nil =>
    obtain rfl := List.length_eq_zero_iff.1 hlen.symm
    rw [decodeEach] at h
    · cases h
      exact .nil
    · simp
  | cons k hs ih =>
    cases xs with
    | nil => cases hlen
    | cons x xs =>
      rw [decodeEach] at h
      obtain ⟨v, hv, h⟩ := exists_of_bind_eq_ok h
      obtain ⟨vs', hvs, h⟩ := exists_of_bind_eq_ok h
      cases h
      exact .cons ⟨_, hv⟩ (ih (Nat.succ.inj hlen) hvs)

/-- What is read under the first of several hints that takes the data is read under one of
    them, which is not that of null. -/
theorem exists_of_decodeFirst {name : String} {members : List Hint} {d v : Value}
    {path : CodingPath} (h : decodeFirst c ambient name members d path = .ok v) :
    ∃ m ∈ members, m.isNullClass = false ∧ decodeWith c ambient m d path = .ok v := by
  induction members with
  | nil =>
    rw [decodeFirst] at h
    cases h
  | cons m members ih =>
    rw [decodeFirst] at h
    cases hnull : m.isNullClass with
    | true =>
      rw [if_pos hnull] at h
      obtain ⟨m', hm', hread⟩ := ih h
      exact ⟨m', by simp [hm'], hread⟩
    | false =>
      rw [if_neg (by simp [hnull])] at h
      split at h
      · next w hw =>
        cases h
        exact ⟨m, by simp, hnull, hw⟩
      · split at h
        · obtain ⟨m', hm', hread⟩ := ih h
          exact ⟨m', by simp [hm'], hread⟩
        · cases h

/-- Data that are not null and are read under a union are read under one of its members
    besides null. -/
theorem exists_of_decodeWith_union {name : String} {members : List Hint} {d v : Value}
    {path : CodingPath} (hnull : d.isNull = false)
    (h : decodeWith c ambient (.union name members) d path = .ok v) :
    ∃ m ∈ members, m.isNullClass = false ∧ decodeWith c ambient m d path = .ok v := by
  by_cases hone : (members.filter (!·.isNullClass)).length = 1
  · obtain ⟨m, hm⟩ := List.length_eq_one_iff.1 hone
    obtain ⟨hmem, hmnull⟩ := List.mem_filter.1 (hm ▸ List.mem_singleton_self m)
    rw [decodeWith_only hm hnull] at h
    exact ⟨m, hmem, by simpa using hmnull, h⟩
  · rw [decodeWith_many hone hnull] at h
    exact exists_of_decodeFirst h

/-- What is read under a hint that takes nothing but lists is read from a list. -/
theorem exists_list_of_decodeWith {h : Hint} {expected : String}
    (hh : listExpected? h = some expected) {d v : Value} (hd : d.IsJson) {path : CodingPath}
    (hr : decodeWith c ambient h d path = .ok v) : ∃ xs, d = .list xs ∧ ∀ x ∈ xs, x.IsJson := by
  rcases hd.list_cases with rfl | hxs | ⟨hnull, hlist⟩
  · cases (decodeWith_null (refusesNull_of_listExpected? hh) path).symm.trans hr
  · exact hxs
  · cases (decodeWith_not_list hh hnull hlist path).symm.trans hr

/-- **What is read has its data for a tree**, or there is a set in it. -/
theorem readFrom_of_decodeWith (hc : c.KeepsBuiltIn) {h : Hint} (hh : h.IsCollected)
    {d v : Value} (hd : d.IsJson) {path : CodingPath}
    (hr : decodeWith c ambient h d path = .ok v) : ReadFrom c d v := by
  induction hh generalizing d v path with
  | @scalar s hs =>
    cases hnull : d.isNull with
    | true =>
      obtain rfl := Value.eq_null hnull
      cases (decodeWith_null rfl path).symm.trans hr
    | false =>
      rw [decodeWith_scalar (hc.scalars s hs) hnull, decodeScalar_eq hs hd] at hr
      split at hr
      · cases hr
        exact .of_isJson hc hd
      · cases hr
  | @items kind item _ ih =>
    obtain ⟨xs, rfl, hxs⟩ := exists_list_of_decodeWith rfl hd hr
    rw [decodeWith_items] at hr
    obtain ⟨vs, hvs, hr⟩ := exists_of_bind_eq_ok hr
    refine .collect hc (forall₂_imp_mem (forall₂_of_decodeItems hvs) ?_) hr
    rintro x hx v - ⟨_, hv⟩
    exact ih (hxs x hx) hv
  | @tupleOf item _ ih =>
    obtain ⟨xs, rfl, hxs⟩ := exists_list_of_decodeWith rfl hd hr
    rw [decodeWith_tupleOf] at hr
    obtain ⟨vs, hvs, rfl⟩ := exists_of_map_eq_ok hr
    refine .tuple hc (forall₂_imp_mem (forall₂_of_decodeItems hvs) ?_)
    rintro x hx v - ⟨_, hv⟩
    exact ih (hxs x hx) hv
  | @tuple hs _ ih =>
    obtain ⟨xs, rfl, hxs⟩ := exists_list_of_decodeWith rfl hd hr
    by_cases hempty : hs = []
    · -- any list is read under a hint for tuples without items
      subst hempty
      rw [decodeWith] at hr
      cases hr
      exact .tuple hc (List.forall₂_same.2 fun x hx => .of_isJson hc (hxs x hx))
    by_cases hlen : hs.length = xs.length
    · rw [decodeWith_tuple hempty hlen] at hr
      obtain ⟨vs, hvs, rfl⟩ := exists_of_map_eq_ok hr
      refine .tuple hc ?_
      rw [← List.map_snd_zip hlen.ge, List.forall₂_map_left_iff]
      refine forall₂_imp_mem (forall₂_of_decodeEach hlen hvs) ?_
      rintro ⟨k, x⟩ hmem v - ⟨_, hv⟩
      obtain ⟨hk, hx⟩ := List.of_mem_zip hmem
      exact ih k hk (hxs x hx) hv
    · cases (decodeWith_tuple_length hempty hlen path).symm.trans hr
  | @dict name key value _ ih =>
    cases hd with
    | @dict ps hkeys hps =>
      rw [decodeWith_dict] at hr
      obtain ⟨es, hes, rfl⟩ := exists_of_map_eq_ok hr
      obtain ⟨rs, rfl, hrs⟩ := forall₂_of_decodeEntries hes
      refine .dict hc hkeys (forall₂_imp_mem hrs ?_)
      rintro p hp r - ⟨hkey, _, hv⟩
      exact ⟨hkey, ih (hps p hp) hv⟩
    | null => cases (decodeWith_null rfl path).symm.trans hr
    | _ => cases (decodeWith_not_dict name key value rfl (by simp) path).symm.trans hr
  | @union name members _ ih =>
    cases hnull : d.isNull with
    | true =>
      obtain rfl := Value.eq_null hnull
      rw [decodeWith, if_pos hnull] at hr
      split at hr
      · cases hr
        exact .of_isJson hc .null
      · cases hr
    | false =>
      obtain ⟨m, hm, hmnull, hm'⟩ := exists_of_decodeWith_union hnull hr
      exact ih m hm hmnull hd hm'

/-- What is read at one path is read at every path. -/
theorem decodeWith_of_path {h : Hint} (hh : Structural c h) {d v : Value} (hd : d.IsJson)
    {path : CodingPath} (hr : decodeWith c ambient h d path = .ok v) (path' : CodingPath) :
    decodeWith c ambient h d path' = .ok v := by
  cases outcome_of_structural ambient hh hd with
  | read hread =>
    obtain ⟨w, hw⟩ := hread
    cases (hw path).symm.trans hr
    exact hw path'
  | fault _ hto hown => cases (hto.error (hown _)).symm.trans hr
  | stuck hs => cases (hs.error hh path).symm.trans hr

/-- **What is read can be written again, unless there is a set in it.**  JSON data are read
    under a hint for lists, tuples, sets and dictionaries of scalars, none of which a codec
    writes or reads.  What is read is then written, and read again as what it is, exactly if
    there is no set in it, and it is written as the data it was read from; otherwise writing
    fails for the first set in it, for which there is no codec. -/
theorem written_again_iff (hc : c.KeepsBuiltIn) {h : Hint} (hh : h.IsCollected) {d v : Value}
    (hd : d.IsJson) {path : CodingPath} (hr : decodeValue c h d path = .ok v)
    (path₁ path₂ : CodingPath) :
    ((∃ r, encodeValue c v path₁ = .ok r ∧ decodeValue c h r path₂ = .ok v) ↔ ¬ v.HasSet) ∧
      (¬ v.HasSet → encodeValue c v path₁ = .ok d) ∧
      (v.HasSet → ∃ q w rest, c.objects v = (q, w) :: rest ∧ w.IsSet ∧
        encodeValue c v path₁ = .error (.at (.noCodec w.className) (path₁ ++ q))) := by
  obtain ⟨ambient, hencode⟩ := encodeValue_eq c
  obtain ⟨ambient', hdecode⟩ := decodeValue_eq c
  rw [hdecode] at hr ⊢
  have hfrom := readFrom_of_decodeWith hc hh hd hr
  have hwrite : encodeValue c v path₁ = unlessObjects (c.objects v) v.tree path₁ := by
    rw [hencode, encodeWith_assembled hfrom.assembled]
  have hagain := decodeWith_of_path (hh.structural hc.scalars) hd hr path₂
  cases hobjects : c.objects v with
  | nil =>
    rw [hobjects, unlessObjects, hfrom.tree hobjects] at hwrite
    have hnone := hfrom.hasSet.1 hobjects
    exact ⟨iff_of_true ⟨d, hwrite, hagain⟩ hnone, fun _ => hwrite, fun hset => absurd hset hnone⟩
  | cons o os =>
    rw [hobjects, unlessObjects] at hwrite
    have hset : v.HasSet := by
      by_contra hnone
      cases hobjects.symm.trans (hfrom.hasSet.2 hnone)
    refine ⟨iff_of_false ?_ (not_not_intro hset), fun hnone => absurd hset hnone, fun _ => ?_⟩
    · rintro ⟨r, hr, -⟩
      cases hwrite.symm.trans hr
    · exact ⟨o.1, o.2, os, rfl, hfrom.isSet o (by simp [hobjects]), hwrite⟩

end

/-- A number and a set of texts that may be missing, by name. -/
def tagged : Hint :=
  .dict "Dict" (.scalar .str)
    (.tuple [.scalar .int, .unionOf [.items .set (.scalar .str), .nullClass]])

/-- The set is the second component of the pair, and nothing writes it. -/
theorem written_again_iff_tagged :
    Context.KeepsBuiltIn ⟨[], []⟩ ∧ tagged.IsCollected ∧
      Value.IsJson (.dict (Value.ofTexts [("a", .list [.int 1, .list [.str "x"]])])) ∧
      decodeValue ⟨[], []⟩ tagged
        (.dict (Value.ofTexts [("a", .list [.int 1, .list [.str "x"]])])) [] =
          .ok (.dict (Value.ofTexts [("a", .tuple [.int 1, .set [.str "x"]])])) ∧
      encodeValue ⟨[], []⟩ (.dict (Value.ofTexts [("a", .tuple [.int 1, .set [.str "x"]])])) [] =
        .error (.at (.noCodec "set") ["a", "1"]) := by
  have hc : Context.KeepsBuiltIn ⟨[], []⟩ := Context.keepsBuiltIn_of_nil rfl
  have hh : tagged.IsCollected := by
    refine .dict _ _ (.tuple ?_)
    rw [List.forall_mem_cons, List.forall_mem_singleton]
    refine ⟨.scalar (by decide), .unionOf ?_ rfl⟩
    rw [List.forall_mem_cons, List.forall_mem_singleton]
    exact ⟨fun _ => .items _ (.scalar (by decide)), by simp [Hint.nullClass, Hint.isNullClass]⟩
  have hd : Value.IsJson (.dict (Value.ofTexts [("a", .list [.int 1, .list [.str "x"]])])) := by
    refine .dict (by decide) (List.forall_mem_singleton.2 (.list ?_))
    rw [List.forall_mem_cons, List.forall_mem_singleton]
    exact ⟨.int 1, .list (List.forall_mem_singleton.2 (.str "x"))⟩
  have hr : decodeValue ⟨[], []⟩ tagged
      (.dict (Value.ofTexts [("a", .list [.int 1, .list [.str "x"]])])) [] =
        .ok (.dict (Value.ofTexts [("a", .tuple [.int 1, .set [.str "x"]])])) := rfl
  have hset : Value.HasSet (.dict (Value.ofTexts [("a", .tuple [.int 1, .set [.str "x"]])])) :=
    .entry (List.mem_singleton_self _)
      (.component (x := .set [.str "x"]) (by simp) (.here (.set _)))
  obtain ⟨q, w, rest, hfirst, -, herror⟩ := (written_again_iff hc hh hd hr [] []).2.2 hset
  cases (show Context.objects ⟨[], []⟩ _ = [(["a", "1"], .set [.str "x"])] from rfl).symm.trans
    hfirst
  exact ⟨hc, hh, hd, hr, herror⟩

/-- A set of one number is read from a list, and is not written. -/
theorem exists_unwritable :
    ¬ ∀ (d v : Value), decodeValue ⟨[], []⟩ (.items .set (.scalar .int)) d [] = .ok v →
      ∃ r, encodeValue ⟨[], []⟩ v [] = .ok r ∧
        decodeValue ⟨[], []⟩ (.items .set (.scalar .int)) r [] = .ok v := by
  intro hagain
  obtain ⟨r, hr, -⟩ := hagain (.list [.int 1]) (.set [.int 1]) rfl
  cases (show encodeValue ⟨[], []⟩ (.set [.int 1]) [] =
    .error (.at (.noCodec "set") []) from rfl).symm.trans hr

end CodecForge.Coding
