/-
  CodecForge — the failures of decoding.

  Of JSON data and a structural hint:

  * `decodeValue_faults`: an error of decoding points at a value inside the data that is
    refused by itself, all that stands before it being read; the path that decoding starts
    from is only written before that of the error;
  * `decodes_or_refuses_iff`: decoding comes to a value or to an error of decoding exactly
    if it is not stuck, and stuck it fails otherwise (`exists_escaping`).
-/
import CodecForge.Proofs.Coding.Navigation
import CodecForge.Proofs.Coding.Outcomes

namespace CodecForge.Coding

variable {c : Context}

/-! ## Paths -/

/-- The failure with a path written before its own. -/
def Failure.under (path : CodingPath) : Failure → Failure
  | .coding e => .coding ⟨e.cause, path ++ e.path⟩
  | f => f

theorem Value.ofTexts_injective : Function.Injective Value.ofTexts := by
  refine List.map_injective_iff.2 fun p q hpq => ?_
  obtain ⟨hkey, hvalue⟩ := Prod.mk.inj hpq
  exact Prod.ext (Value.str.inj hkey) hvalue

theorem Value.IsJson.of_mem_list {xs : List Value} (h : (Value.list xs).IsJson) {x : Value}
    (hx : x ∈ xs) : x.IsJson := by
  cases h with
  | list hxs => exact hxs x hx

theorem Value.IsJson.entries {ps : List (String × Value)}
    (h : (Value.dict (Value.ofTexts ps)).IsJson) :
    (ps.map (·.1)).Nodup ∧ ∀ p ∈ ps, p.2.IsJson := by
  generalize hd : Value.dict (Value.ofTexts ps) = d at h
  cases h with
  | dict hkeys hps =>
    cases Value.ofTexts_injective (Value.dict.inj hd)
    exact ⟨hkeys, hps⟩
  | _ => cases hd

/-- The path that a hint is followed along leads to the value in the data. -/
theorem ReadsTo.at? {dec : Decoding} {h h' : Hint} {d d' : Value} {q : CodingPath}
    (hto : ReadsTo dec h d q h' d') (hd : d.IsJson) : d.at? q = some d' := by
  induction hto with
  | here => exact Value.at?_nil _
  | only _ _ _ ih => exact ih hd
  | @item _ _ _ before after x _ _ _ _ ih | @tupleItem _ _ before after x _ _ _ _ ih
  | @component _ _ _ _ before after x _ _ _ _ _ ih =>
    rw [Value.at?_cons, Value.child?_list]
    exact ih (hd.of_mem_list (by simp))
  | @entry _ key _ _ _ before after x _ _ _ _ ih =>
    have hmem : (key, x) ∈ before ++ (key, x) :: after := by simp
    obtain ⟨hkeys, hjson⟩ := hd.entries
    have hchild := Value.child?_ofTexts hkeys hmem
    rw [Value.at?_cons, hchild]
    exact ih (hjson _ hmem)

theorem Failure.under_eq_self {f : Failure} (hf : ∀ e, f ≠ .coding e) (path : CodingPath) :
    f.under path = f := by
  cases f with
  | coding e => exact absurd rfl (hf e)
  | _ => rfl

/-- To be stuck is not to fail with an error that has a path. -/
theorem Stuck.ne_coding {dec : Decoding} {h : Hint} {d : Value} {f : Failure}
    (hs : Stuck c dec h d f) (e : CodingError) : f ≠ .coding e := by
  induction hs with
  | own _ hs => cases hs <;> nofun
  | member _ _ _ _ _ _ ih => exact ih

/-- **Errors of decoding point at the fault.**  An error of decoding is one for a value
    inside the data, which is refused for the same cause by itself; and a path that decoding
    starts from is only written before that of the error. -/
theorem decodeValue_faults {h : Hint} (hh : Structural c h) {d : Value} (hd : d.IsJson)
    (path : CodingPath) :
    (∀ e, decodeValue c h d path = .error (.coding e) →
      ∃ q h' d', e.path = path ++ q ∧ d.at? q = some d' ∧ ReadsTo (decodeValue c) h d q h' d' ∧
        decodeValue c h' d' [] = .error (.coding ⟨e.cause, []⟩)) ∧
    ∀ path', decodeValue c h d path' = (decodeValue c h d []).mapError (Failure.under path') := by
  obtain ⟨ambient, heq⟩ := decodeValue_eq c
  rw [heq]
  cases outcome_of_structural ambient hh hd with
  | read hr =>
    obtain ⟨v, hv⟩ := hr
    refine ⟨fun e he => ?_, fun path' => ?_⟩
    · rw [hv] at he
      cases he
    · rw [hv, hv]
      rfl
  | @fault cause q h' d' _ hto hown =>
    have herror : ∀ path, decodeWith c ambient h d path = .error (.at cause (path ++ q)) :=
      fun path => hto.error (hown (path ++ q))
    refine ⟨fun e he => ?_, fun path' => ?_⟩
    · rw [herror] at he
      cases he
      exact ⟨q, h', d', rfl, hto.at? hd, hto, hown []⟩
    · rw [herror, herror]
      rfl
  | stuck hs =>
    refine ⟨fun e he => ?_, fun path' => ?_⟩
    · rw [hs.error hh] at he
      exact absurd (Except.error.inj he) (hs.ne_coding e)
    · rw [hs.error hh, hs.error hh]
      exact congrArg Except.error (Failure.under_eq_self hs.ne_coding path').symm

/-- The text in a list of numbers, read from the path of a request. -/
theorem decodeValue_faults_counts :
    ∃ q h' d', ["body", "xs", "1"] = ["body"] ++ q ∧
      (Value.dict [(.str "xs", .list [.int 1, .str "a"])]).at? q = some d' ∧
      ReadsTo (decodeValue ⟨[], []⟩) (.dict "Dict" (.scalar .str) (.items .list (.scalar .int)))
        (.dict [(.str "xs", .list [.int 1, .str "a"])]) q h' d' ∧
      decodeValue ⟨[], []⟩ h' d' [] = .error (.at (.typeMismatch "int" "str") []) := by
  have hjson : (Value.dict (Value.ofTexts [("xs", .list [.int 1, .str "a"])])).IsJson := by
    refine .dict (by decide) (List.forall_mem_singleton.2 (.list ?_))
    rw [List.forall_mem_cons, List.forall_mem_singleton]
    exact ⟨.int 1, .str "a"⟩
  have hhint : Structural ⟨[], []⟩ (.dict "Dict" (.scalar .str) (.items .list (.scalar .int))) :=
    .dict _ _ (.items _ (.scalar rfl))
  exact (decodeValue_faults hhint hjson ["body"]).1
    ⟨.typeMismatch "int" "str", ["body", "xs", "1"]⟩ rfl

/-! ## Failures of another kind -/

/-- **When decoding fails otherwise.**  Decoding comes to a value or to an error of decoding
    exactly if it is not stuck; stuck, it fails with what is met there. -/
theorem decodes_or_refuses_iff {h : Hint} (hh : Structural c h) {d : Value} (hd : d.IsJson)
    (path : CodingPath) :
    (((∃ v, decodeValue c h d path = .ok v) ∨
        ∃ e : CodingError, e.isDecoding = true ∧ decodeValue c h d path = .error (.coding e)) ↔
      ∀ f, ¬ Stuck c (decodeValue c) h d f) ∧
    ∀ f, Stuck c (decodeValue c) h d f →
      decodeValue c h d path = .error f ∧ f.isDecoding = false := by
  obtain ⟨ambient, heq⟩ := decodeValue_eq c
  rw [heq]
  have hstuck : ∀ f, Stuck c (decodeWith c ambient) h d f →
      decodeWith c ambient h d path = .error f ∧ f.isDecoding = false :=
    fun f hs => ⟨hs.error hh path, hs.not_isDecoding⟩
  refine ⟨⟨?_, fun hnot => ?_⟩, hstuck⟩
  · rintro (⟨v, hv⟩ | ⟨e, hdecoding, he⟩) f hs
    · rw [(hstuck f hs).1] at hv
      cases hv
    · obtain ⟨herror, hf⟩ := hstuck f hs
      cases herror.symm.trans he
      exact Bool.false_ne_true (hf.symm.trans hdecoding)
  · cases outcome_of_structural ambient hh hd with
    | read hr =>
      obtain ⟨v, hv⟩ := hr
      exact .inl ⟨v, hv path⟩
    | @fault cause q _ _ hkind hto hown =>
      exact .inr ⟨⟨cause, path ++ q⟩, decide_eq_true hkind, hto.error (hown _)⟩
    | stuck hs => exact absurd hs (hnot _)

/-- An integer that no float comes near to. -/
def pastFloats : Int := 10 ^ 400

/-- It stops a hint that takes floats before integers. -/
theorem stuck_float_or_int (dec : Decoding) :
    Stuck ⟨[], []⟩ dec (.union "Union" [.scalar .float, .scalar .int]) (.int pastFloats)
      .tooLarge := by
  have hlarge : StuckAt ⟨[], []⟩ dec (.scalar .float) (.int pastFloats) .tooLarge :=
    .large (by decide +kernel)
  exact @Stuck.member _ _ _ _ _ _ _ _ _ [] [.scalar .int] (.here _ _) rfl (by decide) (by simp) rfl
    (.own (.here _ _) hlarge)

theorem structural_float_or_int :
    Structural ⟨[], []⟩ (.union "Union" [.scalar .float, .scalar .int]) := by
  refine .union _ ?_
  rw [List.forall_mem_cons, List.forall_mem_singleton]
  exact ⟨fun _ => .scalar rfl, fun _ => .scalar rfl⟩

/-- A list in which the second number is not read. -/
theorem decodes_or_refuses_iff_list :
    decodeValue ⟨[], []⟩ (.items .list (.union "Union" [.scalar .float, .scalar .int]))
      (.list [.int 1, .int pastFloats]) [] = .error .tooLarge := by
  have hjson : (Value.list [.int 1, .int pastFloats]).IsJson := by
    refine .list ?_
    rw [List.forall_mem_cons, List.forall_mem_singleton]
    exact ⟨.int 1, .int _⟩
  have hbefore : ∀ y ∈ [Value.int 1], Reads (decodeValue ⟨[], []⟩)
      (.union "Union" [.scalar .float, .scalar .int]) y :=
    List.forall_mem_singleton.2 ⟨_, fun _ => rfl⟩
  have hstuck : Stuck ⟨[], []⟩ (decodeValue ⟨[], []⟩)
      (.items .list (.union "Union" [.scalar .float, .scalar .int]))
      (.list [.int 1, .int pastFloats]) .tooLarge :=
    (stuck_float_or_int _).lift (.item hbefore (.here _ _))
  exact ((decodes_or_refuses_iff (.items .list structural_float_or_int) hjson []).2 _ hstuck).1

/-- Not every failure is an error of decoding: the integer is none of the floats, and is not
    read as the integer it is. -/
theorem exists_escaping :
    Structural ⟨[], []⟩ (.union "Union" [.scalar .float, .scalar .int]) ∧
    (Value.int pastFloats).IsJson ∧
    decodeValue ⟨[], []⟩ (.union "Union" [.scalar .float, .scalar .int]) (.int pastFloats) [] =
      .error .tooLarge ∧
    Failure.tooLarge.isDecoding = false ∧
    decodeValue ⟨[], []⟩ (.scalar .int) (.int pastFloats) [] = .ok (.int pastFloats) := by
  have herror : decodeValue ⟨[], []⟩ (.union "Union" [.scalar .float, .scalar .int])
      (.int pastFloats) [] = .error .tooLarge := by
    obtain ⟨ambient, heq⟩ := decodeValue_eq ⟨[], []⟩
    rw [heq]
    exact (stuck_float_or_int _).error structural_float_or_int []
  exact ⟨structural_float_or_int, .int _, herror, rfl, rfl⟩

end CodecForge.Coding
