/-
  CodecForge — snake case is a normal form.

  * `IsSnake` is a text in snake case; within ASCII the conversion comes to such a text
    (`isSnake_snakeChars`) and leaves it as it is (`snakeChars_eq_self`), since each pass does;
  * `filter_snakeChars`: without underscores a converted text is the text in lower case, without
    underscores and hyphens;
  * `toSnake_normal` puts these together for names.
-/
import CodecForge.Proofs.Naming.Safety
import CodecForge.Proofs.Related

namespace CodecForge.Naming

variable {cs : List Char}

/-- A text in snake case. -/
structure IsSnake (cs : List Char) : Prop where
  noUpper : ∀ c ∈ cs, c.isUpper = false
  noHyphen : '-' ∉ cs
  /-- no two underscores stand side by side -/
  single : ¬ ['_', '_'] <:+: cs
  head : cs.head? ≠ some '_'
  last : cs.getLast? ≠ some '_'

/-! ## Lower case of a character -/

theorem isUpper_toLower {c : Char} (h : c.toNat < 128) : c.toLower.isUpper = false :=
  forall_ascii (P := fun c => c.toLower.isUpper = false) (by decide +kernel) h

theorem toLower_lt {c : Char} (h : c.toNat < 128) : c.toLower.toNat < 128 :=
  forall_ascii (P := fun c => c.toLower.toNat < 128) (by decide +kernel) h

theorem toLower_eq_iff {c d : Char} (h : c.toNat < 128) (hd : d = '_' ∨ d = '-') :
    c.toLower = d ↔ c = d := by
  rcases hd with rfl | rfl
  · exact forall_ascii (P := fun c => c.toLower = '_' ↔ c = '_') (by decide +kernel) h
  · exact forall_ascii (P := fun c => c.toLower = '-' ↔ c = '-') (by decide +kernel) h

theorem toLower_of_not_isUpper {c : Char} (h : c.toNat < 128) (hc : c.isUpper = false) :
    c.toLower = c :=
  forall_ascii (P := fun c => c.isUpper = false → c.toLower = c) (by decide +kernel) h hc

/-! ## What a pass leaves out -/

theorem filter_singleUnderscores (cs : List Char) :
    (singleUnderscores cs).filter (!· == '_') = cs.filter (!· == '_') := by
  fun_induction singleUnderscores cs with
  | case1 | case2 => rfl
  | case3 c d cs h ih =>
    rw [ih, h.1]
    rfl
  | case4 c d cs h ih => rw [List.filter_cons, List.filter_cons, ih]

theorem filter_cutWords (before : Option Char) (cs : List Char) :
    (cutWords before cs).filter (!· == '_') = cs.filter (!· == '_') := by
  induction cs generalizing before with
  | nil => rfl
  | cons c cs ih =>
    rw [cutWords]
    split
    · rw [List.filter_cons_of_neg (by decide), List.filter_cons, List.filter_cons, ih]
    · rw [List.filter_cons, List.filter_cons, ih]

theorem filter_hyphens (cs : List Char) :
    (hyphensToUnderscores cs).filter (!· == '_') = cs.filter fun c => c ≠ '-' ∧ c ≠ '_' := by
  induction cs with
  | nil => rfl
  | cons c cs ih =>
    rw [hyphensToUnderscores, List.map_cons]
    by_cases hc : c = '-'
    · rw [if_pos hc, hc]
      exact ih
    · rw [if_neg hc, List.filter_cons, List.filter_cons, ← ih]
      simp [hc, hyphensToUnderscores]

theorem filter_map_toLower (h : ∀ c ∈ cs, c.toNat < 128) :
    (cs.map Char.toLower).filter (!· == '_') = (cs.filter (!· == '_')).map Char.toLower := by
  rw [List.filter_map]
  congr 1
  refine List.filter_congr fun c hc => ?_
  have hbeq : (c.toLower == '_') = (c == '_') := by
    rw [Bool.eq_iff_iff, beq_iff_eq, beq_iff_eq]
    exact toLower_eq_iff (h c hc) (.inl rfl)
  rw [Function.comp_apply, hbeq]

theorem filter_strip (p : Char → Bool) (cs : List Char) :
    (Text.strip p cs).filter (!p ·) = cs.filter (!p ·) :=
  (filter_rdropWhile p _).trans (filter_dropWhile p cs)

/-- **No character but an underscore or a hyphen is lost, added or moved.** -/
theorem filter_snakeChars (h : ∀ c ∈ cs, c.toNat < 128) :
    (snakeChars cs).filter (!· == '_') =
      (cs.filter fun c => c ≠ '-' ∧ c ≠ '_').map Char.toLower := by
  rw [snakeChars, filter_strip (· == '_'), filter_singleUnderscores, lower_cutWords h,
    filter_map_toLower (ascii_cutWords h), filter_cutWords, filter_hyphens]

/-! ## The form -/

theorem head?_singleUnderscores (cs : List Char) : (singleUnderscores cs).head? = cs.head? := by
  fun_induction singleUnderscores cs with
  | case1 | case2 => rfl
  | case3 c d cs h ih => rw [ih, h.1, h.2]; rfl
  | case4 c d cs h ih => rfl

theorem not_double_singleUnderscores (cs : List Char) :
    ¬ ['_', '_'] <:+: singleUnderscores cs := by
  fun_induction singleUnderscores cs with
  | case1 => simp
  | case2 c => exact fun h => absurd h.length_le (by simp)
  | case3 c d cs h ih => exact ih
  | case4 c d cs h ih =>
    rw [List.infix_cons_iff, not_or]
    refine ⟨fun hprefix => ?_, ih⟩
    obtain ⟨hc, rest, hrest⟩ := List.cons_prefix_cons.1 hprefix
    have hd := head?_singleUnderscores (d :: cs)
    rw [← hrest] at hd
    exact h ⟨hc.symm, (Option.some.inj hd).symm⟩

/-- Where no two underscores stand side by side none is dropped. -/
theorem singleUnderscores_eq_self (h : ¬ ['_', '_'] <:+: cs) : singleUnderscores cs = cs := by
  fun_induction singleUnderscores cs with
  | case1 | case2 => rfl
  | case3 c d cs hcd ih =>
    rw [hcd.1, hcd.2] at h
    exact absurd (List.prefix_append ['_', '_'] cs).isInfix h
  | case4 c d cs hcd ih => rw [ih fun hinfix => h (List.infix_cons hinfix)]

/-- The characters of a converted text. -/
theorem exists_of_mem_snakeChars (h : ∀ c ∈ cs, c.toNat < 128) {c : Char}
    (hc : c ∈ snakeChars cs) : ∃ d : Char, d.toNat < 128 ∧ d ≠ '-' ∧ d.toLower = c := by
  have hc := singleUnderscores_subset _ ((Text.isInfix_strip _ _).subset hc)
  rw [lower_cutWords h] at hc
  obtain ⟨d, hd, rfl⟩ := List.mem_map.1 hc
  refine ⟨d, ascii_cutWords h d hd, ?_, rfl⟩
  rcases eq_or_mem_of_mem_cutWords hd with rfl | hd
  · decide
  · obtain ⟨e, -, rfl⟩ := List.mem_map.1 hd
    split
    · decide
    · assumption

theorem not_of_getLast?_strip {p : Char → Bool} {c : Char}
    (h : (Text.strip p cs).getLast? = some c) : p c = false := by
  obtain ⟨hne, rfl⟩ := List.mem_getLast?_eq_getLast h
  exact Text.getLast_strip hne

/-- **A converted text is in snake case.** -/
theorem isSnake_snakeChars (h : ∀ c ∈ cs, c.toNat < 128) : IsSnake (snakeChars cs) where
  noUpper c hc := by
    obtain ⟨d, hd, -, rfl⟩ := exists_of_mem_snakeChars h hc
    exact isUpper_toLower hd
  noHyphen hc := by
    obtain ⟨d, hd, hne, hlower⟩ := exists_of_mem_snakeChars h hc
    exact hne ((toLower_eq_iff hd (.inr rfl)).1 hlower)
  single hdouble := not_double_singleUnderscores _ (hdouble.trans (Text.isInfix_strip _ _))
  head := head?_snakeChars cs
  last hlast := by simpa using not_of_getLast?_strip hlast

/-! ## Texts in snake case -/

theorem hyphensToUnderscores_eq_self (h : '-' ∉ cs) : hyphensToUnderscores cs = cs := by
  have hself : ∀ c ∈ cs, (if c = '-' then '_' else c) = id c :=
    fun c hc => if_neg (ne_of_mem_of_not_mem hc h)
  exact (List.map_congr_left hself).trans (List.map_id cs)

theorem cutWords_eq_self (h : ∀ c ∈ cs, c.isUpper = false) (before : Option Char) :
    cutWords before cs = cs := by
  induction cs generalizing before with
  | nil => rfl
  | cons c cs ih =>
    rw [List.forall_mem_cons] at h
    have hopens : opensWord before c cs.head? = false := by simp [opensWord, h.1]
    rw [cutWords, hopens, if_neg Bool.false_ne_true, ih h.2]

theorem strip_eq_self {p : Char → Bool} (hhead : ∀ c ∈ cs.head?, p c = false)
    (hlast : ∀ c ∈ cs.getLast?, p c = false) : Text.strip p cs = cs := by
  have hdrop : cs.dropWhile p = cs := by
    cases cs with
    | nil => rfl
    | cons c cs => exact List.dropWhile_cons_of_neg (by simp [hhead c rfl])
  rw [Text.strip, hdrop]
  refine List.rdropWhile_eq_self_iff.2 fun hne hp => ?_
  rw [hlast _ (List.getLast?_eq_some_getLast hne)] at hp
  cases hp

/-- **A text in snake case is left as it is.** -/
theorem snakeChars_eq_self (h : ∀ c ∈ cs, c.toNat < 128) (hs : IsSnake cs) :
    snakeChars cs = cs := by
  have hcut : cutWords none (hyphensToUnderscores cs) = cs := by
    rw [hyphensToUnderscores_eq_self hs.noHyphen, cutWords_eq_self hs.noUpper]
  have hlower : cs.map Char.toLower = cs :=
    (List.map_congr_left fun c hc =>
      toLower_of_not_isUpper (h c hc) (hs.noUpper c hc)).trans (List.map_id cs)
  rw [snakeChars, lower_cutWords h, hcut, hlower, singleUnderscores_eq_self hs.single]
  refine strip_eq_self (fun c hc => ?_) fun c hc => ?_
  · exact beq_eq_false_iff_ne.2 fun heq => hs.head (heq ▸ hc)
  · exact beq_eq_false_iff_ne.2 fun heq => hs.last (heq ▸ hc)

/-- **Snake case is a normal form.**  The conversion of a name of ASCII characters is in snake
    case; without underscores it is the name in lower case without underscores and hyphens.  It
    is not changed by a second conversion, and has the camel and the pascal case of the name. -/
theorem toSnake_normal {name : String} (h : ∀ c ∈ name.toList, c.toNat < 128) :
    IsSnake (toSnake name).toList ∧
    (toSnake name).toList.filter (· ≠ '_') =
      (name.toList.filter fun c => c ≠ '-' ∧ c ≠ '_').map Char.toLower ∧
    toSnake (toSnake name) = toSnake name ∧
    toCamel (toSnake name) = toCamel name ∧
    toPascal (toSnake name) = toPascal name := by
  have hsnake := isSnake_snakeChars h
  have htwice : snakeChars (toSnake name).toList = snakeChars name.toList := by
    rw [toSnake, String.toList_ofList]
    refine snakeChars_eq_self (fun c hc => ?_) hsnake
    obtain ⟨d, hd, -, rfl⟩ := exists_of_mem_snakeChars h hc
    exact toLower_lt hd
  have hwords : snakeWords (toSnake name) = snakeWords name := by
    rw [snakeWords, htwice, snakeWords]
  refine ⟨?_, ?_, ?_, ?_, ?_⟩
  · rwa [toSnake, String.toList_ofList]
  · rw [toSnake, String.toList_ofList, ← filter_snakeChars h]
    exact List.filter_congr fun c _ => by rw [Bool.eq_iff_iff]; simp
  · rw [toSnake, htwice, toSnake]
  · rw [toCamel, hwords, toCamel]
  · rw [toPascal, hwords, toPascal]

/-- Initials and a hyphen. -/
theorem toSnake_normal_server :
    (∀ c ∈ "HTTPServer-v2".toList, c.toNat < 128) ∧
    toSnake "HTTPServer-v2" = "http_server_v2" ∧
    toSnake "http_server_v2" = "http_server_v2" ∧
    toPascal "http_server_v2" = toPascal "HTTPServer-v2" := by
  have hascii : ∀ c ∈ "HTTPServer-v2".toList, c.toNat < 128 := by simp
  have hsnake : toSnake "HTTPServer-v2" = "http_server_v2" := by rfl
  obtain ⟨-, -, htwice, -, hpascal⟩ := toSnake_normal hascii
  rw [hsnake] at htwice hpascal
  exact ⟨hascii, hsnake, htwice, hpascal⟩

end CodecForge.Naming
