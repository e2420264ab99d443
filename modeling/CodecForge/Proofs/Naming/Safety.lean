/-
  CodecForge — when a sanitized name is safe.

  A name is cleaned, converted to a case, and kept clear of the keywords.  Each of these is a
  pass over the characters, and a later one can undo what an earlier one has done: the
  underscore that is put before a first digit is an underscore at the end of a name again.

  * `leadDigit?` says of a text whether its first letter or digit is a digit; every pass but
    the change of case only inserts and drops other characters, and that one keeps digits, so
    all of them keep it;
  * `nameChar_convert`, `leadDigit?_convert`: what a conversion comes to consists of letters,
    digits and underscores, and begins with the first letter or digit there was;
  * `SafeFor` is what an answer has; `Sanitizer.answers_plain_iff`: an answer can stand as a
    name unless the first letter or digit of what was asked is a digit.
-/
import CodecForge.Proofs.Naming.Recall
import CodecForge.Target.Python
import CodecForge.Text.Identifier

namespace CodecForge.Naming

open Text (isNameChar)

/-! ## Characters -/

/-- What holds of the characters of ASCII by number holds of them. -/
theorem forall_ascii {P : Char → Prop} (h : ∀ n < 128, P (Char.ofNat n)) {c : Char}
    (hc : c.toNat < 128) : P c := by
  simpa using h c.toNat hc

theorem isNameChar_iff {c : Char} : isNameChar c ↔
    (65 ≤ c.toNat ∧ c.toNat ≤ 90) ∨ (97 ≤ c.toNat ∧ c.toNat ≤ 122) ∨
      (48 ≤ c.toNat ∧ c.toNat ≤ 57) ∨ c = '_' := by
  simp only [isNameChar, Char.isAlphanum, Char.isAlpha, Char.isUpper, Char.isLower, Char.isDigit,
    Bool.or_eq_true, Bool.and_eq_true, decide_eq_true_eq, UInt32.le_iff_toNat_le, ge_iff_le,
    beq_iff_eq, or_assoc]
  rfl

theorem lt_of_isNameChar {c : Char} (h : isNameChar c) : c.toNat < 128 := by
  rcases isNameChar_iff.1 h with h | h | h | rfl
  · omega
  · omega
  · omega
  · decide

theorem isAlphanum_of_isNameChar {c : Char} (h : isNameChar c) (hne : c ≠ '_') :
    c.isAlphanum := by
  simpa [isNameChar, hne] using h

/-- `d` may stand in a name, and is a letter or a digit as `c` is. -/
def SameClass (c d : Char) : Prop :=
  isNameChar d ∧ d.isAlphanum = c.isAlphanum ∧ d.isDigit = c.isDigit

theorem sameClass_case {c : Char} (h : isNameChar c) :
    SameClass c c.toLower ∧ SameClass c c.toUpper := by
  have hall : ∀ n < 128, isNameChar (Char.ofNat n) →
      SameClass (Char.ofNat n) (Char.ofNat n).toLower ∧
        SameClass (Char.ofNat n) (Char.ofNat n).toUpper := by
    unfold SameClass
    decide +kernel
  exact forall_ascii (P := fun c => isNameChar c → SameClass c c.toLower ∧ SameClass c c.toUpper)
    hall (lt_of_isNameChar h) h

theorem upperChar_of_isNameChar {c : Char} (h : isNameChar c) : Text.upperChar c = [c.toUpper] :=
  if_pos (lt_of_isNameChar h)

theorem titleChar_of_isNameChar {c : Char} (h : isNameChar c) : Text.titleChar c = [c.toUpper] :=
  if_pos (lt_of_isNameChar h)

/-- Within ASCII a character has its lower case wherever it stands. -/
theorem lowerFrom_eq_map {cs : List Char} (h : ∀ c ∈ cs, c.toNat < 128) :
    ∀ before, Text.lowerFrom before cs = cs.map Char.toLower := by
  induction cs with
  | nil => exact fun _ => rfl
  | cons c cs ih =>
    intro before
    have hc := h c List.mem_cons_self
    have hsigma : (c.toNat == 0x3A3) = false := by
      rw [beq_eq_false_iff_ne]
      omega
    rw [Text.lowerFrom, hsigma, ih fun d hd => h d (List.mem_cons_of_mem c hd), Text.lowerChar,
      if_pos hc]
    rfl

/-! ## The first letter or digit -/

/-- Whether the first letter or digit of a text is a digit, none if there is no such. -/
def leadDigit? (cs : List Char) : Option Bool := (cs.find? Char.isAlphanum).map Char.isDigit

/-- The first letter or digit of ASCII in a name is a digit. -/
def LeadsWithDigit (name : String) : Prop := leadDigit? name.toList = some true

variable {cs : List Char}

theorem leadDigit?_cons (c : Char) (cs : List Char) :
    leadDigit? (c :: cs) = if c.isAlphanum then some c.isDigit else leadDigit? cs := by
  rw [leadDigit?, List.find?_cons]
  cases c.isAlphanum <;> rfl

theorem leadDigit?_append (xs ys : List Char) :
    leadDigit? (xs ++ ys) = (leadDigit? xs).or (leadDigit? ys) := by
  rw [leadDigit?, List.find?_append]
  cases h : xs.find? Char.isAlphanum <;> simp [leadDigit?, h]

theorem leadDigit?_eq_none (h : ∀ c ∈ cs, c.isAlphanum = false) : leadDigit? cs = none := by
  rw [leadDigit?, List.find?_eq_none.2 fun c hc => by simp [h c hc]]
  rfl

/-- A text for a name that does not begin with an underscore begins with its first letter or
    digit. -/
theorem head?_eq_leadDigit? (h : ∀ c ∈ cs, isNameChar c) (hhead : cs.head? ≠ some '_') :
    cs.head?.map Char.isDigit = leadDigit? cs := by
  cases cs with
  | nil => rfl
  | cons c cs =>
    have hne : c ≠ '_' := fun hc => hhead (congrArg some hc)
    rw [leadDigit?_cons, if_pos (isAlphanum_of_isNameChar (h c List.mem_cons_self) hne)]
    rfl

/-! ### What a pass keeps -/

theorem leadDigit?_map {f : Char → Char} (h : ∀ c ∈ cs, SameClass c (f c)) :
    leadDigit? (cs.map f) = leadDigit? cs := by
  induction cs with
  | nil => rfl
  | cons c cs ih =>
    obtain ⟨-, halnum, hdigit⟩ := h c List.mem_cons_self
    rw [List.map_cons, leadDigit?_cons, leadDigit?_cons, halnum, hdigit,
      ih fun d hd => h d (List.mem_cons_of_mem c hd)]

theorem leadDigit?_dropWhile {p : Char → Bool} (hp : ∀ c, p c → c.isAlphanum = false)
    (cs : List Char) : leadDigit? (cs.dropWhile p) = leadDigit? cs := by
  conv_rhs => rw [← List.takeWhile_append_dropWhile (p := p) (l := cs)]
  rw [leadDigit?_append, leadDigit?_eq_none fun c hc => hp c (List.mem_takeWhile_imp hc)]
  rfl

theorem leadDigit?_strip {p : Char → Bool} (hp : ∀ c, p c → c.isAlphanum = false)
    (cs : List Char) : leadDigit? (Text.strip p cs) = leadDigit? cs := by
  rw [← leadDigit?_dropWhile hp cs, Text.strip, Text.dropEnd]
  generalize cs.dropWhile p = ds
  -- what is dropped at the end is a beginning of the reversed text
  have hsplit : ds = (ds.reverse.dropWhile p).reverse ++ (ds.reverse.takeWhile p).reverse := by
    rw [← List.reverse_append, List.takeWhile_append_dropWhile, List.reverse_reverse]
  have hdropped : ∀ c ∈ (ds.reverse.takeWhile p).reverse, c.isAlphanum = false :=
    fun c hc => hp c (List.mem_takeWhile_imp (List.mem_reverse.1 hc))
  conv_rhs => rw [hsplit]
  rw [leadDigit?_append, leadDigit?_eq_none hdropped, Option.or_none]

theorem leadDigit?_hyphens (cs : List Char) :
    leadDigit? (hyphensToUnderscores cs) = leadDigit? cs := by
  induction cs with
  | nil => rfl
  | cons c cs ih =>
    rw [hyphensToUnderscores, List.map_cons, leadDigit?_cons, leadDigit?_cons]
    by_cases hc : c = '-'
    · rw [if_pos hc, hc]
      exact ih
    · rw [if_neg hc]
      exact congrArg _ ih

theorem leadDigit?_cutWords (before : Option Char) (cs : List Char) :
    leadDigit? (cutWords before cs) = leadDigit? cs := by
  induction cs generalizing before with
  | nil => rfl
  | cons c cs ih =>
    rw [cutWords]
    split
    · rw [leadDigit?_cons, leadDigit?_cons, ih, leadDigit?_cons]
      rfl
    · rw [leadDigit?_cons, ih, leadDigit?_cons]

theorem leadDigit?_singleUnderscores (cs : List Char) :
    leadDigit? (singleUnderscores cs) = leadDigit? cs := by
  fun_induction singleUnderscores cs with
  | case1 => rfl
  | case2 c => rfl
  | case3 c d cs h ih =>
    rw [ih, h.1, leadDigit?_cons '_']
    rfl
  | case4 c d cs h ih => rw [leadDigit?_cons, ih, leadDigit?_cons c]

/-! ## Snake case -/

theorem nameChar_hyphens (h : ∀ c ∈ cs, isWordChar c) :
    ∀ c ∈ hyphensToUnderscores cs, isNameChar c := by
  intro c hc
  obtain ⟨d, hd, rfl⟩ := List.mem_map.1 hc
  split
  · rfl
  · next hne => simpa [isWordChar, isNameChar, hne] using h d hd

theorem eq_or_mem_of_mem_cutWords {c : Char} :
    ∀ {before : Option Char} {cs : List Char}, c ∈ cutWords before cs → c = '_' ∨ c ∈ cs
  | _, [], h => by cases h
  | before, d :: cs, h => by
    rw [cutWords] at h
    split at h
    · rcases List.mem_cons.1 h with h | h
      · exact .inl h
      · rcases List.mem_cons.1 h with rfl | h
        · exact .inr List.mem_cons_self
        · exact (eq_or_mem_of_mem_cutWords h).imp_right (List.mem_cons_of_mem d)
    · rcases List.mem_cons.1 h with rfl | h
      · exact .inr List.mem_cons_self
      · exact (eq_or_mem_of_mem_cutWords h).imp_right (List.mem_cons_of_mem d)

theorem singleUnderscores_subset (cs : List Char) : singleUnderscores cs ⊆ cs := by
  fun_induction singleUnderscores cs with
  | case1 | case2 => exact List.Subset.refl _
  | case3 c d cs h ih => exact List.subset_cons_of_subset c ih
  | case4 c d cs h ih => exact List.cons_subset_cons c ih

/-- The words of a text in lower case, with the underscores between them. -/
theorem nameChar_cutWords (h : ∀ c ∈ cs, isWordChar c) :
    ∀ c ∈ cutWords none (hyphensToUnderscores cs), isNameChar c := by
  intro c hc
  rcases eq_or_mem_of_mem_cutWords hc with rfl | hc
  · rfl
  · exact nameChar_hyphens h c hc

theorem ascii_cutWords (h : ∀ c ∈ cs, c.toNat < 128) :
    ∀ c ∈ cutWords none (hyphensToUnderscores cs), c.toNat < 128 := by
  intro c hc
  rcases eq_or_mem_of_mem_cutWords hc with rfl | hc
  · decide
  · obtain ⟨d, hd, rfl⟩ := List.mem_map.1 hc
    split
    · decide
    · exact h d hd

theorem lower_cutWords (h : ∀ c ∈ cs, c.toNat < 128) :
    Text.lower (cutWords none (hyphensToUnderscores cs)) =
      (cutWords none (hyphensToUnderscores cs)).map Char.toLower :=
  lowerFrom_eq_map (ascii_cutWords h) []

theorem lt_of_isWordChar {c : Char} (h : isWordChar c) : c.toNat < 128 := by
  rcases Bool.or_eq_true_iff.1 h with h | h
  · exact lt_of_isNameChar h
  · rw [beq_iff_eq.1 h]
    decide

theorem nameChar_snakeChars (h : ∀ c ∈ cs, isWordChar c) : ∀ c ∈ snakeChars cs, isNameChar c := by
  intro c hc
  have hc := singleUnderscores_subset _ ((Text.isInfix_strip _ _).subset hc)
  rw [lower_cutWords fun c hc => lt_of_isWordChar (h c hc)] at hc
  obtain ⟨d, hd, rfl⟩ := List.mem_map.1 hc
  exact (sameClass_case (nameChar_cutWords h d hd)).1.1

theorem leadDigit?_snakeChars (h : ∀ c ∈ cs, isWordChar c) :
    leadDigit? (snakeChars cs) = leadDigit? cs := by
  have hunderscore : ∀ c : Char, (c == '_') = true → c.isAlphanum = false := by
    intro c hc
    rw [beq_iff_eq.1 hc]
    rfl
  rw [snakeChars, leadDigit?_strip hunderscore, leadDigit?_singleUnderscores,
    lower_cutWords fun c hc => lt_of_isWordChar (h c hc),
    leadDigit?_map fun c hc => (sameClass_case (nameChar_cutWords h c hc)).1,
    leadDigit?_cutWords, leadDigit?_hyphens]

theorem not_of_head?_strip {p : Char → Bool} {c : Char} (h : (Text.strip p cs).head? = some c) :
    p c = false := by
  obtain ⟨rest, hrest⟩ := List.head?_eq_some_iff.1 h
  have hne : Text.strip p cs ≠ [] := by simp [hrest]
  simpa [hrest] using Text.head_strip hne

theorem head?_snakeChars (cs : List Char) : (snakeChars cs).head? ≠ some '_' := by
  intro h
  simpa using not_of_head?_strip h

/-! ## All cases -/

/-- What is cut at a character stands in the text. -/
theorem mem_of_mem_splitOn {u c : Char} :
    ∀ {cs w : List Char}, w ∈ Text.splitOn u cs → c ∈ w → c ∈ cs
  | [], w, hw, hc => by
    rw [Text.splitOn, List.mem_singleton] at hw
    rwa [hw] at hc
  | x :: xs, w, hw, hc => by
    rw [Text.splitOn] at hw
    split at hw
    · rcases List.mem_cons.1 hw with rfl | hw
      · cases hc
      · exact List.mem_cons_of_mem x (mem_of_mem_splitOn hw hc)
    · split at hw
      · next hs => exact absurd hs (Text.splitOn_ne_nil u xs)
      · next p ps hs =>
        rcases List.mem_cons.1 hw with rfl | hw
        · rcases List.mem_cons.1 hc with rfl | hc
          · exact List.mem_cons_self
          · exact List.mem_cons_of_mem x (mem_of_mem_splitOn (hs ▸ List.mem_cons_self) hc)
        · exact List.mem_cons_of_mem x (mem_of_mem_splitOn (hs ▸ List.mem_cons_of_mem p hw) hc)

theorem splitOn_cons_of_ne {u x : Char} (hx : x ≠ u) (xs : List Char) :
    ∃ p ps, Text.splitOn u (x :: xs) = (x :: p) :: ps := by
  rw [Text.splitOn, if_neg hx]
  cases hs : Text.splitOn u xs with
  | nil => exact absurd hs (Text.splitOn_ne_nil u xs)
  | cons p ps => exact ⟨p, ps, rfl⟩

theorem capitalize_cons {c : Char} (h : ∀ d ∈ c :: cs, isNameChar d) :
    Text.capitalize (c :: cs) = c.toUpper :: cs.map Char.toLower := by
  rw [Text.capitalize, titleChar_of_isNameChar (h c List.mem_cons_self),
    lowerFrom_eq_map fun d hd => lt_of_isNameChar (h d (List.mem_cons_of_mem c hd))]
  rfl

theorem nameChar_capitalize (h : ∀ c ∈ cs, isNameChar c) :
    ∀ c ∈ Text.capitalize cs, isNameChar c := by
  cases cs with
  | nil => simp [Text.capitalize]
  | cons c cs =>
    rw [capitalize_cons h]
    intro d hd
    rcases List.mem_cons.1 hd with rfl | hd
    · exact (sameClass_case (h c List.mem_cons_self)).2.1
    · obtain ⟨x, hx, rfl⟩ := List.mem_map.1 hd
      exact (sameClass_case (h x (List.mem_cons_of_mem c hx))).1.1

section
variable {name : String} (h : ∀ c ∈ name.toList, isWordChar c)
include h

theorem nameChar_snakeWords : ∀ w ∈ snakeWords name, ∀ c ∈ w, isNameChar c :=
  fun _ hw c hc => nameChar_snakeChars h c (mem_of_mem_splitOn hw hc)

/-- **A conversion comes to letters, digits and underscores.** -/
theorem nameChar_convert (case : NameCase) :
    ∀ c ∈ (case.convert name).toList, isNameChar c := by
  have hwords := nameChar_snakeWords h
  intro c hc
  cases case with
  | snake =>
    rw [NameCase.convert, toSnake, String.toList_ofList] at hc
    exact nameChar_snakeChars h c hc
  | camel =>
    rw [NameCase.convert, toCamel, String.toList_ofList, List.mem_append, List.mem_flatMap] at hc
    rcases hc with hc | ⟨w, hw, hc⟩
    · cases hs : snakeWords name with
      | nil => simp [hs] at hc
      | cons w ws =>
        rw [hs] at hwords hc
        exact hwords w List.mem_cons_self c hc
    · exact nameChar_capitalize (hwords w (List.mem_of_mem_tail hw)) c hc
  | pascal =>
    rw [NameCase.convert, toPascal, String.toList_ofList, List.mem_flatMap] at hc
    obtain ⟨w, hw, hc⟩ := hc
    exact nameChar_capitalize (hwords w hw) c hc
  | screamingSnake =>
    rw [NameCase.convert, String.toList_ofList, List.mem_flatMap] at hc
    obtain ⟨d, hd, hc⟩ := hc
    have hd := nameChar_snakeChars h d hd
    rw [upperChar_of_isNameChar hd, List.mem_singleton] at hc
    exact hc ▸ (sameClass_case hd).2.1

/-- **A conversion begins with the first letter or digit.** -/
theorem leadDigit?_convert (case : NameCase) :
    (case.convert name).toList.head?.map Char.isDigit = leadDigit? name.toList := by
  have hchars := nameChar_snakeChars h
  have hwords := nameChar_snakeWords h
  rw [← leadDigit?_snakeChars h, ← head?_eq_leadDigit? hchars (head?_snakeChars _)]
  have hhead := head?_snakeChars name.toList
  cases hs : snakeChars name.toList with
  | nil =>
    cases case <;> simp [NameCase.convert, toSnake, toCamel, toPascal, snakeWords, hs, Text.splitOn,
      Text.capitalize]
  | cons c cs =>
    rw [hs] at hhead hchars
    have hc := (sameClass_case (hchars c List.mem_cons_self)).2
    obtain ⟨p, ps, hsplit⟩ := splitOn_cons_of_ne (fun hu => hhead (congrArg some hu)) cs
    have hws : snakeWords name = (c :: p) :: ps := by rw [snakeWords, hs, hsplit]
    cases case with
    | snake => simp [NameCase.convert, toSnake, hs]
    | camel => simp [NameCase.convert, toCamel, hws]
    | pascal =>
      have hw := hwords (c :: p) (hws ▸ List.mem_cons_self)
      simp [NameCase.convert, toPascal, hws, capitalize_cons hw, hc.2.2]
    | screamingSnake =>
      simp [NameCase.convert, hs, upperChar_of_isNameChar (hchars c List.mem_cons_self), hc.2.2]

end

/-! ## Cleaned names -/

/-- What is left of a name, before anything is put in front of it or in its place. -/
def kept (name : String) : List Char :=
  Text.strip (fun c => c == '_' || c == '-')
    (name.toList.map fun c => if isWordChar c then c else '_')

theorem wordChar_kept (name : String) : ∀ c ∈ kept name, isWordChar c := by
  intro c hc
  obtain ⟨d, -, rfl⟩ := List.mem_map.1 ((Text.isInfix_strip _ _).subset hc)
  split
  · assumption
  · rfl

theorem leadDigit?_kept (name : String) : leadDigit? (kept name) = leadDigit? name.toList := by
  have hends : ∀ c : Char, (c == '_' || c == '-') = true → c.isAlphanum = false := by
    intro c hc
    rcases Bool.or_eq_true_iff.1 hc with hc | hc <;> rw [beq_iff_eq.1 hc] <;> rfl
  rw [kept, leadDigit?_strip hends]
  induction name.toList with
  | nil => rfl
  | cons c cs ih =>
    rw [List.map_cons, leadDigit?_cons, leadDigit?_cons, ih]
    split
    · rfl
    · next hword =>
      have hc : c.isAlphanum = false := by
        simp only [isWordChar, Bool.or_eq_true, not_or] at hword
        exact Bool.eq_false_iff.2 hword.1.1
      rw [hc]
      rfl

/-- What is left begins with a letter or a digit. -/
theorem alphanum_of_kept {name : String} {c : Char} {cs : List Char} (h : kept name = c :: cs) :
    c.isAlphanum := by
  have hword := wordChar_kept name c (h ▸ List.mem_cons_self)
  have hends := not_of_head?_strip (show (kept name).head? = some c by rw [h]; rfl)
  rw [isWordChar, Bool.or_assoc, hends, Bool.or_false] at hword
  exact hword

theorem toList_cleaned (name : String) : (cleaned name).toList =
    match kept name with
    | [] => ['v', 'a', 'l', 'u', 'e']
    | c :: cs => if c.isDigit then '_' :: c :: cs else c :: cs := by
  unfold cleaned
  rw [← kept]
  cases kept name with
  | nil => rfl
  | cons c cs => exact String.toList_ofList

theorem wordChar_cleaned (name : String) : ∀ c ∈ (cleaned name).toList, isWordChar c := by
  have hkept := wordChar_kept name
  rw [toList_cleaned]
  split
  · intro c hc
    fin_cases hc <;> rfl
  · next c cs h =>
    rw [h] at hkept
    split
    · exact List.forall_mem_cons.2 ⟨rfl, hkept⟩
    · exact hkept

/-- A cleaned name has the first letter or digit of the name, and a letter if it had none. -/
theorem leadDigit?_cleaned (name : String) :
    leadDigit? (cleaned name).toList = some ((leadDigit? name.toList).getD false) := by
  rw [toList_cleaned, ← leadDigit?_kept name]
  split
  · next h =>
    rw [h]
    rfl
  · next c cs h =>
    have hlead : leadDigit? (c :: cs) = some c.isDigit := by
      rw [leadDigit?_cons, if_pos (alphanum_of_kept h)]
    rw [h, hlead]
    split
    · rw [leadDigit?_cons, hlead]
      rfl
    · exact hlead

/-! ## Answers -/

/-- What the answer to a name has. -/
structure SafeFor (name answer : String) : Prop where
  nameChar : ∀ c ∈ answer.toList, isNameChar c
  head : answer.toList.head?.map Char.isDigit = some ((leadDigit? name.toList).getD false)
  free : answer ∉ Python.keywords

theorem isPlainName_iff {cs : List Char} (h : ∀ c ∈ cs, isNameChar c) :
    Text.isPlainName cs ↔ cs.head?.map Char.isDigit = some false := by
  cases cs with
  | nil => simp [Text.isPlainName]
  | cons c cs =>
    have hc := h c List.mem_cons_self
    have hcs : cs.all isNameChar := List.all_eq_true.2 fun d hd => h d (List.mem_cons_of_mem c hd)
    rw [Text.isPlainName, hcs, Bool.and_true, List.head?_cons, Option.map_some, Option.some_inj]
    have hstart : Text.isNameStart c = !c.isDigit := by
      have hall : ∀ n < 128, isNameChar (Char.ofNat n) →
          Text.isNameStart (Char.ofNat n) = !(Char.ofNat n).isDigit := by
        decide +kernel
      exact forall_ascii (P := fun c => isNameChar c → Text.isNameStart c = !c.isDigit) hall
        (lt_of_isNameChar hc) hc
    rw [hstart, Bool.not_eq_true']

theorem underscore_notMem_keyword {w : String} (h : w ∈ Python.keywords) : '_' ∉ w.toList := by
  revert w
  decide +kernel

/-- Nothing with an underscore after it is a keyword. -/
theorem append_underscore_notMem_keywords (w : String) : w ++ "_" ∉ Python.keywords :=
  fun h => underscore_notMem_keyword h (by simp)

/-- With a suffix the first character stays. -/
theorem head?_append_of_some {xs : List Char} {b : Bool} (h : xs.head?.map Char.isDigit = some b)
    (ys : List Char) : (xs ++ ys).head?.map Char.isDigit = some b := by
  cases xs with
  | nil => cases h
  | cons x xs => exact h

theorem sanitized_words (name : String) (case : NameCase) :
    sanitized Python.words name case "_" =
      if case.convert (cleaned name) ∈ Python.keywords then case.convert (cleaned name) ++ "_"
      else case.convert (cleaned name) := by
  simp [sanitized, Python.words]

/-- **What the safe form of a name has.** -/
theorem safeFor_sanitized (name : String) (case : NameCase) :
    SafeFor name (sanitized Python.words name case "_") := by
  have hchars := nameChar_convert (wordChar_cleaned name) case
  have hhead := (leadDigit?_convert (wordChar_cleaned name) case).trans (leadDigit?_cleaned name)
  rw [sanitized_words]
  split
  · refine ⟨?_, ?_, append_underscore_notMem_keywords _⟩
    · rw [String.toList_append]
      exact List.forall_mem_append.2 ⟨hchars, List.forall_mem_singleton.2 rfl⟩
    · rw [String.toList_append]
      exact head?_append_of_some hhead _
  · next hfree => exact ⟨hchars, hhead, hfree⟩

namespace SafeFor

variable {name name' answer : String}

theorem ne_empty (h : SafeFor name answer) : answer ≠ "" := by
  rintro rfl
  cases h.head

theorem plain_iff (h : SafeFor name answer) :
    Text.isPlainName answer.toList ↔ ¬ LeadsWithDigit name := by
  rw [isPlainName_iff h.nameChar, h.head, LeadsWithDigit]
  cases leadDigit? name.toList with
  | none => simp
  | some b => cases b <;> simp

/-- A name that goes on with `_screaming` has the answers of the shorter one. -/
theorem screaming_iff : SafeFor (name ++ "_screaming") answer ↔ SafeFor name answer := by
  have hlead : (leadDigit? (name ++ "_screaming").toList).getD false =
      (leadDigit? name.toList).getD false := by
    rw [String.toList_append, leadDigit?_append]
    cases leadDigit? name.toList <;> rfl
  constructor
  · exact fun h => ⟨h.nameChar, hlead ▸ h.head, h.free⟩
  · exact fun h => ⟨h.nameChar, hlead.symm ▸ h.head, h.free⟩

/-- Queries of one key and one suffix have the same answers. -/
theorem of_key_eq {p q : Query} (hsuffix : p.suffix = q.suffix) (hkey : p.key = q.key)
    (h : SafeFor p.name answer) : SafeFor q.name answer := by
  rcases Query.key_eq_iff.1 hkey with rfl | hover | hover
  · exact h
  · rw [((Query.overlaps_iff_of_suffix hsuffix).1 hover).2.2]
    exact screaming_iff.2 h
  · rw [((Query.overlaps_iff_of_suffix hsuffix.symm).1 hover).2.2] at h
    exact screaming_iff.1 h

end SafeFor

/-! ## Runs -/

namespace Sanitizer

/-- A sanitizer that has only been asked with the suffix of one underscore answers safely. -/
theorem Recalls.safeFor {asked : List Query} {s : Sanitizer} (h : Recalls Python.words asked s)
    (hasked : ∀ p ∈ asked, p.suffix = "_") (q : Query) (hq : q.suffix = "_") :
    SafeFor q.name (s.answer q) := by
  have hnew : ∀ p : Query, p.suffix = "_" →
      SafeFor p.name ((new Python.words).answer p) := by
    rintro ⟨name, case, suffix⟩ rfl
    exact safeFor_sanitized name case
  rcases h.answer_cases q with ⟨p, hp, hkey, hanswer⟩ | ⟨-, hanswer⟩
  · rw [hanswer]
    exact (hnew p (hasked p hp)).of_key_eq ((hasked p hp).trans hq.symm) hkey
  · rw [hanswer]
    exact hnew q hq

theorem Recalls.safeFor_answers {asked : List Query} {s : Sanitizer}
    (h : Recalls Python.words asked s) (hasked : ∀ p ∈ asked, p.suffix = "_") :
    ∀ qs : List (String × NameCase), List.Forall₂ (fun q answer => SafeFor q.1 answer) qs
      (s.answers (qs.map fun q => ⟨q.1, q.2, "_"⟩))
  | [] => .nil
  | q :: qs => by
    refine .cons (h.safeFor hasked ⟨q.1, q.2, "_"⟩ rfl) ?_
    refine Recalls.safeFor_answers (h.step _) ?_ qs
    exact List.forall_mem_append.2 ⟨hasked, List.forall_mem_singleton.2 rfl⟩

/-- **When the answers of a sanitizer are safe.**  Whatever it is asked, one query after
    another, it answers with letters, digits and underscores of ASCII, at least one of them,
    and never with a keyword.  The answer can stand as a name exactly if the first letter or
    digit of ASCII in the name that was asked is no digit. -/
theorem answers_plain_iff (qs : List (String × NameCase)) :
    List.Forall₂ (fun q answer => (∀ c ∈ answer.toList, isNameChar c) ∧ answer ≠ "" ∧
        answer ∉ Python.keywords ∧
        (Text.isPlainName answer.toList ↔ ¬ LeadsWithDigit q.1))
      qs ((new Python.words).answers (qs.map fun q => ⟨q.1, q.2, "_"⟩)) :=
  ((recalls_new Python.words).safeFor_answers (by simp) qs).imp fun _ _ h =>
    ⟨h.nameChar, h.ne_empty, h.free, h.plain_iff⟩

/-- The underscore that is put before a first digit does not outlast the conversion. -/
theorem exists_unsafe_answer : ¬ ∀ (name : String) (case : NameCase),
    Text.isPlainName ((new Python.words).answer ⟨name, case, "_"⟩).toList ∧
      (new Python.words).answer ⟨name, case, "_"⟩ ∉ Python.keywords := by
  intro h
  have hplain := (h "2fa" .snake).1
  revert hplain
  decide +kernel

end Sanitizer

end CodecForge.Naming
