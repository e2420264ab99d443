/-
  CodecForge — the characters of variables.

  A candidate for the variable of a group is made of the local name of the group, a word and
  perhaps a number.  In camel case it keeps the characters of the local name
  (`forall_camelCandidate`); if the local name is a word, it is a word in every case
  (`isWord_candidate`), and so are the variables of containers (`isWord_of_mem_containers`).
-/
import CodecForge.Proofs.Naming.Safety
import CodecForge.Proofs.Plan.Search

namespace CodecForge

open Text (isNameChar)

/-! ## Words -/

/-- A text of letters, digits and underscores, with at least one of them. -/
structure Text.IsWord (s : String) : Prop where
  ne_empty : s ≠ ""
  nameChars : ∀ c ∈ s.toList, isNameChar c

theorem Text.isWord_of_isPlainName {s : String} (h : isPlainName s.toList) : IsWord s where
  ne_empty hempty := by
    subst hempty
    cases h
  nameChars := isNameChar_of_isPlainName h

/-! ## Candidates -/

/-- The numbers of candidates are written in digits. -/
theorem nameChar_number (n : Nat) : ∀ c ∈ (toString ((n : Int) + 1)).toList, isNameChar c := by
  intro c hc
  have hdigits : toString ((n : Int) + 1) = (n + 1).repr := rfl
  rw [hdigits, Nat.toList_repr] at hc
  have hdigit := Nat.isDigit_of_mem_toDigits (by omega) (by omega) hc
  simp [isNameChar, Char.isAlphanum, hdigit]

/-- What holds of all characters of two texts holds of those of one after the other. -/
theorem forall_append {P : Char → Prop} {a b : String} :
    (∀ c ∈ (a ++ b).toList, P c) ↔ (∀ c ∈ a.toList, P c) ∧ ∀ c ∈ b.toList, P c := by
  rw [String.toList_append, List.forall_mem_append]

/-- The characters of a candidate: those of its base, of a separator and of a number. -/
theorem forall_numbered {P : Char → Prop} (hP : ∀ c, isNameChar c → P c) {base : String}
    (separator : String) (hbase : ∀ c ∈ base.toList, P c)
    (hseparator : ∀ c ∈ separator.toList, P c) (n : Nat) :
    ∀ c ∈ (if (n : Int) + 1 = 1 then base
      else base ++ separator ++ toString ((n : Int) + 1)).toList, P c := by
  split
  · exact hbase
  · exact forall_append.2 ⟨forall_append.2 ⟨hbase, hseparator⟩,
      fun c hc => hP c (nameChar_number n c hc)⟩

/-- In camel case the characters of a candidate are those of the local name and of words. -/
theorem forall_camelCandidate {P : Char → Prop} (hP : ∀ c, isNameChar c → P c)
    {localName : String} (h : ∀ c ∈ localName.toList, P c) (n : Nat) :
    ∀ c ∈ (containerVariable .camel localName (n + 1)).toList, P c := by
  have hword : ∀ c ∈ "Container".toList, isNameChar c := List.all_eq_true.1 rfl
  have hbase : ∀ c ∈ (localName ++ "Container").toList, P c :=
    forall_append.2 ⟨h, fun c hc => hP c (hword c hc)⟩
  simpa [containerVariable] using forall_numbered hP "" hbase (by simp) n

/-- A candidate is not empty, for it has a word in it. -/
theorem candidate_ne_empty (style : VariableStyle) (localName : String) (n : Nat) :
    containerVariable style localName (n + 1) ≠ "" := by
  intro hempty
  have hlength := congrArg String.length hempty
  cases style <;> simp only [containerVariable] at hlength <;> split at hlength <;>
    simp [rootVariable] at hlength

/-- **A candidate for a word is a word.** -/
theorem isWord_candidate (style : VariableStyle) {localName : String}
    (h : ∀ c ∈ localName.toList, isNameChar c) (n : Nat) :
    Text.IsWord (containerVariable style localName (n + 1)) := by
  refine ⟨candidate_ne_empty style localName n, ?_⟩
  cases style with
  | camel => exact forall_camelCandidate (fun _ hc => hc) h n
  | snake =>
    have hsnake : ∀ c ∈ (Naming.toSnake localName).toList, isNameChar c := by
      rw [Naming.toSnake, String.toList_ofList]
      refine Naming.nameChar_snakeChars fun c hc => ?_
      have hchar := h c hc
      rw [isNameChar] at hchar
      simp [Naming.isWordChar, hchar]
    have hmark : ∀ c ∈ "_".toList, isNameChar c := List.all_eq_true.1 rfl
    have hroot : ∀ c ∈ rootVariable.toList, isNameChar c := List.all_eq_true.1 rfl
    exact forall_numbered (fun _ hc => hc) "_"
      (forall_append.2 ⟨forall_append.2 ⟨hsnake, hmark⟩, hroot⟩) hmark n

/-! ## Containers -/

theorem exists_candidate_of_mem {style : VariableStyle} {s : Schema} {c : Container} :
    ∀ {gs : List (FieldInfo × Schema)} {taken : List String},
      c ∈ groupContainers style s taken gs →
        ∃ g ∈ gs, ∃ n : Nat, c.variable_ = containerVariable style g.1.localName (n + 1)
  | [], _, h => nomatch h
  | (f, g) :: gs, taken, h => by
    rcases List.mem_cons.1 h with rfl | h
    · obtain ⟨n, hn⟩ := foundAfter_freshVariable style f.localName taken
      exact ⟨_, List.mem_cons_self, n, hn.eq_candidate⟩
    · obtain ⟨l, hl, hn⟩ := exists_candidate_of_mem h
      exact ⟨l, List.mem_cons_of_mem _ hl, hn⟩

/-- If the groups of a schema bear words for names, the variables of its containers are words. -/
theorem isWord_of_mem_containers {style : VariableStyle} {s : Schema} {c : Container}
    (h : ∀ g ∈ s.groups, Text.IsWord g.1.localName) (hc : c ∈ s.containers style) :
    Text.IsWord c.variable_ := by
  rcases List.mem_cons.1 hc with rfl | hc
  · have hroot : ∀ c ∈ rootVariable.toList, isNameChar c := List.all_eq_true.1 rfl
    exact ⟨show rootVariable ≠ "" by decide, hroot⟩
  · obtain ⟨g, hg, n, hn⟩ := exists_candidate_of_mem hc
    exact hn ▸ isWord_candidate style (h g hg).nameChars n

end CodecForge
