/-
  CodecForge — what a sanitizer recalls.

  A sanitizer looks a query up under a key in which name, case and suffix stand in a row
  with underscores between them.  Each of the three may hold underscores of its own, so two
  queries can have one key, and the later one is then answered as the first was.

  * `Query` is what a sanitizer is asked, `Sanitizer.answers` are its answers to queries one
    after another;
  * `Query.Overlaps`: the name of one query goes on where the case of the other begins;
    `key_eq_iff`: two queries have one key only if they are the same or overlap;
  * `Recalls` says what is remembered after queries: under a key the answer to the first of
    them; a query keeps it (`Recalls.step`);
  * `answers_eq_map_iff`: queries are answered as by new sanitizers if and only if those that
    overlap have one answer.
-/
import CodecForge.Naming.Sanitizer
import Mathlib

namespace CodecForge.Naming

/-! ## Queries -/

/-- What a sanitizer is asked. -/
structure Query where
  name : String
  case : NameCase
  suffix : String
deriving DecidableEq, Repr

namespace Sanitizer

/-- A sanitizer that has answered nothing. -/
def new (words : WordSets) : Sanitizer := ⟨words, []⟩

/-- The answer to a query. -/
def answer (s : Sanitizer) (q : Query) : String := (s.sanitize q.name q.case q.suffix).1

/-- The sanitizer after a query. -/
def step (s : Sanitizer) (q : Query) : Sanitizer := (s.sanitize q.name q.case q.suffix).2

/-- The answers to queries, one after another. -/
def answers (s : Sanitizer) : List Query → List String
  | [] => []
  | q :: qs => s.answer q :: (s.step q).answers qs

end Sanitizer

/-! ## Keys -/

namespace Query

/-- The key under which a query is looked up. -/
def key (q : Query) : String := cacheKey q.name q.case q.suffix

/-- The name of `b` goes on after the name of `a`, as far into what follows the name in the
    key of `a` as `rest` says. -/
def Overlaps (a b : Query) : Prop :=
  ∃ rest, b.name = a.name ++ "_" ++ rest ∧
    a.case.label ++ "_" ++ a.suffix = rest ++ "_" ++ b.case.label ++ "_" ++ b.suffix

variable {a b : Query}

/-- What follows the name in a key. -/
def tail (q : Query) : String := q.case.label ++ "_" ++ q.suffix

theorem toList_key (q : Query) : q.key.toList = q.name.toList ++ '_' :: q.tail.toList := by
  simp [key, cacheKey, tail]

/-- No label goes on like another one. -/
theorem eq_of_tail_eq (h : a.tail = b.tail) : a.case = b.case ∧ a.suffix = b.suffix := by
  obtain ⟨n, c, s⟩ := a
  obtain ⟨n', c', s'⟩ := b
  have hchars := congrArg String.toList h
  cases c <;> cases c' <;> simp [tail, NameCase.label] at hchars ⊢
  all_goals exact String.toList_inj.1 hchars

theorem Overlaps.key_eq (h : a.Overlaps b) : a.key = b.key := by
  obtain ⟨rest, hname, htail⟩ := h
  calc a.key = a.name ++ "_" ++ (a.case.label ++ "_" ++ a.suffix) := by
        simp [key, cacheKey, String.append_assoc]
    _ = a.name ++ "_" ++ (rest ++ "_" ++ b.case.label ++ "_" ++ b.suffix) := by rw [htail]
    _ = b.key := by simp [key, cacheKey, hname, String.append_assoc]

/-- A name that is the beginning of another one. -/
theorem eq_or_overlaps {x : List Char} (hname : b.name.toList = a.name.toList ++ x)
    (htail : '_' :: a.tail.toList = x ++ '_' :: b.tail.toList) : a = b ∨ a.Overlaps b := by
  cases x with
  | nil =>
    left
    rw [List.append_nil] at hname
    obtain ⟨hcase, hsuffix⟩ := eq_of_tail_eq (String.toList_inj.1 (List.cons.inj htail).2)
    obtain ⟨n, c, s⟩ := a
    obtain ⟨n', c', s'⟩ := b
    obtain rfl : n' = n := String.toList_inj.1 hname
    obtain rfl : c = c' := hcase
    obtain rfl : s = s' := hsuffix
    rfl
  | cons c rest =>
    right
    rw [List.cons_append] at htail
    obtain ⟨rfl, hrest⟩ := List.cons.inj htail
    refine ⟨String.ofList rest, ?_, ?_⟩
    · apply String.toList_inj.1
      simp [hname]
    · apply String.toList_inj.1
      simpa [tail] using hrest

/-- **Two queries have one key only if they are the same or overlap.** -/
theorem key_eq_iff : a.key = b.key ↔ a = b ∨ a.Overlaps b ∨ b.Overlaps a := by
  constructor
  · intro h
    have hchars : a.name.toList ++ '_' :: a.tail.toList = b.name.toList ++ '_' :: b.tail.toList := by
      rw [← toList_key, ← toList_key, h]
    rcases List.append_eq_append_iff.1 hchars with ⟨x, hname, htail⟩ | ⟨x, hname, htail⟩
    · exact (eq_or_overlaps hname htail).imp_right .inl
    · exact (eq_or_overlaps hname htail).imp Eq.symm .inr
  · rintro (rfl | h | h)
    · rfl
    · exact h.key_eq
    · exact h.key_eq.symm

/-- With one suffix only a name that ends in `_screaming` overlaps, in snake case, with the
    name without that end in screaming snake case. -/
theorem overlaps_iff_of_suffix (h : a.suffix = b.suffix) :
    a.Overlaps b ↔
      a.case = .screamingSnake ∧ b.case = .snake ∧ b.name = a.name ++ "_screaming" := by
  obtain ⟨n, c, s⟩ := a
  obtain ⟨n', c', s'⟩ := b
  obtain rfl : s = s' := h
  constructor
  · rintro ⟨rest, rfl, htail⟩
    have hlabel : c.label.toList = rest.toList ++ '_' :: c'.label.toList := by
      have hchars : c.label.toList ++ '_' :: s.toList =
          (rest.toList ++ '_' :: c'.label.toList) ++ '_' :: s.toList := by
        simpa using congrArg String.toList htail
      exact List.append_cancel_right hchars
    -- only one label holds an underscore, and what follows it there is one label
    have hmem : '_' ∈ c.label.toList := by simp [hlabel]
    have hlast : c.label.toList.getLast? = c'.label.toList.getLast? := by
      rw [hlabel, List.getLast?_append_cons]
      cases c' <;> rfl
    have hlength : c.label.toList.length = rest.toList.length + 1 + c'.label.toList.length := by
      rw [hlabel, List.length_append, List.length_cons]
      omega
    cases c with
    | snake | camel | pascal => simp [NameCase.label] at hmem
    | screamingSnake =>
      cases c' with
      | camel | pascal => simp [NameCase.label] at hlast
      | screamingSnake => omega
      | snake =>
        refine ⟨rfl, rfl, ?_⟩
        have hrest : rest.toList = "screaming".toList :=
          List.append_cancel_right (hlabel.symm.trans (by rfl))
        rw [String.toList_inj.1 hrest, String.append_assoc]
        rfl
  · rintro ⟨hcase, hcase', hname⟩
    obtain rfl : c = .screamingSnake := hcase
    obtain rfl : c' = .snake := hcase'
    obtain rfl : n' = n ++ "_screaming" := hname
    refine ⟨"screaming", ?_, ?_⟩
    · rw [String.append_assoc]
      rfl
    · rfl

end Query

/-! ## Memory -/

namespace Sanitizer

variable {words : WordSets} {asked : List Query} {s : Sanitizer}

/-- What is remembered after the queries `asked`: under a key the answer to the first of them
    that has it. -/
structure Recalls (words : WordSets) (asked : List Query) (s : Sanitizer) : Prop where
  words_eq : s.words = words
  get?_cache : ∀ key, Entries.get? key s.cache =
    (asked.find? (·.key == key)).map (new words).answer

theorem recalls_new (words : WordSets) : Recalls words [] (new words) :=
  ⟨rfl, fun _ => rfl⟩

theorem answer_of_remembered {q : Query} {answer : String}
    (h : Entries.get? q.key s.cache = some answer) : s.answer q = answer ∧ s.step q = s := by
  unfold Query.key at h
  unfold Sanitizer.answer Sanitizer.step sanitize
  dsimp only
  rw [h]
  exact ⟨rfl, rfl⟩

theorem answer_of_forgotten {q : Query} (h : Entries.get? q.key s.cache = none) :
    s.answer q = (new s.words).answer q ∧
      s.step q = { s with cache := Entries.put q.key ((new s.words).answer q) s.cache } := by
  unfold Query.key at h
  unfold Sanitizer.answer Sanitizer.step sanitize
  dsimp only
  rw [h]
  exact ⟨rfl, rfl⟩

/-- A query is answered as one with its key was, or anew if there was none. -/
theorem Recalls.answer_cases (h : Recalls words asked s) (q : Query) :
    (∃ p ∈ asked, p.key = q.key ∧ s.answer q = (new words).answer p) ∨
      (∀ p ∈ asked, p.key ≠ q.key) ∧ s.answer q = (new words).answer q := by
  have hcache := h.get?_cache q.key
  cases hfound : asked.find? (·.key == q.key) with
  | some p =>
    left
    rw [hfound] at hcache
    have hkey : p.key = q.key := by simpa using List.find?_some hfound
    exact ⟨p, List.mem_of_find?_eq_some hfound, hkey, (answer_of_remembered hcache).1⟩
  | none =>
    right
    rw [hfound] at hcache
    refine ⟨?_, ?_⟩
    · intro p hp hkey
      exact List.find?_eq_none.1 hfound p hp (by simp [hkey])
    · rw [(answer_of_forgotten hcache).1, h.words_eq]

/-- A query is remembered, unless one with its key is. -/
theorem Recalls.step (h : Recalls words asked s) (q : Query) :
    Recalls words (asked ++ [q]) (s.step q) := by
  have hcache := h.get?_cache q.key
  cases hfound : asked.find? (·.key == q.key) with
  | some p =>
    rw [hfound] at hcache
    rw [(answer_of_remembered hcache).2]
    refine ⟨h.words_eq, fun key => ?_⟩
    rw [h.get?_cache, List.find?_append]
    by_cases hkey : q.key = key
    · rw [← hkey, hfound]
      rfl
    · simp [hkey]
  | none =>
    rw [hfound] at hcache
    rw [(answer_of_forgotten hcache).2]
    refine ⟨h.words_eq, fun key => ?_⟩
    dsimp only
    rw [h.words_eq, Entries.get?_put, h.get?_cache, List.find?_append]
    by_cases hkey : q.key = key
    · rw [if_pos hkey, ← hkey, hfound]
      simp
    · rw [if_neg hkey]
      simp [hkey]

/-! ## Runs -/

/-- Queries with one key have one answer. -/
def Agree (words : WordSets) (qs : List Query) : Prop :=
  ∀ a ∈ qs, ∀ b ∈ qs, a.key = b.key → (new words).answer a = (new words).answer b

theorem agree_iff_overlaps {qs : List Query} :
    Agree words qs ↔ ∀ a ∈ qs, ∀ b ∈ qs, a.Overlaps b →
      (new words).answer a = (new words).answer b := by
  constructor
  · intro h a ha b hb hover
    exact h a ha b hb hover.key_eq
  · intro h a ha b hb hkey
    rcases Query.key_eq_iff.1 hkey with rfl | hover | hover
    · rfl
    · exact h a ha b hb hover
    · exact (h b hb a ha hover).symm

/-- A query agrees with those before it if and only if it is answered as by a new sanitizer. -/
theorem agree_concat_iff (h : Recalls words asked s) (hasked : Agree words asked) (q : Query) :
    Agree words (asked ++ [q]) ↔ s.answer q = (new words).answer q := by
  constructor
  · intro hagree
    rcases h.answer_cases q with ⟨p, hp, hkey, hanswer⟩ | ⟨-, hanswer⟩
    · rw [hanswer]
      exact hagree p (List.mem_append_left [q] hp) q (by simp) hkey
    · exact hanswer
  · intro hq
    have hbefore : ∀ a ∈ asked, a.key = q.key →
        (new words).answer a = (new words).answer q := by
      intro a ha hkey
      rcases h.answer_cases q with ⟨p, hp, hpkey, hanswer⟩ | ⟨hnone, -⟩
      · rw [hasked a ha p hp (hkey.trans hpkey.symm), ← hanswer, hq]
      · exact absurd hkey (hnone a ha)
    intro a ha b hb hkey
    rw [List.mem_append, List.mem_singleton] at ha hb
    rcases ha with ha | rfl <;> rcases hb with hb | rfl
    · exact hasked a ha b hb hkey
    · exact hbefore a ha hkey
    · exact (hbefore b hb hkey.symm).symm
    · rfl

/-- Queries after others that agree are answered anew if and only if all of them agree. -/
theorem answers_eq_map_iff_agree (h : Recalls words asked s) (hasked : Agree words asked)
    (qs : List Query) :
    s.answers qs = qs.map (new words).answer ↔ Agree words (asked ++ qs) := by
  induction qs generalizing asked s with
  | nil =>
    rw [List.append_nil]
    exact ⟨fun _ => hasked, fun _ => rfl⟩
  | cons q qs ih =>
    have hsplit : asked ++ q :: qs = asked ++ [q] ++ qs := by simp
    rw [answers, List.map_cons, List.cons.injEq, hsplit, ← agree_concat_iff h hasked q]
    constructor
    · rintro ⟨hq, hqs⟩
      exact (ih (h.step q) hq).1 hqs
    · intro hall
      have hq : Agree words (asked ++ [q]) := fun a ha b hb =>
        hall a (List.mem_append_left qs ha) b (List.mem_append_left qs hb)
      exact ⟨hq, (ih (h.step q) hq).2 hall⟩

/-- **When a sanitizer answers as new ones do.**  It does so in every query of a run if and
    only if queries of the run that overlap have one answer; with one suffix throughout these
    are a name in screaming snake case and, in snake case, the name with `_screaming` after it. -/
theorem answers_eq_map_iff (words : WordSets) (qs : List Query) :
    ((new words).answers qs = qs.map (new words).answer ↔
      ∀ a ∈ qs, ∀ b ∈ qs, a.Overlaps b → (new words).answer a = (new words).answer b) ∧
    ∀ a b : Query, a.suffix = b.suffix →
      (a.Overlaps b ↔
        a.case = .screamingSnake ∧ b.case = .snake ∧ b.name = a.name ++ "_screaming") := by
  constructor
  · rw [answers_eq_map_iff_agree (recalls_new words) (by simp [Agree]) qs, List.nil_append]
    exact agree_iff_overlaps
  · intro a b h
    exact Query.overlaps_iff_of_suffix h

/-! ### One key for two queries -/

/-- A name in screaming snake case, and in snake case a name that goes on as the label of the
    other case does. -/
def screamingUsers : List Query := [⟨"user", .screamingSnake, "_"⟩, ⟨"user_screaming", .snake, "_"⟩]

/-- What is remembered can be the answer to another query. -/
theorem exists_answered_otherwise : ¬ ∀ (words : WordSets) (qs : List Query),
    (new words).answers qs = qs.map (new words).answer := by
  intro h
  have hanswers := h ⟨[], []⟩ screamingUsers
  revert hanswers
  decide +kernel

end Sanitizer

end CodecForge.Naming
