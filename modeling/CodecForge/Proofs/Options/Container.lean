/-
  CodecForge — the container option as text.

  A text stands for the value of one property if it is a call: a dot, the words `single` and
  `value`, and in parentheses the name of the property, perhaps between quotation marks.

  * `Call` are the parts of a call, `Call.text` is the call as it is written, `Call.Formed` says
    which parts make a call; no text is written in two ways (`Call.Formed.eq_of_text_eq`);
  * `callBinding?` reads calls and nothing else (`Call.Formed.callBinding?_text`,
    `exists_call_of_callBinding?`), but does not compare the quotation marks;
  * `singleValue_iff_call`: hence which texts are taken for a single value, and where this differs
    from what is documented;
  * `containerOf_printed`: what a strategy is printed as is read as the strategy.
-/
import CodecForge.Proofs.Extraction.Identifiers
import CodecForge.Proofs.Naming.SnakeCase

namespace CodecForge.CodingOptions

open Text (isBlank isPlainName)

/-! ## Calls -/

/-- The parts of a call, as they are written. -/
structure Call where
  dot : Option Char
  single : List Char
  underscore : Option Char
  value : List Char
  before : List Char
  opening : Option Char
  name : String
  closing : Option Char
  after : List Char

namespace Call

variable (c : Call)

/-- What follows the name. -/
def afterName : List Char := c.closing.toList ++ (c.after ++ [')'])

/-- What follows the first parenthesis. -/
def inner : List Char := c.before ++ (c.opening.toList ++ (c.name.toList ++ c.afterName))

/-- What follows the first word. -/
def afterSingle : List Char := c.underscore.toList ++ (c.value ++ '(' :: c.inner)

/-- A call as it is written. -/
def text : List Char := c.dot.toList ++ (c.single ++ c.afterSingle)

/-- Which parts make a call.  The words may be in any letter case, and the dot, the underscore and
    each quotation mark may be missing; blanks may surround the name with its quotation marks. -/
structure Formed : Prop where
  dot : ∀ x ∈ c.dot, x = '.'
  single : List.Forall₂ (isLetter · ·) "single".toList c.single
  underscore : ∀ x ∈ c.underscore, x = '_'
  value : List.Forall₂ (isLetter · ·) "value".toList c.value
  before : ∀ x ∈ c.before, isBlank x
  opening : ∀ x ∈ c.opening, isQuote x
  name : ∀ x ∈ c.name.toList, isBindingChar x
  name_ne_empty : c.name ≠ ""
  closing : ∀ x ∈ c.closing, isQuote x
  after : ∀ x ∈ c.after, isBlank x

/-- A call as it is documented: the words are in letters of ASCII, the name is an identifier, and
    the quotation marks match. -/
structure Documented : Prop extends c.Formed where
  ascii : ∀ x ∈ c.single ++ c.value, x.toNat < 128
  plain : isPlainName c.name.toList
  quotes : c.opening = c.closing

end Call

/-! ## Parts of a text -/

section
variable {p : Char → Bool}

theorem afterWord?_eq_some_iff {ls cs rest : List Char} :
    afterWord? ls cs = some rest ↔ ∃ w, List.Forall₂ (isLetter · ·) ls w ∧ cs = w ++ rest := by
  induction ls generalizing cs with
  | nil =>
    rw [afterWord?, Option.some_inj]
    constructor
    · rintro rfl
      exact ⟨[], .nil, rfl⟩
    · rintro ⟨w, hw, rfl⟩
      cases hw
      rfl
  | cons l ls ih =>
    cases cs with
    | nil =>
      refine ⟨nofun, ?_⟩
      rintro ⟨w, hw, heq⟩
      cases hw
      cases heq
    | cons c cs =>
      rw [afterWord?]
      constructor
      · intro h
        split at h
        · next hc =>
          obtain ⟨w, hw, rfl⟩ := ih.1 h
          exact ⟨c :: w, .cons hc hw, rfl⟩
        · cases h
      · rintro ⟨w, hw, heq⟩
        cases hw with
        | cons hc hw =>
          cases heq
          rw [if_pos hc]
          exact ih.2 ⟨_, hw, rfl⟩

theorem exists_dropOne (p : Char → Bool) (cs : List Char) :
    ∃ o : Option Char, (∀ x ∈ o, p x) ∧ cs = o.toList ++ dropOne p cs := by
  cases cs with
  | nil => exact ⟨none, nofun, rfl⟩
  | cons c cs =>
    rw [dropOne]
    split
    · next hc =>
      refine ⟨some c, ?_, rfl⟩
      rintro x ⟨⟩
      exact hc
    · exact ⟨none, nofun, rfl⟩

theorem exists_blanks (cs : List Char) :
    ∃ blanks : List Char, (∀ x ∈ blanks, isBlank x) ∧ cs = blanks ++ cs.dropWhile isBlank :=
  ⟨cs.takeWhile isBlank, fun _ => List.mem_takeWhile_imp, List.takeWhile_append_dropWhile.symm⟩

/-- A character that may be missing is dropped, if what follows it does not begin with another. -/
theorem dropOne_append {o : Option Char} (ho : ∀ x ∈ o, p x) {rest : List Char}
    (hrest : ∀ x ∈ rest.head?, p x = false) : dropOne p (o.toList ++ rest) = rest := by
  cases o with
  | none =>
    cases rest with
    | nil => rfl
    | cons c cs => exact if_neg (by simp [hrest c rfl])
  | some c => exact if_pos (ho c rfl)

section
variable {xs ys rest rest' : List Char} (hxs : ∀ x ∈ xs, p x)
  (hrest : ∀ x ∈ rest.head?, p x = false)
include hxs hrest

theorem dropWhile_append_of_head : (xs ++ rest).dropWhile p = rest := by
  rw [List.dropWhile_append_of_pos hxs]
  cases rest with
  | nil => rfl
  | cons c cs => exact List.dropWhile_cons_of_neg (by simp [hrest c rfl])

theorem takeWhile_append_of_head : (xs ++ rest).takeWhile p = xs := by
  rw [List.takeWhile_append_of_pos hxs]
  cases rest with
  | nil => exact List.append_nil xs
  | cons c cs => rw [List.takeWhile_cons_of_neg (by simp [hrest c rfl]), List.append_nil]

/-- Where a run of characters ends can be told from the text. -/
theorem run_inj (hys : ∀ y ∈ ys, p y) (hrest' : ∀ y ∈ rest'.head?, p y = false)
    (h : xs ++ rest = ys ++ rest') : xs = ys ∧ rest = rest' := by
  have htake := congrArg (List.takeWhile p) h
  have hdrop := congrArg (List.dropWhile p) h
  rw [takeWhile_append_of_head hxs hrest, takeWhile_append_of_head hys hrest'] at htake
  rw [dropWhile_append_of_head hxs hrest, dropWhile_append_of_head hys hrest'] at hdrop
  exact ⟨htake, hdrop⟩

end

/-- So can whether a character is missing. -/
theorem one_inj {o o' : Option Char} (ho : ∀ x ∈ o, p x) (ho' : ∀ x ∈ o', p x)
    {rest rest' : List Char} (hrest : ∀ x ∈ rest.head?, p x = false)
    (hrest' : ∀ x ∈ rest'.head?, p x = false) (h : o.toList ++ rest = o'.toList ++ rest') :
    o = o' ∧ rest = rest' := by
  have htail : rest = rest' := by
    rw [← dropOne_append ho hrest, h, dropOne_append ho' hrest']
  rw [htail] at h
  have ho := List.append_cancel_right h
  refine ⟨?_, htail⟩
  cases o <;> cases o' <;> simp_all

end

/-! ## Characters -/

/-- A word does not begin with a dot or an underscore. -/
theorem not_isLetter {l x : Char} (hl : l.isLower) (hx : x = '.' ∨ x = '_') :
    isLetter l x = false := by
  have hne : x.toLower ≠ l := by
    rintro rfl
    rcases hx with rfl | rfl <;> cases hl
  rcases hx with rfl | rfl <;> simpa [isLetter] using hne

theorem head?_of_spelled {l x : Char} {ls w rest : List Char} (hl : l.isLower)
    (h : List.Forall₂ (isLetter · ·) (l :: ls) w) (hx : x = '.' ∨ x = '_') :
    ∀ y ∈ (w ++ rest).head?, (y == x) = false := by
  cases h with
  | cons hletter _ =>
    rintro y ⟨⟩
    refine beq_eq_false_iff_ne.2 ?_
    rintro rfl
    rw [not_isLetter hl hx] at hletter
    cases hletter

theorem isBindingChar_iff {x : Char} :
    isBindingChar x ↔ isQuote x = false ∧ x ≠ ')' ∧ isBlank x = false := by
  simp [isBindingChar, and_assoc]

theorem not_isBlank_of_isQuote {x : Char} (h : isQuote x) : isBlank x = false := by
  rcases Bool.or_eq_true_iff.1 h with h | h
  · rw [beq_iff_eq.1 h]
    rfl
  · rw [isBlank, beq_iff_eq.1 h]
    rfl

theorem not_isQuote_of_isBlank {x : Char} (h : isBlank x) : isQuote x = false := by
  by_contra hquote
  rw [not_isBlank_of_isQuote (Bool.of_not_eq_false hquote)] at h
  cases h

theorem isBindingChar_of_isNameChar {x : Char} (h : Text.isNameChar x) : isBindingChar x :=
  Naming.forall_ascii (P := fun x => Text.isNameChar x → isBindingChar x) (by decide +kernel)
    (Naming.lt_of_isNameChar h) h

theorem spelled_words : List.Forall₂ (isLetter · ·) "single".toList "single".toList ∧
    List.Forall₂ (isLetter · ·) "value".toList "value".toList := by
  decide

/-! ## Reading a call -/

namespace Call.Formed

variable {c c' : Call} (h : c.Formed)
include h

theorem exists_head : ∃ x xs, c.name.toList = x :: xs ∧ isBindingChar x := by
  obtain ⟨x, xs, hname⟩ := List.exists_cons_of_ne_nil (l := c.name.toList)
    fun hnil => h.name_ne_empty (String.toList_eq_nil_iff.1 hnil)
  exact ⟨x, xs, hname, h.name x (hname ▸ List.mem_cons_self)⟩

/-! ### Where a part ends -/

theorem head?_single : ∀ x ∈ (c.single ++ c.afterSingle).head?, (x == '.') = false :=
  head?_of_spelled (l := 's') rfl h.single (.inl rfl)

theorem head?_value : ∀ x ∈ (c.value ++ '(' :: c.inner).head?, (x == '_') = false :=
  head?_of_spelled (l := 'v') rfl h.value (.inr rfl)

theorem head?_name : ∀ x ∈ (c.name.toList ++ c.afterName).head?, isQuote x = false := by
  obtain ⟨y, ys, hname, hy⟩ := h.exists_head
  rw [hname]
  rintro x ⟨⟩
  exact (isBindingChar_iff.1 hy).1

theorem head?_quoted :
    ∀ x ∈ (c.opening.toList ++ (c.name.toList ++ c.afterName)).head?, isBlank x = false := by
  cases hopening : c.opening with
  | none =>
    obtain ⟨y, ys, hname, hy⟩ := h.exists_head
    rw [hname]
    rintro x ⟨⟩
    exact (isBindingChar_iff.1 hy).2.2
  | some q =>
    rintro x ⟨⟩
    exact not_isBlank_of_isQuote (h.opening q hopening)

theorem head?_after : ∀ x ∈ (c.after ++ [')']).head?, isQuote x = false := by
  cases hafter : c.after with
  | nil =>
    rintro x ⟨⟩
    rfl
  | cons y ys =>
    rintro x ⟨⟩
    exact not_isQuote_of_isBlank (h.after y (hafter ▸ List.mem_cons_self))

theorem head?_afterName : ∀ x ∈ c.afterName.head?, isBindingChar x = false := by
  have hno : ∀ x, isQuote x ∨ isBlank x ∨ x = ')' → isBindingChar x = false := by
    rintro x (hx | hx | rfl)
    · simp [isBindingChar, hx]
    · simp [isBindingChar, hx]
    · rfl
  unfold afterName
  cases hclosing : c.closing with
  | some q =>
    rintro x ⟨⟩
    exact hno q (.inl (h.closing q hclosing))
  | none =>
    cases hafter : c.after with
    | nil =>
      rintro x ⟨⟩
      exact hno _ (.inr (.inr rfl))
    | cons y ys =>
      rintro x ⟨⟩
      exact hno y (.inr (.inl (h.after y (hafter ▸ List.mem_cons_self))))

/-- **No text is a call in two ways.** -/
theorem eq_of_text_eq (h' : c'.Formed) (htext : c.text = c'.text) : c = c' := by
  have hdot : ∀ {c : Call}, c.Formed → ∀ x ∈ c.dot, (x == '.') = true :=
    fun h x hx => beq_iff_eq.2 (h.dot x hx)
  have hunderscore : ∀ {c : Call}, c.Formed → ∀ x ∈ c.underscore, (x == '_') = true :=
    fun h x hx => beq_iff_eq.2 (h.underscore x hx)
  have hlength : ∀ {ls w w' : List Char}, List.Forall₂ (isLetter · ·) ls w →
      List.Forall₂ (isLetter · ·) ls w' → w.length = w'.length :=
    fun hw hw' => hw.length_eq.symm.trans hw'.length_eq
  have hparen : ∀ x ∈ [')'].head?, isBlank x = false := by
    rintro x ⟨⟩
    rfl
  -- from left to right, each part ends where it cannot go on
  obtain ⟨h₁, htext⟩ := one_inj (hdot h) (hdot h') h.head?_single h'.head?_single htext
  obtain ⟨h₂, htext⟩ := List.append_inj htext (hlength h.single h'.single)
  obtain ⟨h₃, htext⟩ :=
    one_inj (hunderscore h) (hunderscore h') h.head?_value h'.head?_value htext
  obtain ⟨h₄, htext⟩ := List.append_inj htext (hlength h.value h'.value)
  obtain ⟨h₅, htext⟩ :=
    run_inj h.before h.head?_quoted h'.before h'.head?_quoted (List.cons.inj htext).2
  obtain ⟨h₆, htext⟩ := one_inj h.opening h'.opening h.head?_name h'.head?_name htext
  obtain ⟨h₇, htext⟩ := run_inj h.name h.head?_afterName h'.name h'.head?_afterName htext
  obtain ⟨h₈, htext⟩ := one_inj h.closing h'.closing h.head?_after h'.head?_after htext
  obtain ⟨h₉, -⟩ := run_inj h.after hparen h'.after hparen htext
  cases c
  cases c'
  simp_all [String.toList_inj]

/-- **A call is read as its name**, whatever its quotation marks. -/
theorem callBinding?_text : callBinding? c.text = some c.name := by
  have hsingle : afterWord? "single".toList (dropOne (· == '.') c.text) = some c.afterSingle := by
    rw [text, dropOne_append (fun x hx => beq_iff_eq.2 (h.dot x hx)) h.head?_single]
    exact afterWord?_eq_some_iff.2 ⟨c.single, h.single, rfl⟩
  have hvalue : afterWord? "value".toList (dropOne (· == '_') c.afterSingle) =
      some ('(' :: c.inner) := by
    rw [afterSingle, dropOne_append (fun x hx => beq_iff_eq.2 (h.underscore x hx)) h.head?_value]
    exact afterWord?_eq_some_iff.2 ⟨c.value, h.value, rfl⟩
  have hopened : dropOne isQuote (c.inner.dropWhile isBlank) = c.name.toList ++ c.afterName := by
    rw [inner, dropWhile_append_of_head h.before h.head?_quoted,
      dropOne_append h.opening h.head?_name]
  have hclosed : (dropOne isQuote c.afterName).dropWhile isBlank = [')'] := by
    rw [afterName, dropOne_append h.closing h.head?_after]
    refine dropWhile_append_of_head h.after ?_
    rintro x ⟨⟩
    rfl
  unfold callBinding?
  refine Option.bind_eq_some_iff.2 ⟨_, hsingle, Option.bind_eq_some_iff.2 ⟨_, hvalue, ?_⟩⟩
  simp only [hopened, takeWhile_append_of_head h.name h.head?_afterName,
    dropWhile_append_of_head h.name h.head?_afterName, hclosed, if_true, String.ofList_toList]

end Call.Formed

/-- **What is read as a name is a call of the name**, if it is not empty. -/
theorem exists_call_of_callBinding? {cs : List Char} {b : String} (h : callBinding? cs = some b)
    (hb : b ≠ "") : ∃ c : Call, c.Formed ∧ c.name = b ∧ c.text = cs := by
  have hname := isBindingChar_of_callBinding? h
  unfold callBinding? at h
  obtain ⟨cs₁, hsingle, h⟩ := Option.bind_eq_some_iff.1 h
  obtain ⟨cs₂, hvalue, h⟩ := Option.bind_eq_some_iff.1 h
  dsimp only at h
  split at h
  · next inner =>
    split at h
    · next hclosed =>
      obtain ⟨dot, hdot, hcs⟩ := exists_dropOne (· == '.') cs
      obtain ⟨single, hletters, hcs'⟩ := afterWord?_eq_some_iff.1 hsingle
      obtain ⟨underscore, hunderscore, hcs₁⟩ := exists_dropOne (· == '_') cs₁
      obtain ⟨value, hletters', hcs₁'⟩ := afterWord?_eq_some_iff.1 hvalue
      obtain ⟨before, hbefore, hinner⟩ := exists_blanks inner
      obtain ⟨opening, hopening, hopened⟩ := exists_dropOne isQuote (inner.dropWhile isBlank)
      generalize dropOne isQuote (inner.dropWhile isBlank) = named at h hopened hclosed
      obtain ⟨closing, hclosing, hafter⟩ := exists_dropOne isQuote (named.dropWhile isBindingChar)
      obtain ⟨after, hblank, hend⟩ :=
        exists_blanks (dropOne isQuote (named.dropWhile isBindingChar))
      have hb' : b.toList = named.takeWhile isBindingChar := by
        rw [← Option.some.inj h, String.toList_ofList]
      refine ⟨⟨dot, single, underscore, value, before, opening, b, closing, after⟩, ?_, rfl, ?_⟩
      · exact {
          dot := fun x hx => beq_iff_eq.1 (hdot x hx)
          single := hletters
          underscore := fun x hx => beq_iff_eq.1 (hunderscore x hx)
          value := hletters'
          before := hbefore
          opening := hopening
          name := hname
          name_ne_empty := hb
          closing := hclosing
          after := hblank }
      · rw [hclosed] at hend
        rw [hcs, hcs', hcs₁, hcs₁', hinner, hopened, Call.text, Call.afterSingle, Call.inner,
          Call.afterName, hb', ← hend, ← hafter, List.takeWhile_append_dropWhile]
    · cases h
  · cases h

/-! ## Single values -/

section
variable {c : Call} (h : c.Formed) {s : String} (hs : c.text = (Text.trim s).toList)
include h

/-- The name in a call has no line feed, so it passes for an identifier only if it is plain. -/
theorem isAsciiIdentifier_name_iff : Text.isAsciiIdentifier c.name ↔ isPlainName c.name.toList := by
  refine ⟨fun hid => ?_, fun hplain => Text.isAsciiIdentifier_iff.2 (.inl hplain)⟩
  refine (Text.isPlainName_iff_of_isAsciiIdentifier hid).2 fun hfeed => ?_
  have hbinding := h.name _ hfeed
  cases hbinding

include hs

theorem containerOf_call : containerOf (.str s) =
    if isPlainName c.name.toList then .ok (.singleValue c.name)
    else .error ⟨.container, .str c.name, some "single value binding must be an identifier"⟩ := by
  rw [containerOf, containerOfText, ← hs, h.callBinding?_text]
  simp only [bindingOf, isAsciiIdentifier_name_iff h]

end

theorem exists_call_of_containerOf {s b : String}
    (h : containerOf (.str s) = .ok (.singleValue b)) :
    ∃ c : Call, c.Formed ∧ c.name = b ∧ c.text = (Text.trim s).toList := by
  have hid := isAsciiIdentifier_of_containerOf h
  rw [containerOf, containerOfText] at h
  split at h
  · next b' hcall =>
    cases eq_of_bindingOf h
    refine exists_call_of_callBinding? hcall ?_
    rintro rfl
    cases hid
  · split at h <;> cases h

/-- **Which texts are taken for a single value**: calls whose name is an identifier, and the name
    is the property.  A call of anything else is refused.  This is what is documented, except that
    the quotation marks need not match, and that the words may have letters beyond ASCII whose
    upper or lower case is in them. -/
theorem singleValue_iff_call (s : String) :
    (∀ b, containerOf (.str s) = .ok (.singleValue b) ↔
      ∃ c : Call, c.Formed ∧ isPlainName c.name.toList ∧ c.name = b ∧
        c.text = (Text.trim s).toList) ∧
    ∀ c : Call, c.Formed → c.text = (Text.trim s).toList →
      (¬ isPlainName c.name.toList → containerOf (.str s) =
        .error ⟨.container, .str c.name, some "single value binding must be an identifier"⟩) ∧
      (isPlainName c.name.toList →
        ((∃ d : Call, d.Documented ∧ d.text = (Text.trim s).toList) ↔
          c.opening = c.closing ∧ ∀ x ∈ c.single ++ c.value, x.toNat < 128)) := by
  refine ⟨fun b => ⟨fun h => ?_, ?_⟩, fun c hc hs => ⟨fun hplain => ?_, fun hplain => ⟨?_, ?_⟩⟩⟩
  · obtain ⟨c, hc, rfl, hs⟩ := exists_call_of_containerOf h
    have hid := isAsciiIdentifier_of_containerOf h
    exact ⟨c, hc, (isAsciiIdentifier_name_iff hc).1 hid, rfl, hs⟩
  · rintro ⟨c, hc, hplain, rfl, hs⟩
    rw [containerOf_call hc hs, if_pos hplain]
  · rw [containerOf_call hc hs, if_neg hplain]
  · rintro ⟨d, hd, htext⟩
    cases hc.eq_of_text_eq hd.toFormed (hs.trans htext.symm)
    exact ⟨hd.quotes, hd.ascii⟩
  · rintro ⟨hquotes, hascii⟩
    exact ⟨c, ⟨hc, hascii, hplain, hquotes⟩, hs⟩

/-- A call with two kinds of quotation marks. -/
def mixed : Call :=
  ⟨none, "single".toList, none, "Value".toList, [], some (Char.ofNat 39), "bar", some '"', []⟩

theorem formed_mixed : mixed.Formed where
  dot := nofun
  single := spelled_words.1
  underscore := nofun
  value := by decide
  before := nofun
  opening := by
    rintro x ⟨⟩
    rfl
  name _ hx :=
    have hplain : isPlainName "bar".toList := by decide
    isBindingChar_of_isNameChar (Text.isNameChar_of_isPlainName hplain _ hx)
  name_ne_empty := by
    rw [mixed]
    decide
  closing := by
    rintro x ⟨⟩
    rfl
  after := nofun

theorem singleValue_iff_call_mixed :
    mixed.text = (Text.trim "singleValue('bar\")").toList ∧
    containerOf (.str "singleValue('bar\")") = .ok (.singleValue "bar") ∧
    ¬ ∃ d : Call, d.Documented ∧ d.text = (Text.trim "singleValue('bar\")").toList := by
  have htext : mixed.text = (Text.trim "singleValue('bar\")").toList := by decide
  have hplain : isPlainName mixed.name.toList := by decide
  obtain ⟨hcalls, hdocumented⟩ := singleValue_iff_call "singleValue('bar\")"
  refine ⟨htext, (hcalls _).2 ⟨mixed, formed_mixed, hplain, rfl, htext⟩, fun hd => ?_⟩
  have hquotes := (((hdocumented mixed formed_mixed htext).2 hplain).1 hd).1
  revert hquotes
  decide

/-- Not every call that is read is documented. -/
theorem exists_undocumented_call : ¬ ∀ s b : String, containerOf (.str s) = .ok (.singleValue b) ↔
    ∃ c : Call, c.Documented ∧ c.name = b ∧ c.text = (Text.trim s).toList := by
  intro h
  have htext : mixed.text = (Text.trim "singleValue('bar\")").toList := by decide
  have hread : containerOf (.str "singleValue('bar\")") = .ok (.singleValue "bar") := by rfl
  obtain ⟨c, hc, -, hs⟩ := (h _ _).1 hread
  cases formed_mixed.eq_of_text_eq hc.toFormed (htext.trans hs.symm)
  have hquotes := hc.quotes
  revert hquotes
  decide

/-! ## Printing -/

/-- A property as a strategy is printed, with blanks behind it. -/
def printed (name : String) (after : List Char) : Call :=
  ⟨none, "single".toList, some '_', "value".toList, [], none, name, none, after⟩

section
variable {name : String} (h : isPlainName name.toList) (after : List Char)

theorem text_singleValue (name : String) (after : List Char) :
    (Strategy.singleValue (name ++ String.ofList after)).text.toList =
      (printed name after).text := by
  change ("single_value(" ++ (name ++ String.ofList after) ++ ")").toList = _
  simp [printed, Call.text, Call.afterSingle, Call.inner, Call.afterName]

theorem trim_text_singleValue (name : String) (after : List Char) :
    (Text.trim (Strategy.singleValue (name ++ String.ofList after)).text).toList =
      (printed name after).text := by
  rw [Text.trim, String.toList_ofList, text_singleValue]
  refine Naming.strip_eq_self ?_ ?_
  · rintro x ⟨⟩
    rfl
  · have htext : (printed name after).text =
        "single_value(".toList ++ name.toList ++ after ++ [')'] := by
      simp [printed, Call.text, Call.afterSingle, Call.inner, Call.afterName]
    rw [htext, List.getLast?_concat]
    rintro x ⟨⟩
    rfl

include h

theorem formed_printed (hafter : ∀ x ∈ after, isBlank x) : (printed name after).Formed where
  dot := nofun
  single := spelled_words.1
  underscore := by
    rintro x ⟨⟩
    rfl
  value := spelled_words.2
  before := nofun
  opening := nofun
  name x hx := isBindingChar_of_isNameChar (Text.isNameChar_of_isPlainName h x hx)
  name_ne_empty := by
    rintro rfl
    cases h
  closing := nofun
  after := hafter

theorem containerOf_text_singleValue (hafter : ∀ x ∈ after, isBlank x) :
    containerOf (.str (Strategy.singleValue (name ++ String.ofList after)).text) =
      .ok (.singleValue name) := by
  rw [containerOf_call (formed_printed h after hafter) (trim_text_singleValue name after).symm]
  exact if_pos h

end

theorem containerOf_text_of_plain {name : String} (h : isPlainName name.toList) :
    containerOf (.str (Strategy.singleValue name).text) = .ok (.singleValue name) := by
  have hread := containerOf_text_singleValue h [] nofun
  rwa [String.ofList_nil, String.append_empty] at hread

/-- **What a strategy is printed as is read as the strategy.**  This holds of every strategy that
    was given as a text.  The printed form of one that was given as an object is read, too, but
    without the line feed that its property may end with. -/
theorem containerOf_printed :
    (∀ s st, containerOf (.str s) = .ok st → containerOf (.str st.text) = .ok st) ∧
    ∀ v st, containerOf v = .ok st → ∃ st', containerOf (.str st.text) = .ok st' ∧
      (st' = st ↔ ∀ b, st = .singleValue b → '\n' ∉ b.toList) := by
  constructor
  · intro s st h
    cases st with
    | keyed => rfl
    | singleValueForEnum => rfl
    | singleValue b =>
      obtain ⟨c, hc, rfl, -⟩ := exists_call_of_containerOf h
      exact containerOf_text_of_plain
        ((isAsciiIdentifier_name_iff hc).1 (isAsciiIdentifier_of_containerOf h))
  · intro v st h
    cases st with
    | keyed => exact ⟨_, rfl, iff_of_true rfl nofun⟩
    | singleValueForEnum => exact ⟨_, rfl, iff_of_true rfl nofun⟩
    | singleValue b =>
      rcases Text.isAsciiIdentifier_iff.1 (isAsciiIdentifier_of_containerOf h) with
        hplain | ⟨stem, hplain, rfl⟩
      · refine ⟨_, containerOf_text_of_plain hplain, iff_of_true rfl ?_⟩
        rintro b' ⟨⟩
        exact Text.lineFeed_notMem_of_isPlainName hplain
      · refine ⟨_, containerOf_text_singleValue hplain ['\n'] ?_, iff_of_false ?_ ?_⟩
        · intro x hx
          rw [List.mem_singleton.1 hx]
          rfl
        · intro heq
          have hfeed := Text.lineFeed_notMem_of_isPlainName hplain
          rw [Strategy.singleValue.inj heq] at hfeed
          exact hfeed (by simp)
        · intro hno
          exact hno _ rfl (by simp)

/-- A property in a call, and a property with a line feed in an object. -/
theorem containerOf_printed_count :
    containerOf (.str " .SINGLE_VALUE( count )") = .ok (.singleValue "count") ∧
    containerOf (.str "single_value(count)") = .ok (.singleValue "count") ∧
    containerOf (.obj [("singleValue", .str "count\n")]) = .ok (.singleValue "count\n") ∧
    ∃ st, containerOf (.str "single_value(count\n)") = .ok st ∧ st ≠ .singleValue "count\n" := by
  obtain ⟨htexts, hall⟩ := containerOf_printed
  have hcall : containerOf (.str " .SINGLE_VALUE( count )") = .ok (.singleValue "count") := by rfl
  have hobject : containerOf (.obj [("singleValue", .str "count\n")]) =
      .ok (.singleValue "count\n") := by rfl
  have htext : (Strategy.singleValue "count").text = "single_value(count)" := by rfl
  have htext' : (Strategy.singleValue "count\n").text = "single_value(count\n)" := by rfl
  have hread := htexts _ _ hcall
  obtain ⟨st, hst, hsame⟩ := hall _ _ hobject
  rw [htext] at hread
  rw [htext'] at hst
  exact ⟨hcall, hread, hobject, st, hst, fun heq => hsame.1 heq _ rfl (by decide)⟩

end CodecForge.CodingOptions
