/-
  CodecForge — line breaks in JSON texts.

  A carriage return in a string is written as an escape, and none is written beside strings, so
  a JSON text that a file holds is read as it was written.

  * `Format.NoReturn` says that a format puts no carriage returns between values, as
    `Format.indented` does;
  * `noReturn_write`: then there is none in the text of any value.
-/
import CodecForge.Proofs.Json.Escapes

namespace CodecForge

open Text

/-! ## Numbers -/

namespace Double

variable {ds : List Char}

theorem noReturn_exponentText (e : Int) : NoReturn (exponentText e) := by
  have hdigits := noReturn_repr e.natAbs
  unfold exponentText
  refine .append ?_ ?_
  · split <;> exact avoids_ofList rfl
  · split
    · exact Avoids.append (avoids_ofList rfl) hdigits
    · exact hdigits

theorem noReturn_positional (h : ∀ c ∈ ds, (c == '\r') = false) (point : Int) :
    NoReturn (positional ds point) := by
  have hzeros (n : Nat) : NoReturn (String.ofList (List.replicate n '0')) :=
    avoids_ofList_iff.2 fun c hc => by rw [List.eq_of_mem_replicate hc]; rfl
  have hds := avoids_ofList_iff.2 h
  unfold positional
  split
  · exact (Avoids.append (avoids_ofList rfl) (hzeros _)).append hds
  · split
    · exact ((avoids_take h _).text rfl).append (avoids_drop h _)
    · exact (hds.append (hzeros _)).text rfl

theorem noReturn_scientific (h : ∀ c ∈ ds, (c == '\r') = false) (point : Int) :
    NoReturn (scientific ds point) := by
  unfold scientific
  refine .append (.text (.append (avoids_take h 1) ?_) rfl) (noReturn_exponentText _)
  split
  · exact avoids_ofList rfl
  · exact Avoids.append (avoids_ofList rfl) (avoids_drop h 1)

theorem noReturn_signed {s : String} (h : NoReturn s) (neg : Bool) :
    NoReturn (if neg then "-" ++ s else s) := by
  split
  · exact Avoids.append (avoids_ofList rfl) h
  · exact h

theorem noReturn_text (x : Double) : NoReturn x.text := by
  unfold text
  cases x.magnitude? with
  | none =>
    dsimp only
    split
    · exact avoids_ofList rfl
    · split <;> exact avoids_ofList rfl
  | some p =>
    obtain ⟨m, e⟩ := p
    have hdigits : ∀ c ∈ (trimZeros (toString (decimalOf m e).1).toList (decimalOf m e).2).1,
        (c == '\r') = false := fun c hc =>
      noReturn_repr _ c ((isPrefix_dropEnd _ _).subset hc)
    refine noReturn_signed ?_ x.negative
    split
    · exact avoids_ofList rfl
    · dsimp only
      split
      · exact noReturn_positional hdigits _
      · exact noReturn_scientific hdigits _

end Double

namespace Json

theorem noReturn_int (n : Int) : NoReturn (toString n) := by
  cases n with
  | ofNat n => exact noReturn_repr n
  | negSucc n => exact Avoids.append (avoids_ofList rfl) (noReturn_repr (n + 1))

theorem noReturn_floatText (x : Double) : NoReturn (floatText x) := by
  unfold floatText
  split
  · exact avoids_ofList rfl
  · split
    · split <;> exact avoids_ofList rfl
    · exact x.noReturn_text

/-! ## Strings -/

theorem noReturn_stringLiteral (ascii : Bool) (s : String) : NoReturn (stringLiteral ascii s) :=
  (noControl_stringLiteral ascii s).imp fun _ hc => beq_iff_eq.1 hc ▸ rfl

/-! ## Values -/

/-- A format that puts no carriage returns between values. -/
structure Format.NoReturn (f : Format) : Prop where
  indent : ∀ unit ∈ f.indent?, Text.NoReturn unit
  itemSeparator : Text.NoReturn f.itemSeparator
  keySeparator : Text.NoReturn f.keySeparator

section
variable {f : Format} (hf : f.NoReturn)
include hf

theorem noReturn_break (level : Nat) : NoReturn (f.break level) := by
  unfold Format.break
  cases hindent : f.indent? with
  | none => exact avoids_ofList rfl
  | some unit =>
    refine Avoids.append (avoids_ofList rfl) (avoids_join fun x hx => ?_)
    rw [List.eq_of_mem_replicate hx]
    exact hf.indent unit hindent

theorem noReturn_bracketed (level : Nat) {opening closing : String} {items : List String}
    (hopening : NoReturn opening) (hclosing : NoReturn closing) (h : ∀ x ∈ items, NoReturn x) :
    NoReturn (f.bracketed level opening closing items) := by
  unfold Format.bracketed
  split
  · exact hopening.append hclosing
  · have hsep := hf.itemSeparator.append (noReturn_break hf (level + 1))
    exact (((hopening.append (noReturn_break hf _)).append (avoids_intercalate hsep h)).append
      (noReturn_break hf _)).append hclosing

end

mutual

theorem noReturn_writeAt {f : Format} (hf : f.NoReturn) (level : Nat) :
    ∀ v : Json, NoReturn (writeAt f level v)
  | .null => avoids_ofList rfl
  | .bool b => by cases b <;> exact avoids_ofList rfl
  | .int n => noReturn_int n
  | .float x => noReturn_floatText x
  | .str s => noReturn_stringLiteral f.ascii s
  | .arr xs => noReturn_bracketed hf level (avoids_ofList rfl) (avoids_ofList rfl)
      (noReturn_writeItems hf (level + 1) xs)
  | .obj es => noReturn_bracketed hf level (avoids_ofList rfl) (avoids_ofList rfl)
      (noReturn_writeEntries hf (level + 1) es)

theorem noReturn_writeItems {f : Format} (hf : f.NoReturn) (level : Nat) :
    ∀ xs : List Json, ∀ s ∈ writeItems f level xs, NoReturn s
  | [] => List.forall_mem_nil _
  | x :: xs => List.forall_mem_cons.2
      ⟨noReturn_writeAt hf level x, noReturn_writeItems hf level xs⟩

theorem noReturn_writeEntries {f : Format} (hf : f.NoReturn) (level : Nat) :
    ∀ es : List (String × Json), ∀ s ∈ writeEntries f level es, NoReturn s
  | [] => List.forall_mem_nil _
  | (k, v) :: es => by
    have hkey := (noReturn_stringLiteral f.ascii k).append hf.keySeparator
    exact List.forall_mem_cons.2
      ⟨hkey.append (noReturn_writeAt hf level v), noReturn_writeEntries hf level es⟩

end

end Json

end CodecForge
