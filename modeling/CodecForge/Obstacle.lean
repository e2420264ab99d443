/-
  CodecForge — what stops reading and writing from outside.

  Some texts and paths are beyond the limits of reading.  No error of this library
  describes that; an `Obstacle` is passed on as it is.

  * `Obstacle.ofRead?` tells the flaws of a text, which are described, from the
    limits;
  * `Json.BeyondLimits` says of a text that reading it stops at a limit.
-/
import CodecForge.Files
import CodecForge.Json.Reader

namespace CodecForge

/-- What stops a program without an error of its own. -/
inductive Obstacle where
  /-- an integer is too long, or values are nested too deep -/
  | text (e : Json.ReadError)
  /-- the system does not take a path -/
  | system (e : SystemError)
  /-- the host of a URL is none -/
  | host
  /-- there is no answer to read the status from -/
  | noAnswer
deriving DecidableEq, Repr

namespace Obstacle

/-- The words for an obstacle. -/
def message : Obstacle → String
  | text e => e.message
  | system e => e.message
  | host => "Invalid URL"
  | noAnswer => "'NoneType' object has no attribute 'status_code'"

/-- The obstacle in an error of reading, unless that is a flaw of the text. -/
def ofRead? : Json.ReadError → Option Obstacle
  | .flaw .. => none
  | e => some (text e)

end Obstacle

/-- A text that is not read because an integer in it is too long, or values in it are
    nested too deep. -/
def Json.BeyondLimits (text : String) : Prop :=
  (∃ digits, Json.read text = .error (.longInteger digits)) ∨
    ∃ h, Json.read text = .error (.tooDeep h)

theorem Json.BeyondLimits.read_ne_ok {text : String} (h : Json.BeyondLimits text) (v : Json) :
    Json.read text ≠ .ok v := by
  rcases h with ⟨_, h⟩ | ⟨_, h⟩ <;> rw [h] <;> nofun

/-- A text that is not read has a flaw or is beyond the limits. -/
theorem Obstacle.ofRead?_of_read {text : String} {e : Json.ReadError}
    (h : Json.read text = .error e) :
    (Obstacle.ofRead? e = none ∧ ¬ Json.BeyondLimits text) ∨
      (Obstacle.ofRead? e = some (.text e) ∧ Json.BeyondLimits text) := by
  unfold Json.BeyondLimits
  rw [h]
  cases e with
  | flaw f line column position => exact .inl ⟨rfl, by simp⟩
  | longInteger digits => exact .inr ⟨rfl, .inl ⟨digits, rfl⟩⟩
  | tooDeep holder => exact .inr ⟨rfl, .inr ⟨holder, rfl⟩⟩

end CodecForge
