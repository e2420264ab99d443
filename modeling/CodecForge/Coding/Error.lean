/-
  CodecForge — errors of encoding and decoding.

  A `CodingError` has a cause and the path of the value at fault.  Whatever else
  can go wrong on the way, because of a value that does not fit an operation, is
  a `Failure` of another kind, which no union catches.
-/
import CodecForge.Coding.Hint

namespace CodecForge.Coding

/-- What is wrong with a value. -/
inductive Cause where
  /-- no way is known to write a value of this class -/
  | noCodec (className : String)
  | unencodable (shown : String)
  | described (description : String)
  | notContainer (key : String)
  | holdsSingleValue
  | holdsValue
  | keyNotFound (key : String)
  | valueNotFound (expected : String)
  | typeMismatch (expected found : String)
  | corrupted (description : String)
deriving DecidableEq, Repr

/-- The kinds of errors. -/
inductive ErrorKind where
  | encoding
  | keyNotFound
  | valueNotFound
  | typeMismatch
  | dataCorrupted
deriving DecidableEq, Repr

namespace Cause

def kind : Cause → ErrorKind
  | keyNotFound _ => .keyNotFound
  | valueNotFound _ => .valueNotFound
  | typeMismatch _ _ => .typeMismatch
  | corrupted _ => .dataCorrupted
  | _ => .encoding

/-- The words for a cause. -/
def description : Cause → String
  | noCodec c => s!"No codec registered for {c}"
  | unencodable shown => s!"Cannot encode {shown}"
  | described text => text
  | notContainer key => s!"Key '{key}' already holds a value that is not a container"
  | holdsSingleValue => "Encoder already holds a single value"
  | holdsValue => "Encoder already holds a value"
  | keyNotFound key => s!"No value associated with key '{key}'"
  | valueNotFound expected => s!"Expected {expected} but found null"
  | typeMismatch expected found => s!"Expected {expected} but found {found}"
  | corrupted text => text

end Cause

/-- An error at a value. -/
structure CodingError where
  cause : Cause
  path : CodingPath
deriving DecidableEq, Repr

namespace CodingError

def kind (e : CodingError) : ErrorKind := e.cause.kind

/-- Whether the error was met in reading. -/
def isDecoding (e : CodingError) : Bool := e.kind ≠ .encoding

/-- A path as messages show it. -/
def pathText (p : CodingPath) : String := if p.isEmpty then "<root>" else ".".intercalate p

/-- The text of an error. -/
def message (e : CodingError) : String := s!"{e.cause.description} (at {pathText e.path})"

end CodingError

/-- Why an operation on values failed. -/
inductive Failure where
  | coding (e : CodingError)
  /-- a value that may change cannot be an element of a set -/
  | unhashable
  /-- a set that has no implementation -/
  | abstractSet
  /-- an integer that no float comes near to -/
  | tooLarge
  /-- a value does not have what is asked of it -/
  | noAttribute
  /-- an operation does not take such a value -/
  | badOperand
  /-- a value outside those that are possible -/
  | badValue
  /-- codecs that call each other without end -/
  | tooDeep
deriving DecidableEq, Repr

/-- A failure with a cause at a path. -/
def Failure.at (cause : Cause) (path : CodingPath) : Failure := .coding ⟨cause, path⟩

/-- Whether the failure is an error met in reading. -/
def Failure.isDecoding : Failure → Bool
  | .coding e => e.isDecoding
  | _ => false

/-- The error for a value that cannot be written, with a description unless that
    is empty. -/
def invalidValue (v : Value) (path : CodingPath) (description : Option String) : CodingError :=
  match description.filter (!·.isEmpty) with
  | some text => ⟨.described text, path⟩
  | none => ⟨.unencodable v.shown, path⟩

end CodecForge.Coding
