import Mathlib.Algebra.Group.Int

/-! Go values the toolkit's code computes with: `int64` arithmetic, which wraps around, and
`error` values, as far as the toolkit creates and inspects them. -/

namespace ToolKit

/-- Two's-complement wrap onto `int64`, the result of Go's `+`, `-` and `*` on `int64` operands
(and so on `time.Duration`). -/
def wrapInt64 (x : Int) : Int := (x + 2 ^ 63) % 2 ^ 64 - 2 ^ 63

def InInt64 (x : Int) : Prop := -2 ^ 63 ≤ x ∧ x < 2 ^ 63

theorem wrapInt64_inInt64 (x : Int) : InInt64 (wrapInt64 x) := by
  unfold InInt64 wrapInt64
  omega

theorem wrapInt64_of_inInt64 {x : Int} (h : InInt64 x) : wrapInt64 x = x := by
  unfold InInt64 at h
  unfold wrapInt64
  omega

/-- A Go `string` is a sequence of bytes, indexed and sliced byte by byte; a string literal is
the UTF-8 encoding of its text. -/
def goString (s : String) : List UInt8 := s.data.flatMap String.utf8EncodeChar

/-- Go `error` values: one returned by caller-supplied code, a value implementing `net.Error`
(such as a `*net.OpError` or a `*url.Error`), `context.Canceled`, and the values `fmt.Errorf`
builds, without a `%w` verb or with one wrapping a non-nil error. A `%w` of a nil error unwraps
to nil, as a `text` does. -/
inductive GoError
  | user (id : Nat)
  | net (temporary timeout : Bool)
  | canceled
  | text (message : String)
  | wrapped (message : String) (cause : GoError)
  deriving DecidableEq, Repr

/-- `errors.Unwrap`. -/
def GoError.unwrap : GoError → Option GoError
  | .wrapped _ cause => some cause
  | _ => none

/-- `errors.Is(e, target)` for a comparable `target`: `e` or an error in its unwrap chain is
`target`. -/
def GoError.is : GoError → GoError → Bool
  | e@(.wrapped _ cause), target => e == target || cause.is target
  | e, target => e == target

end ToolKit
