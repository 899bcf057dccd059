/-! Sets of characters written as evenly spaced runs of code points, the form in which the
character classes of this library keep what the Unicode standard says beyond ASCII. -/
namespace FormScript.Text

/-- The code points `first`, `first + stride`, and so on up to `last`. -/
structure Span where
  first : Nat
  last : Nat
  stride : Nat
  deriving DecidableEq, Repr

def Span.contains (s : Span) (n : Nat) : Bool :=
  decide (s.first ≤ n) && decide (n ≤ s.last) && (n - s.first) % s.stride == 0

def inSpans (spans : List Span) (c : Char) : Bool :=
  spans.any (·.contains c.toNat)

end FormScript.Text
