/-!
# Source spans

Half-open byte ranges of the source text. A node that stands for no source text carries the dummy
span `[0, 0)`.
-/

namespace TypeGuard

/-- The half-open byte range `[start, stop)`. -/
structure Span where
  start : UInt32
  stop : UInt32
  deriving DecidableEq, Repr, Inhabited

namespace Span

/-- The span of a node that stands for no source text. -/
def dummy : Span := ⟨0, 0⟩

def isDummy (s : Span) : Bool := s == dummy

/-- The number of bytes covered; a range that runs backwards covers none. -/
def length (s : Span) : UInt32 := if s.start ≤ s.stop then s.stop - s.start else 0

def isEmpty (s : Span) : Bool := s.length == 0

/-- The smallest span that covers both, where a dummy span covers nothing. -/
def cover (s t : Span) : Span :=
  if s.isDummy then t
  else if t.isDummy then s
  else ⟨min s.start t.start, max s.stop t.stop⟩

/-- This span, or the other one where this one is the dummy. -/
def orElse (s t : Span) : Span := if s.isDummy then t else s

end Span

end TypeGuard
