import MarkupTree.Position

namespace MarkupTree

def Span.literal (s : Span) : String :=
  let n (x : Option Int) := (Value.ofInt? x).text
  s!"Location({n s.start.line}:{n s.start.column}-{n s.finish.line}:{n s.finish.column}, " ++
    s!"offsets={n s.start.offset}-{n s.finish.offset})"

namespace Source

structure Location extends Span where
  startTag : Option Span
  endTag : Option Span
  attributes : Entries String (Option Span)
  deriving DecidableEq, Repr, Inhabited

end Source

end MarkupTree
