import MarkupTree.Value.Text

namespace MarkupTree

/-- A place in a text. Lines and columns count from 1, offsets from 0. -/
structure Point where
  line : Option Int
  column : Option Int
  offset : Option Int
  deriving DecidableEq, Repr, Inhabited

namespace Point

/-- Zero stands for an unknown line or column as much as a missing one. -/
def isKnown : Option Int → Bool
  | some n => n != 0
  | none => false

def known? (p : Point) : Option Point :=
  if isKnown p.line && isKnown p.column then some p else none

def literal (p : Point) : String :=
  s!"Point(line={(Value.ofInt? p.line).text}, column={(Value.ofInt? p.column).text}, " ++
    s!"offset={(Value.ofInt? p.offset).text})"

end Point

/-- The extent of a node, open at an end that is not known. -/
structure Position where
  start : Option Point
  finish : Option Point
  deriving DecidableEq, Repr, Inhabited

def Position.literal (p : Position) : String :=
  let side (q : Option Point) := (q.map Point.literal).getD "None"
  s!"Position(start={side p.start}, end={side p.finish})"

structure TagPositions where
  opening : Option Position
  closing : Option Position
  properties : Entries String (Option Position)
  deriving DecidableEq, Repr, Inhabited

def TagPositions.literal (t : TagPositions) : String :=
  let side (p : Option Position) := (p.map Position.literal).getD "None"
  s!"ElementPositions(opening={side t.opening}, closing={side t.closing}, " ++
    s!"properties={t.properties.length})"

/-- The two ends of a stretch of text as reported, which need not be known. -/
structure Span where
  start : Point
  finish : Point
  deriving DecidableEq, Repr, Inhabited

def Span.position? (s : Span) : Option Position :=
  match s.start.known?, s.finish.known? with
  | none, none => none
  | start, finish => some ⟨start, finish⟩

end MarkupTree
