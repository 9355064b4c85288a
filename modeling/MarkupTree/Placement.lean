import MarkupTree.Node.Basic
import MarkupTree.Schema.Standard
import MarkupTree.Source.Location

namespace MarkupTree

open Source (Location)

def lastEnd? (nodes : List Node) : Option Point :=
  nodes.getLast?.bind fun node => node.position.bind Position.finish

/-- Parsers do not know where an element without end tag ends, so the end of its last child takes
the place of theirs. -/
def repairEnd (endTag : Option Span) (children : List Node) (p : Position) : Position :=
  match endTag, lastEnd? children with
  | none, some finish => { p with finish := some finish }
  | _, _ => p

def tagPositions (space : Space) (location : Option Location) : TagPositions :=
  let spanPosition (s : Option Span) := s.bind Span.position?
  { opening := spanPosition (location.bind Location.startTag)
    closing := spanPosition (location.bind Location.endTag)
    properties := Entries.ofList <|
      ((location.map Location.attributes).getD []).map fun (name, s) =>
        (((Schema.ofSpace space).resolve name).property, spanPosition s) }

/-- The position of a converted node by the location of its source. An element also takes the
positions of its tags if `verbose` is set. -/
def Node.place (space : Space) (verbose : Bool) (location : Option Location) (node : Node) :
    Option Position × Node :=
  let position := location.bind fun l => l.toSpan.position?
  match node with
  | .element p tag children content =>
    let tag := if verbose then { tag with positions := some (tagPositions space location) } else tag
    (position.map (repairEnd (location.bind Location.endTag) children),
      .element p tag children content)
  | node => (position, node)

end MarkupTree
