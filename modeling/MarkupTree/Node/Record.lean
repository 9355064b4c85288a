import MarkupTree.Node.Basic

namespace MarkupTree

def Point.record (p : Point) : Value :=
  .record [("line", .ofInt? p.line), ("column", .ofInt? p.column), ("offset", .ofInt? p.offset)]

def Position.record (p : Position) : Value :=
  .record [("start", .ofOption (p.start.map Point.record)),
    ("end", .ofOption (p.finish.map Point.record))]

def TagPositions.record (t : TagPositions) : Value :=
  let side (p : Option Position) := Value.ofOption (p.map Position.record)
  .record [("opening", side t.opening), ("closing", side t.closing),
    ("properties", .record (t.properties.map fun p => (p.1, side p.2)))]

namespace Node

def fields (node : Node) : List (String × Value) :=
  ("type", .string node.typeName) ::
    ((node.position.map fun p => ("position", p.record)).toList ++
      match node with
      | root _ quirksMode _ => [("quirks_mode", .bool quirksMode)]
      | element _ tag _ _ =>
        [("tag_name", tag.name), ("attributes", .record tag.attributes)] ++
          (tag.positions.map fun t => ("positions", t.record)).toList
      | literal _ _ value => [("value", value)]
      | doctype _ => [])

mutual

/-- The tree as nested records: the node's own entries, then its children in order where it can
have some, then its content where it is set. -/
def record : Node → Value
  | root p quirksMode children =>
    .record (fields (root p quirksMode children) ++ [("children", .list (records children))])
  | element p tag children none =>
    .record (fields (element p tag children none) ++ [("children", .list (records children))])
  | element p tag children (some content) =>
    .record (fields (element p tag children (some content)) ++
      [("children", .list (records children)), ("content", record content)])
  | literal p kind value => .record (fields (literal p kind value))
  | doctype p => .record (fields (doctype p))

def records : List Node → List Value
  | [] => []
  | node :: rest => record node :: records rest

end

end Node

end MarkupTree
