import MarkupTree.Failure
import MarkupTree.Node.Basic

namespace MarkupTree

def Source.Node.summary (node : Source.Node) : Except Failure String :=
  match node.summary? with
  | some s => .ok s
  | none => .error (.notSequence (.ofOption node.payload.data))

def Node.summary (node : Node) : Except Failure String :=
  match node, node.summary? with
  | _, some s => .ok s
  | .literal _ _ value, none => .error (.notSequence value)
  | _, none => .error (.notSequence .null)

end MarkupTree
