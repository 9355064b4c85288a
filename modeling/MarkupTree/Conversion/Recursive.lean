import MarkupTree.Conversion.Traversal

namespace MarkupTree

mutual

/-- The same conversion by recursion on the tree: enter the node, convert its children from left
to right and then its content, and complete it. -/
def convertNode (context : Context) : Source.Node → Run → Outcome Node
  | .mk form payload children content, run =>
    let node := Source.Node.mk form payload children content
    match Admission.of context node with
    | .error failure =>
      let (failure, run) := run.refuse context failure
      (.error failure, run)
    | .ok admission =>
      match convertNodes admission.context children run with
      | (.error failure, run) => (.error failure, run)
      | (.ok children, run) =>
        if admission.content.isSome then
          match convertContent admission.context content run with
          | (.error failure, run) => (.error failure, run)
          | (.ok content, run) => admission.complete node children content run
        else admission.complete node children none run

def convertNodes (context : Context) : List Source.Node → Run → Outcome (List Node)
  | [], run => (.ok [], run)
  | source :: rest, run =>
    match convertNode context source run with
    | (.error failure, run) => (.error failure, run)
    | (.ok node, run) =>
      match convertNodes context rest run with
      | (.error failure, run) => (.error failure, run)
      | (.ok nodes, run) => (.ok (node :: nodes), run)

def convertContent (context : Context) : Option Source.Node → Run → Outcome (Option Node)
  | none, run => (.ok none, run)
  | some content, run =>
    match convertNode context content run with
    | (.error failure, run) => (.error failure, run)
    | (.ok node, run) => (.ok (some node), run)

end

end MarkupTree
