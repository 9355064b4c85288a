import MarkupTree.Construction
import MarkupTree.Conversion.Run
import MarkupTree.Placement

namespace MarkupTree

inductive Rule where
  | root
  | text
  | comment
  | doctype
  | element
  deriving DecidableEq, Repr, Inhabited

namespace Rule

def ofKind? : Value → Option Rule
  | .string "document" => some root
  | .string "fragment" => some root
  | .string "text" => some text
  | .string "comment" => some comment
  | .string "doctype" => some doctype
  | .string "element" => some element
  | _ => none

def ofNode (node : Source.Node) : Except Failure Rule :=
  if node.kind.isKey then
    match ofKind? node.kind with
    | some rule => .ok rule
    | none => .error (.unsupportedKind node)
  else .error (.notKey node.kind)

end Rule

namespace Source.Node

def space (node : Source.Node) : Space :=
  match node.payload.space with
  | .string uri => if uri = svgNamespace then .svg else .html
  | _ => .html

def inQuirksMode (node : Source.Node) : Bool :=
  match node.payload.mode with
  | .string mode => mode = "quirks" || mode = "limited-quirks"
  | _ => false

def namesTemplate (node : Source.Node) : Except Failure Bool :=
  let name := Value.ofOption node.payload.tagName
  if name.truthy then
    match name with
    | .string s => .ok (Text.lowercase s == "template")
    | v => .error (.notText v)
  else .ok false

/-- The separate tree below a node, if it is to be converted. -/
def templateContent (node : Source.Node) (rule : Rule) : Except Failure (Option Source.Node) :=
  match rule, node.content? with
  | .element, some content =>
    node.namesTemplate.map fun isTemplate => if isTemplate then some content else none
  | _, _ => .ok none

end Source.Node

structure Admission where
  rule : Rule
  context : Context
  content : Option Source.Node
  deriving Inhabited

/-- The space of an element is that of its own namespace. Other nodes leave it as it is. -/
def Admission.of (context : Context) (node : Source.Node) : Except Failure Admission := do
  let rule ← Rule.ofNode node
  let content ← node.templateContent rule
  let context := if rule = .element then context.inSpace node.space else context
  return ⟨rule, context, content⟩

def need (name : String) (field : Option Value) : Except Failure Value :=
  match field with
  | some v => .ok v
  | none => .error (.missingField name)

def qualify (qualifier name : Value) : Except Failure Value :=
  if qualifier.truthy then
    match qualifier, name with
    | .string q, .string n => .ok (.string (q ++ ":" ++ n))
    | q, n => .error (.notQualified q n)
  else .ok name

def Source.Attribute.entry (a : Source.Attribute) : Except Failure (Value × Value) := do
  let name ← need "name" a.name
  let qualifier ← need "prefix" a.qualifier
  let qualified ← qualify qualifier name
  let value ← need "value" a.value
  if qualified.isKey then return (qualified, value) else throw (.notKey qualified)

/-- Attributes under their qualified names. Of two with the same name the later value counts. -/
def readAttributes (done : Entries Value Value) :
    List Source.Attribute → Except Failure (Entries Value Value)
  | [] => .ok done
  | a :: rest => do
    let (name, value) ← a.entry
    readAttributes (Entries.put name value done) rest

/-- The text of a comment that stands for a CDATA section. -/
def sectionText? (data : List Char) : Option (List Char) :=
  if "[CDATA[".toList.isPrefixOf data && "]]".toList.isSuffixOf data then
    some ((data.take (data.length - 2)).drop 7)
  else none

/-- What lies between the tags of a template, if both have a place and one inner end is known. -/
def contentPosition? (location : Option Source.Location) : Option Position :=
  match location.bind fun l => l.startTag.bind Span.position?,
    location.bind fun l => l.endTag.bind Span.position? with
  | some opening, some closing =>
    if opening.finish.isSome || closing.start.isSome then
      some ⟨opening.finish, closing.start⟩
    else none
  | _, _ => none

def Node.attachContent (hasFile : Bool) (location : Option Source.Location) (content : Option Node)
    (node : Node) : Node :=
  match node, content with
  | .element p ⟨.string "template", attributes, positions⟩ children _, some content =>
    let placed := if hasFile then contentPosition? location else none
    let content := match placed with
      | some position => content.withPosition (some position)
      | none => content
    .element p ⟨.string "template", attributes, positions⟩ children (some content)
  | node, _ => node

namespace Rule

/-- A root that stands for a located document spans the whole text. -/
def convertRoot (context : Context) (node : Source.Node) (children : List Node) (run : Run) :
    Node × Run :=
  if context.text.isSome && run.located then
    let (index, run) := run.lineIndex context.text
    let position : Position := ⟨index.toPoint (some 0), index.toPoint (some index.length)⟩
    (.root (some position) node.inQuirksMode children, run)
  else (.root none node.inQuirksMode children, run)

def convertComment (node : Source.Node) (run : Run) : Outcome Node :=
  match need "data" node.payload.data with
  | .error failure => (.error failure, run)
  | .ok (.string data) =>
    match sectionText? data.toList with
    | none => (.ok (.literal none .comment (.string data)), run)
    | some inner =>
      match run.note .rules (.ok "CommentHandler: comment reclassified as cdata") with
      | .error failure => (.error failure, run)
      | .ok run => (.ok (.literal none .cdata (.string (String.ofList inner))), run)
  | .ok v => (.error (.notText v), run)

def convertElement (context : Context) (node : Source.Node) (children : List Node)
    (content : Option Node) : Except Failure Node := do
  let attributes ← readAttributes [] node.payload.attributes
  let name ← need "tag_name" node.payload.tagName
  let element ← Node.build context.space name attributes (children.map Child.node)
  return element.attachContent context.text.isSome node.location content

/-- The converted node, before it gets its own position. -/
def convert (rule : Rule) (context : Context) (node : Source.Node) (children : List Node)
    (content : Option Node) (run : Run) : Outcome Node :=
  match rule with
  | root =>
    let (result, run) := convertRoot context node children run
    (.ok result, run)
  | text => ((need "data" node.payload.data).map (.literal none .text), run)
  | comment => convertComment node run
  | doctype => (.ok (.doctype none), run)
  | element => (convertElement context node children content, run)

end Rule

def locate (context : Context) (location : Option Source.Location) (node : Node) (run : Run) :
    Node × Run :=
  if location.isSome && context.text.isSome then
    match node.place context.space context.verbose.truthy location with
    | (none, node) => (node, run)
    | (position, node) => (node.withPosition position, { run with located := true })
  else (node, run)

def Admission.complete (a : Admission) (node : Source.Node) (children : List Node)
    (content : Option Node) (run : Run) : Outcome Node :=
  match a.rule.convert a.context node children content run with
  | (.error failure, run) => (.error failure, run)
  | (.ok result, run) =>
    let (result, run) := locate a.context node.location result run
    (.ok result, run)

end MarkupTree
