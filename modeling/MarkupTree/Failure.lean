import MarkupTree.Source.Node

namespace MarkupTree

inductive Failure where
  /-- No rule converts nodes of this kind. -/
  | unsupportedKind (node : Source.Node)
  /-- A value with parts stands where a key is looked up. -/
  | notKey (value : Value)
  /-- A parsed object lacks a field that a rule needs. -/
  | missingField (name : String)
  /-- A rule needs a text and finds another value. -/
  | notText (value : Value)
  /-- A value without characters was to be shown in part. -/
  | notSequence (value : Value)
  /-- The two parts of a qualified name cannot be joined. -/
  | notQualified (qualifier name : Value)
  | emptyTag
  | notChild (value : Value)
  | unknownSpace (value : Value)
  | notOptions (value : Value)
  | unknownOption (name : String)
  /-- A context never changes. -/
  | fixedContext (field : String)
  /-- A workspace holds nothing of this name. -/
  | unknownName (name : String)
  deriving Inhabited

namespace Failure

def message? : Failure → Option String
  | unsupportedKind node => some s!"Unsupported node kind: {node.kind.literal}"
  | emptyTag => some "Empty tag_name passed to element builder"
  | notChild v => some s!"Expected node, nodes, or string, got {v.typeName}"
  | unknownSpace v => some s!"Unknown space {v.literal}, expected 'html' or 'svg'"
  | notOptions v => some s!"Expected TransformOpts, SourceFile, dict or None, got {v.typeName}"
  | fixedContext field =>
    some ("Context is immutable; use with_schema() to derive a new one " ++
      s!"(tried to set {Text.quoted field})")
  | _ => none

end Failure

end MarkupTree
