import MarkupTree.Context
import MarkupTree.LineIndex
import MarkupTree.Summary

namespace MarkupTree

inductive Channel where
  | conversion
  | rules
  deriving DecidableEq, Repr, Inhabited

structure LogEntry where
  channel : Channel
  message : String
  deriving DecidableEq, Repr, Inhabited

/-- What changes while trees are converted: whether a node was placed since the start of the
conversion, the line index that was made since then, the messages of the file, and the log where
one is kept. -/
structure Run where
  located : Bool
  index : Option LineIndex
  messages : List Diagnostic
  log : Option (Array LogEntry)
  deriving Inhabited

/-- The outcome of a step, which changes the run whether it fails or not. -/
abbrev Outcome (α : Type) := Except Failure α × Run

namespace Run

def fresh (options : Options File) (logging : Bool) : Run :=
  ⟨false, none, ((options.file.map File.messages).getD []), if logging then some #[] else none⟩

def restart (run : Run) : Run := { run with located := false, index := none }

/-- A message is made only where a log is kept. The handler of the log lets errors through, so one
that cannot be made fails the step. -/
def note (run : Run) (channel : Channel) (message : Except Failure String) : Except Failure Run :=
  match run.log, message with
  | none, _ => .ok run
  | some _, .error failure => .error failure
  | some log, .ok message => .ok { run with log := some (log.push ⟨channel, message⟩) }

/-- The line index of the text, which is made at the first use. Without a file the text is that of
a missing value. -/
def lineIndex (run : Run) (text : Option String) : LineIndex × Run :=
  match run.index with
  | some index => (index, run)
  | none =>
    let index := LineIndex.ofText (text.getD "None")
    (index, { run with index := some index })

def unsupported (node : Source.Node) : Diagnostic :=
  let start := node.location.map fun l => l.start
  { reason := s!"Unsupported node kind: {node.kind.literal}"
    line := .ofInt? (start.bind Point.line)
    column := .ofInt? (start.bind Point.column)
    rule := .string "unsupported-node-kind"
    fatal := true }

def refuse (context : Context) (failure : Failure) (run : Run) : Failure × Run :=
  match failure with
  | .unsupportedKind node =>
    let message := node.summary.map fun s => s!"Unsupported node kind {node.kind.literal}: {s}"
    match run.note .conversion message with
    | .error failure => (failure, run)
    | .ok run =>
      (failure,
        if context.text.isSome then { run with messages := run.messages ++ [unsupported node] }
        else run)
  | _ => (failure, run)

end Run

end MarkupTree
