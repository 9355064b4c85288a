import MarkupTree.Conversion.Recursive
import MarkupTree.Node.Worklist
import MarkupTree.Workspace
import MarkupTree.Proofs.Source.Tree
import MarkupTree.Proofs.Conversion.Recursion
import MarkupTree.Proofs.Construction.Spelling
import MarkupTree.Proofs.Node.Preorder
import MarkupTree.Proofs.Conversion.Admission
import MarkupTree.Proofs.Conversion.Steps
import MarkupTree.Proofs.Construction.Building
import MarkupTree.Proofs.Conversion.Rules
import MarkupTree.Proofs.Conversion.Survival
import MarkupTree.Proofs.Entries
import MarkupTree.Proofs.Construction.Attributes
import MarkupTree.Proofs.Conversion.Duplicates
import MarkupTree.Proofs.Conversion.Diagnostics
import MarkupTree.Proofs.Conversion.Refusal
import MarkupTree.Proofs.Position
import MarkupTree.Proofs.LineIndex.Search
import MarkupTree.Proofs.LineIndex.Lines
import MarkupTree.Proofs.LineIndex.Inverse
import MarkupTree.Proofs.Conversion.Locating
import MarkupTree.Proofs.Conversion.Located
import MarkupTree.Proofs.Conversion.Induction
import MarkupTree.Proofs.Conversion.RootPosition
import MarkupTree.Proofs.Conversion.Positions
import MarkupTree.Proofs.Conversion.Soundness
import MarkupTree.Proofs.Conversion.ContentPosition
import MarkupTree.Proofs.Conversion.Space
import MarkupTree.Proofs.Conversion.Independence
import MarkupTree.Proofs.Conversion.Address
import MarkupTree.Proofs.Conversion.ContextFree
import MarkupTree.Proofs.Node.Erasure
import MarkupTree.Proofs.Conversion.Simulation
import MarkupTree.Proofs.Conversion.Stripping
import MarkupTree.Proofs.Conversion.Additions
import MarkupTree.Proofs.Workspace.Reuse
import MarkupTree.Proofs.Conversion.Indifference
import MarkupTree.Proofs.Conversion.Tags
import MarkupTree.Proofs.Conversion.Templates
import MarkupTree.Proofs.Workspace.Isolation
import MarkupTree.Proofs.Conversion.Nesting
import MarkupTree.Proofs.LineIndex.Reading
import MarkupTree.Proofs.Node.Record
import MarkupTree.Proofs.Node.Sheet
import MarkupTree.Proofs.Value.Equality
import MarkupTree.Proofs.Node.Agreement
import MarkupTree.Proofs.Conversion.Moments
import MarkupTree.Proofs.Conversion.Lookups
import MarkupTree.Proofs.Workspace.Lookups
import MarkupTree.Proofs.Conversion.Arrival
import MarkupTree.Proofs.Conversion.ContentSpan
import MarkupTree.Proofs.Conversion.Repair
import MarkupTree.Proofs.Schema.Scan
import MarkupTree.Proofs.Schema.Names
import MarkupTree.Proofs.Schema.CaseForms
import MarkupTree.Proofs.Schema.DataNames
import MarkupTree.Proofs.Schema.DataClashes
import MarkupTree.Proofs.Schema.Consultation
import MarkupTree.Proofs.Schema.KnownNames
import MarkupTree.Proofs.Schema.Canonical
import MarkupTree.Proofs.Conversion.PlacedAttributes
import MarkupTree.Proofs.Conversion.AttributeOrder
import MarkupTree.Proofs.Construction.Rebuilding
import MarkupTree.Proofs.Conversion.Stack
import MarkupTree.Proofs.Conversion.UnclosedTemplates
import MarkupTree.Proofs.Conversion.Termination
import MarkupTree.Proofs.LineIndex.Bounds
