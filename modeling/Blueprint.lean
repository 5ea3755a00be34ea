import Blueprint.Analysis
import Blueprint.Audit.Basic
import Blueprint.Document.Basic
import Blueprint.Proofs.BreadthFirst
import Blueprint.Proofs.Loop
import Blueprint.Proofs.FirstLoop
import Blueprint.Proofs.Looping
import Blueprint.Proofs.Components
import Blueprint.Proofs.ComponentRuns
import Blueprint.Proofs.Control
import Blueprint.Proofs.Inspection
import Blueprint.Proofs.Equality
import Blueprint.Proofs.Settle
import Blueprint.Proofs.Execution
import Blueprint.Proofs.Resolved
import Blueprint.Proofs.Recursion
import Blueprint.Proofs.Reordered
import Blueprint.Proofs.InspectionOrder
import Blueprint.Proofs.PreviewOrder
import Blueprint.Proofs.ProgramPreview
import Blueprint.Proofs.Candidates
import Blueprint.Proofs.Yields
import Blueprint.Proofs.LegalEdges
import Blueprint.Proofs.IssueReferences
import Blueprint.Proofs.Agreement
import Blueprint.Proofs.ControlFindings
import Blueprint.Proofs.Snapshots
import Blueprint.Proofs.Unnest
import Blueprint.Proofs.Reading
import Blueprint.Proofs.Writing
import Blueprint.Proofs.ProgramDocuments
import Blueprint.Proofs.Grammar
import Blueprint.Proofs.SnakeCase
import Blueprint.Proofs.Spelling
import Blueprint.Proofs.Extension
import Blueprint.Proofs.RuleFindings
import Blueprint.Proofs.Slice
import Blueprint.Proofs.DuplicateEdges
import Blueprint.Proofs.Registration
import Blueprint.Proofs.LastEntry
import Blueprint.Proofs.SettingNames
import Blueprint.Proofs.Warnings
import Blueprint.Proofs.CodeAudit
