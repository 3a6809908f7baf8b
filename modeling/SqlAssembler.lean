import SqlAssembler.Builder.Delete
import SqlAssembler.Builder.Insert
import SqlAssembler.Builder.Update
import SqlAssembler.Execution.Running
import SqlAssembler.Main
import SqlAssembler.Proofs.Aggregates.Source
import SqlAssembler.Proofs.Calls.Levels
import SqlAssembler.Proofs.Calls.Positions
import SqlAssembler.Proofs.Calls.Tails
import SqlAssembler.Proofs.Clauses.Basic
import SqlAssembler.Proofs.Clauses.Order
import SqlAssembler.Proofs.Clauses.Projections
import SqlAssembler.Proofs.CommandLine.Spellings
import SqlAssembler.Proofs.Conditions.Agreement
import SqlAssembler.Proofs.Conditions.Groups
import SqlAssembler.Proofs.Conditions.Recorded
import SqlAssembler.Proofs.Connections.Account
import SqlAssembler.Proofs.Connections.History
import SqlAssembler.Proofs.Connections.Routing
import SqlAssembler.Proofs.Containment.Calls
import SqlAssembler.Proofs.Containment.Columns
import SqlAssembler.Proofs.Containment.Conditions
import SqlAssembler.Proofs.Containment.Outside
import SqlAssembler.Proofs.Containment.Scripts
import SqlAssembler.Proofs.Deletions.Guard
import SqlAssembler.Proofs.Grammar.Columns
import SqlAssembler.Proofs.Grammar.Distinct
import SqlAssembler.Proofs.Grammar.Extractions
import SqlAssembler.Proofs.Grammar.Identifiers
import SqlAssembler.Proofs.Grammar.Names
import SqlAssembler.Proofs.Grammar.PlainColumns
import SqlAssembler.Proofs.Grammar.Unclosed
import SqlAssembler.Proofs.Influence.Alike
import SqlAssembler.Proofs.Influence.Scripts
import SqlAssembler.Proofs.Lines.Breaks
import SqlAssembler.Proofs.Lines.Clauses
import SqlAssembler.Proofs.Lines.Output
import SqlAssembler.Proofs.Lines.QueryFiles
import SqlAssembler.Proofs.Lines.Values
import SqlAssembler.Proofs.Literals.Closed
import SqlAssembler.Proofs.Literals.Reference
import SqlAssembler.Proofs.Literals.Simulation
import SqlAssembler.Proofs.Literals.Substitution
import SqlAssembler.Proofs.Markers.Calls
import SqlAssembler.Proofs.Markers.Count
import SqlAssembler.Proofs.Markers.Fragments
import SqlAssembler.Proofs.Markers.Neutral
import SqlAssembler.Proofs.Markers.Scripts
import SqlAssembler.Proofs.Paging.Pages
import SqlAssembler.Proofs.Patterns.Matching
import SqlAssembler.Proofs.Patterns.Parts
import SqlAssembler.Proofs.Qualification.Clauses
import SqlAssembler.Proofs.Qualification.Columns
import SqlAssembler.Proofs.Qualification.Runs
import SqlAssembler.Proofs.QueryFiles.Arrays
import SqlAssembler.Proofs.QueryFiles.Conditions
import SqlAssembler.Proofs.Refusals.Scripts
import SqlAssembler.Proofs.Results
import SqlAssembler.Proofs.Rows.Blocked
import SqlAssembler.Proofs.Rows.Containers
import SqlAssembler.Proofs.Rows.Documents
import SqlAssembler.Proofs.Rows.Indexes
import SqlAssembler.Proofs.Rows.Labels
import SqlAssembler.Proofs.Rows.Losses
import SqlAssembler.Proofs.Rows.Moving
import SqlAssembler.Proofs.Rows.Nested
import SqlAssembler.Proofs.Rows.Paths
import SqlAssembler.Proofs.Rows.Placements
import SqlAssembler.Proofs.Rows.Untouched
import SqlAssembler.Proofs.Running.Terminals
import SqlAssembler.Proofs.Scripts.Basic
import SqlAssembler.Proofs.Scripts.Recorded
import SqlAssembler.Proofs.Scripts.Values
import SqlAssembler.Proofs.Scripts.Written
import SqlAssembler.Proofs.Tables.Changes
import SqlAssembler.Proofs.Tables.Owners
