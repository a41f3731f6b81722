import DocumentSearch.Main
import DocumentSearch.Memory.Recorder
import DocumentSearch.Metrics.Exposition
import DocumentSearch.Query.Acceptance
import DocumentSearch.Proofs.OrderedMap
import DocumentSearch.Proofs.Setters
import DocumentSearch.Proofs.Compilation
import DocumentSearch.Proofs.Acceptance
import DocumentSearch.Proofs.Isolation
import DocumentSearch.Proofs.Paths
import DocumentSearch.Proofs.Addressing
import DocumentSearch.Proofs.Payloads
import DocumentSearch.Proofs.Printing
import DocumentSearch.Proofs.Lines
import DocumentSearch.Proofs.Locality
import DocumentSearch.Proofs.Refusals
import DocumentSearch.Memory.Session
import DocumentSearch.Proofs.Store
import DocumentSearch.Proofs.ReservedName
import DocumentSearch.Proofs.Pages
import DocumentSearch.Proofs.History
import DocumentSearch.Proofs.MadeUpIds
import DocumentSearch.Proofs.Batches
import DocumentSearch.Proofs.Runs
import DocumentSearch.Proofs.Rotation
import DocumentSearch.Proofs.WholeNumbers
import DocumentSearch.Proofs.Accounts
import DocumentSearch.Proofs.Classification
import DocumentSearch.Proofs.PlannedFailures
import DocumentSearch.Proofs.Conditions
import DocumentSearch.Proofs.WireForms
import DocumentSearch.Proofs.ExactBounds
import DocumentSearch.Proofs.CommandLines
import DocumentSearch.Proofs.SearchCommand
import DocumentSearch.Proofs.Splitting
import DocumentSearch.Proofs.BatchPayloads
import DocumentSearch.Proofs.ConditionForms
import DocumentSearch.Proofs.Ranges
import DocumentSearch.Proofs.ItemReports
import DocumentSearch.Proofs.PrintedAnswers
import DocumentSearch.Proofs.FieldMappings
import DocumentSearch.Proofs.WriteReports
import DocumentSearch.Proofs.NamedHosts
