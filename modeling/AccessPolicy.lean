import AccessPolicy.Interceptor
import AccessPolicy.Main
import AccessPolicy.Session
import AccessPolicy.Stored.Counters
import AccessPolicy.Proofs.Lookup
import AccessPolicy.Proofs.Census
import AccessPolicy.Proofs.Building
import AccessPolicy.Proofs.Resolution
import AccessPolicy.Proofs.Resuming
import AccessPolicy.Proofs.Calls
import AccessPolicy.Proofs.Runs
import AccessPolicy.Proofs.Bookkeeping
import AccessPolicy.Proofs.Verdicts
import AccessPolicy.Proofs.Inheritance
import AccessPolicy.Proofs.Totals
import AccessPolicy.Proofs.Reporting
import AccessPolicy.Proofs.Failures
import AccessPolicy.Proofs.Retirement
import AccessPolicy.Proofs.Determinacy
import AccessPolicy.Proofs.Activity
import AccessPolicy.Proofs.Reentrancy
import AccessPolicy.Proofs.Lockstep
import AccessPolicy.Proofs.Modes
import AccessPolicy.Proofs.Noninterference
import AccessPolicy.Proofs.Teardown
import AccessPolicy.Proofs.Flags
import AccessPolicy.Proofs.Records
import AccessPolicy.Proofs.Spelling
import AccessPolicy.Proofs.Storing
import AccessPolicy.Proofs.Encoding
import AccessPolicy.Proofs.CaseKeys
import AccessPolicy.Proofs.Searches
import AccessPolicy.Proofs.Splitting
import AccessPolicy.Proofs.Simulation
import AccessPolicy.Proofs.Defects
import AccessPolicy.Proofs.Provenance
import AccessPolicy.Proofs.Monotonicity
import AccessPolicy.Proofs.Storage
import AccessPolicy.Proofs.Onset
import AccessPolicy.Proofs.Untracked
import AccessPolicy.Proofs.Subtotals
import AccessPolicy.Proofs.FlagTexts
import AccessPolicy.Proofs.ReportStoring
import AccessPolicy.Proofs.Outlines
import AccessPolicy.Proofs.Listings
import AccessPolicy.Proofs.OutlineLines
import AccessPolicy.Proofs.Layouts
import AccessPolicy.Proofs.NormalForms
import AccessPolicy.Proofs.Printing
import AccessPolicy.Proofs.Inspection
