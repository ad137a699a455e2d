import LiveControl.Main
import LiveControl.Rehearsal.Turn
import LiveControl.Proofs.DoubleDistance
import LiveControl.Proofs.UnitPlan
import LiveControl.Proofs.UnitWrite
import LiveControl.Proofs.UnitAttempt
import LiveControl.Proofs.UnitEdit
import LiveControl.Proofs.UnitDryRun
import LiveControl.Proofs.UnitChain
import LiveControl.Proofs.UnitRollback
import LiveControl.Proofs.UnitGoal
import LiveControl.Proofs.RoutedEnvelope
import LiveControl.Proofs.ExtenderRuns
import LiveControl.Proofs.Journal
import LiveControl.Proofs.RouterJournal
import LiveControl.Proofs.RouterReports
import LiveControl.Proofs.CapabilityChoice
import LiveControl.Proofs.DispatchSafety
import LiveControl.Proofs.CheckedOperation
import LiveControl.Proofs.ActionCourse
import LiveControl.Proofs.ExecutorMirrors
import LiveControl.Proofs.ReceivedOperations
import LiveControl.Proofs.StandardVerdict
import LiveControl.Proofs.VerdictSetbacks
import LiveControl.Proofs.ModeRefusal
import LiveControl.Proofs.ExecutorJournal
import LiveControl.Proofs.TelemetryCount
import LiveControl.Proofs.ExecutionAudit
import LiveControl.Proofs.UnitJournal
import LiveControl.Proofs.UnitVisits
import LiveControl.Proofs.UnitCancellation
import LiveControl.Proofs.PromotionReadiness
import LiveControl.Proofs.ExecutionChecks
import LiveControl.Proofs.FreezePayload
import LiveControl.Proofs.PinHistory
import LiveControl.Proofs.HookHistory
import LiveControl.Proofs.ForgedFindings
import LiveControl.Proofs.AuditSinks
import LiveControl.Proofs.UnitSettled
import LiveControl.Proofs.ReasonVerdict
import LiveControl.Proofs.DocumentRoundTrip
import LiveControl.Proofs.Listing
import LiveControl.Proofs.CapabilityOrder
import LiveControl.Proofs.VerdictLocality
import LiveControl.Proofs.UnitTargets
import LiveControl.Proofs.TextPieces
import LiveControl.Proofs.NameListText
import LiveControl.Proofs.AnchorForms
import LiveControl.Proofs.AnchorCase
import LiveControl.Proofs.FrontDoor
import LiveControl.Proofs.PayloadGrammar
import LiveControl.Proofs.ProcessIdentity
import LiveControl.Proofs.TelemetryListing
import LiveControl.Proofs.DryRunLog
import LiveControl.Proofs.CommandAgreement
import LiveControl.Proofs.ProbedFeatures
import LiveControl.Proofs.CommaText
