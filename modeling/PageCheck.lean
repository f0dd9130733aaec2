import PageCheck.Event
import PageCheck.Main
import PageCheck.Proofs.AttributeShorthand
import PageCheck.Proofs.BaseAddress
import PageCheck.Proofs.ConsoleAccount
import PageCheck.Proofs.Deadline
import PageCheck.Proofs.EagerRun
import PageCheck.Proofs.FallbackTime
import PageCheck.Proofs.GivingUp
import PageCheck.Proofs.HiddenStatus
import PageCheck.Proofs.LiteralUse
import PageCheck.Proofs.NestingLimit
import PageCheck.Proofs.OppositeChecks
import PageCheck.Proofs.PhaseLoop
import PageCheck.Proofs.ReadingRules
import PageCheck.Proofs.Reordering
import PageCheck.Proofs.SamplingTimes
import PageCheck.Proofs.TreeResolution
import PageCheck.Proofs.Typing
import PageCheck.Proofs.Unselecting
import PageCheck.Proofs.Validation
import PageCheck.Proofs.Variants
import PageCheck.Run.Summary
