import OdinSentinel.Core.Transition
import OdinSentinel.Core.JsText
import OdinSentinel.Core.Fencing
import OdinSentinel.Core.Host
import OdinSentinel.Lease.Record
import OdinSentinel.Lease.AnyOf
import OdinSentinel.Lease.Pool
import OdinSentinel.Lease.Fencing
import OdinSentinel.Lease.OneSlot
import OdinSentinel.Core.Unicode
import OdinSentinel.Protocol.RoleIdentity
import OdinSentinel.Protocol.LookAlike
import OdinSentinel.Protocol.KindOfSlot
import OdinSentinel.Core.Json
import OdinSentinel.Core.Regex
import OdinSentinel.Protocol.Redaction
import OdinSentinel.Protocol.GovernedContext
import OdinSentinel.Protocol.ReadinessGate
import OdinSentinel.Protocol.Respelling
import OdinSentinel.Protocol.WeakAssurance
import OdinSentinel.Core.Dialogue
import OdinSentinel.Core.RustText
import OdinSentinel.Say.Rules
import OdinSentinel.Say.Screen
import OdinSentinel.Say.Deliver
import OdinSentinel.Say.Paths
import OdinSentinel.Protocol.DeliveryProof
import OdinSentinel.Say.Record
import OdinSentinel.Say.TypingSafety
import OdinSentinel.Say.ExitStatus
import OdinSentinel.Core.Double
import OdinSentinel.Core.JsonParse
import OdinSentinel.Core.JsonRoundTrip
import OdinSentinel.Core.Spelled
import OdinSentinel.Registry.Event
import OdinSentinel.Registry.EventRoundTrip
import OdinSentinel.Registry.Storage
import OdinSentinel.Registry.Compact
import OdinSentinel.Core.CriticalSection
import OdinSentinel.Registry.Governance
import OdinSentinel.Core.Journal
import OdinSentinel.Lease.Atomicity
import OdinSentinel.Lease.SameDecision
import OdinSentinel.Protocol.AuthorityGates
import OdinSentinel.Protocol.AuthoritySpelling
import OdinSentinel.Registry.AppendedEvents
import OdinSentinel.Registry.CompactionDomain
import OdinSentinel.Registry.Conservation
import OdinSentinel.Registry.Guards
import OdinSentinel.Registry.Questions
import OdinSentinel.Registry.TerminalDiscipline
import OdinSentinel.Registry.TerminalRace
import OdinSentinel.Say.EnterSafety
import OdinSentinel.Say.RefusalRecord
import OdinSentinel.Protocol.AssuranceFit
import OdinSentinel.Protocol.HarnessSpelling
import OdinSentinel.Protocol.Onboarding
import OdinSentinel.Registry.Duties
import OdinSentinel.Watch.Idle
import OdinSentinel.Watch.Audit
import OdinSentinel.Telemetry.Stored
import OdinSentinel.Registry.CompactFailure
import OdinSentinel.Protocol.DeliveryVerdicts
import OdinSentinel.Protocol.ClosureDecision
import OdinSentinel.Protocol.CommitSequence
import OdinSentinel.Protocol.ReadinessSoundness
import OdinSentinel.Protocol.Receipts
import OdinSentinel.Protocol.RegistryAuthority
import OdinSentinel.Registry.FindingLists
import OdinSentinel.Core.Rounds
import OdinSentinel.Registry.MetaGovernance
import OdinSentinel.Core.Budget
import OdinSentinel.Say.WaitBound
import OdinSentinel.Say.WaitedTime
import OdinSentinel.Say.ReadBack
import OdinSentinel.Say.CapReset
import OdinSentinel.Say.Status
import OdinSentinel.Registry.LockAttempts
import OdinSentinel.Registry.LockWait
import OdinSentinel.Registry.LockLaw
import OdinSentinel.Core.Instant
import OdinSentinel.Lease.Expiry
import OdinSentinel.Lease.Fence
import OdinSentinel.Lease.Lifetime
import OdinSentinel.Core.JsonData
import OdinSentinel.Pacing.Event
import OdinSentinel.Pacing.Storage
import OdinSentinel.Pacing.Profiles
import OdinSentinel.Pacing.Recommend
import OdinSentinel.Core.Matching
import OdinSentinel.Watch.Silence
import OdinSentinel.Watch.NextAudit
import OdinSentinel.Core.Semver
import OdinSentinel.Protocol.VersionOrder
import OdinSentinel.Core.Gregorian
import OdinSentinel.Say.Timestamps
import OdinSentinel.Core.PosixPath
import OdinSentinel.Core.FileTree
import OdinSentinel.Lease.Store
import OdinSentinel.Lease.Apart
import OdinSentinel.Protocol.ContextScript
import OdinSentinel.Protocol.ContextFreshness
import OdinSentinel.Core.Rewriting
import OdinSentinel.Protocol.SecretShapes
import OdinSentinel.Protocol.ContextAgreement
import OdinSentinel.Core.UtcDate
import OdinSentinel.DependencyAudit.Workspace
import OdinSentinel.DependencyAudit.Manifest
import OdinSentinel.DependencyAudit.Exceptions
import OdinSentinel.DependencyAudit.Report
import OdinSentinel.DependencyAudit.Gate
import OdinSentinel.DependencyAudit.Exactness
import OdinSentinel.Core.LockedParts
import OdinSentinel.Lease.RecordText
import OdinSentinel.Lease.SlotParts
import OdinSentinel.Lease.Contention
import OdinSentinel.Lease.LockedSection
import OdinSentinel.Lease.StoreStages
import OdinSentinel.Lease.StoreRefinement
import OdinSentinel.Lease.StoreSafety
import OdinSentinel.Core.JsonGrammar
import OdinSentinel.Audit.PublicSurface
import OdinSentinel.Audit.TopLevelSpan
import OdinSentinel.Audit.RetirementRoots
import OdinSentinel.Core.ShellWords
import OdinSentinel.Send.GovernedSend
import OdinSentinel.Send.Arguments
import OdinSentinel.Send.DryRun
import OdinSentinel.Send.Enters
import OdinSentinel.Send.Flatten
import OdinSentinel.Core.JsonIndented
import OdinSentinel.Protocol.InstructionRead
import OdinSentinel.Protocol.ReadAttestation
