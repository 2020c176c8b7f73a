import OpalLocking.CommandLine.Printer
import OpalLocking.FileSystem
import OpalLocking.Fleet
import OpalLocking.Interleaving
import OpalLocking.Main
import OpalLocking.Script
import OpalLocking.Simulator.Setting
import OpalLocking.Proofs.Steps
import OpalLocking.Proofs.Courses
import OpalLocking.Proofs.Plans
import OpalLocking.Proofs.ProvisioningPlan
import OpalLocking.Proofs.ProvisioningCalls
import OpalLocking.Proofs.EveryOperation
import OpalLocking.Proofs.UnreadableFlags
import OpalLocking.Proofs.SystemErrors
import OpalLocking.Proofs.Simulator.Effects
import OpalLocking.Proofs.Simulator.Evolution
import OpalLocking.Proofs.Simulator.History
import OpalLocking.Proofs.Simulator.DataProtection
import OpalLocking.Proofs.Sharing
import OpalLocking.Proofs.Simulator.Acceptance
import OpalLocking.Proofs.Simulator.Tenancy
import OpalLocking.Proofs.Simulator.Outcomes
import OpalLocking.Proofs.Simulator.Frames
import OpalLocking.Proofs.Simulator.Contention
import OpalLocking.Proofs.Simulator.OwnershipRace
import OpalLocking.Proofs.Simulator.Retrying
import OpalLocking.Proofs.Simulator.Rekeying
import OpalLocking.Proofs.Simulator.KeptKeys
import OpalLocking.Proofs.Simulator.KeylessLocking
import OpalLocking.Proofs.Simulator.Isolation
import OpalLocking.Proofs.Rounding
import OpalLocking.Proofs.ReadBack
import OpalLocking.Proofs.Simulator.TenantAccess
import OpalLocking.Proofs.Simulator.EndToEnd
import OpalLocking.Proofs.Segments
import OpalLocking.Proofs.Simulator.Locality
import OpalLocking.Proofs.Simulator.Independence
import OpalLocking.Proofs.Simulator.Reverting
import OpalLocking.Proofs.Simulator.WrongKeys
import OpalLocking.Proofs.Simulator.Disabling
import OpalLocking.Proofs.Simulator.Intrusion
import OpalLocking.Proofs.KeyBlocks
import OpalLocking.Proofs.InStep
import OpalLocking.Proofs.Secrecy
import OpalLocking.Proofs.Buffers
import OpalLocking.Proofs.Refusals
import OpalLocking.Proofs.Replies
import OpalLocking.Proofs.ResetCalls
import OpalLocking.Proofs.LockCalls
import OpalLocking.Proofs.Simulator.Rejections
import OpalLocking.Proofs.CommandSequences
import OpalLocking.Proofs.Conversion
import OpalLocking.Proofs.Mismatches
import OpalLocking.Proofs.LockStates
import OpalLocking.Proofs.Simulator.Views
import OpalLocking.Proofs.Simulator.WaitingLines
import OpalLocking.Proofs.Simulator.TableAccesses
import OpalLocking.Proofs.KeySources
import OpalLocking.Proofs.LogFilters
import OpalLocking.Proofs.ControlSequences
import OpalLocking.Proofs.CommandLine.Origins
