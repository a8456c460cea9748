import LogRelay.Channel.Ring
import LogRelay.Collector
import LogRelay.Launch
import LogRelay.Proofs.Formatting
import LogRelay.Proofs.Reentry
import LogRelay.Proofs.Traffic
import LogRelay.Proofs.Attempts
import LogRelay.Proofs.Deliveries
import LogRelay.Proofs.Work
import LogRelay.Proofs.Framing
import LogRelay.Proofs.Conservation
import LogRelay.Proofs.Agreement
import LogRelay.Proofs.RingCalls
import LogRelay.Proofs.Separation
import LogRelay.Proofs.Schedules
import LogRelay.Proofs.Backends
import LogRelay.Proofs.Delays
import LogRelay.Proofs.Wakeups
import LogRelay.Proofs.FailedStarts
import LogRelay.Proofs.Cutting
import LogRelay.Proofs.Emission
import LogRelay.Proofs.Resolutions
import LogRelay.Proofs.Pauses
import LogRelay.Proofs.Reports
import LogRelay.Proofs.Transfers
import LogRelay.Proofs.Rendering
import LogRelay.Proofs.Layout
import LogRelay.Proofs.Spellings
import LogRelay.Proofs.Trimming
import LogRelay.Proofs.Choices
import LogRelay.Proofs.Acceptance
import LogRelay.Proofs.Returning
import LogRelay.Proofs.Retries
import LogRelay.Proofs.Widths
