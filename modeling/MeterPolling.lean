import MeterPolling.Agent.Bench
import MeterPolling.Bus.Script
import MeterPolling.Main
import MeterPolling.Scheduler.Bench
import MeterPolling.Session.Script
import MeterPolling.Proofs.Agent.Course
import MeterPolling.Proofs.Query
import MeterPolling.Proofs.Agent.Standing
import MeterPolling.Proofs.Agent.Run
import MeterPolling.Proofs.Agent.Progress
import MeterPolling.Proofs.Agent.Outputs
import MeterPolling.Proofs.Agent.Outcome
import MeterPolling.Proofs.Loop
import MeterPolling.Proofs.Agent.Effect
import MeterPolling.Proofs.Agent.Stamp
import MeterPolling.Proofs.Agent.Bench
import MeterPolling.Proofs.Agent.Timing
import MeterPolling.Proofs.Scheduler.Rounds
import MeterPolling.Proofs.Scheduler.Run
import MeterPolling.Proofs.Scheduler.Bench
import MeterPolling.Proofs.Polling.Sound
import MeterPolling.Proofs.Polling.Ending
import MeterPolling.Proofs.Polling.Order
import MeterPolling.Proofs.Agent.Balance
import MeterPolling.Proofs.Agent.Moves
import MeterPolling.Proofs.Agent.Observed
import MeterPolling.Proofs.Agent.Shares
import MeterPolling.Proofs.Agent.Conservation
import MeterPolling.Proofs.Binary64
import MeterPolling.Proofs.Deadline
import MeterPolling.Proofs.Agent.Timed
import MeterPolling.Proofs.Agent.Memory
import MeterPolling.Proofs.Agent.TimedBench
import MeterPolling.Proofs.Agent.Pacing
import MeterPolling.Proofs.Polling.Tended
import MeterPolling.Proofs.Polling.Drain
import MeterPolling.Proofs.Program.Port
import MeterPolling.Proofs.Program.Moves
import MeterPolling.Proofs.Program.Blame
import MeterPolling.Proofs.Program.Operate
import MeterPolling.Proofs.Program.Shutdown
import MeterPolling.Proofs.Session.Timeout
import MeterPolling.Proofs.Decoding
import MeterPolling.Proofs.Chain.Tasks
import MeterPolling.Proofs.Chain.Deadlock
import MeterPolling.Proofs.Scanner.Visit
import MeterPolling.Proofs.Scanner.Run
import MeterPolling.Proofs.Scanner.Report
import MeterPolling.Proofs.Scanner.Trials
import MeterPolling.Proofs.Scanner.Course
import MeterPolling.Proofs.Scanner.Failure
import MeterPolling.Proofs.Producer
import MeterPolling.Proofs.Agent.Separation
import MeterPolling.Proofs.Agent.Lengths
import MeterPolling.Proofs.Agent.Finish
import MeterPolling.Proofs.Agent.Isolation
import MeterPolling.Proofs.Exchange
import MeterPolling.Proofs.Setting
import MeterPolling.Proofs.Config.Change
import MeterPolling.Proofs.Config.Validity
import MeterPolling.Proofs.Config.Entry
import MeterPolling.Proofs.Config.Persistence
import MeterPolling.Proofs.Numeral
import MeterPolling.Proofs.Config.Override
import MeterPolling.Proofs.Config.Refusal
import MeterPolling.Proofs.Program.Refusal
import MeterPolling.Proofs.Number
import MeterPolling.Proofs.Scheduler.Rest
import MeterPolling.Proofs.Config.Interval
import MeterPolling.Proofs.Config.Unsaved
import MeterPolling.Proofs.Config.Loading
import MeterPolling.Proofs.Program.Saved
import MeterPolling.Proofs.Scanner.Arrangement
import MeterPolling.Proofs.Session.Registers
import MeterPolling.Proofs.Agent.Malformed
import MeterPolling.Proofs.CommandLine.Devices
import MeterPolling.Proofs.Registry
import MeterPolling.Proofs.Producer.FullReading
import MeterPolling.Proofs.Value
import MeterPolling.Proofs.Decoder.Scaled
import MeterPolling.Proofs.Decoder.Single
import MeterPolling.Proofs.Agent.Singles
import MeterPolling.Proofs.Seat
import MeterPolling.Proofs.Scheduler.Timed
import MeterPolling.Proofs.Scheduler.TimedBench
import MeterPolling.Proofs.Scheduler.Spacing
import MeterPolling.Proofs.Sorting
import MeterPolling.Proofs.Preset
import MeterPolling.Proofs.Ports
