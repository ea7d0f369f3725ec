import SharedCounter.CommandLine
import SharedCounter.Coordinator.Effort
import SharedCounter.LogLine
import SharedCounter.Main
import SharedCounter.Producer.Effort
import SharedCounter.Proofs.Run.Orderly
import SharedCounter.Proofs.Service.Accounts
import SharedCounter.Proofs.Service.Completions
import SharedCounter.Workbench.Step
import SharedCounter.Proofs.Service.Confluence
import SharedCounter.Proofs.Channel.Queue
import SharedCounter.Proofs.Service.Exchange
import SharedCounter.Proofs.Coordinator.Traced
import SharedCounter.Proofs.Run.Bare
import SharedCounter.Proofs.Producer.Items
import SharedCounter.Proofs.Schedule
import SharedCounter.Proofs.Producer.Places
import SharedCounter.Proofs.Producer.Traced
import SharedCounter.Proofs.Producer.Stream
import SharedCounter.Proofs.Team.Progress
import SharedCounter.Proofs.Team.Accounts
import SharedCounter.Proofs.Run.Accounts
import SharedCounter.Proofs.Run.Listener
import SharedCounter.Proofs.Audience
import SharedCounter.Proofs.Team.Chronicle
import SharedCounter.Proofs.Run.Chronicle
import SharedCounter.Proofs.Roster
import SharedCounter.Proofs.Run.Lifecycle
import SharedCounter.Proofs.Run.Aftermath
import SharedCounter.Proofs.Run.Pending
import SharedCounter.Proofs.Run.Rounds
import SharedCounter.Proofs.Run.Range
import SharedCounter.Proofs.Run.Turn
import SharedCounter.Proofs.Session
import SharedCounter.Proofs.Session.Survival
import SharedCounter.Proofs.Session.Separation
import SharedCounter.Proofs.Circle.Echoes
import SharedCounter.Proofs.Circle.Ring
import SharedCounter.Proofs.Run.Echoes
import SharedCounter.Proofs.Producer.Suspension
import SharedCounter.Proofs.Team.Roomy
import SharedCounter.Proofs.Failure
import SharedCounter.Proofs.LogLine
import SharedCounter.Proofs.Run.Opening
import SharedCounter.Proofs.Coordinator.Drain
import SharedCounter.Proofs.Coordinator.Rounds
