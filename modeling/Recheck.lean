import Recheck.Cli.Version
import Recheck.Decimal.Shortest
import Recheck.Diagnostic.Printer
import Recheck.Main
import Recheck.Proofs.BatchChecks
import Recheck.Proofs.CheckRuns
import Recheck.Proofs.ConfigurationFaults
import Recheck.Proofs.FailedQueries
import Recheck.Proofs.FileRecords
import Recheck.Proofs.FoldedNotes
import Recheck.Proofs.FreshAnswers
import Recheck.Proofs.GroupedReports
import Recheck.Proofs.Listings
import Recheck.Proofs.MessagePatterns
import Recheck.Proofs.OtherFiles
import Recheck.Proofs.Polls
import Recheck.Proofs.ProgramReuse
import Recheck.Proofs.PrunedWalks
import Recheck.Proofs.ReactorClosing
import Recheck.Proofs.ReactorExclusion
import Recheck.Proofs.ReactorNotifications
import Recheck.Proofs.ReactorRest
import Recheck.Proofs.ReactorTimers
import Recheck.Proofs.RecordGroups
import Recheck.Proofs.RepeatedQueries
import Recheck.Proofs.ReportText
import Recheck.Proofs.RootChecks
import Recheck.Proofs.StatusListings
import Recheck.Proofs.StoreHistories
import Recheck.Proofs.WatchRequests
import Recheck.Proofs.WatchRuns
import Recheck.Rehearsal.Reactor
import Recheck.Rehearsal.Session
import Recheck.Rehearsal.Watcher
import Recheck.Proofs.CycleOutcomes
import Recheck.Proofs.FaultFormats
import Recheck.Proofs.ColouredText
import Recheck.Proofs.OwnSources
import Recheck.Proofs.MovedProjects
import Recheck.Proofs.RecordFiles
import Recheck.Proofs.StoreContents
import Recheck.Proofs.WatchedNames
