import ScraperProject.Cli.FixtureCrawl
import ScraperProject.Contracts.ErrorDiscipline
import ScraperProject.Contracts.KeyScreening
import ScraperProject.Database.Lifecycles
import ScraperProject.Database.ManifestRoundTrip
import ScraperProject.Database.MigrationDrift
import ScraperProject.Database.MigrationRace
import ScraperProject.Database.MigrationRecovery
import ScraperProject.Database.ObservationWindow
import ScraperProject.Database.ProxyLedger
import ScraperProject.Orchestration.CanonicalJson
import ScraperProject.Orchestration.Connections
import ScraperProject.Orchestration.JobCreation
import ScraperProject.Orchestration.LeaseFencing
import ScraperProject.Orchestration.LeaseOrder
import ScraperProject.Orchestration.LeaseRecovery
import ScraperProject.Orchestration.QueueAccounting
import ScraperProject.Orchestration.QueueDrain
import ScraperProject.Orchestration.QueueHistory
import ScraperProject.Orchestration.QueueInvariant
import ScraperProject.Orchestration.RunIsolation
import ScraperProject.Orchestration.WorkerBoundary
import ScraperProject.Orchestration.WorkerCompletion
import ScraperProject.Orchestration.WorkerDurability
import ScraperProject.Orchestration.WorkerFiles
import ScraperProject.Orchestration.WorkerProvenance
import ScraperProject.Orchestration.WorkerRace
import ScraperProject.Orchestration.WorkerRecovery
import ScraperProject.Orchestration.WorkerShutdown
import ScraperProject.Orchestration.WorkerWaiting
import ScraperProject.ScraperLogging.HeaderRedaction
import ScraperProject.ScraperLogging.LogFile
import ScraperProject.ScraperLogging.Setup
import ScraperProject.SourceRegistry.Acceptance
import ScraperProject.Storage.CopyHistory
