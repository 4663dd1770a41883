import IdConnector.Library.Dict
import IdConnector.Library.Text
import IdConnector.Library.Document
import IdConnector.Library.Leaves
import IdConnector.Library.First
import IdConnector.Library.FirstUse
import IdConnector.Library.Action
import IdConnector.Library.TwoRuns
import IdConnector.Library.Attempts
import IdConnector.Library.Directory
import IdConnector.Models
import IdConnector.DictUpdate
import IdConnector.Configuration
import IdConnector.Patterns
import IdConnector.Dispatchers
import IdConnector.Queue
import IdConnector.Distribution
import IdConnector.Requests
import IdConnector.Rpc
import IdConnector.Patch
import IdConnector.Atomicity
import IdConnector.HandlerCache
import IdConnector.Files
import IdConnector.Distribute
import IdConnector.Scan
import IdConnector.Delivery
import IdConnector.AtLeastOnce
import IdConnector.Fifo
import IdConnector.Races
import IdConnector.OldData
import IdConnector.Interruption
import IdConnector.Independence
import IdConnector.Startup
import IdConnector.Mapping
import IdConnector.Registry
import IdConnector.Loading
import IdConnector.ScanPass
import IdConnector.DistributeLoop
import IdConnector.Isolation
import IdConnector.Library.Path
import IdConnector.Library.Kind
import IdConnector.Library.Keyed
import IdConnector.UserAttributes
import IdConnector.MergeOrder
import IdConnector.Reload
import IdConnector.Restart
import IdConnector.UserHandler
import IdConnector.Frames
import IdConnector.Deletion
import IdConnector.SentUids
import IdConnector.Targets
import IdConnector.Convergence
import IdConnector.Base64
import IdConnector.ListenerFiles
import IdConnector.SearchParams
import IdConnector.LdapAccess
import IdConnector.Authentication
import IdConnector.PartialGroupSync
import IdConnector.ClassNames
import IdConnector.RequestBody
import IdConnector.RoleMapping
import IdConnector.LegalGuardians
import IdConnector.FailedUpdate
import IdConnector.Library.Lru
import IdConnector.UcrCache
import IdConnector.MovedFiles
import IdConnector.Library.Rounds
import IdConnector.Drain
import IdConnector.UserSchools
import IdConnector.SavedUsers
import IdConnector.Masking
import IdConnector.ReadModifyWrite
import IdConnector.Noninterference
import IdConnector.Library.Records
import IdConnector.Library.Computes
import IdConnector.SchoolClassHandler
import IdConnector.SchoolClasses
import IdConnector.ClassConvergence
import IdConnector.Membership
import IdConnector.Library.LdapFilter
import IdConnector.LdapFilters
import IdConnector.Library.Pool
import IdConnector.SchoolScheduler
import IdConnector.ScheduledFiles
import IdConnector.SchedulerEnd
import IdConnector.StoredRegistry
import IdConnector.RequestEffects
import IdConnector.Lives
import IdConnector.Library.RequestReply
import IdConnector.ApiCalls
