import MusicPlayer.Resumption.Safety
import MusicPlayer.Utils.PasswordUtil
import MusicPlayer.Relational.Table
import MusicPlayer.Models
import MusicPlayer.Database.Statement
import MusicPlayer.Effects
import MusicPlayer.Database.UserDAO
import MusicPlayer.Database.PlaylistDAO
import MusicPlayer.Database.PlayHistoryDAO
import MusicPlayer.Utils.JWTUtil
import MusicPlayer.Server.VerifyService
import MusicPlayer.Server.Router
import MusicPlayer.Properties.CodeStore
import MusicPlayer.Reference
import MusicPlayer.Properties.DataAccess
import MusicPlayer.Properties.Registry
import MusicPlayer.Database.Operations
import MusicPlayer.Properties.Requests
import MusicPlayer.Properties.Accounts
import MusicPlayer.Properties.CodeUse
import MusicPlayer.Properties.Credentials
import MusicPlayer.Properties.Isolation
import MusicPlayer.Properties.Answers
import MusicPlayer.Resumption.Interleaving
import MusicPlayer.Server.Threads
import MusicPlayer.Properties.ConnectionPool
import MusicPlayer.Properties.GuardDiscipline
import MusicPlayer.Properties.Exhaustion
import MusicPlayer.Properties.Registration
import MusicPlayer.Properties.MethodRuns
import MusicPlayer.Properties.ReadMethods
import MusicPlayer.Properties.PlayCount
import MusicPlayer.Properties.WriteMethods
import MusicPlayer.Properties.Interference
import MusicPlayer.Properties.LostPlay
import MusicPlayer.Properties.SessionProtocol
import MusicPlayer.Properties.HistoryIsolation
import MusicPlayer.Properties.CodeRaces
import MusicPlayer.Properties.Creation
import MusicPlayer.Properties.UpdateResults
import MusicPlayer.Properties.TokenWindow
import MusicPlayer.Relational.Numbering
import MusicPlayer.Properties.Absence
import MusicPlayer.Relational.Replay
import MusicPlayer.Properties.PlaylistEdits
import MusicPlayer.Properties.PlaylistSet
import MusicPlayer.Properties.CrossedAdds
import MusicPlayer.Properties.HistoryPages
import MusicPlayer.Properties.Recency
import MusicPlayer.Properties.AvatarUpdates
import MusicPlayer.Resumption.Refinement
import MusicPlayer.Server.Streams
import MusicPlayer.Properties.AvatarReads
import MusicPlayer.Properties.AvatarLimit
import MusicPlayer.Loading.Requirements
import MusicPlayer.Utils.Config
import MusicPlayer.Properties.ConfigLoads
import MusicPlayer.Properties.ConfigNumbers
import MusicPlayer.Messages.HeaderLines
import MusicPlayer.Properties.MailHeaders
import MusicPlayer.Properties.Ownership
import MusicPlayer.Properties.Cascade
import MusicPlayer.Database.Guards
import MusicPlayer.Properties.GuardReleases
import MusicPlayer.Properties.MailUpload
import MusicPlayer.Server.Server
import MusicPlayer.Machines.Totals
import MusicPlayer.Properties.AcceptLoop
import MusicPlayer.Properties.Shutdown
import MusicPlayer.Properties.ShutdownEnds
import MusicPlayer.Properties.ShutdownRuns
import MusicPlayer.Database.Monitor
import MusicPlayer.Properties.Linearizability
import MusicPlayer.Properties.MonitorInvariant
import MusicPlayer.Properties.MonitorRefinement
import MusicPlayer.Properties.WakeUps
import MusicPlayer.Properties.ConcurrentIsolation
import MusicPlayer.Properties.RequestEnds
import MusicPlayer.Properties.VerifiedAddresses
import MusicPlayer.Properties.SessionThreads
import MusicPlayer.Properties.SessionsAnswered
import MusicPlayer.Properties.TopLists
