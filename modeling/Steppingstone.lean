import Steppingstone.Access.Bans
import Steppingstone.Access.Restart
import Steppingstone.Balance.Exact
import Steppingstone.Cached.Answered
import Steppingstone.Cached.FileNames
import Steppingstone.Cached.Files
import Steppingstone.Cached.Logged
import Steppingstone.Cached.ReadYourWrites
import Steppingstone.Cached.Serialize
import Steppingstone.Chain.Returns
import Steppingstone.Charge.Confirm
import Steppingstone.Charge.Ledger
import Steppingstone.Charsys.CheckRoleName
import Steppingstone.Charsys.Limit
import Steppingstone.Charsys.RoleList
import Steppingstone.Charsys.UnlawfulWords
import Steppingstone.Client.Input
import Steppingstone.Coin.OneOwner
import Steppingstone.Converter.Acknowledge
import Steppingstone.Converter.Change
import Steppingstone.Converter.Collect
import Steppingstone.Converter.Merge
import Steppingstone.Converter.Reported
import Steppingstone.Cooler.Lifetime
import Steppingstone.Cooler.Model
import Steppingstone.Cross.Restart
import Steppingstone.CrossServer.Agreement
import Steppingstone.CrossServer.Deadlock
import Steppingstone.CrossServer.Model
import Steppingstone.DayChange.Counted
import Steppingstone.DayChange.Model
import Steppingstone.Dbc.Fields
import Steppingstone.Dbc.Model
import Steppingstone.Dbc.Table
import Steppingstone.Dbc.Text
import Steppingstone.Depot.Routes
import Steppingstone.Dynamic.Repeated
import Steppingstone.Energy.Given
import Steppingstone.Energy.Spend
import Steppingstone.Fight.Answered
import Steppingstone.Fight.Held
import Steppingstone.Gate.Routing
import Steppingstone.Grid.Invariant
import Steppingstone.Grid.View
import Steppingstone.Grid.Visible
import Steppingstone.Guid.Distinct
import Steppingstone.Level.Derived
import Steppingstone.Level.Experience
import Steppingstone.Level.PathFree
import Steppingstone.Level.Schemes
import Steppingstone.Level.TakenOff
import Steppingstone.Lib.Bins
import Steppingstone.Lib.Block
import Steppingstone.Lib.BlockHash
import Steppingstone.Lib.CappedLedger
import Steppingstone.Lib.Catchup
import Steppingstone.Lib.FileTree
import Steppingstone.Lib.FirstIndex
import Steppingstone.Lib.Framing
import Steppingstone.Lib.HighWater
import Steppingstone.Lib.KeyedFold
import Steppingstone.Lib.Ladder
import Steppingstone.Lib.LastEvent
import Steppingstone.Lib.LittleEndian
import Steppingstone.Lib.Lookup
import Steppingstone.Lib.MapSum
import Steppingstone.Lib.NestedMap
import Steppingstone.Lib.Outbox
import Steppingstone.Lib.Paging
import Steppingstone.Lib.Progress
import Steppingstone.Lib.Rounding
import Steppingstone.Lib.SecondaryIndex
import Steppingstone.Lib.SqlText
import Steppingstone.Lib.StringPool
import Steppingstone.Lib.Tickets
import Steppingstone.Lib.Timetable
import Steppingstone.Lib.TransSys
import Steppingstone.Lib.Trie
import Steppingstone.Lib.Words
import Steppingstone.Line.Names
import Steppingstone.Login.Online
import Steppingstone.Login.OnlineNumber
import Steppingstone.Md5.Model
import Steppingstone.Md5.Streaming
import Steppingstone.Member.Directed
import Steppingstone.Net.Input
import Steppingstone.Net.Output
import Steppingstone.Net.Owners
import Steppingstone.Link.Delivered
import Steppingstone.Net.Stream
import Steppingstone.Netstream.Session
import Steppingstone.Netstream.Single
import Steppingstone.Player.Coverage
import Steppingstone.Player.Flush
import Steppingstone.Player.LoadFailed
import Steppingstone.Player.Phase
import Steppingstone.Player.SafeRemoval
import Steppingstone.Pool.Bookkeeping
import Steppingstone.Pool.Coalesce
import Steppingstone.Pool.Completion
import Steppingstone.Pool.Entities
import Steppingstone.Pool.Failed
import Steppingstone.Pool.LateReply
import Steppingstone.Pool.Removed
import Steppingstone.Pool.Replies
import Steppingstone.Pool.WriteBack
import Steppingstone.Remote.Matched
import Steppingstone.Report.Distinct
import Steppingstone.Report.Ids
import Steppingstone.RoleState.Notices
import Steppingstone.SessionPool.TearDown
import Steppingstone.Short.Ledger
import Steppingstone.Short.Reward
import Steppingstone.Startup.Announced
import Steppingstone.Startup.Directory
import Steppingstone.Terminal.Drain
import Steppingstone.Terminal.Ordered
import Steppingstone.Terminal.Route
import Steppingstone.Terminal.Serialize
import Steppingstone.Wobble.Frames
import Steppingstone.Wobble.Kicked
import Steppingstone.Wobble.Stuck
