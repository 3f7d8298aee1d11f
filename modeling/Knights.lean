import Knights.Rudp.Estimator
import Knights.Rudp.Fallback
import Knights.Rudp.Recovery
import Knights.Rudp.Bookkeeping
import Knights.WriteBehind.Flush
import Knights.WriteBehind.Replayer
import Knights.Gateway.Session
import Knights.Gateway.Segmentation
import Knights.Net.Limits
import Knights.Gateway.StickyRouting
import Knights.Gateway.BindReplay
import Knights.Gateway.Admission
import Knights.Gateway.BindInterference
import Knights.Gateway.BackendAccounting
import Knights.Gateway.BackendStream
import Knights.Chat.Ownership
import Knights.Chat.Cleanup
import Knights.Chat.Authorization
import Knights.Chat.Privacy
import Knights.Admin.ExclusiveGroups
import Knights.Admin.Recovery
import Knights.Admin.Punctuality
import Knights.Admin.Waves
import Knights.Chat.Secrecy
import Knights.Chat.Muting
import Knights.Chat.Hooks
import Knights.Chat.RecentHistory
import Knights.Chat.CrossDelivery
import Knights.Chat.AutoDisable
import Knights.Chat.PluginAdapters
import Knights.Net.SendOrder
import Knights.Memory.MemoryPool
import Knights.Storage.Submission
