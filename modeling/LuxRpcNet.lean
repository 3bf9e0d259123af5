import LuxRpcNet.UniValue
import LuxRpcNet.NetState
import LuxRpcNet.Server
import LuxRpcNet.AddNode
import LuxRpcNet.AddedNodes
import LuxRpcNet.BanTable
import LuxRpcNet.SetBan
import LuxRpcNet.BanList
import LuxRpcNet.Peers
import LuxRpcNet.NetworkInfo
import LuxRpcNet.Destination
import LuxRpcNet.GetAddedNodeInfo
import LuxRpcNet.Dispatch
import LuxRpcNet.Errors
import LuxRpcNet.Threads
import LuxRpcNet.Linearizability
