import LuxRpcNet.UniValue
import Mathlib.Data.List.Nodup

/-! The node state the handlers of `rpcnet.cpp` read and write, and the monad they run in.

The handlers act on globals of `net.cpp` and `main.cpp`: the live peers `vNodes`, the added-node
list `vAddedNodes`, the ban table `setBanned` and the flag `fNetworkActive`. They read the
address manager's export, the per-peer sync state and node-wide constants, and they ask the
connection manager to open or close connections and to save the ban table. Those requests are
kept in order in `events`, so that a proof can say what was asked and when.

None of `net.cpp`, `netbase.cpp`, `addrman.cpp` and `main.cpp` is in this repository's sources.
Address types and their parsing, printing and matching are parameters (`NetBase`); the records
keep the fields the handlers read. A handler is an `EStateM` computation: a throw keeps the state
reached at the throw, as a C++ exception keeps the writes made before it. -/

namespace LuxRpcNet

/-- The reasons `net.h` records for a ban. -/
inductive BanReason where
  | unknown
  | nodeMisbehaving
  | manually
  deriving DecidableEq, Repr

/-- The address types of `netbase.h` and the functions on them the handlers call: parsing,
validity, subnet containment and printing. Also the network ids `GetNetworksInfo` loops over and
the tag `CBanEntry::banReasonToString` gives each ban reason. -/
class NetBase where
  CNetAddr : Type
  CSubNet : Type
  CService : Type
  [decEqNetAddr : DecidableEq CNetAddr]
  [decEqSubNet : DecidableEq CSubNet]
  [decEqService : DecidableEq CService]
  /-- `CService()`, the empty service. -/
  [inhabitedService : Inhabited CService]
  /-- `CNetAddr(const std::string&)`. -/
  netAddrOfString : String → CNetAddr
  /-- `CSubNet(const std::string&)`. -/
  subNetOfString : String → CSubNet
  /-- `CSubNet(const CNetAddr&)`, the subnet holding one address. -/
  subNetOfNetAddr : CNetAddr → CSubNet
  netAddrIsValid : CNetAddr → Bool
  subNetIsValid : CSubNet → Bool
  /-- `CSubNet::Match`. -/
  subNetMatch : CSubNet → CNetAddr → Bool
  /-- The address of a service, without its port. -/
  serviceNetAddr : CService → CNetAddr
  netAddrToString : CNetAddr → String
  subNetToString : CSubNet → String
  serviceToString : CService → String
  serviceToStringIPPort : CService → String
  NET_MAX : Nat
  NET_UNROUTABLE : Nat
  GetNetworkName : Nat → String
  /-- `CBanEntry::banReasonToString`. -/
  banReasonToString : BanReason → String

/-- The text a subnet `a.b.c.d/len` written as text requires of its addresses: `a.b.c.`. -/
def textSubNetPrefix (subNet : String) : List Char :=
  ((subNet.toList.takeWhile (· ≠ '/')).reverse.dropWhile (· ≠ '.')).reverse

/-- A subnet written as text holds the address it names, and, when it has a `/`, every address
that starts with its prefix. -/
def textSubNetMatch (subNet addr : String) : Bool :=
  subNet == addr || (subNet.toList.contains '/' && (textSubNetPrefix subNet).isPrefixOf addr.toList)

theorem textSubNetMatch_self (a : String) : textSubNetMatch a a = true := by
  simp [textSubNetMatch]

/-- Addresses, subnets and services written as their text, valid when not empty, a subnet with a
`/` holding the addresses of its first three bytes; four network ids, the first unroutable, tagged
by their numbers, and ban reasons by short tags. Enough to run the handlers on concrete requests. -/
instance textNetBase : NetBase where
  CNetAddr := String
  CSubNet := String
  CService := String
  inhabitedService := ⟨""⟩
  netAddrOfString := id
  subNetOfString := id
  subNetOfNetAddr := id
  netAddrIsValid a := a != ""
  subNetIsValid subNet := subNet != ""
  subNetMatch := textSubNetMatch
  serviceNetAddr := id
  netAddrToString := id
  subNetToString := id
  serviceToString := id
  serviceToStringIPPort := id
  NET_MAX := 4
  NET_UNROUTABLE := 0
  GetNetworkName := toString
  banReasonToString r := match r with
    | .unknown => "unknown"
    | .nodeMisbehaving => "node misbehaving"
    | .manually => "manually added"

attribute [instance] NetBase.decEqNetAddr NetBase.decEqSubNet NetBase.decEqService
  NetBase.inhabitedService

open NetBase

abbrev NodeId := Int

/-- The statistics `CNode::copyStats` copies out of a live peer. -/
structure CNodeStats where
  nodeid : NodeId
  nServices : UInt64
  nLastSend : Int
  nLastRecv : Int
  nTimeConnected : Int
  addrName : String
  nVersion : Int
  cleanSubVer : String
  fInbound : Bool
  nStartingHeight : Int
  nSendBytes : Nat
  nRecvBytes : Nat
  fWhitelisted : Bool
  dPingTime : ℚ
  dPingWait : ℚ
  addrLocal : String
  deriving DecidableEq, Inhabited

/-- The sync state `GetNodeStateStats` reports for a peer. -/
structure CNodeStateStats where
  nMisbehavior : Int
  nSyncHeight : Int
  nCommonHeight : Int
  vHeightInFlight : List Int
  deriving DecidableEq

/-- One address-book entry as `CAddrMan::CopyDestinationStats` exports it. -/
structure CDestinationStats where
  sAddress : String
  sSource : String
  sBase64 : String
  fInTried : Bool
  nAttempts : Int
  nLastTry : Int
  nSuccessTime : Int
  deriving DecidableEq, Repr

/-- A bound local address with its port and score, an entry of `mapLocalHost`. -/
structure LocalServiceInfo where
  nScore : Int
  nPort : Int
  deriving DecidableEq

section

variable [NetBase]

/-- Per-network reachability, from `IsLimited`, `IsReachable` and `GetProxy`. -/
structure NetworkState where
  fLimited : Bool
  fReachable : Bool
  proxy : Option CService
  deriving DecidableEq, Inhabited

/-- A live peer: its copied statistics, its remote service and its queued-ping flag. -/
structure CNode where
  stats : CNodeStats
  addr : CService
  fPingQueued : Bool
  deriving DecidableEq, Inhabited

/-- What `GetAddedNodeInfo` reports for one added node. -/
structure AddedNodeInfo where
  strAddedNode : String
  resolvedAddress : CService
  fConnected : Bool
  fInbound : Bool
  deriving DecidableEq

structure CBanEntry where
  nCreateTime : Int
  nBanUntil : Int
  banReason : BanReason
  deriving DecidableEq

/-- `banmap_t`: ban entries keyed by subnet, at most one entry a subnet. -/
structure BanMap where
  entries : List (CSubNet × CBanEntry)
  nodupKeys : (entries.map Prod.fst).Nodup
  deriving DecidableEq

instance : Inhabited BanMap := ⟨⟨[], List.nodup_nil⟩⟩

/-- The address manager's export: the table size and every destination's statistics. -/
structure CAddrMan where
  nTableSize : Int
  vDestinationStats : List CDestinationStats
  deriving DecidableEq, Inhabited

/-- Node-wide values the handlers read and never write. -/
structure NodeEnv where
  /-- `GetTime()` during the call. -/
  nTime : Int
  nTimeMillis : Int
  /-- `GetArg("-bantime", ..)`, the ban duration used when none is given. -/
  nDefaultBanTime : Int
  nTotalBytesRecv : Nat
  nTotalBytesSent : Nat
  clientVersion : Int
  subVersion : String
  protocolVersion : Int
  nLocalServices : UInt64
  nTimeOffset : Int
  /-- Indexed by network id. -/
  vNetworks : List NetworkState
  minRelayTxFeePerK : Int
  mapLocalHost : List (CNetAddr × LocalServiceInfo)
  deriving DecidableEq, Inhabited

/-- A request the handlers make of the connection manager. -/
inductive NetEvent where
  /-- `OpenNetworkConnection(addr, false, NULL, strDest)`. -/
  | openNetworkConnection (strDest : String)
  /-- `CNode::CloseSocketDisconnect` on the peer with this id. -/
  | closeSocketDisconnect (id : NodeId)
  /-- `DumpBanlist()`, writing the ban table as it then is. -/
  | dumpBanlist (banned : List (CSubNet × CBanEntry))
  deriving DecidableEq

structure NodeState where
  vNodes : List CNode
  vAddedNodes : List String
  setBanned : BanMap
  fNetworkActive : Bool
  addrman : CAddrMan
  /-- `GetNodeStateStats`'s table, by peer id. -/
  mapNodeState : List (NodeId × CNodeStateStats)
  env : NodeEnv
  events : List NetEvent
  deriving DecidableEq, Inhabited

/-- A handler's computation: it returns or throws, and in both cases leaves a state. -/
abbrev RPC (α : Type) := EStateM RPCException NodeState α

/-- A typed accessor of a parameter, thrown from inside a handler. -/
def ofExcept {α : Type} : Except RPCException α → RPC α
  | .ok a => pure a
  | .error e => throw e

instance : MonadLift (Except RPCException) RPC := ⟨ofExcept⟩

/-- The state a handler's run leaves, whether it returned or threw. -/
def stateOf {α : Type} : EStateM.Result RPCException NodeState α → NodeState
  | .ok _ s => s
  | .error _ s => s

@[simp] theorem stateOf_ok {α : Type} (a : α) (s : NodeState) : stateOf (.ok a s) = s := rfl

@[simp] theorem stateOf_error {α : Type} (e : RPCException) (s : NodeState) :
    stateOf (α := α) (.error e s) = s := rfl

/-- A request to the connection manager, appended to the log. -/
def emit (ev : NetEvent) : RPC Unit :=
  modify fun s => { s with events := s.events ++ [ev] }

/-! Running a handler on a state, one monad operation at a time. -/

section Run

variable {α β : Type} (s : NodeState)

@[simp] theorem pure_run (a : α) : (pure a : RPC α) s = .ok a s := rfl

@[simp] theorem throw_run (e : RPCException) : (throw e : RPC α) s = .error e s := rfl

@[simp] theorem pure_bind_run (a : α) (f : α → RPC β) : (pure a >>= f) s = f a s := rfl

@[simp] theorem throw_bind (e : RPCException) (f : α → RPC β) : (throw e >>= f : RPC β) = throw e :=
  rfl

@[simp] theorem get_bind_run (f : NodeState → RPC β) : (get >>= f) s = f s s := rfl

@[simp] theorem set_bind_run (s₀ : NodeState) (f : PUnit → RPC β) :
    (set s₀ >>= f) s = f ⟨⟩ s₀ := rfl

@[simp] theorem modify_run (g : NodeState → NodeState) : (modify g : RPC PUnit) s = .ok ⟨⟩ (g s) :=
  rfl

@[simp] theorem modify_bind_run (g : NodeState → NodeState) (f : PUnit → RPC β) :
    (modify g >>= f) s = f ⟨⟩ (g s) := rfl

@[simp] theorem emit_bind_run (ev : NetEvent) (f : Unit → RPC β) :
    (emit ev >>= f) s = f () { s with events := s.events ++ [ev] } := rfl

@[simp] theorem map_throw (e : RPCException) (f : α → β) : (f <$> (throw e : RPC α)) = throw e :=
  rfl

@[simp] theorem map_set_run (s₀ : NodeState) (f : PUnit → β) :
    (f <$> (set s₀ : RPC PUnit)) s = .ok (f ⟨⟩) s₀ := rfl

@[simp] theorem map_modify_run (g : NodeState → NodeState) (f : PUnit → β) :
    (f <$> (modify g : RPC PUnit)) s = .ok (f ⟨⟩) (g s) := rfl

@[simp] theorem map_emit_run (ev : NetEvent) (f : Unit → β) :
    (f <$> emit ev) s = .ok (f ()) { s with events := s.events ++ [ev] } := rfl

@[simp] theorem liftM_eq (x : Except RPCException α) : (liftM x : RPC α) = ofExcept x := rfl

@[simp] theorem ofExcept_ok (a : α) : (ofExcept (.ok a) : RPC α) = pure a := rfl

@[simp] theorem ofExcept_error (e : RPCException) : (ofExcept (.error e) : RPC α) = throw e := rfl

end Run

end

end LuxRpcNet
