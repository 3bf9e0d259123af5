import LuxRpcNet.Peers

/-! Node-wide information and the network switch: `getnettotals`, `switchnetwork` and
`getnetworkinfo`.

`getnettotals` and `getnetworkinfo` read counters, versions and per-network state and write
nothing. `switchnetwork` negates the process-wide `fNetworkActive` and returns the new value, so
two calls in a row restore the state.

`GetNetworksInfo` builds its list on `UniValue networks;`, a default-constructed value, which is
null, and `push_back` appends only to an array: the loop leaves the value null, whatever the
networks' state, and `getnetworkinfo` reports `networks` as null. -/

namespace LuxRpcNet

open UniValue NetBase

variable [NetBase]

/-- Its test `params.size() > 0` is the others' `params.size() != 0`. -/
def getnettotals : List UniValue → Bool → RPC UniValue :=
  withoutParams "getnettotals" do
    let s ← get
    return .obj [("totalbytesrecv", .num s.env.nTotalBytesRecv),
      ("totalbytessent", .num s.env.nTotalBytesSent), ("timemillis", .num s.env.nTimeMillis)]

/-- Modelled from the spec: `SetNetworkActive` (net.cpp) sets the process-wide flag. -/
def setNetworkActive (active : Bool) : RPC Unit :=
  modify fun s => { s with fNetworkActive := active }

def switchnetwork : List UniValue → Bool → RPC UniValue :=
  withoutParams "switchnetwork" do
    setNetworkActive !(← get).fNetworkActive
    return .bool (← get).fNetworkActive

/-- One network's object (lines 479-485): `IsLimited`, `IsReachable` and `GetProxy` read the
network's state; the proxy is printed when one is set and is empty otherwise. -/
def networkObject (s : NodeState) (network : Nat) : UniValue :=
  let state := s.env.vNetworks.getD network default
  .obj [("name", .str (GetNetworkName network)), ("limited", .bool state.fLimited),
    ("reachable", .bool state.fReachable),
    ("proxy", .str (match state.proxy with
      | some proxy => serviceToStringIPPort proxy
      | none => ""))]

/-- `GetNetworksInfo` (lines 472-489): every network but `NET_UNROUTABLE` is pushed onto
`networks`, which starts null. -/
def getNetworksInfo (s : NodeState) : UniValue :=
  (List.range NET_MAX).foldl
    (fun networks n => if n = NET_UNROUTABLE then networks else networks.pushBack (networkObject s n))
    .null

/-- Modelled from the spec: `ValueFromAmount` (rpcserver.cpp) writes an amount in coins of a
hundred million units. -/
def valueFromAmount (amount : Int) : UniValue := .real ((amount : ℚ) / 100000000)

/-- One entry of `mapLocalHost` (lines 543-546). -/
def localAddressObject (item : CNetAddr × LocalServiceInfo) : UniValue :=
  .obj [("address", .str (netAddrToString item.1)), ("port", .num item.2.nPort),
    ("score", .num item.2.nScore)]

def getnetworkinfo : List UniValue → Bool → RPC UniValue :=
  withoutParams "getnetworkinfo" do
    let s ← get
    return .obj [("version", .num s.env.clientVersion), ("subversion", .str s.env.subVersion),
      ("protocolversion", .num s.env.protocolVersion),
      ("localservices", .str (formatHex016 s.env.nLocalServices)),
      ("timeoffset", .num s.env.nTimeOffset), ("connections", .num s.vNodes.length),
      ("networks", getNetworksInfo s), ("relayfee", valueFromAmount s.env.minRelayTxFeePerK),
      ("localaddresses", .arr (s.env.mapLocalHost.map localAddressObject))]

/-! ### What each request does -/

theorem getnettotals_readOnly (params : List UniValue) (fHelp : Bool) :
    ReadOnly (getnettotals params fHelp) :=
  readOnly_withoutParams (readOnly_get.bind fun _ => readOnly_pure _) params fHelp

/-- A `switchnetwork` request throws its help text from the state it found, or flips the flag and
returns the new value. -/
theorem switchnetwork_cases (params : List UniValue) (fHelp : Bool) (s : NodeState) :
    switchnetwork params fHelp s = .error (.usage "switchnetwork") s ∨
      switchnetwork params fHelp s =
        .ok (.bool !s.fNetworkActive) { s with fNetworkActive := !s.fNetworkActive } := by
  unfold switchnetwork withoutParams
  split
  · exact .inl rfl
  · exact .inr rfl

theorem noThrow_setNetworkActive (active : Bool) : NoThrow (setNetworkActive active) :=
  noThrow_modify _

theorem switchnetwork_atomic (params : List UniValue) (fHelp : Bool) :
    Atomic (switchnetwork params fHelp) :=
  withoutParams_atomic
    (noThrow_get.bind fun _ => (noThrow_setNetworkActive _).bind fun _ =>
      noThrow_get.bind fun _ => noThrow_pure _).atomic params fHelp

omit [NetBase] in
/-- A loop that keeps `null` at every step ends with `null`. -/
theorem foldl_null {step : UniValue → Nat → UniValue} (h : ∀ n, step .null n = .null)
    (l : List Nat) : l.foldl step .null = .null := by
  induction l with
  | nil => rfl
  | cons n l ih => rw [List.foldl_cons, h, ih]

/-- `GetNetworksInfo` returns null, whatever the networks' state: `push_back` onto a null value
leaves it null. -/
theorem getNetworksInfo_eq_null (s : NodeState) : getNetworksInfo s = .null :=
  foldl_null (fun n => by split_ifs <;> rfl) _

/-- `getnetworkinfo` reports the node's constants, the number of live peers, `null` for
`networks`, the relay fee in coins, and the local addresses in the table's order. -/
theorem getnetworkinfo_run (s : NodeState) :
    getnetworkinfo [] false s =
      .ok (.obj [("version", .num s.env.clientVersion), ("subversion", .str s.env.subVersion),
        ("protocolversion", .num s.env.protocolVersion),
        ("localservices", .str (formatHex016 s.env.nLocalServices)),
        ("timeoffset", .num s.env.nTimeOffset), ("connections", .num s.vNodes.length),
        ("networks", .null), ("relayfee", valueFromAmount s.env.minRelayTxFeePerK),
        ("localaddresses", .arr (s.env.mapLocalHost.map localAddressObject))]) s := by
  simp [getnetworkinfo, withoutParams, getNetworksInfo_eq_null]

/-- `networks` reads `null` in every state, not the array of per-network objects the help text
describes. -/
theorem getnetworkinfo_networks_null (s : NodeState) :
    ∃ pairs, getnetworkinfo [] false s = .ok (.obj pairs) s ∧ pairs.lookup "networks" = some .null :=
  ⟨_, getnetworkinfo_run s, rfl⟩

theorem getnetworkinfo_readOnly (params : List UniValue) (fHelp : Bool) :
    ReadOnly (getnetworkinfo params fHelp) :=
  readOnly_withoutParams (readOnly_get.bind fun _ => readOnly_pure _) params fHelp

end LuxRpcNet
