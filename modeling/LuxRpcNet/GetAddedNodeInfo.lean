import LuxRpcNet.Server

/-! `getaddednodeinfo`: the connection status of the added nodes.

`GetAddedNodeInfo` (`net.cpp`, not in this repository's sources) reports, for each added node,
whether a live peer is connected to it and, if so, its resolved address and direction. The
handler lists every report, or, given a node, only the first report naming it: the search loop
reads the node parameter at each report, replaces the whole list by the report it finds and stops,
and the handler throws when no report names the node. Each report becomes one object whose
`addresses` holds the peer's address and direction when it is connected and nothing otherwise.
The first parameter, `dns`, is not read.

The handler takes `GetAddedNodeInfo` as a parameter, so what is proved holds for every list it
may return. -/

namespace LuxRpcNet

open UniValue NetBase

section

variable [NetBase]

/-- The object for one report (lines 421-432). -/
def addedNodeObject (info : AddedNodeInfo) : UniValue :=
  .obj [("addednode", .str info.strAddedNode), ("connected", .bool info.fConnected),
    ("addresses", .arr <|
      if info.fConnected then
        [.obj [("address", .str (serviceToString info.resolvedAddress)),
          ("connected", .str (if info.fInbound then "inbound" else "outbound"))]]
      else [])]

/-- The search loop (lines 406-412): `params[1].get_str()` is read at every report, and the
first report naming the node is the one found. -/
def findAddedNode (node : UniValue) : List AddedNodeInfo → Except RPCException (Option AddedNodeInfo)
  | [] => .ok none
  | info :: vInfo => do
      let strNode ← getStr node
      if info.strAddedNode = strNode then .ok (some info) else findAddedNode node vInfo

def getaddednodeinfo (GetAddedNodeInfo : NodeState → List AddedNodeInfo) (params : List UniValue)
    (fHelp : Bool) : RPC UniValue := do
  if fHelp || params.length < 1 || params.length > 2 then
    throw (.usage "getaddednodeinfo")
  else
    let vInfo := GetAddedNodeInfo (← get)
    let vInfo ← (if params.length = 2 then do
        match ← findAddedNode (param params 1) vInfo with
        | some info => pure [info] -- vInfo.assign(1, info)
        | none => throw (.jsonRpcError .rpcClientNodeNotAdded "Error: Node has not been added.")
      else pure vInfo)
    return .arr (vInfo.map addedNodeObject)

/-- With a string node the loop never throws, and finds the first report naming it. -/
theorem findAddedNode_str (node : String) (vInfo : List AddedNodeInfo) :
    findAddedNode (.str node) vInfo = .ok (vInfo.find? fun info => info.strAddedNode = node) := by
  induction vInfo with
  | nil => rfl
  | cons info vInfo ih =>
      by_cases h : info.strAddedNode = node <;> simp [findAddedNode, h, ih]

/-- With only `dns`, one object per report, in order. -/
theorem getaddednodeinfo_all (GetAddedNodeInfo : NodeState → List AddedNodeInfo) (dns : UniValue)
    (s : NodeState) :
    getaddednodeinfo GetAddedNodeInfo [dns] false s =
      .ok (.arr ((GetAddedNodeInfo s).map addedNodeObject)) s := rfl

/-- With a node, the object of the first report naming it, or `RPC_CLIENT_NODE_NOT_ADDED`. -/
theorem getaddednodeinfo_node (GetAddedNodeInfo : NodeState → List AddedNodeInfo)
    (dns : UniValue) (node : String) (s : NodeState) :
    getaddednodeinfo GetAddedNodeInfo [dns, .str node] false s =
      match (GetAddedNodeInfo s).find? fun info => info.strAddedNode = node with
      | some info => .ok (.arr [addedNodeObject info]) s
      | none => .error (.jsonRpcError .rpcClientNodeNotAdded "Error: Node has not been added.") s := by
  cases h : (GetAddedNodeInfo s).find? fun info => info.strAddedNode = node <;>
    simp [getaddednodeinfo, findAddedNode_str, h]

theorem getaddednodeinfo_readOnly (GetAddedNodeInfo : NodeState → List AddedNodeInfo)
    (params : List UniValue) (fHelp : Bool) :
    ReadOnly (getaddednodeinfo GetAddedNodeInfo params fHelp) :=
  readOnly_ite (readOnly_throw _) <| readOnly_get.bind fun _ =>
    (readOnly_ite ((readOnly_ofExcept _).bind fun found => by
      cases found with
      | some _ => exact readOnly_pure _
      | none => exact readOnly_throw _) (readOnly_pure _)).bind fun _ => readOnly_pure _

/-- `getaddednodeinfo` lists the reports of `GetAddedNodeInfo`, whatever they are. With only the
`dns` parameter the reply has one object per report, in order. With a node it is the object of the
first report naming the node, and the call throws `RPC_CLIENT_NODE_NOT_ADDED` when none does. An
object carries the report's node and status, and one address, tagged `inbound` exactly when the
peer connected in, when the node is connected, none otherwise. No call writes. -/
theorem getaddednodeinfo_reply (GetAddedNodeInfo : NodeState → List AddedNodeInfo)
    (s : NodeState) :
    let vInfo := GetAddedNodeInfo s
    (∀ dns, getaddednodeinfo GetAddedNodeInfo [dns] false s = .ok (.arr (vInfo.map addedNodeObject)) s) ∧
    (∀ dns node, getaddednodeinfo GetAddedNodeInfo [dns, .str node] false s =
      match vInfo.find? fun info => info.strAddedNode = node with
      | some info => .ok (.arr [addedNodeObject info]) s
      | none => .error (.jsonRpcError .rpcClientNodeNotAdded "Error: Node has not been added.") s) ∧
    (∀ info : AddedNodeInfo, ∃ addresses,
      addedNodeObject info = .obj [("addednode", .str info.strAddedNode),
        ("connected", .bool info.fConnected), ("addresses", .arr addresses)] ∧
      addresses.length = (if info.fConnected then 1 else 0) ∧
      ∀ a ∈ addresses, ∃ address, a = .obj [("address", address),
        ("connected", .str (if info.fInbound then "inbound" else "outbound"))]) := by
  refine ⟨fun dns => getaddednodeinfo_all GetAddedNodeInfo dns s,
    fun dns node => getaddednodeinfo_node GetAddedNodeInfo dns node s, fun info => ⟨_, rfl, ?_, ?_⟩⟩
  · split_ifs <;> rfl
  · split_ifs <;> simp

/-- Modelled from the spec: `GetAddedNodeInfo` (net.cpp) reports every added node, in order, as
connected when a live peer carries its name, with that peer's address and direction. -/
def getAddedNodeInfo (s : NodeState) : List AddedNodeInfo :=
  s.vAddedNodes.map fun strAddedNode =>
    let pNode := s.vNodes.find? (·.stats.addrName == strAddedNode)
    { strAddedNode
      resolvedAddress := (pNode.map (·.addr)).getD default
      fConnected := pNode.isSome
      fInbound := (pNode.map (·.stats.fInbound)).getD false }

end

end LuxRpcNet
