import LuxRpcNet.BanTable
import Mathlib.Data.Nat.Digits

/-! The live peers: `getconnectioncount`, `ping`, `getpeerinfo` and `disconnectnode`.

The live peers are the list `vNodes`, in the order the connection manager keeps them.
`getconnectioncount` counts them, `ping` queues a ping on each, and `getpeerinfo` copies each one's
statistics and joins them with the sync state `GetNodeStateStats` keeps for the peer's id, when
there is one. `disconnectnode` closes the first peer of the given name and throws when there is
none. The first three take no parameters. -/

namespace LuxRpcNet

open UniValue NetBase

/-- `strprintf("%016x", n)`: lowercase hexadecimal, padded with zeros to sixteen digits. -/
def formatHex016 (n : UInt64) : String :=
  let digits := Nat.toDigits 16 n.toNat
  String.mk (List.replicate (16 - digits.length) '0' ++ digits)

/-- A 64-bit value never needs more than sixteen hexadecimal digits, so the text has exactly
sixteen. -/
theorem formatHex016_length (n : UInt64) : (formatHex016 n).length = 16 := by
  have hlt : n.toNat < 16 ^ 16 := n.val.isLt
  have hle : (Nat.toDigits 16 n.toNat).length ≤ 16 :=
    Nat.toDigitsCore_length 16 (by decide) _ _ 16 hlt (by decide)
  simp only [formatHex016, String.length, List.length_append, List.length_replicate]
  omega

/-- The digits of `%x`, in the order of their values. -/
def hexDigits : List Char := "0123456789abcdef".toList

/-- One more digit read: the value so far shifted by a digit, plus the digit's value. -/
def hexStep (acc : Nat) (c : Char) : Nat := 16 * acc + hexDigits.indexOf c

/-- The number a text of hexadecimal digits reads back as. -/
def ofHexDigits (l : List Char) : Nat := l.foldl hexStep 0

theorem digitChar_hex : ∀ d < 16, Nat.digitChar d ∈ hexDigits ∧ hexDigits.indexOf (Nat.digitChar d) = d := by
  decide

/-- The digits `toDigitsCore` puts before `ds` read back as `n`, given the fuel for all of them. -/
theorem foldl_toDigitsCore (fuel n : Nat) (ds : List Char) (hn : n < 16 ^ fuel) :
    (Nat.toDigitsCore 16 fuel n ds).foldl hexStep 0 = ds.foldl hexStep n := by
  induction fuel generalizing n ds with
  | zero =>
      obtain rfl : n = 0 := by simpa using hn
      rfl
  | succ f ih =>
      have hdigit := (digitChar_hex (n % 16) (Nat.mod_lt n (by decide))).2
      dsimp only [Nat.toDigitsCore]
      split_ifs with hdiv
      · rw [List.foldl_cons, hexStep, hdigit, mul_zero, zero_add,
          Nat.mod_eq_of_lt ((Nat.div_eq_zero_iff (by decide)).1 hdiv)]
      · rw [ih _ _ (by rw [pow_succ] at hn; omega), List.foldl_cons, hexStep, hdigit,
          Nat.div_add_mod]

theorem mem_toDigitsCore {fuel n : Nat} {ds : List Char} {c : Char}
    (h : c ∈ Nat.toDigitsCore 16 fuel n ds) : c ∈ ds ∨ c ∈ hexDigits := by
  induction fuel generalizing n ds with
  | zero => exact .inl h
  | succ f ih =>
      have hdigit := (digitChar_hex (n % 16) (Nat.mod_lt n (by decide))).1
      dsimp only [Nat.toDigitsCore] at h
      split_ifs at h
      · rcases List.mem_cons.1 h with rfl | h
        exacts [.inr hdigit, .inl h]
      · rcases ih h with h | h
        · rcases List.mem_cons.1 h with rfl | h
          exacts [.inr hdigit, .inl h]
        · exact .inr h

/-- `%016x` prints every 64-bit value as sixteen hexadecimal digits, zeros first, that read back
as the value. -/
theorem formatHex016_reads_back (n : UInt64) :
    (formatHex016 n).length = 16 ∧ (∀ c ∈ (formatHex016 n).toList, c ∈ hexDigits) ∧
      ofHexDigits (formatHex016 n).toList = n.toNat := by
  have hzero : ∀ k, (List.replicate k '0').foldl hexStep 0 = 0 := by
    intro k
    induction k with
    | zero => rfl
    | succ k ih => rw [List.replicate_succ', List.foldl_append, ih]; rfl
  have hfuel : n.toNat < 16 ^ (n.toNat + 1) :=
    (Nat.lt_pow_self (by decide) _).trans (Nat.pow_lt_pow_right (by decide) (Nat.lt_succ_self _))
  refine ⟨formatHex016_length n, fun c hc => ?_, ?_⟩
  · rcases List.mem_append.1 hc with h | h
    · rw [List.eq_of_mem_replicate h]
      decide
    · exact (mem_toDigitsCore h).resolve_left (List.not_mem_nil c)
  · rw [formatHex016, ofHexDigits, String.toList, List.foldl_append, hzero, Nat.toDigits,
      foldl_toDigitsCore _ _ _ hfuel]
    rfl

variable [NetBase]

def getconnectioncount : List UniValue → Bool → RPC UniValue :=
  withoutParams "getconnectioncount" do
    return .num (← get).vNodes.length

def ping : List UniValue → Bool → RPC UniValue :=
  withoutParams "ping" do
    -- Request that each node send a ping during next message processing pass
    modify fun s => { s with vNodes := s.vNodes.map fun pNode => { pNode with fPingQueued := true } }
    return .null

/-- `CopyNodeStats`: each live peer's statistics, in the order of `vNodes`. -/
def copyNodeStats (s : NodeState) : List CNodeStats := s.vNodes.map (·.stats)

/-- Modelled from the spec: `GetNodeStateStats` (main.cpp) finds the sync state kept for a peer
id, and fails when none is kept. -/
def getNodeStateStats (s : NodeState) (nodeid : NodeId) : Option CNodeStateStats :=
  s.mapNodeState.lookup nodeid

/-- One peer's object (lines 262-295). `addrlocal` is there when the local address is known,
`pingwait` when a ping is outstanding, and the sync fields when `GetNodeStateStats` succeeds. -/
def peerObject (stats : CNodeStats) (statestats : Option CNodeStateStats) : UniValue :=
  .obj <|
    [("id", .num stats.nodeid), ("addr", .str stats.addrName)] ++
    (if !stats.addrLocal.isEmpty then [("addrlocal", .str stats.addrLocal)] else []) ++
    [("services", .str (formatHex016 stats.nServices)), ("lastsend", .num stats.nLastSend),
      ("lastrecv", .num stats.nLastRecv), ("bytessent", .num stats.nSendBytes),
      ("bytesrecv", .num stats.nRecvBytes), ("conntime", .num stats.nTimeConnected),
      ("pingtime", .real stats.dPingTime)] ++
    (if stats.dPingWait > 0 then [("pingwait", .real stats.dPingWait)] else []) ++
    [("version", .num stats.nVersion), ("subver", .str stats.cleanSubVer),
      ("inbound", .bool stats.fInbound), ("startingheight", .num stats.nStartingHeight)] ++
    (match statestats with
      | some statestats =>
          [("banscore", .num statestats.nMisbehavior), ("synced_headers", .num statestats.nSyncHeight),
            ("synced_blocks", .num statestats.nCommonHeight),
            ("inflight", .arr (statestats.vHeightInFlight.map .num))]
      | none => []) ++
    [("whitelisted", .bool stats.fWhitelisted)]

def getpeerinfo : List UniValue → Bool → RPC UniValue :=
  withoutParams "getpeerinfo" do
    let s ← get
    let vstats := copyNodeStats s
    return .arr (vstats.map fun stats => peerObject stats (getNodeStateStats s stats.nodeid))

/-- Modelled from the spec: `FindNode(const std::string&)` (net.cpp) returns the first live peer
of this name. -/
def findNode (s : NodeState) (addrName : String) : Option CNode :=
  s.vNodes.find? (·.stats.addrName == addrName)

def disconnectnode (params : List UniValue) (fHelp : Bool) : RPC UniValue := do
  if fHelp || params.length != 1 then
    throw (.usage "disconnectnode")
  else
    let strNode ← getStr (param params 0)
    let s ← get
    match findNode s strNode with
    | none => throw (.jsonRpcError .rpcClientNodeNotConnected "Node not found in connected nodes")
    | some pNode =>
        set (closeSocketDisconnect pNode s)
        return .null

/-! ### What each request does -/

theorem getconnectioncount_run (s : NodeState) :
    getconnectioncount [] false s = .ok (.num s.vNodes.length) s := rfl

theorem getconnectioncount_readOnly (params : List UniValue) (fHelp : Bool) :
    ReadOnly (getconnectioncount params fHelp) :=
  readOnly_withoutParams (readOnly_get.bind fun _ => readOnly_pure _) params fHelp

/-- `ping` marks every live peer and changes nothing else of them. -/
theorem ping_run (s : NodeState) :
    ping [] false s =
      .ok .null { s with vNodes := s.vNodes.map fun pNode => { pNode with fPingQueued := true } } :=
  rfl

theorem ping_state (params : List UniValue) (fHelp : Bool) (s : NodeState) :
    stateOf (ping params fHelp s) = s ∨
      stateOf (ping params fHelp s) =
        { s with vNodes := s.vNodes.map fun pNode => { pNode with fPingQueued := true } } :=
  stateOf_withoutParams _ _ params fHelp s

theorem ping_atomic (params : List UniValue) (fHelp : Bool) : Atomic (ping params fHelp) :=
  withoutParams_atomic ((noThrow_modify _).bind fun _ => noThrow_pure _).atomic params fHelp

/-- `getpeerinfo` reports every live peer, in order, each joined with its sync state. -/
theorem getpeerinfo_run (s : NodeState) :
    getpeerinfo [] false s =
      .ok (.arr (s.vNodes.map fun pNode =>
        peerObject pNode.stats (getNodeStateStats s pNode.stats.nodeid))) s := by
  simp [getpeerinfo, withoutParams, copyNodeStats]

theorem getpeerinfo_readOnly (params : List UniValue) (fHelp : Bool) :
    ReadOnly (getpeerinfo params fHelp) :=
  readOnly_withoutParams (readOnly_get.bind fun _ => readOnly_pure _) params fHelp

/-- With a node name, `disconnectnode` closes the first live peer of that name, or throws with the
state untouched when there is none. -/
theorem disconnectnode_run (node : String) (s : NodeState) :
    disconnectnode [.str node] false s =
      match findNode s node with
      | none => .error (.jsonRpcError .rpcClientNodeNotConnected "Node not found in connected nodes") s
      | some pNode => .ok .null (closeSocketDisconnect pNode s) := by
  cases h : findNode s node <;> simp [disconnectnode, h]

/-- A `disconnectnode` request leaves the state it found, or closes one live peer. -/
theorem disconnectnode_state (params : List UniValue) (fHelp : Bool) (s : NodeState) :
    stateOf (disconnectnode params fHelp s) = s ∨
      ∃ pNode ∈ s.vNodes, stateOf (disconnectnode params fHelp s) = closeSocketDisconnect pNode s := by
  unfold disconnectnode
  split
  · exact .inl rfl
  cases h : getStr (param params 0) with
  | error e => exact .inl (by simp [h])
  | ok strNode =>
      cases hf : findNode s strNode with
      | none => exact .inl (by simp [h, hf])
      | some pNode => exact .inr ⟨pNode, List.mem_of_find?_eq_some hf, by simp [h, hf]⟩

theorem disconnectnode_atomic (params : List UniValue) (fHelp : Bool) :
    Atomic (disconnectnode params fHelp) :=
  atomic_ite (readOnly_throw _).atomic <|
    Atomic.bind_of_readOnly (readOnly_ofExcept _) fun strNode =>
      Atomic.bind_of_readOnly readOnly_get fun s => by
        cases findNode s strNode with
        | none => exact (readOnly_throw _).atomic
        | some pNode => exact ((noThrow_set _).bind fun _ => noThrow_pure _).atomic

end LuxRpcNet
