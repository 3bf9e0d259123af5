import LuxRpcNet.AddedNodes
import LuxRpcNet.BanList
import LuxRpcNet.NetworkInfo
import LuxRpcNet.Destination
import LuxRpcNet.GetAddedNodeInfo
import Mathlib.Logic.Relation

/-! The command table, and what the RPC layer can do to the node over any run of requests.
`NodeStep` lists what one request can do to the node state, whatever the handler, and
`handleRequest_step` shows every handler's run to be one of these steps; the invariants of every
reachable state follow from the steps alone: the added nodes have no duplicates, the ban table
saved last is the table in memory, and the added-node list is what the `addnode` requests alone
make. Over the ban table, an entry ends after it was made whenever no `setban … add` asks for an
end that is not after now, and each subnet's entry follows the spec's life of a ban, `BanKeyStep`,
so that, with a clock that moves from request to request (`handleRequestAt`), a ban survives
every request served before it ends other than `setban … remove` and `clearbanned`. -/

namespace LuxRpcNet

open UniValue NetBase

section

variable [NetBase]

/-- The commands of `rpcnet.cpp`. -/
inductive Command where
  | getconnectioncount
  | ping
  | destination
  | getpeerinfo
  | addnode
  | disconnectnode
  | getaddednodeinfo
  | getnettotals
  | switchnetwork
  | getnetworkinfo
  | setban
  | listbanned
  | clearbanned
  deriving DecidableEq, Repr

/-- Modelled from the spec: the dispatch table (rpcserver.cpp) maps each command to its handler.
`GetAddedNodeInfo` is the connection manager's report that `getaddednodeinfo` reads. -/
def Command.handler (GetAddedNodeInfo : NodeState → List AddedNodeInfo) :
    Command → List UniValue → Bool → RPC UniValue
  | .getconnectioncount => LuxRpcNet.getconnectioncount
  | .ping => LuxRpcNet.ping
  | .destination => LuxRpcNet.destination
  | .getpeerinfo => LuxRpcNet.getpeerinfo
  | .addnode => LuxRpcNet.addnode
  | .disconnectnode => LuxRpcNet.disconnectnode
  | .getaddednodeinfo => LuxRpcNet.getaddednodeinfo GetAddedNodeInfo
  | .getnettotals => LuxRpcNet.getnettotals
  | .switchnetwork => LuxRpcNet.switchnetwork
  | .getnetworkinfo => LuxRpcNet.getnetworkinfo
  | .setban => LuxRpcNet.setban
  | .listbanned => LuxRpcNet.listbanned
  | .clearbanned => LuxRpcNet.clearbanned

/-- A request: a command, its positional parameters and the help flag. -/
structure Request where
  command : Command
  params : List UniValue
  fHelp : Bool

/-- The server's handler of one request. -/
def handleRequest (GetAddedNodeInfo : NodeState → List AddedNodeInfo) (r : Request) :
    RPC UniValue :=
  r.command.handler GetAddedNodeInfo r.params r.fHelp

/-- The toggle of the added nodes a served request performed: `addnode`'s, none for the other
commands. -/
def Request.addedToggle : Request × Except RPCException UniValue → Option (String × Bool)
  | (⟨.addnode, params, fHelp⟩, reply) => toggle ((params, fHelp), reply)
  | _ => none

/-- Whether a served request flipped the network flag: a `switchnetwork` that returned. -/
def Request.flipsNetwork : Request × Except RPCException UniValue → Bool
  | (⟨.switchnetwork, _, _⟩, .ok _) => true
  | _ => false

/-- Every failed request leaves the state it found, whatever the command. -/
theorem handleRequest_atomic (GetAddedNodeInfo : NodeState → List AddedNodeInfo) (r : Request) :
    Atomic (handleRequest GetAddedNodeInfo r) := by
  obtain ⟨c, params, fHelp⟩ := r
  cases c
  · exact (getconnectioncount_readOnly params fHelp).atomic
  · exact ping_atomic params fHelp
  · exact (destination_readOnly params fHelp).atomic
  · exact (getpeerinfo_readOnly params fHelp).atomic
  · exact addnode_atomic params fHelp
  · exact disconnectnode_atomic params fHelp
  · exact (getaddednodeinfo_readOnly GetAddedNodeInfo params fHelp).atomic
  · exact (getnettotals_readOnly params fHelp).atomic
  · exact switchnetwork_atomic params fHelp
  · exact (getnetworkinfo_readOnly params fHelp).atomic
  · exact setban_atomic params fHelp
  · exact (listbanned_readOnly params fHelp).atomic
  · exact clearbanned_atomic params fHelp

/-! ### The steps of the RPC layer -/

/-- What one request can do to the node state, indexed by the toggle of the added nodes it
performs and by whether it flips the network flag. -/
inductive NodeStep : Option (String × Bool) → Bool → NodeState → NodeState → Prop where
  /-- Nothing changes: a read, a refusal or a throw. -/
  | stay (s : NodeState) : NodeStep none false s s
  /-- Every live peer gets a ping queued. -/
  | queuePings (s : NodeState) :
      NodeStep none false s
        { s with vNodes := s.vNodes.map fun n => { n with fPingQueued := true } }
  /-- The network flag flips. -/
  | toggleNetwork (s : NodeState) :
      NodeStep none true s { s with fNetworkActive := !s.fNetworkActive }
  /-- One live peer is closed. -/
  | disconnect (s : NodeState) (pNode : CNode) (h : pNode ∈ s.vNodes) :
      NodeStep none false s (closeSocketDisconnect pNode s)
  /-- An enabled toggle of the added nodes, with connections asked for. -/
  | editAddedNodes (s : NodeState) (t : Option (String × Bool)) (h : Enabled t s.vAddedNodes)
      (opens : List String) :
      NodeStep t false s { s with
        vAddedNodes := applyToggle t s.vAddedNodes
        events := s.events ++ opens.map .openNetworkConnection }
  /-- Some live peers kept and the others closed, and a new ban table, saved last. -/
  | changeBans (s : NodeState) (keep : CNode → Bool) (table : BanMap) :
      NodeStep none false s { s with
        vNodes := s.vNodes.filter keep
        setBanned := table
        events := s.events ++ (s.vNodes.filter fun n => !keep n).map
          (fun n => .closeSocketDisconnect n.stats.nodeid) ++ [.dumpBanlist table.entries] }

theorem NodeStep.of_readOnly {x : RPC UniValue} (hx : ReadOnly x) (s : NodeState) :
    NodeStep none false s (stateOf (x s)) := by
  rw [hx s]
  exact .stay s

@[simp] theorem BanMap.default_entries : (default : BanMap).entries = [] := rfl

/-- Every handler's run, returning or throwing, is a step that performs the toggle its reply
records, and flips the network flag exactly when it is a `switchnetwork` that returned. -/
theorem handleRequest_step (GetAddedNodeInfo : NodeState → List AddedNodeInfo) (r : Request)
    (s : NodeState) :
    let result := handleRequest GetAddedNodeInfo r s
    NodeStep (Request.addedToggle (r, replyOf result)) (Request.flipsNetwork (r, replyOf result)) s
      (stateOf result) := by
  obtain ⟨c, params, fHelp⟩ := r
  cases c <;> dsimp only [handleRequest, Command.handler]
  case getconnectioncount => exact .of_readOnly (getconnectioncount_readOnly params fHelp) s
  case ping =>
    rcases ping_state params fHelp s with h | h <;> rw [h]
    exacts [.stay s, .queuePings s]
  case destination => exact .of_readOnly (destination_readOnly params fHelp) s
  case getpeerinfo => exact .of_readOnly (getpeerinfo_readOnly params fHelp) s
  case addnode =>
    obtain ⟨opens, h⟩ := addnode_state params fHelp s
    rw [h]
    exact .editAddedNodes s _ (addnode_step params fHelp s).1 opens
  case disconnectnode =>
    rcases disconnectnode_state params fHelp s with h | ⟨pNode, hmem, h⟩ <;> rw [h]
    exacts [.stay s, .disconnect s pNode hmem]
  case getaddednodeinfo =>
    exact .of_readOnly (getaddednodeinfo_readOnly GetAddedNodeInfo params fHelp) s
  case getnettotals => exact .of_readOnly (getnettotals_readOnly params fHelp) s
  case switchnetwork =>
    rcases switchnetwork_cases params fHelp s with h | h <;> rw [h]
    exacts [.stay s, .toggleNetwork s]
  case getnetworkinfo => exact .of_readOnly (getnetworkinfo_readOnly params fHelp) s
  case setban =>
    rcases setban_state params fHelp s with h | ⟨keep, table, h⟩ <;> rw [h]
    exacts [.stay s, .changeBans s keep table]
  case listbanned => exact .of_readOnly (listbanned_readOnly params fHelp) s
  case clearbanned =>
    rcases clearbanned_state params fHelp s with h | h <;> rw [h]
    · exact .stay s
    · simpa using NodeStep.changeBans s (fun _ => true) default

/-! ### What one step keeps -/

def NetEvent.dumped : NetEvent → Option (List (CSubNet × CBanEntry))
  | .dumpBanlist banned => some banned
  | _ => none

/-- The ban table as last saved: what the last `DumpBanlist` of the log wrote. -/
def savedBanlist : List NetEvent → Option (List (CSubNet × CBanEntry))
  | [] => none
  | ev :: events => (savedBanlist events).or ev.dumped

theorem savedBanlist_append (l₁ l₂ : List NetEvent) :
    savedBanlist (l₁ ++ l₂) = (savedBanlist l₂).or (savedBanlist l₁) := by
  induction l₁ with
  | nil => simp [savedBanlist]
  | cons ev l₁ ih => simp [savedBanlist, ih, Option.or_assoc]

theorem savedBanlist_eq_none {l : List NetEvent} (h : ∀ ev ∈ l, ev.dumped = none) :
    savedBanlist l = none := by
  induction l with
  | nil => rfl
  | cons ev l ih => simp [savedBanlist, ih fun e he => h e (.tail _ he), h ev (.head _)]

/-- What every state reached by requests keeps. -/
structure Inv (s : NodeState) : Prop where
  /-- The added nodes are an ordered set. -/
  addedNodesNodup : s.vAddedNodes.Nodup
  /-- The table saved last is the table in memory. -/
  banlistSaved : savedBanlist s.events = some s.setBanned.entries

/-- How the state moves along a run: the log grows, peers only leave and keep their statistics,
and the node's constants, the address book and the sync table stay. -/
structure Evolves (s s' : NodeState) : Prop where
  events : s.events <+: s'.events
  peers : (s'.vNodes.map (·.stats)).Sublist (s.vNodes.map (·.stats))
  env : s'.env = s.env
  addrman : s'.addrman = s.addrman
  mapNodeState : s'.mapNodeState = s.mapNodeState

theorem Evolves.refl (s : NodeState) : Evolves s s :=
  ⟨List.prefix_refl _, List.Sublist.refl _, rfl, rfl, rfl⟩

theorem Evolves.trans {s₁ s₂ s₃ : NodeState} (h₁ : Evolves s₁ s₂) (h₂ : Evolves s₂ s₃) :
    Evolves s₁ s₃ :=
  ⟨h₁.events.trans h₂.events, h₂.peers.trans h₁.peers, h₂.env.trans h₁.env,
    h₂.addrman.trans h₁.addrman, h₂.mapNodeState.trans h₁.mapNodeState⟩

namespace NodeStep

variable {t : Option (String × Bool)} {b : Bool} {s s' : NodeState}

theorem vAddedNodes (h : NodeStep t b s s') :
    Enabled t s.vAddedNodes ∧ s'.vAddedNodes = applyToggle t s.vAddedNodes := by
  cases h
  case editAddedNodes _ he => exact ⟨he, rfl⟩
  all_goals exact ⟨trivial, rfl⟩

theorem fNetworkActive (h : NodeStep t b s s') : s'.fNetworkActive = (s.fNetworkActive ^^ b) := by
  cases h <;> simp [closeSocketDisconnect]

theorem evolves (h : NodeStep t b s s') : Evolves s s' := by
  cases h with
  | stay => exact .refl s
  | queuePings => exact ⟨List.prefix_refl _, by simp [Function.comp_def], rfl, rfl, rfl⟩
  | toggleNetwork => exact ⟨List.prefix_refl _, List.Sublist.refl _, rfl, rfl, rfl⟩
  | disconnect _ pNode =>
      exact ⟨List.prefix_append _ _, (List.erase_sublist _ _).map _, rfl, rfl, rfl⟩
  | editAddedNodes => exact ⟨List.prefix_append _ _, List.Sublist.refl _, rfl, rfl, rfl⟩
  | changeBans =>
      exact ⟨List.append_assoc _ _ _ ▸ List.prefix_append _ _, (List.filter_sublist _).map _,
        rfl, rfl, rfl⟩

theorem inv (h : NodeStep t b s s') (hs : Inv s) : Inv s' := by
  obtain ⟨he, hl⟩ := h.vAddedNodes
  refine ⟨hl ▸ nodup_applyToggle he hs.addedNodesNodup, ?_⟩
  have hs := hs.banlistSaved
  cases h with
  | stay | queuePings | toggleNetwork => exact hs
  | disconnect => simpa [closeSocketDisconnect, savedBanlist_append, savedBanlist, NetEvent.dumped]
  | editAddedNodes =>
      rw [savedBanlist_append, savedBanlist_eq_none (by simp [NetEvent.dumped])]
      exact hs
  | changeBans => simp [savedBanlist_append, savedBanlist, NetEvent.dumped]

end NodeStep

/-! ### Runs -/

/-- One request after another: every pair of consecutive states is a step. -/
def Reachable : NodeState → NodeState → Prop :=
  Relation.ReflTransGen fun s s' => ∃ t b, NodeStep t b s s'

theorem serveAll_reachable (GetAddedNodeInfo : NodeState → List AddedNodeInfo) (rs : List Request)
    (s : NodeState) : Reachable s (serveAll (handleRequest GetAddedNodeInfo) rs s).1 := by
  induction rs generalizing s with
  | nil => exact .refl
  | cons r rs ih => exact .head ⟨_, _, handleRequest_step GetAddedNodeInfo r s⟩ (ih _)

theorem Reachable.inv {s s' : NodeState} (h : Reachable s s') (hs : Inv s) : Inv s' := by
  induction h with
  | refl => exact hs
  | tail _ hstep ih =>
      obtain ⟨_, _, hstep⟩ := hstep
      exact hstep.inv ih

theorem Reachable.evolves {s s' : NodeState} (h : Reachable s s') : Evolves s s' := by
  induction h with
  | refl => exact .refl s
  | tail _ hstep ih =>
      obtain ⟨_, _, hstep⟩ := hstep
      exact ih.trans hstep.evolves

/-- Over any run of requests, whatever the commands, parameters and help flags: from a state where
the added nodes have no duplicates and the saved ban table is the one in memory, the state reached
keeps both. Along the run the log only grows, live peers only leave and keep their statistics,
and the node's constants, the address book and the sync table stay. -/
theorem serveAll_inv (GetAddedNodeInfo : NodeState → List AddedNodeInfo) (rs : List Request)
    (s : NodeState) (hs : Inv s) :
    let s' := (serveAll (handleRequest GetAddedNodeInfo) rs s).1
    Inv s' ∧ Evolves s s' :=
  ⟨(serveAll_reachable GetAddedNodeInfo rs s).inv hs, (serveAll_reachable GetAddedNodeInfo rs s).evolves⟩

end

/-- A node started with its saved table loaded, serving a ban, an add and a clear. -/
theorem serveAll_inv_from_start :
    let s : NodeState := { (default : NodeState) with events := [.dumpBanlist []] }
    let rs : List Request := [⟨.setban, [.str "10.0.0.0/24", .str "add"], false⟩,
      ⟨.addnode, [.str "a", .str "add"], false⟩, ⟨.clearbanned, [], false⟩]
    Inv s ∧ Inv (serveAll (handleRequest getAddedNodeInfo) rs s).1 :=
  have hs : Inv ({ (default : NodeState) with events := [.dumpBanlist []] } : NodeState) := ⟨List.nodup_nil, rfl⟩
  ⟨hs, (serveAll_inv getAddedNodeInfo _ _ hs).1⟩

section

variable [NetBase]

/-- Over any run of requests the network flag is the initial one flipped once for every
`switchnetwork` that returned, and by nothing else. -/
theorem serveAll_fNetworkActive (GetAddedNodeInfo : NodeState → List AddedNodeInfo)
    (rs : List Request) (s : NodeState) :
    let run := serveAll (handleRequest GetAddedNodeInfo) rs s
    run.1.fNetworkActive =
      run.2.foldl (fun active e => active ^^ Request.flipsNetwork e) s.fNetworkActive := by
  induction rs generalizing s with
  | nil => rfl
  | cons r rs ih =>
      simp only [serveAll_cons, List.foldl_cons]
      rw [ih, (handleRequest_step GetAddedNodeInfo r s).fNetworkActive]

/-! ### Ban entries over a run -/

/-- The spec's invariant of the ban table: every entry ends after it was made. -/
def BansEndAfterCreation (s : NodeState) : Prop :=
  ∀ entry ∈ s.setBanned.entries, entry.2.nCreateTime < entry.2.nBanUntil

instance : DecidablePred BansEndAfterCreation := fun s =>
  inferInstanceAs
    (Decidable (∀ entry ∈ s.setBanned.entries, entry.2.nCreateTime < entry.2.nBanUntil))

/-- Whether a request asks for no ban that ends by now: it is not a `setban … add` whose ban time
and flag read, or the end `CNode::Ban` makes of them is after now. -/
def Request.banEndsAfterNow (env : NodeEnv) (r : Request) : Bool :=
  match r.command, setbanBanTime r.params, setbanAbsolute r.params with
  | .setban, .ok banTime, .ok absolute =>
      decide (param r.params 1 ≠ .str "add") || decide (env.nTime < banUntil env banTime absolute)
  | _, _, _ => true

theorem handleRequest_setBanned (GetAddedNodeInfo : NodeState → List AddedNodeInfo) (r : Request)
    (s : NodeState) :
    let s' := stateOf (handleRequest GetAddedNodeInfo r s)
    (r.command = .setban ∧ SetbanWrites r.params s s'.setBanned) ∨
      (r.command = .clearbanned ∧ s'.setBanned = default) ∨ s'.setBanned = s.setBanned := by
  obtain ⟨c, params, fHelp⟩ := r
  cases c <;> dsimp only [handleRequest, Command.handler]
  case setban =>
    cases h : setban params fHelp s with
    | ok v s' => exact .inl ⟨rfl, setban_writes h⟩
    | error e s' => exact .inr (.inr (by rw [setban_atomic params fHelp s e s' h]; rfl))
  case clearbanned =>
    rcases clearbanned_state params fHelp s with h | h <;> rw [h]
    exacts [.inr (.inr rfl), .inr (.inl ⟨rfl, rfl⟩)]
  all_goals refine .inr (.inr ?_)
  case getconnectioncount => rw [getconnectioncount_readOnly params fHelp s]
  case ping => rcases ping_state params fHelp s with h | h <;> rw [h]
  case destination => rw [destination_readOnly params fHelp s]
  case getpeerinfo => rw [getpeerinfo_readOnly params fHelp s]
  case addnode => obtain ⟨_, h⟩ := addnode_state params fHelp s; rw [h]
  case disconnectnode =>
    rcases disconnectnode_state params fHelp s with h | ⟨_, -, h⟩ <;> rw [h]
    rfl
  case getaddednodeinfo => rw [getaddednodeinfo_readOnly GetAddedNodeInfo params fHelp s]
  case getnettotals => rw [getnettotals_readOnly params fHelp s]
  case switchnetwork => rcases switchnetwork_cases params fHelp s with h | h <;> rw [h] <;> rfl
  case getnetworkinfo => rw [getnetworkinfo_readOnly params fHelp s]
  case listbanned => rw [listbanned_readOnly params fHelp s]

theorem SetbanWrites.bansEndAfterCreation {params : List UniValue} {s : NodeState} {table : BanMap}
    (hw : SetbanWrites params s table) (hs : BansEndAfterCreation s)
    (hend : param params 1 = .str "add" → ∀ banTime absolute, setbanBanTime params = .ok banTime →
      setbanAbsolute params = .ok absolute → s.env.nTime < banUntil s.env banTime absolute) :
    ∀ entry ∈ table.entries, entry.2.nCreateTime < entry.2.nBanUntil := by
  rcases hw with rfl | ⟨-, subNet, rfl⟩ | ⟨hadd, t, banTime, absolute, -, -, hb, ha, rfl⟩
  · exact hs
  · exact fun entry he => hs entry (List.mem_of_mem_filter he)
  · intro entry he
    simp only [BanMap.insert, BanMap.erase, List.mem_append, List.mem_singleton] at he
    rcases he with he | rfl
    · exact hs entry (List.mem_of_mem_filter he)
    · exact hend hadd banTime absolute hb ha

theorem handleRequest_bansEndAfterCreation (GetAddedNodeInfo : NodeState → List AddedNodeInfo)
    (r : Request) (s : NodeState) (hs : BansEndAfterCreation s)
    (hr : r.banEndsAfterNow s.env = true) :
    BansEndAfterCreation (stateOf (handleRequest GetAddedNodeInfo r s)) := by
  rcases handleRequest_setBanned GetAddedNodeInfo r s with ⟨hc, hw⟩ | ⟨-, hclear⟩ | hsame
  · exact hw.bansEndAfterCreation hs fun hadd banTime absolute hb ha => by
      simpa [Request.banEndsAfterNow, hc, hb, ha, hadd] using hr
  · intro entry he
    rw [hclear, BanMap.default_entries] at he
    cases he
  · exact fun entry he => hs entry (hsame ▸ he)

/-- Over any run in which no `setban … add` asks for a ban that ends by now, every ban entry ends
after it was made, when every entry of the table it started from did. -/
theorem serveAll_bansEndAfterCreation (GetAddedNodeInfo : NodeState → List AddedNodeInfo)
    (rs : List Request) (s : NodeState) (hs : BansEndAfterCreation s)
    (hrs : ∀ r ∈ rs, r.banEndsAfterNow s.env = true) :
    BansEndAfterCreation (serveAll (handleRequest GetAddedNodeInfo) rs s).1 := by
  induction rs generalizing s with
  | nil => exact hs
  | cons r rs ih =>
      have henv := (handleRequest_step GetAddedNodeInfo r s).evolves.env
      refine ih _ (handleRequest_bansEndAfterCreation GetAddedNodeInfo r s hs (hrs r (.head _)))
        fun r' hr' => ?_
      rw [henv]
      exact hrs r' (.tail _ hr')

end

/-- A node whose default ban lasts a day serves a default ban, a ban for an hour and a ban until
time one. -/
theorem serveAll_bansEndAfterCreation_day :
    let s : NodeState :=
      { (default : NodeState) with env := { (default : NodeEnv) with nDefaultBanTime := 86400 } }
    let rs : List Request := [⟨.setban, [.str "10.0.0.0/24", .str "add"], false⟩,
      ⟨.setban, [.str "10.0.1.1", .str "add", .num 3600], false⟩,
      ⟨.setban, [.str "10.0.2.1", .str "add", .num 1, .bool true], false⟩]
    BansEndAfterCreation s ∧ (∀ r ∈ rs, r.banEndsAfterNow s.env = true) ∧
      BansEndAfterCreation (serveAll (handleRequest getAddedNodeInfo) rs s).1 :=
  ⟨by decide, by decide,
    serveAll_bansEndAfterCreation getAddedNodeInfo _ _ (by decide) (by decide)⟩

section

variable [NetBase]

/-! ### One subnet's entry over a run -/

/-- The spec's life of one subnet's entry (section 4.3) at time `now`: it stays; a ban writes an
entry made now where none was live; or, when the request may end bans, it goes. -/
inductive BanKeyStep (now : Int) : Bool → Option CBanEntry → Option CBanEntry → Prop
  | stay (endsBans : Bool) (entry : Option CBanEntry) : BanKeyStep now endsBans entry entry
  | ban (endsBans : Bool) (entry : Option CBanEntry) (nBanUntil : Int)
      (hexpired : ∀ e ∈ entry, e.nBanUntil ≤ now) :
      BanKeyStep now endsBans entry (some ⟨now, nBanUntil, .manually⟩)
  | lift (entry : Option CBanEntry) : BanKeyStep now true entry none

/-- Whether a request may end bans early: a `clearbanned`, or a `setban` whose command is
`remove`. -/
def Request.endsBans (r : Request) : Bool :=
  match r.command with
  | .clearbanned => true
  | .setban => decide (param r.params 1 = .str "remove")
  | _ => false

/-- Every request moves each subnet's entry along the spec's life of an entry, when the subnet of
a valid address holds the address: in particular no request overwrites a live entry. -/
theorem handleRequest_banKeyStep (GetAddedNodeInfo : NodeState → List AddedNodeInfo) (r : Request)
    (s : NodeState) (k : CSubNet)
    (hsingle : ∀ a, netAddrIsValid a = true → subNetMatch (subNetOfNetAddr a) a = true) :
    BanKeyStep s.env.nTime r.endsBans (s.setBanned.find? k)
      ((stateOf (handleRequest GetAddedNodeInfo r s)).setBanned.find? k) := by
  rcases handleRequest_setBanned GetAddedNodeInfo r s with ⟨hc, hw⟩ | ⟨hc, hclear⟩ | hsame
  · rcases hw with hsame | ⟨hremove, subNet, herase⟩ | ⟨-, t, banTime, absolute, hvalid, hfree, -, -, hins⟩
    · rw [hsame]
      exact .stay _ _
    · have hends : r.endsBans = true := by simp [Request.endsBans, hc, hremove]
      rw [herase, BanMap.find?_erase, Function.update_apply, hends]
      split_ifs
      exacts [.lift _, .stay _ _]
    · rw [hins, BanMap.find?_insert, Function.update_apply]
      split_ifs with hk
      · subst hk
        refine .ban _ _ _ fun e he => not_lt.1 fun hlive => ?_
        rw [SetbanTarget.isBanned_of_live hsingle hvalid he hlive] at hfree
        cases hfree
      · exact .stay _ _
  · have hends : r.endsBans = true := by simp [Request.endsBans, hc]
    rw [hclear, hends]
    exact .lift _
  · rw [hsame]
    exact .stay _ _

/-! ### A moving clock -/

/-- The node with `GetTime()` at `nTime`. -/
def NodeState.atTime (s : NodeState) (nTime : Int) : NodeState :=
  { s with env := { s.env with nTime := nTime } }

/-- A request served at its own time: the handlers read `GetTime()` as the time it comes with. -/
def handleRequestAt (GetAddedNodeInfo : NodeState → List AddedNodeInfo) (tr : Int × Request) :
    RPC UniValue := do
  modify (·.atTime tr.1)
  handleRequest GetAddedNodeInfo tr.2

theorem handleRequestAt_run (GetAddedNodeInfo : NodeState → List AddedNodeInfo) (tr : Int × Request)
    (s : NodeState) :
    handleRequestAt GetAddedNodeInfo tr s = handleRequest GetAddedNodeInfo tr.2 (s.atTime tr.1) := rfl

/-- A clock that stands still: the server of one clock is the server whose requests all come at
its time. -/
theorem serveAll_atTime (GetAddedNodeInfo : NodeState → List AddedNodeInfo) (rs : List Request)
    (s : NodeState) :
    (serveAll (handleRequest GetAddedNodeInfo) rs s).1 =
      (serveAll (handleRequestAt GetAddedNodeInfo) (rs.map (s.env.nTime, ·)) s).1 := by
  induction rs generalizing s with
  | nil => rfl
  | cons r rs ih =>
      have henv := (handleRequest_step GetAddedNodeInfo r s).evolves.env
      have hat : s.atTime s.env.nTime = s := rfl
      simp only [List.map_cons, serveAll_cons, handleRequestAt_run, hat]
      rw [ih, henv]

/-- With the clock moving from request to request: over any run with no `clearbanned` and no
`setban … remove` whose requests all come before a ban entry ends, the entry stays as it is; no
request overwrites it, whatever it asks for. -/
theorem serveAll_live_ban_stays (GetAddedNodeInfo : NodeState → List AddedNodeInfo)
    (trs : List (Int × Request)) (s : NodeState) (k : CSubNet) (entry : CBanEntry)
    (hsingle : ∀ a, netAddrIsValid a = true → subNetMatch (subNetOfNetAddr a) a = true)
    (hk : s.setBanned.find? k = some entry) (hlive : ∀ tr ∈ trs, tr.1 < entry.nBanUntil)
    (hrs : ∀ tr ∈ trs, tr.2.endsBans = false) :
    (serveAll (handleRequestAt GetAddedNodeInfo) trs s).1.setBanned.find? k = some entry := by
  induction trs generalizing s with
  | nil => exact hk
  | cons tr trs ih =>
      have hstep := handleRequest_banKeyStep GetAddedNodeInfo tr.2 (s.atTime tr.1) k hsingle
      obtain ⟨after, hafter⟩ :
          ∃ after, (stateOf (handleRequestAt GetAddedNodeInfo tr s)).setBanned.find? k = after :=
        ⟨_, rfl⟩
      rw [← handleRequestAt_run, hafter, hrs tr (.head _)] at hstep
      change BanKeyStep tr.1 false (s.setBanned.find? k) after at hstep
      rw [hk] at hstep
      have hk' : after = some entry := by
        cases hstep with
        | stay => rfl
        | ban _ _ _ hexpired => exact absurd (hexpired entry rfl) (not_le.2 (hlive tr (.head _)))
      exact ih _ (hafter.trans hk') (fun tr' h => hlive tr' (.tail _ h)) fun tr' h => hrs tr' (.tail _ h)

end

/-- A default ban of `10.0.0.1` on an empty table moves its entry from none to one made now. -/
theorem handleRequest_banKeyStep_add :
    let r : Request := ⟨.setban, [.str "10.0.0.1", .str "add"], false⟩
    BanKeyStep (default : NodeState).env.nTime r.endsBans
      ((default : NodeState).setBanned.find? "10.0.0.1")
      ((stateOf (handleRequest getAddedNodeInfo r default)).setBanned.find? "10.0.0.1") :=
  handleRequest_banKeyStep getAddedNodeInfo _ default "10.0.0.1" fun a _ => textSubNetMatch_self a

/-- A ban on `10.0.0.1` until 100 survives a request at time 10 to ban it again until time one,
and a ban of another address at time 60. -/
theorem serveAll_live_ban_stays_rebanned :
    let s : NodeState :=
      { (default : NodeState) with setBanned := ⟨[("10.0.0.1", ⟨0, 100, .manually⟩)], by decide⟩ }
    let trs : List (Int × Request) :=
      [(10, ⟨.setban, [.str "10.0.0.1", .str "add", .num 1, .bool true], false⟩),
        (60, ⟨.setban, [.str "10.0.0.2", .str "add"], false⟩)]
    (serveAll (handleRequestAt getAddedNodeInfo) trs s).1.setBanned.find? "10.0.0.1" =
      some ⟨0, 100, .manually⟩ :=
  serveAll_live_ban_stays getAddedNodeInfo _ _ _ _ (fun a _ => textSubNetMatch_self a) rfl
    (by decide) (by decide)

section

variable [NetBase]

/-! ### The added nodes over a run of any commands -/

/-- The `addnode` requests of a served log, with their replies. -/
def addnodeLog : List (Request × Except RPCException UniValue) → List AddNodeEntry
  | [] => []
  | (⟨.addnode, params, fHelp⟩, reply) :: log => ((params, fHelp), reply) :: addnodeLog log
  | _ :: log => addnodeLog log

omit [NetBase] in
theorem togglesOf_addnodeLog_cons (x : String) (e : Request × Except RPCException UniValue)
    (log : List (Request × Except RPCException UniValue)) :
    togglesOf x (addnodeLog (e :: log)) =
      togglesAt x (Request.addedToggle e) ++ togglesOf x (addnodeLog log) := by
  rcases e with ⟨⟨c, params, fHelp⟩, reply⟩
  cases c <;> rfl

omit [NetBase] in
theorem keptAdds_addnodeLog_cons (e : Request × Except RPCException UniValue)
    (log : List (Request × Except RPCException UniValue)) :
    keptAdds (addnodeLog (e :: log)) =
      (appended (Request.addedToggle e)).filter (fun n => false ∉ togglesOf n (addnodeLog log)) ++
        keptAdds (addnodeLog log) := by
  rcases e with ⟨⟨c, params, fHelp⟩, reply⟩
  cases c <;> rfl

/-- Over a run of any commands, the added-node list is what its `addnode` requests alone make:
duplicate-free when it starts so, it is the initial members no request removed, in order, then
the adds not removed since, in order. The other commands never touch it. -/
theorem serveAll_vAddedNodes (GetAddedNodeInfo : NodeState → List AddedNodeInfo)
    (rs : List Request) (s : NodeState) (hs : s.vAddedNodes.Nodup) :
    let run := serveAll (handleRequest GetAddedNodeInfo) rs s
    run.1.vAddedNodes.Nodup ∧
      run.1.vAddedNodes =
        s.vAddedNodes.filter (fun x => false ∉ togglesOf x (addnodeLog run.2)) ++
          keptAdds (addnodeLog run.2) := by
  induction rs generalizing s with
  | nil => simp [addnodeLog, keptAdds, togglesOf, hs]
  | cons r rs ih =>
      obtain ⟨he, hstep⟩ := (handleRequest_step GetAddedNodeInfo r s).vAddedNodes
      have hs' := hstep ▸ nodup_applyToggle he hs
      obtain ⟨hnodup, hlist⟩ := ih _ hs'
      refine ⟨hnodup, ?_⟩
      simp only [serveAll_cons] at hlist ⊢
      rw [hlist, hstep, filter_applyToggle_keptAdds he hs, keptAdds_addnodeLog_cons]
      simp only [togglesOf_addnodeLog_cons]

end

/-- Requests of other commands between two adds leave the list to the adds. -/
theorem serveAll_vAddedNodes_mixed :
    let rs : List Request := [⟨.addnode, [.str "a", .str "add"], false⟩, ⟨.ping, [], false⟩,
      ⟨.switchnetwork, [], false⟩, ⟨.addnode, [.str "b", .str "add"], false⟩]
    (default : NodeState).vAddedNodes.Nodup ∧
      (serveAll (handleRequest getAddedNodeInfo) rs default).1.vAddedNodes.Nodup :=
  ⟨List.nodup_nil, (serveAll_vAddedNodes getAddedNodeInfo _ default List.nodup_nil).1⟩

end LuxRpcNet
