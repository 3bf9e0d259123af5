import LuxRpcNet.Threads

/-! Which handlers stay linearizable when the server interleaves them. A handler that is one
critical section runs as one step of the sequential server, so requests served only by such
handlers are linearizable (`run_linearizable`), and `addnode`, which holds `cs_vAddedNodes` from its
search to its edit, keeps the added nodes linearizable among any other requests
(`run_addnode_linearizable`). The spec asks the same of the ban table, but `setban … add` asks
`IsBanned` and calls `Ban` in two sections, so two threads adding one target can both succeed where
served one after the other the second is refused (`setban_add_race`); `switchnetwork` reads the
flag and writes its negation in two sections and loses an update (`switchnetwork_lost_update`);
and two threads disconnecting one peer both find it and both succeed, where served one after the
other the second finds no such peer (`disconnectnode_race`). -/

namespace LuxRpcNet

open UniValue NetBase

theorem serveAll_append {ρ α : Type} [NetBase] (handler : ρ → RPC α) (l₁ l₂ : List ρ)
    (s : NodeState) :
    serveAll handler (l₁ ++ l₂) s =
      ((serveAll handler l₂ (serveAll handler l₁ s).1).1,
        (serveAll handler l₁ s).2 ++ (serveAll handler l₂ (serveAll handler l₁ s).1).2) := by
  induction l₁ generalizing s with
  | nil => rfl
  | cons r l₁ ih => simp [serveAll_cons, ih]

/-- The handler is one critical section: all but the four that let other threads in between their
sections. -/
def Command.oneSection : Command → Bool
  | .switchnetwork | .disconnectnode | .setban | .clearbanned => false
  | _ => true

section

variable [NetBase] {G : NodeState → List AddedNodeInfo}

theorem Request.begin_of_oneSection {r : Request} (h : r.command.oneSection = true) :
    r.begin G = (fun v => Phase.done (.ok v)) <$> handleRequest G r := by
  obtain ⟨c, params, fHelp⟩ := r
  cases c <;> first | rfl | exact absurd h Bool.false_ne_true

/-- Every thread serves a one-section request, and is unstarted or finished. -/
def Sys.OneSection (c : Sys) : Prop :=
  ∀ th ∈ c.threads, th.request.command.oneSection = true ∧ (th.phase = .start ∨ th.phase.reply?.isSome)

/-- The finished requests, served one after another from `s₀` in the order they finished, get the
replies they got and leave the node's state. -/
def Sys.Linearizes (G : NodeState → List AddedNodeInfo) (s₀ : NodeState) (c : Sys) : Prop :=
  serveAll (handleRequest G) (c.finished.map Prod.fst) s₀ = (c.state, c.finished)

/-- One scheduler step keeps both invariants: the thread it runs is unstarted, so it runs its whole
handler on the state the serial run has reached, and its reply comes last in the history. -/
theorem Sys.Linearizes.step {s₀ : NodeState} {c : Sys} (hc : c.OneSection) (h : c.Linearizes G s₀)
    (i : Nat) : (c.step G i).OneSection ∧ (c.step G i).Linearizes G s₀ := by
  rcases Sys.step_cases G c i with hs | ⟨th, hth, hp, hs⟩
  · rw [hs]
    exact ⟨hc, h⟩
  rw [hs]
  obtain ⟨hone, hstart | hdone⟩ := hc th (List.mem_iff_getElem?.2 ⟨i, hth⟩)
  · have hadv : th.phase.advance G th.request c.state =
        (.done (replyOf (handleRequest G th.request c.state)),
          stateOf (handleRequest G th.request c.state)) := by
      rw [hstart]
      exact advance_start_whole (Request.begin_of_oneSection hone)
    rw [hadv]
    refine ⟨fun th' hth' => ?_, ?_⟩
    · rcases List.mem_or_eq_of_mem_set hth' with h' | rfl
      · exact hc th' h'
      · exact ⟨hone, .inr rfl⟩
    · unfold Sys.Linearizes at h ⊢
      simp [Phase.reply?, serveAll_append, h, serveAll_cons]
  · simp [hp] at hdone

theorem Sys.Linearizes.run {s₀ : NodeState} {c : Sys} (hc : c.OneSection) (h : c.Linearizes G s₀)
    (sched : List Nat) : (c.run G sched).OneSection ∧ (c.run G sched).Linearizes G s₀ := by
  induction sched generalizing c with
  | nil => exact ⟨hc, h⟩
  | cons i sched ih =>
      obtain ⟨hc', h'⟩ := h.step hc i
      exact ih hc' h'

end

section

variable [NetBase]

/-- A finished request as `serveAll addnodeHandler` logs it, if it is an `addnode`. -/
def addnodeEntry? (e : Request × Except RPCException UniValue) : Option AddNodeEntry :=
  if e.1.command = .addnode then some ((e.1.params, e.1.fHelp), e.2) else none

/-- The `addnode` requests of a history with their replies, in the order they finished. -/
def addnodeHistory (finished : List (Request × Except RPCException UniValue)) : List AddNodeEntry :=
  finished.filterMap addnodeEntry?

omit [NetBase] in
@[simp] theorem addnodeHistory_append (l₁ l₂ : List (Request × Except RPCException UniValue)) :
    addnodeHistory (l₁ ++ l₂) = addnodeHistory l₁ ++ addnodeHistory l₂ :=
  List.filterMap_append _ _ _

/-- Every `addnode` thread is unstarted or finished: its one section is the whole handler. -/
def Sys.AddnodeAtomic (c : Sys) : Prop :=
  ∀ th ∈ c.threads, th.request.command = .addnode → th.phase = .start ∨ th.phase.reply?.isSome

/-- The `addnode` requests of the history, served one after another from `s₀` in the order they
finished, get the replies they got and leave the node's added-node list. -/
def Sys.AddnodeLinearizes (s₀ : NodeState) (c : Sys) : Prop :=
  (serveAll addnodeHandler ((addnodeHistory c.finished).map Prod.fst) s₀).2 =
      addnodeHistory c.finished ∧
    (serveAll addnodeHandler ((addnodeHistory c.finished).map Prod.fst) s₀).1.vAddedNodes =
      c.state.vAddedNodes

variable {G : NodeState → List AddedNodeInfo}

/-- A section of a thread serving anything but `addnode` leaves the added nodes and adds nothing
to the `addnode` history. -/
theorem Sys.step_of_not_addnode (G : NodeState → List AddedNodeInfo) (c : Sys) {th : Thread}
    (hadd : th.request.command ≠ .addnode) :
    (th.phase.advance G th.request c.state).2.vAddedNodes = c.state.vAddedNodes ∧
      addnodeHistory (((th.phase.advance G th.request c.state).1.reply?.map
        (th.request, ·)).toList) = [] := by
  refine ⟨?_, ?_⟩
  · have h := (Phase.advance_step G th.request th.phase c.state).vAddedNodes.2
    rwa [sectionToggle_of_ne hadd] at h
  · cases (th.phase.advance G th.request c.state).1.reply? <;>
      simp [addnodeHistory, addnodeEntry?, hadd]

/-- One scheduler step keeps both invariants: an `addnode` thread runs its whole handler on the
list the serial run has reached, so it gets the reply the serial run gives and makes the same edit. -/
theorem Sys.AddnodeLinearizes.step {s₀ : NodeState} {c : Sys} (hc : c.AddnodeAtomic)
    (h : c.AddnodeLinearizes s₀) (i : Nat) :
    (c.step G i).AddnodeAtomic ∧ (c.step G i).AddnodeLinearizes s₀ := by
  rcases Sys.step_cases G c i with hs | ⟨th, hth, hp, hs⟩
  · rw [hs]
    exact ⟨hc, h⟩
  rw [hs]
  have hmem : th ∈ c.threads := List.mem_iff_getElem?.2 ⟨i, hth⟩
  by_cases hadd : th.request.command = .addnode
  · obtain ⟨⟨cmd, params, fHelp⟩, p⟩ := th
    obtain rfl : cmd = .addnode := hadd
    obtain rfl : p = .start := (hc _ hmem rfl).resolve_right (by simp [hp])
    have hadv : Phase.start.advance G ⟨.addnode, params, fHelp⟩ c.state =
        (.done (replyOf (addnode params fHelp c.state)), stateOf (addnode params fHelp c.state)) :=
      advance_start_whole rfl
    have hrun := addnode_congr params fHelp h.2
    simp only [hadv]
    refine ⟨fun th' hth' hcmd => ?_, ?_⟩
    · rcases List.mem_or_eq_of_mem_set hth' with h' | rfl
      · exact hc th' h' hcmd
      · exact .inr rfl
    · unfold Sys.AddnodeLinearizes at h ⊢
      simp only [Phase.reply?, Option.map_some', Option.toList_some, addnodeHistory_append,
        List.map_append, serveAll_append]
      have hone : addnodeHistory [(⟨.addnode, params, fHelp⟩, replyOf (addnode params fHelp c.state))] =
          [((params, fHelp), replyOf (addnode params fHelp c.state))] := rfl
      rw [hone, h.1]
      exact ⟨by simp [serveAll_cons, addnodeHandler, hrun.1], by simp [serveAll_cons, addnodeHandler, hrun.2]⟩
  · obtain ⟨hkeep, hnone⟩ := Sys.step_of_not_addnode G c hadd
    refine ⟨fun th' hth' hcmd => ?_, ?_⟩
    · rcases List.mem_or_eq_of_mem_set hth' with h' | rfl
      · exact hc th' h' hcmd
      · exact absurd hcmd hadd
    · unfold Sys.AddnodeLinearizes at h ⊢
      rw [addnodeHistory_append, hnone, List.append_nil]
      exact ⟨h.1, h.2.trans hkeep.symm⟩

theorem Sys.AddnodeLinearizes.run {s₀ : NodeState} {c : Sys} (hc : c.AddnodeAtomic)
    (h : c.AddnodeLinearizes s₀) (sched : List Nat) :
    (c.run G sched).AddnodeAtomic ∧ (c.run G sched).AddnodeLinearizes s₀ := by
  induction sched generalizing c with
  | nil => exact ⟨hc, h⟩
  | cons i sched ih =>
      obtain ⟨hc', h'⟩ := h.step hc i
      exact ih hc' h'

/-- The added nodes are linearizable, for `addnode` runs its search and its edit under one lock.
Serving any requests on any threads under any schedule, from any state: the `addnode` requests
served one after another in the order they finished, from that state, get exactly the replies they
got and leave the added-node list the node has. So the list is what the `addnode` history makes:
free of duplicates when it starts so, it is the initial members that no finished request removed,
then the nodes added and not removed since, in the order the adds finished. -/
theorem run_addnode_linearizable (G : NodeState → List AddedNodeInfo) (s : NodeState)
    (rs : List Request) (sched : List Nat) :
    let c := (Sys.start s rs).run G sched
    let serial := serveAll addnodeHandler ((addnodeHistory c.finished).map Prod.fst) s
    serial.2 = addnodeHistory c.finished ∧ serial.1.vAddedNodes = c.state.vAddedNodes ∧
      (s.vAddedNodes.Nodup → c.state.vAddedNodes.Nodup ∧
        c.state.vAddedNodes =
          s.vAddedNodes.filter (fun x => false ∉ togglesOf x (addnodeHistory c.finished)) ++
            keptAdds (addnodeHistory c.finished)) := by
  intro c serial
  have hstart : (Sys.start s rs).AddnodeAtomic := by
    intro th hth _
    obtain ⟨r, -, rfl⟩ := List.mem_map.1 hth
    exact .inl rfl
  obtain ⟨-, hlog, hlist⟩ := (show (Sys.start s rs).AddnodeLinearizes s from ⟨rfl, rfl⟩).run hstart sched
  refine ⟨hlog, hlist, fun hs => ⟨hlist ▸ addnodeRun_nodup _ s hs, ?_⟩⟩
  have hrun := addnodeRun_vAddedNodes ((addnodeHistory c.finished).map Prod.fst) s hs
  simp only at hrun
  rw [← hlist, hrun, hlog]

end

/-- A node is added by at most one of two threads adding it at once, whatever the schedule:
`cs_vAddedNodes` is held from the search to the edit. Here the second thread is scheduled first. -/
theorem run_addnode_linearizable_twice :
    let r : Request := ⟨.addnode, [.str "a", .str "add"], false⟩
    let c := (Sys.start default [r, r]).run getAddedNodeInfo [1, 0]
    (default : NodeState).vAddedNodes.Nodup ∧ c.state.vAddedNodes.Nodup ∧
      c.finished = [(r, .ok .null),
        (r, .error (.jsonRpcError .rpcClientNodeAlreadyAdded "Error: Node already added"))] :=
  ⟨List.nodup_nil,
    ((run_addnode_linearizable getAddedNodeInfo default
      [⟨.addnode, [.str "a", .str "add"], false⟩, ⟨.addnode, [.str "a", .str "add"], false⟩]
      [1, 0]).2.2 List.nodup_nil).1, rfl⟩

section

variable [NetBase] (G : NodeState → List AddedNodeInfo)

/-- `setban … add` is not linearizable: `IsBanned` and `Ban` are two sections, with no lock held
between them. From any state in which a valid target is not banned, two threads adding it can both
pass the check before either bans, and both report success. Served one after the other, when the
default ban time is positive and the subnet of a valid address holds the address, the second is
refused as already banned. -/
theorem setban_add_race (strSubNet : String) (s : NodeState)
    (hvalid : (SetbanTarget.ofString "add" strSubNet).isValid = true)
    (hfree : (SetbanTarget.ofString "add" strSubNet).isBanned s = false)
    (hsingle : ∀ a, netAddrIsValid a = true → subNetMatch (subNetOfNetAddr a) a = true)
    (hdef : 0 < s.env.nDefaultBanTime) :
    let r : Request := ⟨.setban, [.str strSubNet, .str "add"], false⟩
    (∃ sched, ((Sys.start s [r, r]).run G sched).finished = [(r, .ok .null), (r, .ok .null)]) ∧
      (serveAll (handleRequest G) [r, r] s).2 =
        [(r, .ok .null),
          (r, .error (.jsonRpcError .rpcClientNodeAlreadyAdded "Error: IP/Subnet already banned"))] := by
  intro r
  let t := SetbanTarget.ofString "add" strSubNet
  have hvalid' : ¬(!t.isValid) = true := by simp [t, hvalid]
  refine ⟨?_, ?_⟩
  · have hbegin : setbanBegin [.str strSubNet, .str "add"] false s = .ok (.setbanBan t 0 false) s := by
      have ht := (setbanTarget_run strSubNet "add" [] s (.inl rfl)).trans (if_neg hvalid')
      rw [setbanBegin, bind_of_ok ht, if_pos (show t.strCommand = "add" from rfl)]
      simp [t, hfree, setbanBanTime, setbanAbsolute]
    have hadv : Phase.start.advance G r s = (.setbanBan t 0 false, s) := resume_ok hbegin
    have h01 : (Sys.start s [r, r]).run G [0, 1] =
        ⟨s, [⟨r, .setbanBan t 0 false⟩, ⟨r, .setbanBan t 0 false⟩], []⟩ := by
      simp [Sys.run, Sys.step, Sys.start, hadv, Phase.reply?]
    obtain ⟨n, hn⟩ := (Finishes.next rfl (setbanFind_finishes t _) :
      Finishes G r (.setbanBan t 0 false) s _ _).run
        (show (⟨s, [⟨r, .setbanBan t 0 false⟩, ⟨r, .setbanBan t 0 false⟩], []⟩ : Sys).threads[0]? =
          some ⟨r, .setbanBan t 0 false⟩ from rfl) rfl rfl
    obtain ⟨m, hm⟩ := (Finishes.next rfl (setbanFind_finishes t _) :
      Finishes G r (.setbanBan t 0 false) _ _ _).run
        (show (⟨_, [⟨r, .done (.ok .null)⟩, ⟨r, .setbanBan t 0 false⟩], [(r, .ok .null)]⟩ : Sys).threads[1]? =
          some ⟨r, .setbanBan t 0 false⟩ from rfl) rfl rfl
    refine ⟨[0, 1] ++ List.replicate n 0 ++ List.replicate m 1, ?_⟩
    rw [Sys.run_append, Sys.run_append, h01, hn]
    exact congrArg Sys.finished hm
  · have h1 := (setban_add_run strSubNet s).trans (by rw [if_neg hvalid', if_neg (by simp [t, hfree])])
    have hfind : (stateOf (setban [.str strSubNet, .str "add"] false s)).setBanned.find? t.banKey =
        some ⟨s.env.nTime, s.env.nTime + s.env.nDefaultBanTime, .manually⟩ := by
      rw [h1]
      simp [disconnectAll_eq, BanMap.find?_insert]
    have hbanned := SetbanTarget.isBanned_of_live hsingle hvalid hfind (by rw [h1]; simp [disconnectAll_eq]; omega)
    have h2 := (setban_add_run strSubNet (stateOf (setban [.str strSubNet, .str "add"] false s))).trans
      (by rw [if_neg hvalid', if_pos hbanned])
    simp only [serveAll_cons, serveAll_nil]
    show [(r, replyOf (setban _ false s)),
      (r, replyOf (setban _ false (stateOf (setban [.str strSubNet, .str "add"] false s))))] = _
    rw [h2, h1]
    rfl

end

/-- Two bans of `10.0.0.1` at once on an empty table, with a default ban time of a day. -/
theorem setban_add_race_twice :
    let s : NodeState :=
      { (default : NodeState) with env := { (default : NodeEnv) with nDefaultBanTime := 86400 } }
    let r : Request := ⟨.setban, [.str "10.0.0.1", .str "add"], false⟩
    (∃ sched, ((Sys.start s [r, r]).run getAddedNodeInfo sched).finished =
        [(r, .ok .null), (r, .ok .null)]) ∧
      (serveAll (handleRequest getAddedNodeInfo) [r, r] s).2 =
        [(r, .ok .null),
          (r, .error (.jsonRpcError .rpcClientNodeAlreadyAdded "Error: IP/Subnet already banned"))] :=
  setban_add_race getAddedNodeInfo "10.0.0.1"
    { (default : NodeState) with env := { (default : NodeEnv) with nDefaultBanTime := 86400 } }
    rfl rfl (fun a _ => textSubNetMatch_self a) (by decide)

section

variable [NetBase] (G : NodeState → List AddedNodeInfo)

/-- The one live peer of a name is found by `FindNode`, and once it is closed there is none. -/
theorem findNode_of_filter {s : NodeState} {strNode : String} {pNode : CNode}
    (hone : s.vNodes.filter (·.stats.addrName == strNode) = [pNode]) :
    findNode s strNode = some pNode ∧ findNode (closeSocketDisconnect pNode s) strNode = none := by
  have hfind : findNode s strNode = some pNode := by
    rw [findNode, ← List.filter_head?, hone]
    rfl
  refine ⟨hfind, ?_⟩
  have hrest := filter_eq_cons_erase_of_find? hfind
  rw [hone, List.cons.injEq] at hrest
  rw [findNode, closeSocketDisconnect, ← List.filter_head?, ← hrest.2]
  rfl

/-- `disconnectnode` is not linearizable either: `FindNode` holds `cs_vNodes` only while it
searches, and the peer is closed after. From any state with one live peer of a name, two threads
disconnecting it at once can both find it before either closes it: both report success, and the
peer is closed twice. Served one after the other, the second finds no peer of that name. -/
theorem disconnectnode_race (s : NodeState) (strNode : String) (pNode : CNode)
    (hone : s.vNodes.filter (·.stats.addrName == strNode) = [pNode]) :
    let r : Request := ⟨.disconnectnode, [.str strNode], false⟩
    (Sys.start s [r, r]).run G [0, 1, 0, 1] =
        ⟨closeSocketDisconnect pNode (closeSocketDisconnect pNode s),
          [⟨r, .done (.ok .null)⟩, ⟨r, .done (.ok .null)⟩], [(r, .ok .null), (r, .ok .null)]⟩ ∧
      (serveAll (handleRequest G) [r, r] s).2 =
        [(r, .ok .null),
          (r, .error (.jsonRpcError .rpcClientNodeNotConnected "Node not found in connected nodes"))] := by
  intro r
  obtain ⟨hfind, hgone⟩ := findNode_of_filter hone
  have hname : pNode.stats.addrName = strNode := by simpa using List.find?_some hfind
  have hp₁ : pointee s (·.stats.addrName == pNode.stats.addrName) pNode = pNode :=
    pointee_of_find? (hname ▸ hfind)
  have hp₂ : pointee (closeSocketDisconnect pNode s) (·.stats.addrName == pNode.stats.addrName)
      pNode = pNode :=
    pointee_of_gone pNode (hname ▸ hgone)
  refine ⟨by simp [r, Sys.run, Sys.step, Sys.start, Phase.reply?, Request.begin, disconnectnodeBegin,
    resume, hfind, hp₁, hp₂], ?_⟩
  have h1 : handleRequest G r s = .ok .null (closeSocketDisconnect pNode s) := by
    rw [show handleRequest G r s = disconnectnode [.str strNode] false s from rfl, disconnectnode_run,
      hfind]
  have h2 : handleRequest G r (closeSocketDisconnect pNode s) =
      .error (.jsonRpcError .rpcClientNodeNotConnected "Node not found in connected nodes")
        (closeSocketDisconnect pNode s) := by
    rw [show handleRequest G r _ = disconnectnode [.str strNode] false _ from rfl, disconnectnode_run,
      hgone]
  simp only [serveAll_cons, serveAll_nil]
  rw [h1, stateOf_ok, h2]
  rfl

end

/-- Two disconnects of the one peer named `a`. -/
theorem disconnectnode_race_one_peer :
    let pNode : CNode := { (default : CNode) with stats := { (default : CNode).stats with addrName := "a" } }
    let s : NodeState := { (default : NodeState) with vNodes := [pNode] }
    let r : Request := ⟨.disconnectnode, [.str "a"], false⟩
    s.vNodes.filter (·.stats.addrName == "a") = [pNode] ∧
      (Sys.start s [r, r]).run getAddedNodeInfo [0, 1, 0, 1] =
        ⟨closeSocketDisconnect pNode (closeSocketDisconnect pNode s),
          [⟨r, .done (.ok .null)⟩, ⟨r, .done (.ok .null)⟩], [(r, .ok .null), (r, .ok .null)]⟩ :=
  have hone : ([{ (default : CNode) with stats := { (default : CNode).stats with addrName := "a" } }] :
      List CNode).filter (·.stats.addrName == "a") =
        [{ (default : CNode) with stats := { (default : CNode).stats with addrName := "a" } }] := rfl
  ⟨hone, (disconnectnode_race getAddedNodeInfo _ "a" _ hone).1⟩

/-- A ping between a disconnect's `FindNode` and its close: the close follows the pointer to the
pinged peer and closes it. -/
example :
    let pNode : CNode := { (default : CNode) with stats := { (default : CNode).stats with addrName := "a" } }
    let s : NodeState := { (default : NodeState) with vNodes := [pNode] }
    ((Sys.start s [⟨.disconnectnode, [.str "a"], false⟩, ⟨.ping, [], false⟩]).run getAddedNodeInfo
      [0, 1, 0]).state.vNodes = [] := by
  decide

end LuxRpcNet
