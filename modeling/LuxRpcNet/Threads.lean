import LuxRpcNet.Dispatch

/-! The RPC server's worker threads, interleaved at the handlers' critical sections, the stretches
of code between which another thread can act on the shared state. A handler that holds one lock
over all it touches, or calls one locked collaborator, is one section; `switchnetwork` (read,
`SetNetworkActive`, read: lines 467-469), `disconnectnode` (`FindNode`, then the close through the
pointer found), `setban` (`IsBanned` or `Unban`, then `Ban`, the loop of `FindNode` and closes,
and `DumpBanlist`) and `clearbanned` (`ClearBanned`, then `DumpBanlist`) are several, each call
into `net.cpp` taken to be atomic. A thread is its request and its `Phase`; `Sys.step` runs one
section of one thread, and a schedule lists the threads picked. A thread left alone finishes as
the sequential handler does (`start_finishes`), so the serial schedules give `serveAll`
(`run_serial`); every section is a `SectionStep`, so over every schedule the log only grows,
peers only leave and the added nodes stay free of duplicates (`Sys.run_evolves`), and the ban
table saved last is the one in memory whenever no thread is between changing and saving it
(`run_banlistSaved`). -/

namespace LuxRpcNet

open UniValue NetBase

section

variable [NetBase]

/-- Where a worker thread is in its handler. -/
inductive Phase where
  /-- Not started: the first section, argument checks included, comes next. -/
  | start
  /-- `switchnetwork` has read the flag and is to call `SetNetworkActive(active)`. -/
  | switchSet (active : Bool)
  /-- `switchnetwork` is to read the flag it returns. -/
  | switchReturn
  /-- `disconnectnode` has found the peer and is to close it. -/
  | disconnectClose (pNode : CNode)
  /-- `setban … add` found the target not banned, read its ban time and flag, and is to call
  `Ban`. -/
  | setbanBan (t : SetbanTarget) (banTime : Int) (absolute : Bool)
  /-- `setban … add` is at its loop's `FindNode`. -/
  | setbanFind (t : SetbanTarget)
  /-- `setban … add` found a covered peer and is to close it. -/
  | setbanClose (t : SetbanTarget) (bannedNode : CNode)
  /-- `setban` or `clearbanned` is to save the table and return `null`. -/
  | dump
  /-- Finished, with the reply. -/
  | done (reply : Except RPCException UniValue)

/-- The reply of a finished thread. -/
def Phase.reply? : Phase → Option (Except RPCException UniValue)
  | .done reply => some reply
  | _ => none

/-- The thread has changed the ban table and is yet to save it: `setban … add` after `Ban`,
`setban … remove` after `Unban`, `clearbanned` after `ClearBanned`. -/
def Phase.dumpPending : Phase → Bool
  | .setbanFind _ | .setbanClose _ _ | .dump => true
  | _ => false

/-- `switchnetwork`'s first section (line 467): the checks, then `!fNetworkActive`. -/
def switchnetworkBegin : List UniValue → Bool → RPC Phase :=
  withoutParams "switchnetwork" do
    return .switchSet !(← get).fNetworkActive

/-- `disconnectnode`'s first section: the checks, then `FindNode`. -/
def disconnectnodeBegin (params : List UniValue) (fHelp : Bool) : RPC Phase := do
  if fHelp || params.length != 1 then
    throw (.usage "disconnectnode")
  else
    let strNode ← getStr (param params 0)
    match findNode (← get) strNode with
    | none => throw (.jsonRpcError .rpcClientNodeNotConnected "Node not found in connected nodes")
    | some pNode => return .disconnectClose pNode

/-- `setban`'s first section (lines 556-602 and 610-614): the checks; then `add` asks `IsBanned`
and reads its ban time and flag, and `remove` calls `Unban`. -/
def setbanBegin (params : List UniValue) (fHelp : Bool) : RPC Phase := do
  let t ← setbanTarget params fHelp
  if t.strCommand = "add" then
    if t.isBanned (← get) then
      throw (.jsonRpcError .rpcClientNodeAlreadyAdded "Error: IP/Subnet already banned")
    else
      let banTime ← setbanBanTime params
      let absolute ← setbanAbsolute params
      return .setbanBan t banTime absolute
  else if t.strCommand = "remove" then
    setbanRemove t
    return .dump
  else
    return .dump

/-- `clearbanned`'s first section: the checks, then `CNode::ClearBanned`. -/
def clearbannedBegin : List UniValue → Bool → RPC Phase :=
  withoutParams "clearbanned" do
    clearBanned
    return .dump

/-- The peer a pointer taken in an earlier section points to now: the live peer with its id that
the lookup which found it still matches. Other sections change a peer's queued-ping flag, never its
id or its address; a peer closed since is no longer live, and the pointer points to it as found. -/
def pointee (s : NodeState) (test : CNode → Bool) (pNode : CNode) : CNode :=
  (s.vNodes.find? fun n => n.stats.nodeid == pNode.stats.nodeid && test n).getD pNode

/-- A request's first critical section. Every other handler holds one lock over all it touches,
or calls one locked collaborator, so its first section is all of it. -/
def Request.begin (GetAddedNodeInfo : NodeState → List AddedNodeInfo) (r : Request) : RPC Phase :=
  match r.command with
  | .switchnetwork => switchnetworkBegin r.params r.fHelp
  | .disconnectnode => disconnectnodeBegin r.params r.fHelp
  | .setban => setbanBegin r.params r.fHelp
  | .clearbanned => clearbannedBegin r.params r.fHelp
  | _ => (fun v => .done (.ok v)) <$> handleRequest GetAddedNodeInfo r

/-- The critical section a thread serving `r` runs next, ending with the phase it moves to. -/
def Phase.criticalSection (GetAddedNodeInfo : NodeState → List AddedNodeInfo) (r : Request) :
    Phase → RPC Phase
  | .start => r.begin GetAddedNodeInfo
  | .switchSet active => do
      setNetworkActive active
      return .switchReturn
  | .switchReturn => do
      return .done (.ok (.bool (← get).fNetworkActive))
  | .disconnectClose pNode => do
      modify fun s => closeSocketDisconnect (pointee s (·.stats.addrName == pNode.stats.addrName) pNode) s
      return .done (.ok .null)
  | .setbanBan t banTime absolute => do
      ban t.banKey .manually banTime absolute
      return .setbanFind t
  | .setbanFind t => do
      match (← get).vNodes.find? t.covers with
      | none => return .dump
      | some bannedNode => return .setbanClose t bannedNode
  | .setbanClose t bannedNode => do
      modify fun s => closeSocketDisconnect (pointee s t.covers bannedNode) s
      return .setbanFind t
  | .dump => do
      dumpBanlist -- store banlist to disk
      return .done (.ok .null)
  | .done reply => return .done reply

/-- A section run on the shared state: the phase it moves to and the state it leaves. A throw
finishes the thread with the exception as its reply. -/
def resume (x : RPC Phase) (s : NodeState) : Phase × NodeState :=
  match x s with
  | .ok p s' => (p, s')
  | .error e s' => (.done (.error e), s')

/-- The next critical section of a thread serving `r`, run on the shared state. -/
def Phase.advance (GetAddedNodeInfo : NodeState → List AddedNodeInfo) (r : Request) (p : Phase)
    (s : NodeState) : Phase × NodeState :=
  resume (p.criticalSection GetAddedNodeInfo r) s

/-- A worker thread: the request it serves and where it is. -/
structure Thread where
  request : Request
  phase : Phase

/-- The node with its worker threads. `finished` is what the callers see: each request with its
reply, in the order the threads finished. It is recorded and never read. -/
structure Sys where
  state : NodeState
  threads : List Thread
  finished : List (Request × Except RPCException UniValue)

/-- The scheduler runs the next critical section of thread `i`; a finished or missing thread has
none. -/
def Sys.step (GetAddedNodeInfo : NodeState → List AddedNodeInfo) (c : Sys) (i : Nat) : Sys :=
  match c.threads[i]? with
  | some th =>
      if th.phase.reply?.isSome then c
      else
        match th.phase.advance GetAddedNodeInfo th.request c.state with
        | (p, s) => ⟨s, c.threads.set i ⟨th.request, p⟩, c.finished ++ (p.reply?.map (th.request, ·)).toList⟩
  | none => c

/-- The sections of a schedule, one after another. -/
def Sys.run (GetAddedNodeInfo : NodeState → List AddedNodeInfo) (c : Sys) (sched : List Nat) :
    Sys :=
  sched.foldl (Sys.step GetAddedNodeInfo) c

/-- Each request handed to its own thread, none started. -/
def Sys.start (s : NodeState) (rs : List Request) : Sys :=
  ⟨s, rs.map (⟨·, .start⟩), []⟩

/-- The node with `GetTime()` at `nTime`; the threads are where they were. -/
def Sys.atTime (c : Sys) (nTime : Int) : Sys := { c with state := c.state.atTime nTime }

/-- A schedule with a moving clock: each section runs at the time it comes with. -/
def Sys.runAt (GetAddedNodeInfo : NodeState → List AddedNodeInfo) (c : Sys)
    (sched : List (Int × Nat)) : Sys :=
  sched.foldl (fun c ti => (c.atTime ti.1).step GetAddedNodeInfo ti.2) c

/-! ### What each section does -/

theorem resume_ok {x : RPC Phase} {s s' : NodeState} {p : Phase} (h : x s = .ok p s') :
    resume x s = (p, s') := by
  simp [resume, h]

theorem resume_error {x : RPC Phase} {s s' : NodeState} {e : RPCException}
    (h : x s = .error e s') : resume x s = (.done (.error e), s') := by
  simp [resume, h]

theorem resume_snd (x : RPC Phase) (s : NodeState) : (resume x s).2 = stateOf (x s) := by
  cases h : x s <;> simp [resume, h]

theorem resume_map_done (x : RPC UniValue) (s : NodeState) :
    resume ((fun v => Phase.done (.ok v)) <$> x) s = (.done (replyOf (x s)), stateOf (x s)) := by
  cases h : x s <;> simp [resume, Functor.map, EStateM.map, h, replyOf]

omit [NetBase] in
theorem find?_and_of_find? {α : Type} {p q : α → Bool} {l : List α} {a : α} (h : l.find? p = some a)
    (hq : q a = true) : l.find? (fun x => q x && p x) = some a := by
  induction l with
  | nil => cases h
  | cons b l ih =>
      by_cases hb : p b
      · rw [List.find?_cons_of_pos _ hb] at h
        cases h
        simp [hq, hb]
      · rw [List.find?_cons_of_neg _ hb] at h
        rw [List.find?_cons_of_neg _ (by simp [hb]), ih h]

/-- Followed in the section after the lookup that found it, a pointer points to the peer found. -/
theorem pointee_of_find? {s : NodeState} {test : CNode → Bool} {pNode : CNode}
    (h : s.vNodes.find? test = some pNode) : pointee s test pNode = pNode := by
  rw [pointee, @find?_and_of_find? CNode test (fun n => n.stats.nodeid == pNode.stats.nodeid) _ _ h
    (beq_self_eq_true _)]
  rfl

/-- When the lookup matches no live peer any more, the pointer points to the peer as found. -/
theorem pointee_of_gone {s : NodeState} {test : CNode → Bool} (pNode : CNode)
    (h : s.vNodes.find? test = none) : pointee s test pNode = pNode := by
  have hnone : s.vNodes.find? (fun n => n.stats.nodeid == pNode.stats.nodeid && test n) = none := by
    rw [List.find?_eq_none] at h ⊢
    intro n hn
    simp [h n hn]
  rw [pointee, hnone]
  rfl

theorem withoutParams_pos {method : String} {body : RPC α} {params : List UniValue} {fHelp : Bool}
    (h : (fHelp || params.length != 0) = true) :
    withoutParams method body params fHelp = throw (.usage method) :=
  if_pos h

theorem withoutParams_neg {method : String} {body : RPC α} {params : List UniValue} {fHelp : Bool}
    (h : ¬(fHelp || params.length != 0) = true) : withoutParams method body params fHelp = body :=
  if_neg h

section Advance

variable {G : NodeState → List AddedNodeInfo} {r : Request} {s : NodeState}

@[simp] theorem advance_start : Phase.start.advance G r s = resume (r.begin G) s := rfl

@[simp] theorem advance_switchSet (active : Bool) :
    (Phase.switchSet active).advance G r s = (.switchReturn, { s with fNetworkActive := active }) :=
  rfl

@[simp] theorem advance_switchReturn :
    Phase.switchReturn.advance G r s = (.done (.ok (.bool s.fNetworkActive)), s) := rfl

@[simp] theorem advance_disconnectClose (pNode : CNode) :
    (Phase.disconnectClose pNode).advance G r s =
      (.done (.ok .null),
        closeSocketDisconnect (pointee s (·.stats.addrName == pNode.stats.addrName) pNode) s) := rfl

@[simp] theorem advance_setbanBan (t : SetbanTarget) (banTime : Int) (absolute : Bool) :
    (Phase.setbanBan t banTime absolute).advance G r s =
      (.setbanFind t, { s with
        setBanned := s.setBanned.insert t.banKey
          ⟨s.env.nTime, banUntil s.env banTime absolute, .manually⟩ }) := rfl

theorem advance_setbanFind (t : SetbanTarget) :
    (Phase.setbanFind t).advance G r s = ((s.vNodes.find? t.covers).elim .dump (.setbanClose t), s) := by
  cases h : s.vNodes.find? t.covers <;> simp [Phase.advance, Phase.criticalSection, resume, h]

theorem advance_setbanFind_none {t : SetbanTarget} (h : s.vNodes.find? t.covers = none) :
    (Phase.setbanFind t).advance G r s = (.dump, s) := by
  rw [advance_setbanFind, h]
  rfl

theorem advance_setbanFind_some {t : SetbanTarget} {bannedNode : CNode}
    (h : s.vNodes.find? t.covers = some bannedNode) :
    (Phase.setbanFind t).advance G r s = (.setbanClose t bannedNode, s) := by
  rw [advance_setbanFind, h]
  rfl

@[simp] theorem advance_setbanClose (t : SetbanTarget) (bannedNode : CNode) :
    (Phase.setbanClose t bannedNode).advance G r s =
      (.setbanFind t, closeSocketDisconnect (pointee s t.covers bannedNode) s) := rfl

@[simp] theorem advance_dump :
    Phase.dump.advance G r s =
      (.done (.ok .null), { s with events := s.events ++ [.dumpBanlist s.setBanned.entries] }) := rfl

@[simp] theorem advance_done (reply : Except RPCException UniValue) :
    (Phase.done reply).advance G r s = (.done reply, s) := rfl

theorem advance_start_whole (hr : r.begin G = (fun v => Phase.done (.ok v)) <$> handleRequest G r) :
    Phase.start.advance G r s =
      (.done (replyOf (handleRequest G r s)), stateOf (handleRequest G r s)) := by
  rw [advance_start, hr, resume_map_done]

end Advance

theorem switchnetworkBegin_readOnly (params : List UniValue) (fHelp : Bool) :
    ReadOnly (switchnetworkBegin params fHelp) :=
  readOnly_withoutParams (readOnly_get.bind fun _ => readOnly_pure _) params fHelp

theorem disconnectnodeBegin_readOnly (params : List UniValue) (fHelp : Bool) :
    ReadOnly (disconnectnodeBegin params fHelp) :=
  readOnly_ite (readOnly_throw _) <| (readOnly_ofExcept _).bind fun strNode =>
    readOnly_get.bind fun s => by
      cases findNode s strNode
      exacts [readOnly_throw _, readOnly_pure _]

/-- `setban`'s first section only reads, unless it is a `remove` whose `Unban` found an entry:
then the entry is gone and the table is to be saved. -/
theorem setbanBegin_cases (params : List UniValue) (fHelp : Bool) (s : NodeState) :
    stateOf (setbanBegin params fHelp s) = s ∨
      ∃ subNet, setbanBegin params fHelp s = .ok .dump { s with setBanned := s.setBanned.erase subNet } := by
  have hro := setbanTarget_readOnly params fHelp s
  cases ht : setbanTarget params fHelp s with
  | error e s' =>
      obtain rfl : s' = s := by rw [ht] at hro; exact hro
      exact .inl (by rw [setbanBegin, bind_of_error ht]; rfl)
  | ok t s' =>
      obtain rfl : s' = s := by rw [ht] at hro; exact hro
      rw [setbanBegin, bind_of_ok ht]
      split_ifs with hadd hremove
      · exact .inl ((readOnly_get.bind fun _ => readOnly_ite (readOnly_throw _) <|
          (readOnly_ofExcept _).bind fun _ => (readOnly_ofExcept _).bind fun _ => readOnly_pure _) s')
      · by_cases hb : (s'.setBanned.find? t.banKey).isSome
        · exact .inr ⟨t.banKey, by rw [bind_of_ok ((setbanRemove_run t s').trans (if_pos hb))]; rfl⟩
        · exact .inl (by rw [bind_of_error ((setbanRemove_run t s').trans (if_neg hb))]; rfl)
      · exact .inl rfl

/-- `setban … add` throws in its first section whatever `setbanAdd` throws: its checks all come
before `Ban`. -/
theorem setbanBegin_of_setbanAdd_error {params : List UniValue} {fHelp : Bool} {s s' : NodeState}
    {t : SetbanTarget} {e : RPCException} (ht : setbanTarget params fHelp s = .ok t s)
    (hadd : t.strCommand = "add") (hc : setbanAdd params t s = .error e s') :
    setbanBegin params fHelp s = .error e s' := by
  rw [setbanBegin, bind_of_ok ht, if_pos hadd]
  by_cases hbanned : t.isBanned s
  · simp_all [setbanAdd]
  cases hbt : setbanBanTime params <;> cases hab : setbanAbsolute params <;> simp_all [setbanAdd, ban]

/-- Everything a first section can do: run the whole handler; or, for a request that is not an
`addnode`, read only, or change the ban table and go on to save it. -/
theorem Phase.advance_start_cases (G : NodeState → List AddedNodeInfo) (r : Request) (s : NodeState) :
    Phase.start.advance G r s =
        (.done (replyOf (handleRequest G r s)), stateOf (handleRequest G r s)) ∨
      r.command ≠ .addnode ∧ ((Phase.start.advance G r s).2 = s ∨
        ∃ table, Phase.start.advance G r s = (.dump, { s with setBanned := table })) := by
  obtain ⟨c, params, fHelp⟩ := r
  cases c
  case switchnetwork =>
    exact .inr ⟨nofun, .inl (by rw [advance_start, resume_snd]; exact switchnetworkBegin_readOnly params fHelp s)⟩
  case disconnectnode =>
    exact .inr ⟨nofun, .inl (by rw [advance_start, resume_snd]; exact disconnectnodeBegin_readOnly params fHelp s)⟩
  case setban =>
    refine .inr ⟨nofun, ?_⟩
    rcases setbanBegin_cases params fHelp s with h | ⟨subNet, h⟩
    · exact .inl (by rw [advance_start, resume_snd]; exact h)
    · exact .inr ⟨_, resume_ok h⟩
  case clearbanned =>
    refine .inr ⟨nofun, ?_⟩
    by_cases h : (fHelp || params.length != 0) = true
    · exact .inl (by rw [advance_start, resume_snd]; simp [Request.begin, clearbannedBegin, withoutParams_pos h])
    · have hb : clearbannedBegin params fHelp s = .ok .dump { s with setBanned := default } := by
        rw [clearbannedBegin, withoutParams_neg h]
        rfl
      exact .inr ⟨_, resume_ok hb⟩
  all_goals exact .inl (advance_start_whole rfl)

/-! ### The steps of a section -/

/-- What one critical section can do to the shared state, indexed by the toggle of the added nodes
it performs: a step of the sequential machine, for a handler that is one section, or one of the
smaller steps of `switchnetwork`, `disconnectnode`, `setban` and `clearbanned`. -/
inductive SectionStep : Option (String × Bool) → NodeState → NodeState → Prop where
  /-- A handler that is one section, or a section that only reads. -/
  | request {t : Option (String × Bool)} {b : Bool} {s s' : NodeState} (h : NodeStep t b s s') :
      SectionStep t s s'
  /-- `SetNetworkActive`, with a value read earlier. -/
  | setNetworkActive (s : NodeState) (active : Bool) :
      SectionStep none s { s with fNetworkActive := active }
  /-- `CloseSocketDisconnect` on a peer found earlier, which may have been closed since. -/
  | close (s : NodeState) (pNode : CNode) : SectionStep none s (closeSocketDisconnect pNode s)
  /-- `Ban`, `Unban` or `ClearBanned`: a new table, not yet saved. -/
  | writeBans (s : NodeState) (table : BanMap) : SectionStep none s { s with setBanned := table }
  /-- `DumpBanlist`. -/
  | dump (s : NodeState) :
      SectionStep none s { s with events := s.events ++ [.dumpBanlist s.setBanned.entries] }

namespace SectionStep

variable {t : Option (String × Bool)} {s s' : NodeState}

theorem vAddedNodes (h : SectionStep t s s') :
    Enabled t s.vAddedNodes ∧ s'.vAddedNodes = applyToggle t s.vAddedNodes := by
  cases h with
  | request h => exact h.vAddedNodes
  | _ => exact ⟨trivial, rfl⟩

theorem evolves (h : SectionStep t s s') : Evolves s s' := by
  cases h with
  | request h => exact h.evolves
  | setNetworkActive | writeBans => exact ⟨List.prefix_refl _, List.Sublist.refl _, rfl, rfl, rfl⟩
  | close _ pNode => exact ⟨List.prefix_append _ _, (List.erase_sublist _ _).map _, rfl, rfl, rfl⟩
  | dump => exact ⟨List.prefix_append _ _, List.Sublist.refl _, rfl, rfl, rfl⟩

end SectionStep

/-- The toggle of the added nodes a section performs: an `addnode` request's, in its one section. -/
def sectionToggle (r : Request) : Phase → Phase → Option (String × Bool)
  | .start, .done reply => Request.addedToggle (r, reply)
  | _, _ => none

theorem sectionToggle_of_ne {r : Request} (h : r.command ≠ .addnode) (p p' : Phase) :
    sectionToggle r p p' = none := by
  unfold sectionToggle
  split
  · obtain ⟨c, params, fHelp⟩ := r
    cases c <;> first | rfl | exact absurd rfl h
  · rfl

/-- Every section of every thread is a step. -/
theorem Phase.advance_step (G : NodeState → List AddedNodeInfo) (r : Request) (p : Phase)
    (s : NodeState) : SectionStep (sectionToggle r p (p.advance G r s).1) s (p.advance G r s).2 := by
  cases p with
  | start =>
      rcases Phase.advance_start_cases G r s with h | ⟨hne, h | ⟨table, h⟩⟩
      · rw [h]
        exact .request (handleRequest_step G r s)
      · rw [sectionToggle_of_ne hne, h]
        exact .request (.stay s)
      · rw [h]
        exact .writeBans s table
  | switchSet active => exact .setNetworkActive s active
  | disconnectClose pNode => exact .close s _
  | setbanBan t banTime absolute => exact .writeBans s _
  | setbanClose t bannedNode => exact .close s _
  | dump => exact .dump s
  | setbanFind t =>
      rw [advance_setbanFind]
      exact .request (.stay s)
  | switchReturn | done => exact .request (.stay s)

theorem savedBanlist_closeSocketDisconnect (pNode : CNode) (s : NodeState) :
    savedBanlist (closeSocketDisconnect pNode s).events = savedBanlist s.events := by
  simp [closeSocketDisconnect, savedBanlist_append, savedBanlist, NetEvent.dumped]

theorem NodeStep.banlist {t : Option (String × Bool)} {b : Bool} {s s' : NodeState}
    (h : NodeStep t b s s') :
    (s'.setBanned = s.setBanned ∧ savedBanlist s'.events = savedBanlist s.events) ∨
      savedBanlist s'.events = some s'.setBanned.entries := by
  cases h with
  | disconnect _ pNode => exact .inl ⟨rfl, savedBanlist_closeSocketDisconnect pNode s⟩
  | editAddedNodes =>
      refine .inl ⟨rfl, ?_⟩
      rw [savedBanlist_append, savedBanlist_eq_none (by simp [NetEvent.dumped])]
      rfl
  | changeBans => exact .inr (by simp [savedBanlist_append, savedBanlist, NetEvent.dumped])
  | _ => exact .inl ⟨rfl, rfl⟩

/-- What a section does to the ban table and to the table saved last: it keeps both, in a thread
with nothing to save; or it leaves the thread with a change to save; or it saves the table as it
is. -/
theorem Phase.advance_banlist (G : NodeState → List AddedNodeInfo) (r : Request) (p : Phase)
    (s : NodeState) :
    (p.dumpPending = false ∧ (p.advance G r s).2.setBanned = s.setBanned ∧
        savedBanlist (p.advance G r s).2.events = savedBanlist s.events) ∨
      (p.advance G r s).1.dumpPending ∨
      savedBanlist (p.advance G r s).2.events = some (p.advance G r s).2.setBanned.entries := by
  cases p with
  | start =>
      rcases Phase.advance_start_cases G r s with h | ⟨-, h | ⟨table, h⟩⟩
      · rw [h]
        rcases (handleRequest_step G r s).banlist with hk | hs
        · exact .inl ⟨rfl, hk⟩
        · exact .inr (.inr hs)
      · rw [h]
        exact .inl ⟨rfl, rfl, rfl⟩
      · rw [h]
        exact .inr (.inl rfl)
  | disconnectClose pNode => exact .inl ⟨rfl, rfl, savedBanlist_closeSocketDisconnect _ s⟩
  | setbanFind t =>
      rw [advance_setbanFind]
      cases s.vNodes.find? t.covers <;> exact .inr (.inl rfl)
  | setbanBan | setbanClose => exact .inr (.inl rfl)
  | dump => exact .inr (.inr (by simp [savedBanlist_append, savedBanlist, NetEvent.dumped]))
  | switchSet | switchReturn | done => exact .inl ⟨rfl, rfl, rfl⟩

/-! ### Schedules -/

section Sched

variable {G : NodeState → List AddedNodeInfo}

@[simp] theorem Sys.run_nil (c : Sys) : c.run G [] = c := rfl

theorem Sys.run_cons (c : Sys) (i : Nat) (sched : List Nat) :
    c.run G (i :: sched) = (c.step G i).run G sched := rfl

theorem Sys.run_append (c : Sys) (a b : List Nat) : c.run G (a ++ b) = (c.run G a).run G b :=
  List.foldl_append _ _ _ _

theorem Sys.step_cases (G : NodeState → List AddedNodeInfo) (c : Sys) (i : Nat) :
    c.step G i = c ∨ ∃ th, c.threads[i]? = some th ∧ th.phase.reply? = none ∧
      c.step G i =
        ⟨(th.phase.advance G th.request c.state).2,
          c.threads.set i ⟨th.request, (th.phase.advance G th.request c.state).1⟩,
          c.finished ++
            ((th.phase.advance G th.request c.state).1.reply?.map (th.request, ·)).toList⟩ := by
  unfold Sys.step
  split
  · rename_i th hth
    split_ifs with hdone
    · exact .inl rfl
    · exact .inr ⟨th, hth, Option.not_isSome_iff_eq_none.1 hdone, rfl⟩
  · exact .inl rfl

theorem Sys.step_sectionStep (G : NodeState → List AddedNodeInfo) (c : Sys) (i : Nat) :
    ∃ t, SectionStep t c.state (c.step G i).state := by
  rcases Sys.step_cases G c i with h | ⟨th, -, -, h⟩ <;> rw [h]
  · exact ⟨none, .request (.stay _)⟩
  · exact ⟨_, Phase.advance_step G th.request th.phase c.state⟩

/-- Over every schedule of any threads, interleaved at their critical sections: from a state whose
added nodes have no duplicates, the state reached keeps none. Along the schedule the log only
grows, live peers only leave and keep their statistics, and the node's constants, the address book
and the sync table stay. -/
theorem Sys.run_evolves (G : NodeState → List AddedNodeInfo) (c : Sys) (sched : List Nat)
    (hs : c.state.vAddedNodes.Nodup) :
    (c.run G sched).state.vAddedNodes.Nodup ∧ Evolves c.state (c.run G sched).state := by
  induction sched generalizing c with
  | nil => exact ⟨hs, .refl _⟩
  | cons i sched ih =>
      obtain ⟨t, hstep⟩ := Sys.step_sectionStep G c i
      obtain ⟨he, hl⟩ := hstep.vAddedNodes
      obtain ⟨hnodup, hev⟩ := ih _ (hl ▸ nodup_applyToggle he hs)
      exact ⟨hnodup, hstep.evolves.trans hev⟩

end Sched

end

/-- Two threads adding `a` at once, the second scheduled first. -/
theorem run_evolves_two_adds :
    let c := Sys.start default
      [⟨.addnode, [.str "a", .str "add"], false⟩, ⟨.addnode, [.str "a", .str "add"], false⟩]
    c.state.vAddedNodes.Nodup ∧ (c.run getAddedNodeInfo [1, 0]).state.vAddedNodes.Nodup :=
  ⟨List.nodup_nil, (Sys.run_evolves getAddedNodeInfo (Sys.start default
    [⟨.addnode, [.str "a", .str "add"], false⟩, ⟨.addnode, [.str "a", .str "add"], false⟩])
      [1, 0] List.nodup_nil).1⟩

section

variable [NetBase]

section Sched

variable {G : NodeState → List AddedNodeInfo}

omit [NetBase] in
theorem mem_set_of_ne {α : Type} {l : List α} {i : Nat} {a b : α} (ha : a ∈ l) (hb : l[i]? = some b)
    (hne : a ≠ b) (x : α) : a ∈ l.set i x := by
  obtain ⟨j, hj⟩ := List.mem_iff_getElem?.1 ha
  have hij : i ≠ j := by
    rintro rfl
    exact hne (Option.some.inj (hj.symm.trans hb))
  exact List.mem_iff_getElem?.2 ⟨j, by rw [List.getElem?_set_ne hij]; exact hj⟩

/-- The ban table saved last is the one in memory, unless some thread has changed the table and is
yet to save it. -/
def Sys.BanlistSaved (c : Sys) : Prop :=
  savedBanlist c.state.events = some c.state.setBanned.entries ∨
    ∃ th ∈ c.threads, th.phase.dumpPending

theorem Sys.BanlistSaved.step {c : Sys} (h : c.BanlistSaved) (i : Nat) :
    (c.step G i).BanlistSaved := by
  rcases Sys.step_cases G c i with hc | ⟨th, hth, -, hc⟩
  · rwa [hc]
  rw [hc]
  have hi : i < c.threads.length := (List.getElem?_eq_some_iff.1 hth).1
  rcases Phase.advance_banlist G th.request th.phase c.state with ⟨hp, hb, hsave⟩ | hpend | hsaved
  · rcases h with hs | ⟨q, hq, hqp⟩
    · exact .inl (by simp only [hb, hsave, hs])
    · exact .inr ⟨q, mem_set_of_ne hq hth (by rintro rfl; simp [hp] at hqp) _, hqp⟩
  · exact .inr ⟨_, List.mem_set _ _ hi _, hpend⟩
  · exact .inl hsaved

theorem Sys.BanlistSaved.runAt {c : Sys} (h : c.BanlistSaved) (sched : List (Int × Nat)) :
    (c.runAt G sched).BanlistSaved := by
  induction sched generalizing c with
  | nil => exact h
  | cons ti sched ih =>
      have h' : (c.atTime ti.1).BanlistSaved := h
      exact ih (h'.step ti.2)

/-- A clock that stands still: a schedule runs as the same schedule with every section at the
node's time. -/
theorem Sys.run_eq_runAt (c : Sys) (sched : List Nat) :
    c.run G sched = c.runAt G (sched.map (c.state.env.nTime, ·)) := by
  induction sched generalizing c with
  | nil => rfl
  | cons i sched ih =>
      obtain ⟨_, hstep⟩ := Sys.step_sectionStep G c i
      rw [Sys.run_cons, ih, hstep.evolves.env]
      rfl

end Sched

/-! ### A thread left alone -/

/-- A thread serving `r`, left alone from phase `p` on state `s`, finishes with `reply` and leaves
`s'`; every section but the last leaves it unfinished. -/
inductive Finishes (G : NodeState → List AddedNodeInfo) (r : Request) :
    Phase → NodeState → Except RPCException UniValue → NodeState → Prop where
  | last {p : Phase} {s : NodeState} {reply : Except RPCException UniValue} {s' : NodeState}
      (h : p.advance G r s = (.done reply, s')) : Finishes G r p s reply s'
  | next {p : Phase} {s : NodeState} {reply : Except RPCException UniValue} {s' : NodeState}
      (h : (p.advance G r s).1.reply? = none)
      (rest : Finishes G r (p.advance G r s).1 (p.advance G r s).2 reply s') :
      Finishes G r p s reply s'

section Alone

variable {G : NodeState → List AddedNodeInfo} {r : Request}

theorem Finishes.of_advance {p p₁ : Phase} {s s₁ s' : NodeState} {reply : Except RPCException UniValue}
    (h : p.advance G r s = (p₁, s₁)) (h₁ : p₁.reply? = none) (rest : Finishes G r p₁ s₁ reply s') :
    Finishes G r p s reply s' :=
  .next (by rw [h]; exact h₁) (by rw [h]; exact rest)

/-- The scheduler can run an unfinished thread alone until it finishes. -/
theorem Finishes.run {p : Phase} {s s' : NodeState} {reply : Except RPCException UniValue}
    (h : Finishes G r p s reply s') {c : Sys} {i : Nat} (hi : c.threads[i]? = some ⟨r, p⟩)
    (hp : p.reply? = none) (hs : c.state = s) :
    ∃ n, c.run G (List.replicate n i) =
      ⟨s', c.threads.set i ⟨r, .done reply⟩, c.finished ++ [(r, reply)]⟩ := by
  induction h generalizing c with
  | @last p s reply s' h =>
      subst hs
      have hdone : (Phase.done reply).reply? = some reply := rfl
      exact ⟨1, by simp [Sys.run, Sys.step, hi, hp, h, hdone]⟩
  | @next p s reply s' h₁ rest ih =>
      subst hs
      have hlen : i < c.threads.length := (List.getElem?_eq_some_iff.1 hi).1
      have hstep : c.step G i =
          ⟨(p.advance G r c.state).2, c.threads.set i ⟨r, (p.advance G r c.state).1⟩, c.finished⟩ := by
        simp [Sys.step, hi, hp, h₁]
      obtain ⟨n, hn⟩ := @ih ⟨_, c.threads.set i ⟨r, (p.advance G r c.state).1⟩, c.finished⟩
        (List.getElem?_set_self hlen) h₁ rfl
      refine ⟨n + 1, ?_⟩
      rw [List.replicate_succ, Sys.run_cons, hstep, hn]
      simp [List.set_set]

/-- The disconnect loop, left alone, closes the covered peers one by one as `disconnectAll` does,
then saves the table. -/
theorem setbanFind_finishes (t : SetbanTarget) (s : NodeState) :
    Finishes G r (.setbanFind t) s (.ok .null)
      { disconnectAll t.covers s with
        events := (disconnectAll t.covers s).events ++
          [.dumpBanlist (disconnectAll t.covers s).setBanned.entries] } := by
  induction s using disconnectAll.induct t.covers with
  | case1 s h =>
      rw [disconnectAll_of_find?_none h]
      exact .of_advance (advance_setbanFind_none h) rfl (.last rfl)
  | case2 s node h _ ih =>
      rw [disconnectAll_of_find?_some h]
      have hclose : (Phase.setbanClose t node).advance G r s =
          (.setbanFind t, closeSocketDisconnect node s) := by
        rw [advance_setbanClose, pointee_of_find? h]
      exact .of_advance (advance_setbanFind_some h) rfl (.of_advance hclose rfl ih)

end Alone

section Handlers

variable (G : NodeState → List AddedNodeInfo)

theorem switchnetwork_finishes (params : List UniValue) (fHelp : Bool) (s : NodeState) :
    Finishes G ⟨.switchnetwork, params, fHelp⟩ .start s (replyOf (switchnetwork params fHelp s))
      (stateOf (switchnetwork params fHelp s)) := by
  by_cases h : (fHelp || params.length != 0) = true
  · have hb : switchnetworkBegin params fHelp s = .error (.usage "switchnetwork") s := by
      rw [switchnetworkBegin, withoutParams_pos h]
      rfl
    rw [switchnetwork, withoutParams_pos h]
    exact .last (resume_error hb)
  · have hb : switchnetworkBegin params fHelp s = .ok (.switchSet !s.fNetworkActive) s := by
      rw [switchnetworkBegin, withoutParams_neg h]
      rfl
    rw [switchnetwork, withoutParams_neg h]
    exact .of_advance (resume_ok hb) rfl (.next rfl (.last rfl))

theorem clearbanned_finishes (params : List UniValue) (fHelp : Bool) (s : NodeState) :
    Finishes G ⟨.clearbanned, params, fHelp⟩ .start s (replyOf (clearbanned params fHelp s))
      (stateOf (clearbanned params fHelp s)) := by
  by_cases h : (fHelp || params.length != 0) = true
  · have hb : clearbannedBegin params fHelp s = .error (.usage "clearbanned") s := by
      rw [clearbannedBegin, withoutParams_pos h]
      rfl
    rw [clearbanned, withoutParams_pos h]
    exact .last (resume_error hb)
  · have hb : clearbannedBegin params fHelp s = .ok .dump { s with setBanned := default } := by
      rw [clearbannedBegin, withoutParams_neg h]
      rfl
    rw [clearbanned, withoutParams_neg h]
    exact .of_advance (resume_ok hb) rfl (.last rfl)

theorem disconnectnode_finishes (params : List UniValue) (fHelp : Bool) (s : NodeState) :
    Finishes G ⟨.disconnectnode, params, fHelp⟩ .start s (replyOf (disconnectnode params fHelp s))
      (stateOf (disconnectnode params fHelp s)) := by
  by_cases h : (fHelp || params.length != 1) = true
  · have hb : disconnectnodeBegin params fHelp s = .error (.usage "disconnectnode") s := by
      rw [disconnectnodeBegin, if_pos h]
      rfl
    rw [disconnectnode, if_pos h]
    exact .last (resume_error hb)
  rw [disconnectnode, if_neg h]
  cases hstr : getStr (param params 0) with
  | error e =>
      have hb : disconnectnodeBegin params fHelp s = .error e s := by
        rw [disconnectnodeBegin, if_neg h]
        simp [hstr]
      simp only [hstr, liftM_eq, ofExcept_error, throw_bind, throw_run]
      exact .last (resume_error hb)
  | ok strNode =>
      cases hf : findNode s strNode with
      | none =>
          have hb : disconnectnodeBegin params fHelp s =
              .error (.jsonRpcError .rpcClientNodeNotConnected "Node not found in connected nodes") s := by
            rw [disconnectnodeBegin, if_neg h]
            simp [hstr, hf]
          simp only [hstr, hf, liftM_eq, ofExcept_ok, pure_bind_run, get_bind_run, throw_run]
          exact .last (resume_error hb)
      | some pNode =>
          have hb : disconnectnodeBegin params fHelp s = .ok (.disconnectClose pNode) s := by
            rw [disconnectnodeBegin, if_neg h]
            simp [hstr, hf]
          have hname : pNode.stats.addrName = strNode := by simpa using List.find?_some hf
          have hp : pointee s (·.stats.addrName == pNode.stats.addrName) pNode = pNode :=
            pointee_of_find? (hname ▸ hf)
          simp only [hstr, hf, liftM_eq, ofExcept_ok, pure_bind_run, get_bind_run]
          exact .of_advance (resume_ok hb) rfl (.last (by rw [advance_disconnectClose, hp]; rfl))

theorem setban_finishes (params : List UniValue) (fHelp : Bool) (s : NodeState) :
    Finishes G ⟨.setban, params, fHelp⟩ .start s (replyOf (setban params fHelp s))
      (stateOf (setban params fHelp s)) := by
  have hro := setbanTarget_readOnly params fHelp s
  cases ht : setbanTarget params fHelp s with
  | error e s' =>
      obtain rfl : s = s' := by rw [ht] at hro; exact hro.symm
      have hb : setbanBegin params fHelp s = .error e s := by rw [setbanBegin, bind_of_error ht]
      rw [setban, bind_of_error ht]
      exact .last (resume_error hb)
  | ok t s' =>
      obtain rfl : s = s' := by rw [ht] at hro; exact hro.symm
      by_cases hadd : t.strCommand = "add"
      · cases hc : setbanAdd params t s with
        | error e s' =>
            rw [setban, bind_of_ok ht, if_pos hadd, bind_of_error hc]
            exact .last (resume_error (setbanBegin_of_setbanAdd_error ht hadd hc))
        | ok u s₁ =>
            obtain ⟨hfree, banTime, absolute, hbt, hab, rfl⟩ := setbanAdd_ok hc
            have hb : setbanBegin params fHelp s = .ok (.setbanBan t banTime absolute) s := by
              rw [setbanBegin, bind_of_ok ht, if_pos hadd]
              simp [hfree, hbt, hab]
            rw [setban_of_ok ht (by rw [if_pos hadd]; exact hc)]
            exact .of_advance (resume_ok hb) rfl (.next rfl (setbanFind_finishes t _))
      by_cases hrem : t.strCommand = "remove"
      · cases hc : setbanRemove t s with
        | error e s' =>
            have hb : setbanBegin params fHelp s = .error e s' := by
              rw [setbanBegin, bind_of_ok ht, if_neg hadd, if_pos hrem, bind_of_error hc]
            rw [setban, bind_of_ok ht, if_neg hadd, if_pos hrem, bind_of_error hc]
            exact .last (resume_error hb)
        | ok u s₁ =>
            have hb : setbanBegin params fHelp s = .ok .dump s₁ := by
              rw [setbanBegin, bind_of_ok ht, if_neg hadd, if_pos hrem, bind_of_ok hc]
              rfl
            rw [setban_of_ok ht (by rw [if_neg hadd, if_pos hrem]; exact hc)]
            exact .of_advance (resume_ok hb) rfl (.last rfl)
      · have hc : (if t.strCommand = "add" then setbanAdd params t
            else if t.strCommand = "remove" then setbanRemove t else pure ()) s = .ok () s := by
          rw [if_neg hadd, if_neg hrem]
          rfl
        have hb : setbanBegin params fHelp s = .ok .dump s := by
          rw [setbanBegin, bind_of_ok ht, if_neg hadd, if_neg hrem]
          rfl
        rw [setban_of_ok ht hc]
        exact .of_advance (resume_ok hb) rfl (.last rfl)

/-- A thread left alone finishes with the reply and the state of the sequential handler, whatever
the request and the state: its critical sections, one after another, are the handler. -/
theorem start_finishes (r : Request) (s : NodeState) :
    Finishes G r .start s (replyOf (handleRequest G r s)) (stateOf (handleRequest G r s)) := by
  obtain ⟨c, params, fHelp⟩ := r
  cases c
  case switchnetwork => exact switchnetwork_finishes G params fHelp s
  case disconnectnode => exact disconnectnode_finishes G params fHelp s
  case setban => exact setban_finishes G params fHelp s
  case clearbanned => exact clearbanned_finishes G params fHelp s
  all_goals exact .last (advance_start_whole rfl)

theorem run_serial_from (rs : List Request) (s : NodeState) (pre : List Thread)
    (fin : List (Request × Except RPCException UniValue)) :
    ∃ sched, Sys.run G ⟨s, pre ++ rs.map (⟨·, .start⟩), fin⟩ sched =
      ⟨(serveAll (handleRequest G) rs s).1,
        pre ++ (serveAll (handleRequest G) rs s).2.map (fun e => ⟨e.1, .done e.2⟩),
        fin ++ (serveAll (handleRequest G) rs s).2⟩ := by
  induction rs generalizing s pre fin with
  | nil => exact ⟨[], by simp⟩
  | cons r rs ih =>
      have hi : (⟨s, pre ++ (r :: rs).map (⟨·, .start⟩), fin⟩ : Sys).threads[pre.length]? =
          some ⟨r, .start⟩ := by
        rw [List.getElem?_append_right (le_refl _), Nat.sub_self]
        simp
      obtain ⟨n, hn⟩ := (start_finishes G r s).run hi rfl rfl
      obtain ⟨sched, hsched⟩ := ih (stateOf (handleRequest G r s))
        (pre ++ [⟨r, .done (replyOf (handleRequest G r s))⟩]) (fin ++ [(r, replyOf (handleRequest G r s))])
      refine ⟨List.replicate n pre.length ++ sched, ?_⟩
      have hset : (pre ++ (r :: rs).map (Thread.mk · .start)).set pre.length
          ⟨r, .done (replyOf (handleRequest G r s))⟩ =
            pre ++ [⟨r, .done (replyOf (handleRequest G r s))⟩] ++ rs.map (Thread.mk · .start) := by
        simp
      rw [Sys.run_append, hn, hset, hsched]
      simp [serveAll_cons]

/-- The schedules that serve one request after another are the sequential model. From any state,
for any requests, the scheduler can run each thread alone in turn; the node is then in the state
`serveAll` leaves, every thread holds the reply `serveAll` gives its request, and the callers saw
the replies in the order of the requests. -/
theorem run_serial (s : NodeState) (rs : List Request) :
    ∃ sched, (Sys.start s rs).run G sched =
      ⟨(serveAll (handleRequest G) rs s).1,
        (serveAll (handleRequest G) rs s).2.map (fun e => ⟨e.1, .done e.2⟩),
        (serveAll (handleRequest G) rs s).2⟩ := by
  simpa using run_serial_from G rs s [] []

/-- A change to the ban table is never left unsaved, whatever the interleaving and however the
clock moves. Serving any requests on any threads under any schedule, each section at its own time,
from a node whose saved table is its table: whenever no thread is between changing the table and
saving it, in particular once every thread has finished, the table saved last is the table in
memory. -/
theorem run_banlistSaved (s : NodeState) (rs : List Request) (sched : List (Int × Nat))
    (hs : savedBanlist s.events = some s.setBanned.entries)
    (hquiet : ∀ th ∈ ((Sys.start s rs).runAt G sched).threads, th.phase.dumpPending = false) :
    savedBanlist ((Sys.start s rs).runAt G sched).state.events =
      some ((Sys.start s rs).runAt G sched).state.setBanned.entries := by
  have h : ((Sys.start s rs).runAt G sched).BanlistSaved := Sys.BanlistSaved.runAt (.inl hs) sched
  rcases h with h | ⟨th, hth, hp⟩
  · exact h
  · simp [hquiet th hth] at hp

end Handlers

end

/-- A ban and a clear, interleaved so that `clearbanned` saves between the ban and the ban's own
save, one section a second; both finish. -/
theorem run_banlistSaved_ban_clear :
    let s : NodeState := { (default : NodeState) with events := [.dumpBanlist []] }
    let rs : List Request :=
      [⟨.setban, [.str "10.0.0.0/24", .str "add"], false⟩, ⟨.clearbanned, [], false⟩]
    let c := (Sys.start s rs).runAt getAddedNodeInfo [(0, 0), (1, 1), (2, 0), (3, 1), (4, 0), (5, 0)]
    savedBanlist s.events = some s.setBanned.entries ∧
      (∀ th ∈ c.threads, th.phase.dumpPending = false) ∧
      savedBanlist c.state.events = some c.state.setBanned.entries :=
  ⟨rfl, by decide, run_banlistSaved getAddedNodeInfo _ _ _ rfl (by decide)⟩

end LuxRpcNet
