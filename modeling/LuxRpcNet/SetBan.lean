import LuxRpcNet.BanTable
import LuxRpcNet.AddNode

/-! `setban`: banning and unbanning an address or a subnet. The handler reads the command from the
second parameter before it looks at the help flag, so a command that is not a string throws its
type error even when help was asked for; a first parameter with a `/` names a subnet, any other an
address, and an invalid one is refused. `add` refuses a target already banned, reads the optional
ban time and, with exactly four parameters, the `absolute` flag, then bans and closes the peers
the ban covers; `remove` unbans and throws when there was nothing to unban; either way the table
is saved last. The definition follows the handler's three blocks, checks, command and save: the
checks write nothing, the command writes only after its last check, and saving cannot fail, so a
failed call leaves the state it found. -/

namespace LuxRpcNet

open UniValue NetBase

section

variable [NetBase]

/-- What the argument checks establish: the command, whether the target is a subnet, and the
subnet or the address it names. -/
structure SetbanTarget where
  strCommand : String
  isSubnet : Bool
  subNet : CSubNet
  netAddr : CNetAddr

/-- The target a string names: a subnet when it holds a `/`, an address otherwise. -/
def SetbanTarget.ofString (strCommand strSubNet : String) : SetbanTarget :=
  ⟨strCommand, findNotNpos strSubNet "/", subNetOfString strSubNet, netAddrOfString strSubNet⟩

/-- `isSubnet ? subNet.IsValid() : netAddr.IsValid()`. -/
def SetbanTarget.isValid (t : SetbanTarget) : Bool :=
  if t.isSubnet then subNetIsValid t.subNet else netAddrIsValid t.netAddr

/-- `isSubnet ? CNode::IsBanned(subNet) : CNode::IsBanned(netAddr)`. -/
def SetbanTarget.isBanned (t : SetbanTarget) (s : NodeState) : Bool :=
  if t.isSubnet then isBannedSubNet s t.subNet else isBannedNetAddr s t.netAddr

/-- The argument checks (lines 556-589). -/
def setbanTarget (params : List UniValue) (fHelp : Bool) : RPC SetbanTarget := do
  let strCommand ← (if params.length ≥ 2 then getStr (param params 1) else pure "")
  if fHelp || params.length < 2 || (strCommand != "add" && strCommand != "remove") then
    throw (.usage "setban")
  else
    let t := SetbanTarget.ofString strCommand (← getStr (param params 0))
    if !t.isValid then
      throw (.jsonRpcError .rpcClientNodeAlreadyAdded "Error: Invalid IP/Subnet")
    else
      return t

/-- The subnet `CNode::Ban` and `CNode::Unban` act on: the target's own, or the one its address
makes. -/
def SetbanTarget.banKey (t : SetbanTarget) : CSubNet :=
  if t.isSubnet then t.subNet else subNetOfNetAddr t.netAddr

/-- The peers a ban of the target covers: `FindNode(subNet)` matches a peer whose address lies in
the subnet, `FindNode(netAddr)` one whose address is the address. -/
def SetbanTarget.covers (t : SetbanTarget) (node : CNode) : Bool :=
  if t.isSubnet then subNetMatch t.subNet (serviceNetAddr node.addr)
  else serviceNetAddr node.addr == t.netAddr

/-- The ban time of `add` (lines 596-598): zero, for the default, when the third parameter is
missing or `null`. -/
def setbanBanTime (params : List UniValue) : Except RPCException Int :=
  if params.length ≥ 3 && !(param params 2).isNull then getInt64 (param params 2) else .ok 0

/-- The `absolute` flag of `add` (lines 600-602), read only when there are exactly four
parameters. -/
def setbanAbsolute (params : List UniValue) : Except RPCException Bool :=
  if params.length = 4 then getBool (param params 3) else .ok false

/-- The `add` branch (lines 591-609). -/
def setbanAdd (params : List UniValue) (t : SetbanTarget) : RPC Unit := do
  if t.isBanned (← get) then
    throw (.jsonRpcError .rpcClientNodeAlreadyAdded "Error: IP/Subnet already banned")
  else
    -- use standard bantime if not specified
    let banTime ← setbanBanTime params
    let absolute ← setbanAbsolute params
    ban t.banKey .manually banTime absolute
    -- disconnect possible nodes
    modify (disconnectAll t.covers)

/-- The `remove` branch (lines 610-614). -/
def setbanRemove (t : SetbanTarget) : RPC Unit := do
  if !(← unban t.banKey) then
    throw (.jsonRpcError .rpcMiscError "Error: Unban failed")

def setban (params : List UniValue) (fHelp : Bool) : RPC UniValue := do
  let t ← setbanTarget params fHelp
  (if t.strCommand = "add" then setbanAdd params t
    else if t.strCommand = "remove" then setbanRemove t else pure ())
  dumpBanlist -- store banlist to disk
  return .null

theorem setbanTarget_readOnly (params : List UniValue) (fHelp : Bool) :
    ReadOnly (setbanTarget params fHelp) :=
  (readOnly_ite (readOnly_ofExcept _) (readOnly_pure _)).bind fun _ =>
    readOnly_ite (readOnly_throw _) <| (readOnly_ofExcept _).bind fun _ =>
      readOnly_ite (readOnly_throw _) (readOnly_pure _)

theorem setbanAdd_atomic (params : List UniValue) (t : SetbanTarget) :
    Atomic (setbanAdd params t) :=
  Atomic.bind_of_readOnly readOnly_get fun _ =>
    atomic_ite (readOnly_throw _).atomic <|
      Atomic.bind_of_readOnly (readOnly_ofExcept _) fun _ =>
        Atomic.bind_of_readOnly (readOnly_ofExcept _) fun _ =>
          ((noThrow_ban _ _ _ _).bind fun _ => noThrow_modify _).atomic

theorem setbanAdd_ok {params : List UniValue} {t : SetbanTarget} {s s₁ : NodeState} {u : Unit}
    (h : setbanAdd params t s = .ok u s₁) :
    t.isBanned s = false ∧ ∃ banTime absolute, setbanBanTime params = .ok banTime ∧
      setbanAbsolute params = .ok absolute ∧
      s₁ = disconnectAll t.covers { s with
        setBanned := s.setBanned.insert t.banKey ⟨s.env.nTime, banUntil s.env banTime absolute, .manually⟩ } := by
  obtain ⟨_, ⟨⟩, h⟩ := readOnly_get.bind_ok h
  obtain ⟨hfree, h⟩ := ok_of_ite_throw h
  obtain ⟨banTime, hb, h⟩ := (readOnly_ofExcept _).bind_ok h
  obtain ⟨absolute, ha, h⟩ := (readOnly_ofExcept _).bind_ok h
  refine ⟨by simpa using hfree, banTime, absolute, eq_ok_of_ofExcept hb, eq_ok_of_ofExcept ha, ?_⟩
  cases h
  rfl

theorem setbanRemove_run (t : SetbanTarget) (s : NodeState) :
    setbanRemove t s =
      if (s.setBanned.find? t.banKey).isSome then .ok () { s with setBanned := s.setBanned.erase t.banKey }
      else .error (.jsonRpcError .rpcMiscError "Error: Unban failed") s := by
  by_cases hb : (s.setBanned.find? t.banKey).isSome <;> simp [setbanRemove, unban, hb]

theorem setbanRemove_atomic (t : SetbanTarget) : Atomic (setbanRemove t) := by
  intro s e s' h
  rw [setbanRemove_run] at h
  split_ifs at h
  cases h
  rfl

theorem setban_atomic (params : List UniValue) (fHelp : Bool) : Atomic (setban params fHelp) :=
  Atomic.bind_of_readOnly (setbanTarget_readOnly params fHelp) fun _ =>
    Atomic.bind_noThrow
      (atomic_ite (setbanAdd_atomic _ _) (atomic_ite (setbanRemove_atomic _) (readOnly_pure _).atomic))
      fun _ => noThrow_dumpBanlist.bind fun _ => noThrow_pure _

theorem setbanTarget_ok {params : List UniValue} {fHelp : Bool} {s s' : NodeState}
    {t : SetbanTarget} (h : setbanTarget params fHelp s = .ok t s') :
    param params 1 = .str t.strCommand ∧ t.isValid = true := by
  obtain ⟨cmd, hcmd, h⟩ := (readOnly_ite (readOnly_ofExcept _) (readOnly_pure _)).bind_ok h
  obtain ⟨hchk, h⟩ := ok_of_ite_throw h
  obtain ⟨str, -, h⟩ := (readOnly_ofExcept _).bind_ok h
  obtain ⟨hvalid, h⟩ := ok_of_ite_throw h
  cases h
  have hlen : params.length ≥ 2 := by simp at hchk; omega
  rw [if_pos hlen] at hcmd
  exact ⟨getStr_eq_ok.1 (eq_ok_of_ofExcept hcmd), by simpa using hvalid⟩

/-- What a returning `setban` with these parameters can make of the table: leave it, erase one
subnet when the command is `remove`, or, when it is `add`, write the subnet of a target that was
not banned, from now to the end its ban time and flag give. -/
def SetbanWrites (params : List UniValue) (s : NodeState) (table : BanMap) : Prop :=
  table = s.setBanned ∨
    (param params 1 = .str "remove" ∧ ∃ subNet, table = s.setBanned.erase subNet) ∨
    param params 1 = .str "add" ∧
    ∃ (t : SetbanTarget) (banTime : Int) (absolute : Bool), t.isValid = true ∧ t.isBanned s = false ∧
      setbanBanTime params = .ok banTime ∧ setbanAbsolute params = .ok absolute ∧
      table = s.setBanned.insert t.banKey ⟨s.env.nTime, banUntil s.env banTime absolute, .manually⟩

/-- The command's whole effect: it keeps some live peers, closing the others in their order, and
may write the table; nothing else changes. -/
theorem setbanCommand_frame (params : List UniValue) (t : SetbanTarget) {s s₁ : NodeState} {u : Unit}
    (hcmd : param params 1 = .str t.strCommand) (hvalid : t.isValid = true)
    (h : (if t.strCommand = "add" then setbanAdd params t
      else if t.strCommand = "remove" then setbanRemove t else pure ()) s = .ok u s₁) :
    ∃ (keep : CNode → Bool) (table : BanMap), SetbanWrites params s table ∧
      s₁ = { s with
        vNodes := s.vNodes.filter keep
        setBanned := table
        events := s.events ++ (s.vNodes.filter fun n => !keep n).map
          fun n => .closeSocketDisconnect n.stats.nodeid } := by
  split_ifs at h with hadd hremove
  · obtain ⟨hfree, banTime, absolute, hb, ha, rfl⟩ := setbanAdd_ok h
    refine ⟨fun n => !t.covers n, _,
      .inr (.inr ⟨hadd ▸ hcmd, t, banTime, absolute, hvalid, hfree, hb, ha, rfl⟩), ?_⟩
    rw [disconnectAll_eq]
    simp
  · rw [setbanRemove_run] at h
    split_ifs at h
    cases h
    exact ⟨fun _ => true, s.setBanned.erase t.banKey, .inr (.inl ⟨hremove ▸ hcmd, _, rfl⟩),
      by simp⟩
  · cases h
    exact ⟨fun _ => true, s.setBanned, .inl rfl, by simp⟩

theorem setban_of_ok {params : List UniValue} {fHelp : Bool} {s s₀ s₁ : NodeState} {t : SetbanTarget}
    (ht : setbanTarget params fHelp s = .ok t s₀)
    (hc : (if t.strCommand = "add" then setbanAdd params t
      else if t.strCommand = "remove" then setbanRemove t else pure ()) s₀ = .ok () s₁) :
    setban params fHelp s =
      .ok .null { s₁ with events := s₁.events ++ [.dumpBanlist s₁.setBanned.entries] } := by
  rw [setban, bind_of_ok ht, bind_of_ok hc, dumpBanlist_return_run]

/-- A call that returns saved the table last, as the command left it, and returns `null`. -/
theorem setban_ok {params : List UniValue} {fHelp : Bool} {s s' : NodeState} {v : UniValue}
    (h : setban params fHelp s = .ok v s') :
    v = .null ∧ ∃ (keep : CNode → Bool) (table : BanMap), SetbanWrites params s table ∧
      s' = { s with
        vNodes := s.vNodes.filter keep
        setBanned := table
        events := s.events ++ (s.vNodes.filter fun n => !keep n).map
          (fun n => .closeSocketDisconnect n.stats.nodeid) ++ [.dumpBanlist table.entries] } := by
  obtain ⟨t, ht, h⟩ := (setbanTarget_readOnly params fHelp).bind_ok h
  cases hc : (if t.strCommand = "add" then setbanAdd params t
      else if t.strCommand = "remove" then setbanRemove t else pure ()) s with
  | ok u s₁ =>
      rw [bind_of_ok hc, dumpBanlist_return_run] at h
      cases h
      obtain ⟨keep, table, hw, rfl⟩ := setbanCommand_frame params t (setbanTarget_ok ht).1 (setbanTarget_ok ht).2 hc
      exact ⟨rfl, keep, table, hw, rfl⟩
  | error e s₁ => rw [bind_of_error hc] at h; cases h

theorem setban_returns (params : List UniValue) (fHelp : Bool) {s s' : NodeState} {v : UniValue}
    (h : setban params fHelp s = .ok v s') :
    v = .null ∧ ∃ closed, s'.events = s.events ++ closed ++ [.dumpBanlist s'.setBanned.entries] := by
  obtain ⟨rfl, keep, table, -, rfl⟩ := setban_ok h
  exact ⟨rfl, _, rfl⟩

theorem setban_state (params : List UniValue) (fHelp : Bool) (s : NodeState) :
    stateOf (setban params fHelp s) = s ∨ ∃ (keep : CNode → Bool) (table : BanMap),
      stateOf (setban params fHelp s) = { s with
        vNodes := s.vNodes.filter keep
        setBanned := table
        events := s.events ++ (s.vNodes.filter fun n => !keep n).map
          (fun n => .closeSocketDisconnect n.stats.nodeid) ++ [.dumpBanlist table.entries] } := by
  cases h : setban params fHelp s with
  | error e s' => exact .inl (setban_atomic params fHelp s e s' h)
  | ok v s' =>
      obtain ⟨-, keep, table, -, h⟩ := setban_ok h
      exact .inr ⟨keep, table, h⟩

theorem setban_writes {params : List UniValue} {fHelp : Bool} {s s' : NodeState} {v : UniValue}
    (h : setban params fHelp s = .ok v s') : SetbanWrites params s s'.setBanned := by
  obtain ⟨-, keep, table, hw, rfl⟩ := setban_ok h
  exact hw

/-! ### `add` and `remove` of one target -/

theorem setbanTarget_run (strSubNet strCommand : String) (rest : List UniValue) (s : NodeState)
    (hcmd : strCommand = "add" ∨ strCommand = "remove") :
    setbanTarget (.str strSubNet :: .str strCommand :: rest) false s =
      let t := SetbanTarget.ofString strCommand strSubNet
      if !t.isValid then .error (.jsonRpcError .rpcClientNodeAlreadyAdded "Error: Invalid IP/Subnet") s
      else .ok t s := by
  have hlen : ¬rest.length + 1 + 1 < 2 := by omega
  rcases hcmd with rfl | rfl <;>
    simp [setbanTarget, SetbanTarget.ofString, SetbanTarget.isValid, hlen] <;> split_ifs <;> rfl

theorem setbanAdd_run (strSubNet : String) (t : SetbanTarget) (s : NodeState) :
    setbanAdd [.str strSubNet, .str "add"] t s =
      if t.isBanned s then
        .error (.jsonRpcError .rpcClientNodeAlreadyAdded "Error: IP/Subnet already banned") s
      else
        let entry : CBanEntry := ⟨s.env.nTime, s.env.nTime + s.env.nDefaultBanTime, .manually⟩
        .ok () (disconnectAll t.covers { s with setBanned := s.setBanned.insert t.banKey entry }) := by
  by_cases hb : t.isBanned s <;> simp [setbanAdd, hb, ban, setbanBanTime, setbanAbsolute, banUntil]

/-- `setban <target> add`: refused when the target is invalid or already banned; otherwise the ban
is written, the peers it covers are closed, and the table is saved. -/
theorem setban_add_run (strSubNet : String) (s : NodeState) :
    let t := SetbanTarget.ofString "add" strSubNet
    setban [.str strSubNet, .str "add"] false s =
      if !t.isValid then
        .error (.jsonRpcError .rpcClientNodeAlreadyAdded "Error: Invalid IP/Subnet") s
      else if t.isBanned s then
        .error (.jsonRpcError .rpcClientNodeAlreadyAdded "Error: IP/Subnet already banned") s
      else
        let entry : CBanEntry := ⟨s.env.nTime, s.env.nTime + s.env.nDefaultBanTime, .manually⟩
        let s₁ := disconnectAll t.covers { s with setBanned := s.setBanned.insert t.banKey entry }
        .ok .null { s₁ with events := s₁.events ++ [.dumpBanlist s₁.setBanned.entries] } := by
  intro t
  have ht := setbanTarget_run strSubNet "add" [] s (.inl rfl)
  rw [setban]
  cases hv : t.isValid
  · rw [bind_of_error (ht.trans (if_pos (by simp [t, hv])))]
    rfl
  rw [bind_of_ok (ht.trans (if_neg (by simp [t, hv]))), if_pos (show t.strCommand = "add" from rfl)]
  by_cases hb : t.isBanned s
  · rw [bind_of_error ((setbanAdd_run _ _ s).trans (if_pos hb))]
    simp [hb]
  · rw [bind_of_ok ((setbanAdd_run _ _ s).trans (if_neg hb)), dumpBanlist_return_run]
    simp [hb]

/-- `setban <target> remove`: refused when the target is invalid, and fails when its subnet has no
entry; otherwise the entry is removed and the table saved. -/
theorem setban_remove_run (strSubNet : String) (s : NodeState) :
    let t := SetbanTarget.ofString "remove" strSubNet
    setban [.str strSubNet, .str "remove"] false s =
      if !t.isValid then
        .error (.jsonRpcError .rpcClientNodeAlreadyAdded "Error: Invalid IP/Subnet") s
      else if (s.setBanned.find? t.banKey).isSome then
        let s₁ := { s with setBanned := s.setBanned.erase t.banKey }
        .ok .null { s₁ with events := s₁.events ++ [.dumpBanlist s₁.setBanned.entries] }
      else .error (.jsonRpcError .rpcMiscError "Error: Unban failed") s := by
  intro t
  have ht := setbanTarget_run strSubNet "remove" [] s (.inr rfl)
  rw [setban]
  cases hv : t.isValid
  · rw [bind_of_error (ht.trans (if_pos (by simp [t, hv])))]
    rfl
  rw [bind_of_ok (ht.trans (if_neg (by simp [t, hv]))), if_neg (show t.strCommand ≠ "add" from (by decide : "remove" ≠ "add")),
    if_pos (show t.strCommand = "remove" from rfl)]
  by_cases hb : (s.setBanned.find? t.banKey).isSome
  · rw [bind_of_ok ((setbanRemove_run t s).trans (if_pos hb)), dumpBanlist_return_run]
    simp [hb]
  · rw [bind_of_error ((setbanRemove_run t s).trans (if_neg hb))]
    simp [hb]

end

section

variable [NetBase]

/-- Neither `addnode` nor `setban` leaves a trace when it throws: whatever the parameters and the
state, a call that throws leaves the added nodes, the ban table and the log of requests as they
were, so the table was not saved. A `setban` that returns saved the table last, as its change left
it. -/
theorem addnode_setban_fail_cleanly :
    (∀ params fHelp s e s', addnode params fHelp s = .error e s' → s' = s) ∧
    (∀ params fHelp s e s', setban params fHelp s = .error e s' → s' = s) ∧
    (∀ params fHelp s v s', setban params fHelp s = .ok v s' →
      ∃ closed, s'.events = s.events ++ closed ++ [.dumpBanlist s'.setBanned.entries]) :=
  ⟨fun params fHelp => addnode_atomic params fHelp, fun params fHelp => setban_atomic params fHelp,
    fun params fHelp _ _ _ h => (setban_returns params fHelp h).2⟩

end

/-- Raises after checks that passed, from a node with an added node and a live ban: a ban time
that is not a number, read after `IsBanned`; an unban of a subnet with no entry; an add of a node
already added. Each leaves the state it found. -/
theorem addnode_setban_fail_cleanly_after_checks :
    let s : NodeState := { (default : NodeState) with
      vAddedNodes := ["a"]
      setBanned := ⟨[("10.0.0.1", ⟨0, 100, .manually⟩)], by decide⟩
      env := { (default : NodeEnv) with nTime := 50 } }
    setban [.str "1.2.3.4", .str "add", .str "x"] false s =
        .error (.runtimeError "JSON value is not an integer as expected") s ∧
      setban [.str "10.0.1.0/24", .str "remove"] false s =
        .error (.jsonRpcError .rpcMiscError "Error: Unban failed") s ∧
      addnode [.str "a", .str "add"] false s =
        .error (.jsonRpcError .rpcClientNodeAlreadyAdded "Error: Node already added") s := by
  intro s
  have h₁ : setban [.str "1.2.3.4", .str "add", .str "x"] false s =
      .error (.runtimeError "JSON value is not an integer as expected")
        (stateOf (setban [.str "1.2.3.4", .str "add", .str "x"] false s)) := rfl
  have h₂ : setban [.str "10.0.1.0/24", .str "remove"] false s =
      .error (.jsonRpcError .rpcMiscError "Error: Unban failed")
        (stateOf (setban [.str "10.0.1.0/24", .str "remove"] false s)) := rfl
  have h₃ : addnode [.str "a", .str "add"] false s =
      .error (.jsonRpcError .rpcClientNodeAlreadyAdded "Error: Node already added")
        (stateOf (addnode [.str "a", .str "add"] false s)) := rfl
  rw [addnode_setban_fail_cleanly.2.1 _ _ _ _ _ h₁] at h₁
  rw [addnode_setban_fail_cleanly.2.1 _ _ _ _ _ h₂] at h₂
  rw [addnode_setban_fail_cleanly.1 _ _ _ _ _ h₃] at h₃
  exact ⟨h₁, h₂, h₃⟩

end LuxRpcNet
