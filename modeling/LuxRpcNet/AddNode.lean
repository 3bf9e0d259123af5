import LuxRpcNet.Server
import Mathlib.Data.List.Basic

/-! `addnode`: adding and removing a manually configured peer, or trying one connection to it.

The added nodes are the list `vAddedNodes`. The handler reads the command from the second
parameter (only when there are exactly two), rejects anything other than `add`, `remove` and
`onetry` with the help text, and then reads the node. `onetry` asks the connection manager for one
connection and leaves the list alone. Otherwise a linear search finds the first entry equal to the
node: `add` appends the node when the search reached the end and throws otherwise, `remove`
erases the entry found and throws when there is none.

`addnode_command` and `addnode_malformed` say what every request does; the rest of the
development cites them and never unfolds the handler. -/

namespace LuxRpcNet

open UniValue

variable [NetBase]

def addnode (params : List UniValue) (fHelp : Bool) : RPC UniValue := do
  let strCommand ← if params.length = 2 then getStr (param params 1) else pure ""
  if fHelp || params.length != 2 ||
      (strCommand != "onetry" && strCommand != "add" && strCommand != "remove") then
    throw (.usage "addnode")
  let strNode ← getStr (param params 0)
  if strCommand = "onetry" then
    emit (.openNetworkConnection strNode)
    return .null
  let s ← get
  -- the search loop stops at the first entry equal to `strNode`, or at the end
  let it := s.vAddedNodes.indexOf strNode
  if strCommand = "add" then
    if it ≠ s.vAddedNodes.length then
      throw (.jsonRpcError .rpcClientNodeAlreadyAdded "Error: Node already added")
    set { s with vAddedNodes := s.vAddedNodes ++ [strNode] }
  else if strCommand = "remove" then
    if it = s.vAddedNodes.length then
      throw (.jsonRpcError .rpcClientNodeNotAdded "Error: Node has not been added.")
    set { s with vAddedNodes := s.vAddedNodes.eraseIdx it }
  return .null

/-- A request naming the node and the command as strings, without the help flag. -/
theorem addnode_command (node cmd : String) (s : NodeState) :
    addnode [.str node, .str cmd] false s =
      if cmd = "onetry" then .ok .null { s with events := s.events ++ [.openNetworkConnection node] }
      else if cmd = "add" then
        if node ∈ s.vAddedNodes then
          .error (.jsonRpcError .rpcClientNodeAlreadyAdded "Error: Node already added") s
        else .ok .null { s with vAddedNodes := s.vAddedNodes ++ [node] }
      else if cmd = "remove" then
        if node ∈ s.vAddedNodes then .ok .null { s with vAddedNodes := s.vAddedNodes.erase node }
        else .error (.jsonRpcError .rpcClientNodeNotAdded "Error: Node has not been added.") s
      else .error (.usage "addnode") s := by
  by_cases h1 : cmd = "onetry"
  · subst h1; rfl
  by_cases h2 : cmd = "add"
  · subst h2
    by_cases hm : node ∈ s.vAddedNodes <;> simp [addnode, hm, List.indexOf_eq_length]
  by_cases h3 : cmd = "remove"
  · subst h3
    by_cases hm : node ∈ s.vAddedNodes <;> simp [addnode, hm, List.indexOf_eq_length]
  · simp [addnode, h1, h2, h3]

/-- Every other request throws its help text or a parameter's type error, from the state it was
given; which of them, the parameters alone decide. -/
theorem addnode_malformed (params : List UniValue) (fHelp : Bool)
    (h : ∀ node cmd, params = [.str node, .str cmd] → fHelp = true) :
    ∃ e, (e = .usage "addnode" ∨ e = .runtimeError "JSON value is not a string as expected") ∧
      ∀ s, addnode params fHelp s = .error e s := by
  match params, fHelp with
  | [v0, v1], fHelp =>
      cases h1 : getStr v1 with
      | error e => exact ⟨e, .inr (getStr_eq_error h1), fun s => by simp [addnode, h1]⟩
      | ok cmd =>
          cases fHelp
          · cases h0 : getStr v0 with
            | error e =>
                by_cases hc : (¬cmd = "onetry" ∧ ¬cmd = "add") ∧ ¬cmd = "remove"
                · exact ⟨.usage "addnode", .inl rfl, fun s => by simp [addnode, h1, h0, hc]⟩
                · exact ⟨e, .inr (getStr_eq_error h0), fun s => by simp [addnode, h1, h0, hc]⟩
            | ok node => cases h _ _ (by rw [getStr_eq_ok.1 h0, getStr_eq_ok.1 h1])
          · exact ⟨.usage "addnode", .inl rfl, fun s => by simp [addnode, h1]⟩
  | [], _ | [_], _ | _ :: _ :: _ :: _, _ =>
      exact ⟨.usage "addnode", .inl rfl, fun s => by simp [addnode]⟩

theorem addnode_atomic (params : List UniValue) (fHelp : Bool) : Atomic (addnode params fHelp) := by
  intro s e s' he
  by_cases hw : ∃ node cmd, params = [.str node, .str cmd] ∧ fHelp = false
  · obtain ⟨node, cmd, rfl, rfl⟩ := hw
    rw [addnode_command] at he
    split_ifs at he <;> cases he <;> rfl
  · push_neg at hw
    obtain ⟨e', -, he'⟩ := addnode_malformed params fHelp (fun n c hp => by simpa using hw n c hp)
    rw [he' s] at he
    cases he
    rfl

/-! ### The effect of one served request on the added-node list -/

/-- A served request as the log records it. -/
abbrev AddNodeEntry := (List UniValue × Bool) × Except RPCException UniValue

/-- The node a served request added (`true`) or removed (`false`), if it returned from one. -/
def toggle : AddNodeEntry → Option (String × Bool)
  | (([.str node, .str cmd], false), .ok _) =>
      if cmd = "add" then some (node, true) else if cmd = "remove" then some (node, false) else none
  | _ => none

/-- The ordered-set operation a toggle performs on the list. -/
def applyToggle : Option (String × Bool) → List String → List String
  | some (node, true), l => l ++ [node]
  | some (node, false), l => l.erase node
  | none, l => l

/-- A toggle's precondition: a node is added only when absent and removed only when present. -/
def Enabled : Option (String × Bool) → List String → Prop
  | some (node, true), l => node ∉ l
  | some (node, false), l => node ∈ l
  | none, _ => True

omit [NetBase] in
@[simp] theorem toggle_error (r : List UniValue × Bool) (e : RPCException) :
    toggle (r, .error e) = none := by
  unfold toggle
  split
  · rename_i h
    cases h
  · rfl

/-- One `addnode` request: its toggle was enabled, and the list it leaves is the toggle applied. -/
theorem addnode_step (params : List UniValue) (fHelp : Bool) (s : NodeState) :
    let result := addnode params fHelp s
    Enabled (toggle ((params, fHelp), replyOf result)) s.vAddedNodes ∧
      (stateOf result).vAddedNodes =
        applyToggle (toggle ((params, fHelp), replyOf result)) s.vAddedNodes := by
  by_cases hw : ∃ node cmd, params = [.str node, .str cmd] ∧ fHelp = false
  · obtain ⟨node, cmd, rfl, rfl⟩ := hw
    simp only [addnode_command]
    split_ifs <;> simp_all [toggle, replyOf, applyToggle, Enabled]
  · push_neg at hw
    obtain ⟨e, -, he⟩ := addnode_malformed params fHelp (fun n c hp => by simpa using hw n c hp)
    simp only [he s, replyOf, stateOf_error]
    refine ⟨?_, ?_⟩ <;> cases params <;> simp [toggle, applyToggle, Enabled]

/-- `addnode` reads nothing of the state but the added-node list: on two states with the same list
it gives the same reply and leaves the same list. -/
theorem addnode_congr (params : List UniValue) (fHelp : Bool) {s₁ s₂ : NodeState}
    (h : s₁.vAddedNodes = s₂.vAddedNodes) :
    replyOf (addnode params fHelp s₁) = replyOf (addnode params fHelp s₂) ∧
      (stateOf (addnode params fHelp s₁)).vAddedNodes =
        (stateOf (addnode params fHelp s₂)).vAddedNodes := by
  by_cases hw : ∃ node cmd, params = [.str node, .str cmd] ∧ fHelp = false
  · obtain ⟨node, cmd, rfl, rfl⟩ := hw
    simp only [addnode_command, h]
    split_ifs <;> simp [replyOf, h]
  · push_neg at hw
    obtain ⟨e, -, he⟩ := addnode_malformed params fHelp (fun n c hp => by simpa using hw n c hp)
    simp [he, replyOf, h]

/-- Everything one `addnode` request does to the state: it performs its toggle on the list and
asks for connections, `onetry`'s one. -/
theorem addnode_state (params : List UniValue) (fHelp : Bool) (s : NodeState) :
    ∃ opens : List String,
      stateOf (addnode params fHelp s) =
        { s with
          vAddedNodes :=
            applyToggle (toggle ((params, fHelp), replyOf (addnode params fHelp s))) s.vAddedNodes
          events := s.events ++ opens.map .openNetworkConnection } := by
  by_cases hw : ∃ node cmd, params = [.str node, .str cmd] ∧ fHelp = false
  · obtain ⟨node, cmd, rfl, rfl⟩ := hw
    rw [addnode_command]
    split_ifs <;> first
      | (refine ⟨[], ?_⟩; simp [replyOf, toggle, applyToggle, *]; done)
      | (refine ⟨[node], ?_⟩; simp [replyOf, toggle, applyToggle, *])
  · push_neg at hw
    obtain ⟨e, -, he⟩ := addnode_malformed params fHelp (fun n c hp => by simpa using hw n c hp)
    exact ⟨[], by simp [he s, replyOf, applyToggle]⟩

end LuxRpcNet
