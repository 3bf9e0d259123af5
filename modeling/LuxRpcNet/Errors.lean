import LuxRpcNet.Dispatch

/-! What each command can throw.

Every exception a handler raises is its help text, the type error of a typed read of one of its
parameters, or one of the `JSONRPCError`s its body names. `Command.errors` lists them for each
command. `ThrowsIn errors x` says that every exception `x` throws is in `errors`; like `Atomic` it
follows the code's order through `bind` and `if`, so each handler's catalogue is proved by
composing the steps of its body, and `addnode`'s from the two lemmas that say what every request
does. Over any run, every error in the log of replies is then one its command lists.

Two entries differ from the spec's failure kinds: `setban` reports an invalid address or subnet
with `RPC_CLIENT_NODE_ALREADY_ADDED`, the code of an entry already present, and a `remove` of a
subnet without an entry with `RPC_MISC_ERROR`, not as an entry not present. -/

namespace LuxRpcNet

open UniValue NetBase

section

variable {α β : Type} [NetBase] {errors : List RPCException}

/-- Every exception the computation throws is in `errors`. -/
def ThrowsIn (errors : List RPCException) (x : RPC α) : Prop :=
  ∀ s e s', x s = .error e s' → e ∈ errors

theorem NoThrow.throwsIn {x : RPC α} (hx : NoThrow x) : ThrowsIn errors x :=
  fun s e s' h => absurd h (hx s e s')

theorem throwsIn_pure (a : α) : ThrowsIn errors (pure a : RPC α) := (noThrow_pure a).throwsIn

theorem throwsIn_throw {e : RPCException} (h : e ∈ errors) : ThrowsIn errors (throw e : RPC α) := by
  intro s e' s' h'
  cases h'
  exact h

theorem throwsIn_ofExcept {x : Except RPCException α} (h : ∀ e, x = .error e → e ∈ errors) :
    ThrowsIn errors (ofExcept x) := by
  intro s e s' h'
  cases x with
  | error e' => cases h'; exact h _ rfl
  | ok a => cases h'

theorem throwsIn_getStr (v : UniValue)
    (h : .runtimeError "JSON value is not a string as expected" ∈ errors) :
    ThrowsIn errors (ofExcept (getStr v)) :=
  throwsIn_ofExcept fun _ he => getStr_eq_error he ▸ h

theorem throwsIn_ite {c : Prop} [Decidable c] {x y : RPC α} (hx : ThrowsIn errors x)
    (hy : ThrowsIn errors y) : ThrowsIn errors (if c then x else y) := by
  split <;> assumption

theorem ThrowsIn.bind {x : RPC α} {f : α → RPC β} (hx : ThrowsIn errors x)
    (hf : ∀ a, ThrowsIn errors (f a)) : ThrowsIn errors (x >>= f) := by
  intro s e s' h
  cases hr : x s with
  | ok a s₁ => rw [bind_of_ok hr] at h; exact hf a s₁ e s' h
  | error e₁ s₁ => rw [bind_of_error hr] at h; cases h; exact hx s _ _ hr

/-- A handler without parameters throws its help text and what its body throws. -/
theorem throwsIn_withoutParams {method : String} {body : RPC α} (hu : .usage method ∈ errors)
    (h : ThrowsIn errors body) (params : List UniValue) (fHelp : Bool) :
    ThrowsIn errors (withoutParams method body params fHelp) :=
  throwsIn_ite (throwsIn_throw hu) h

end

/-- The exceptions each command's handler can raise: its help text, the type errors of the
parameters it reads, and the `JSONRPCError`s of its body. -/
def Command.errors : Command → List RPCException
  | .getconnectioncount => [.usage "getconnectioncount"]
  | .ping => [.usage "ping"]
  | .destination => [.usage "destination", .runtimeError "JSON value is not a string as expected",
      .jsonRpcError .rpcInvalidParams "Unknown subcommand or argument missing"]
  | .getpeerinfo => [.usage "getpeerinfo"]
  | .addnode => [.usage "addnode", .runtimeError "JSON value is not a string as expected",
      .jsonRpcError .rpcClientNodeAlreadyAdded "Error: Node already added",
      .jsonRpcError .rpcClientNodeNotAdded "Error: Node has not been added."]
  | .disconnectnode => [.usage "disconnectnode",
      .runtimeError "JSON value is not a string as expected",
      .jsonRpcError .rpcClientNodeNotConnected "Node not found in connected nodes"]
  | .getaddednodeinfo => [.usage "getaddednodeinfo",
      .runtimeError "JSON value is not a string as expected",
      .jsonRpcError .rpcClientNodeNotAdded "Error: Node has not been added."]
  | .getnettotals => [.usage "getnettotals"]
  | .switchnetwork => [.usage "switchnetwork"]
  | .getnetworkinfo => [.usage "getnetworkinfo"]
  | .setban => [.usage "setban", .runtimeError "JSON value is not a string as expected",
      .runtimeError "JSON integer out of range",
      .runtimeError "JSON value is not an integer as expected",
      .runtimeError "JSON value is not a boolean as expected",
      .jsonRpcError .rpcClientNodeAlreadyAdded "Error: Invalid IP/Subnet",
      .jsonRpcError .rpcClientNodeAlreadyAdded "Error: IP/Subnet already banned",
      .jsonRpcError .rpcMiscError "Error: Unban failed"]
  | .listbanned => [.usage "listbanned"]
  | .clearbanned => [.usage "clearbanned"]

/-! ### The catalogue of each handler -/

theorem destinationFlags_eq_error {params : List UniValue} {e : RPCException}
    (h : destinationFlags params = .error e) :
    e = .runtimeError "JSON value is not a string as expected" := by
  unfold destinationFlags at h
  split at h
  · cases h0 : getStr (param params 0) with
    | error e₀ => simp only [h0, except_error_bind] at h; cases h; exact getStr_eq_error h0
    | ok cmd =>
        simp only [h0, except_ok_bind] at h
        split_ifs at h
        · cases h1 : getStr (param params 1) with
          | error e₁ => simp only [h1, except_error_bind] at h; cases h; exact getStr_eq_error h1
          | ok str => simp [h1] at h
        all_goals cases h
  · cases h

section

variable [NetBase]

theorem findAddedNode_eq_error {node : UniValue} {vInfo : List AddedNodeInfo} {e : RPCException}
    (h : findAddedNode node vInfo = .error e) :
    e = .runtimeError "JSON value is not a string as expected" := by
  induction vInfo with
  | nil => cases h
  | cons info vInfo ih =>
      cases hs : getStr node with
      | error e₀ => simp only [findAddedNode, hs, except_error_bind] at h; cases h; exact getStr_eq_error hs
      | ok str =>
          simp only [findAddedNode, hs, except_ok_bind] at h
          split_ifs at h
          exact ih h

theorem destination_throwsIn (params : List UniValue) (fHelp : Bool) :
    ThrowsIn Command.destination.errors (destination params fHelp) := by
  refine throwsIn_ite (throwsIn_throw ?_) <|
    (throwsIn_ofExcept fun e he => ?_).bind fun _ => noThrow_get.throwsIn.bind fun s => ?_
  · simp [Command.errors]
  · simp [Command.errors, destinationFlags_eq_error he]
  · rcases copyDestinationStats s with ⟨_, _⟩
    exact throwsIn_ite (throwsIn_pure _) (throwsIn_throw (by simp [Command.errors]))

/-- `addnode` throws from the lemmas that say what every request does: the well-formed ones throw
their `JSONRPCError`s, the others the help text or a type error. -/
theorem addnode_throwsIn (params : List UniValue) (fHelp : Bool) :
    ThrowsIn Command.addnode.errors (addnode params fHelp) := by
  intro s e s' he
  by_cases hw : ∃ node cmd, params = [.str node, .str cmd] ∧ fHelp = false
  · obtain ⟨node, cmd, rfl, rfl⟩ := hw
    rw [addnode_command] at he
    split_ifs at he <;> cases he <;> simp [Command.errors]
  · push_neg at hw
    obtain ⟨e', he', h⟩ := addnode_malformed params fHelp (fun n c hp => by simpa using hw n c hp)
    rw [h s] at he
    cases he
    rcases he' with rfl | rfl <;> simp [Command.errors]

theorem disconnectnode_throwsIn (params : List UniValue) (fHelp : Bool) :
    ThrowsIn Command.disconnectnode.errors (disconnectnode params fHelp) := by
  refine throwsIn_ite (throwsIn_throw ?_) <|
    (throwsIn_getStr _ ?_).bind fun strNode => noThrow_get.throwsIn.bind fun s => ?_
  · simp [Command.errors]
  · simp [Command.errors]
  · cases findNode s strNode with
    | none => exact throwsIn_throw (by simp [Command.errors])
    | some pNode => exact ((noThrow_set _).bind fun _ => noThrow_pure _).throwsIn

theorem getaddednodeinfo_throwsIn (GetAddedNodeInfo : NodeState → List AddedNodeInfo)
    (params : List UniValue) (fHelp : Bool) :
    ThrowsIn Command.getaddednodeinfo.errors (getaddednodeinfo GetAddedNodeInfo params fHelp) := by
  refine throwsIn_ite (throwsIn_throw ?_) <| noThrow_get.throwsIn.bind fun _ =>
    (throwsIn_ite ((throwsIn_ofExcept fun e he => ?_).bind fun found => ?_) (throwsIn_pure _)).bind
      fun _ => throwsIn_pure _
  · simp [Command.errors]
  · simp [Command.errors, findAddedNode_eq_error he]
  · cases found with
    | some _ => exact throwsIn_pure _
    | none => exact throwsIn_throw (by simp [Command.errors])

theorem setbanTarget_throwsIn (params : List UniValue) (fHelp : Bool) :
    ThrowsIn Command.setban.errors (setbanTarget params fHelp) := by
  refine (throwsIn_ite (throwsIn_getStr _ ?_) (throwsIn_pure _)).bind fun _ =>
    throwsIn_ite (throwsIn_throw ?_) <| (throwsIn_getStr _ ?_).bind fun _ =>
      throwsIn_ite (throwsIn_throw ?_) (throwsIn_pure _)
  all_goals simp [Command.errors]

theorem setbanAdd_throwsIn (params : List UniValue) (t : SetbanTarget) :
    ThrowsIn Command.setban.errors (setbanAdd params t) := by
  refine noThrow_get.throwsIn.bind fun _ => throwsIn_ite (throwsIn_throw ?_) <|
    (throwsIn_ofExcept fun e he => ?_).bind fun _ => (throwsIn_ofExcept fun e he => ?_).bind fun _ =>
      ((noThrow_ban _ _ _ _).bind fun _ => noThrow_modify _).throwsIn
  · simp [Command.errors]
  · unfold setbanBanTime at he
    split at he
    · rcases getInt64_eq_error he with rfl | rfl <;> simp [Command.errors]
    · cases he
  · unfold setbanAbsolute at he
    split at he
    · simp [Command.errors, getBool_eq_error he]
    · cases he

theorem setbanRemove_throwsIn (t : SetbanTarget) :
    ThrowsIn Command.setban.errors (setbanRemove t) := by
  intro s e s' h
  rw [setbanRemove_run] at h
  split_ifs at h
  cases h
  simp [Command.errors]

theorem setban_throwsIn (params : List UniValue) (fHelp : Bool) :
    ThrowsIn Command.setban.errors (setban params fHelp) :=
  (setbanTarget_throwsIn params fHelp).bind fun _ =>
    (throwsIn_ite (setbanAdd_throwsIn _ _)
      (throwsIn_ite (setbanRemove_throwsIn _) (throwsIn_pure _))).bind fun _ =>
      (noThrow_dumpBanlist.bind fun _ => noThrow_pure _).throwsIn

/-! ### Every request -/

/-- Every exception a request raises is in its command's catalogue, whatever the parameters, the
help flag and the state. -/
theorem handleRequest_throwsIn (GetAddedNodeInfo : NodeState → List AddedNodeInfo) (r : Request) :
    ThrowsIn r.command.errors (handleRequest GetAddedNodeInfo r) := by
  obtain ⟨c, params, fHelp⟩ := r
  cases c
  case destination => exact destination_throwsIn params fHelp
  case addnode => exact addnode_throwsIn params fHelp
  case disconnectnode => exact disconnectnode_throwsIn params fHelp
  case getaddednodeinfo => exact getaddednodeinfo_throwsIn GetAddedNodeInfo params fHelp
  case setban => exact setban_throwsIn params fHelp
  case ping =>
    exact throwsIn_withoutParams (.head _)
      ((noThrow_modify _).bind fun _ => noThrow_pure _).throwsIn params fHelp
  case switchnetwork =>
    exact throwsIn_withoutParams (.head _) (noThrow_get.bind fun _ =>
      (noThrow_setNetworkActive _).bind fun _ => noThrow_get.bind fun _ => noThrow_pure _).throwsIn
      params fHelp
  case clearbanned =>
    exact throwsIn_withoutParams (.head _) ((noThrow_modify _).bind fun _ =>
      noThrow_dumpBanlist.bind fun _ => noThrow_pure _).throwsIn params fHelp
  all_goals
    exact throwsIn_withoutParams (.head _) (noThrow_get.bind fun _ => noThrow_pure _).throwsIn
      params fHelp

/-- Over any run of requests, every error reply in the log is one the catalogue of its request's
command lists. -/
theorem serveAll_errors (GetAddedNodeInfo : NodeState → List AddedNodeInfo) (rs : List Request)
    (s : NodeState) :
    ∀ entry ∈ (serveAll (handleRequest GetAddedNodeInfo) rs s).2, ∀ e,
      entry.2 = .error e → e ∈ entry.1.command.errors := by
  induction rs generalizing s with
  | nil => intro entry he; cases he
  | cons r rs ih =>
      rw [serveAll_cons]
      rintro entry (_ | ⟨_, he⟩) e hreply
      · cases hr : handleRequest GetAddedNodeInfo r s with
        | ok v s' => rw [hr] at hreply; cases hreply
        | error e' s' =>
            rw [hr] at hreply
            cases hreply
            exact handleRequest_throwsIn GetAddedNodeInfo r s _ s' hr
      · exact ih _ entry he e hreply

end

/-- Removing a ban that is not there: the log's one error is `setban`'s `RPC_MISC_ERROR`. -/
theorem serveAll_errors_unban :
    let r : Request := ⟨.setban, [.str "10.0.0.1", .str "remove"], false⟩
    (serveAll (handleRequest getAddedNodeInfo) [r] default).2 =
        [(r, .error (.jsonRpcError .rpcMiscError "Error: Unban failed"))] ∧
      RPCException.jsonRpcError .rpcMiscError "Error: Unban failed" ∈ r.command.errors :=
  have hlog : (serveAll (handleRequest getAddedNodeInfo)
      [⟨.setban, [.str "10.0.0.1", .str "remove"], false⟩] default).2 =
      [(⟨.setban, [.str "10.0.0.1", .str "remove"], false⟩,
        .error (.jsonRpcError .rpcMiscError "Error: Unban failed"))] := rfl
  ⟨hlog, serveAll_errors getAddedNodeInfo _ default _ (hlog ▸ List.mem_singleton_self _) _ rfl⟩

section

variable [NetBase]

/-- A failed `setban` raises no `JSONRPCError` but `RPC_CLIENT_NODE_ALREADY_ADDED` and
`RPC_MISC_ERROR`, never `RPC_CLIENT_NODE_NOT_ADDED`: an invalid address or subnet is reported with
the code of an entry already present, and a `remove` of a valid target whose subnet has no entry
with `RPC_MISC_ERROR`. -/
theorem setban_error_codes :
    (∀ params fHelp s s' (code : RPCErrorCode) message,
      setban params fHelp s = .error (.jsonRpcError code message) s' →
        code = .rpcClientNodeAlreadyAdded ∨ code = .rpcMiscError) ∧
    (∀ (strSubNet strCommand : String) (rest : List UniValue) (s : NodeState),
      (strCommand = "add" ∨ strCommand = "remove") →
      (SetbanTarget.ofString strCommand strSubNet).isValid = false →
      setban (.str strSubNet :: .str strCommand :: rest) false s =
        .error (.jsonRpcError .rpcClientNodeAlreadyAdded "Error: Invalid IP/Subnet") s) ∧
    (∀ (strSubNet : String) (s : NodeState),
      (SetbanTarget.ofString "remove" strSubNet).isValid = true →
      s.setBanned.find? (SetbanTarget.ofString "remove" strSubNet).banKey = none →
      setban [.str strSubNet, .str "remove"] false s =
        .error (.jsonRpcError .rpcMiscError "Error: Unban failed") s) := by
  refine ⟨fun params fHelp s s' code message h => ?_, fun strSubNet strCommand rest s hcmd hinvalid => ?_,
    fun strSubNet s hvalid hnone => ?_⟩
  · have hmem := setban_throwsIn params fHelp s _ s' h
    simp [Command.errors] at hmem
    rcases hmem with ⟨rfl, -⟩ | ⟨rfl, -⟩ | ⟨rfl, -⟩
    exacts [.inl rfl, .inl rfl, .inr rfl]
  · rw [setban, bind_of_error ((setbanTarget_run strSubNet strCommand rest s hcmd).trans
      (if_pos (by simp [hinvalid])))]
  · rw [setban_remove_run, if_neg (by simp [hvalid]), if_neg (by simp [hnone])]

end

/-- An empty address is refused as invalid, and a subnet with no entry cannot be unbanned. -/
theorem setban_error_codes_empty_and_unban :
    setban [.str "", .str "add"] false default =
        .error (.jsonRpcError .rpcClientNodeAlreadyAdded "Error: Invalid IP/Subnet") default ∧
      setban [.str "10.0.0.0/24", .str "remove"] false default =
        .error (.jsonRpcError .rpcMiscError "Error: Unban failed") default :=
  ⟨setban_error_codes.2.1 "" "add" [] default (.inl rfl) rfl,
    setban_error_codes.2.2 "10.0.0.0/24" default rfl rfl⟩

end LuxRpcNet
