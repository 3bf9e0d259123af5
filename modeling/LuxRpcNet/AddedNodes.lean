import LuxRpcNet.AddNode

/-! Runs of `addnode` requests: the added-node list is an ordered set.

Over any run of requests, whatever their parameters, the list stays free of duplicates when it
starts so, and it is always the initial members that no request removed, in their initial order,
followed by the nodes added and not removed since, in the order of those adds. Membership follows:
a node is listed when the last request that added or removed it added it, or when it was listed
at the start and no request removed it. -/

namespace LuxRpcNet

/-- What one toggle says about `node`: an add (`true`), a remove (`false`), or nothing. -/
def togglesAt (node : String) : Option (String × Bool) → List Bool
  | some (n, added) => if n = node then [added] else []
  | none => []

/-- The node a toggle appends, if it is an add. -/
def appended : Option (String × Bool) → List String
  | some (n, true) => [n]
  | _ => []

/-- The successful adds (`true`) and removes (`false`) of `node` in the log, in order. -/
def togglesOf (node : String) : List AddNodeEntry → List Bool
  | [] => []
  | e :: log => togglesAt node (toggle e) ++ togglesOf node log

/-- The nodes the log added and did not remove afterwards, in the order of those adds. -/
def keptAdds : List AddNodeEntry → List String
  | [] => []
  | e :: log => (appended (toggle e)).filter (fun n => false ∉ togglesOf n log) ++ keptAdds log

/-- The last of a run of toggles is an add exactly when it is one, or when no remove follows an
add at its head. -/
theorem getLast?_cons_true (l : List Bool) :
    (true :: l).getLast? = some true ↔ false ∉ l ∨ l.getLast? = some true := by
  induction l with
  | nil => simp
  | cons b l ih =>
      cases b
      · simp only [List.getLast?_cons_cons, List.mem_cons, true_or, not_true_eq_false, false_or]
      · simp only [List.getLast?_cons_cons] at ih ⊢
        rw [ih]
        simp

theorem getLast?_cons_false (l : List Bool) :
    (false :: l).getLast? = some true ↔ l.getLast? = some true := by
  cases l <;> simp

theorem mem_keptAdds {node : String} {log : List AddNodeEntry} :
    node ∈ keptAdds log ↔ (togglesOf node log).getLast? = some true := by
  induction log with
  | nil => simp [keptAdds, togglesOf]
  | cons e log ih =>
      simp only [keptAdds, togglesOf, List.mem_append, ih]
      rcases toggle e with _ | ⟨n, _ | _⟩
      · simp [togglesAt, appended]
      all_goals
        obtain rfl | hn := eq_or_ne n node
        · simp_all [togglesAt, appended, getLast?_cons_false, getLast?_cons_true]
        · simp [togglesAt, appended, hn, hn.symm]

theorem nodup_applyToggle {t : Option (String × Bool)} {l : List String} (he : Enabled t l)
    (hl : l.Nodup) : (applyToggle t l).Nodup := by
  rcases t with _ | ⟨n, _ | _⟩
  · exact hl
  · exact hl.erase n
  · simpa [applyToggle, List.nodup_append, hl] using he

/-- A toggle seen through a filter: a removed node drops out, an added one joins at the end. -/
theorem filter_applyToggle {t : Option (String × Bool)} {l : List String} (he : Enabled t l)
    (hl : l.Nodup) (p : String → Bool) :
    (applyToggle t l).filter p =
      l.filter (fun x => p x && !decide (t = some (x, false))) ++ (appended t).filter p := by
  rcases t with _ | ⟨n, _ | _⟩
  · simp [applyToggle, appended]
  · simp only [applyToggle, appended, hl.erase_eq_filter, List.filter_filter, List.filter_nil,
      List.append_nil]
    congr 1
    funext x
    obtain rfl | hx := eq_or_ne x n
    · simp
    · simp [hx, hx.symm, Bool.and_comm]
  · simp [applyToggle, appended]

/-- One served request seen through the final filter: the initial members' filter now also drops a
node this request removed, and the node it added, if kept, joins the kept adds. -/
theorem filter_applyToggle_keptAdds {t : Option (String × Bool)} {l : List String}
    (he : Enabled t l) (hl : l.Nodup) (log : List AddNodeEntry) :
    (applyToggle t l).filter (fun x => false ∉ togglesOf x log) ++ keptAdds log =
      l.filter (fun x => false ∉ togglesAt x t ++ togglesOf x log) ++
        ((appended t).filter (fun n => false ∉ togglesOf n log) ++ keptAdds log) := by
  rw [filter_applyToggle he hl, List.append_assoc]
  congr 1
  refine List.filter_congr fun x _ => ?_
  rcases t with _ | ⟨n, _ | _⟩
  · simp [togglesAt]
  all_goals by_cases hx : n = x <;> simp [togglesAt, hx]

section Run

variable [NetBase]

/-- `addnode` as the server calls it, on a request's parameters and help flag. -/
def addnodeHandler (r : List UniValue × Bool) : RPC UniValue := addnode r.1 r.2

theorem addnodeRun_nodup (rs : List (List UniValue × Bool)) (s : NodeState)
    (hs : s.vAddedNodes.Nodup) : (serveAll addnodeHandler rs s).1.vAddedNodes.Nodup := by
  induction rs generalizing s with
  | nil => exact hs
  | cons r rs ih =>
      obtain ⟨he, hstep⟩ := addnode_step r.1 r.2 s
      exact ih _ (hstep ▸ nodup_applyToggle he hs)

/-- The list after a run: the initial members no request removed, then the adds kept. -/
theorem addnodeRun_vAddedNodes (rs : List (List UniValue × Bool)) (s : NodeState)
    (hs : s.vAddedNodes.Nodup) :
    let run := serveAll addnodeHandler rs s
    run.1.vAddedNodes =
      s.vAddedNodes.filter (fun x => false ∉ togglesOf x run.2) ++ keptAdds run.2 := by
  induction rs generalizing s with
  | nil => simp [keptAdds, togglesOf]
  | cons r rs ih =>
      obtain ⟨params, fHelp⟩ := r
      obtain ⟨he, hstep⟩ := addnode_step params fHelp s
      simp only [serveAll_cons, addnodeHandler] at ih ⊢
      rw [ih _ (hstep ▸ nodup_applyToggle he hs), hstep, filter_applyToggle_keptAdds he hs]
      rfl

/-- The added-node list is an ordered set. On a duplicate-free list, `add` throws exactly when the
node is listed and appends it otherwise, `remove` throws exactly when it is not listed and drops it
keeping the others in order otherwise, and `onetry` leaves the list alone. Over any run from a
duplicate-free list the list stays duplicate-free; it is the initial members never removed, in
order, then the adds not removed since, in order; and a node is listed exactly when its last add
or remove was an add, or it was listed at the start and never removed. -/
theorem addnode_keeps_ordered_set :
    (∀ (s : NodeState) (node : String), s.vAddedNodes.Nodup →
      addnode [.str node, .str "add"] false s =
          (if node ∈ s.vAddedNodes then
            .error (.jsonRpcError .rpcClientNodeAlreadyAdded "Error: Node already added") s
          else .ok .null { s with vAddedNodes := s.vAddedNodes ++ [node] }) ∧
        addnode [.str node, .str "remove"] false s =
          (if node ∈ s.vAddedNodes then
            .ok .null { s with vAddedNodes := s.vAddedNodes.filter (· != node) }
          else .error (.jsonRpcError .rpcClientNodeNotAdded "Error: Node has not been added.") s) ∧
        (stateOf (addnode [.str node, .str "onetry"] false s)).vAddedNodes = s.vAddedNodes) ∧
    ∀ (rs : List (List UniValue × Bool)) (s : NodeState), s.vAddedNodes.Nodup →
      let run := serveAll addnodeHandler rs s
      run.1.vAddedNodes.Nodup ∧
        run.1.vAddedNodes =
          s.vAddedNodes.filter (fun x => false ∉ togglesOf x run.2) ++ keptAdds run.2 ∧
        ∀ x, x ∈ run.1.vAddedNodes ↔
          (togglesOf x run.2).getLast? = some true ∨
            (x ∈ s.vAddedNodes ∧ false ∉ togglesOf x run.2) := by
  refine ⟨fun s node hs => ⟨?_, ?_, ?_⟩, fun rs s hs => ⟨addnodeRun_nodup rs s hs, ?_, ?_⟩⟩
  · simp [addnode_command]
  · simp [addnode_command, hs.erase_eq_filter]
  · simp [addnode_command]
  · exact addnodeRun_vAddedNodes rs s hs
  · intro x
    rw [addnodeRun_vAddedNodes rs s hs, List.mem_append, mem_keptAdds, List.mem_filter]
    simp [or_comm]

end Run

/-- Three requests from an empty list: `a` added, `b` added, `a` removed. -/
theorem addnode_keeps_ordered_set_on_empty :
    let rs : List (List UniValue × Bool) :=
      [([.str "a", .str "add"], false), ([.str "b", .str "add"], false),
        ([.str "a", .str "remove"], false)]
    (default : NodeState).vAddedNodes.Nodup ∧
      (serveAll addnodeHandler rs default).1.vAddedNodes.Nodup :=
  ⟨List.nodup_nil, (addnode_keeps_ordered_set.2 _ default List.nodup_nil).1⟩

end LuxRpcNet
