import LuxRpcNet.Server

/-! The ban table and the connection manager's side of banning.

`CNode::Ban`, `CNode::Unban`, `CNode::IsBanned`, `DumpBanlist`, `FindNode` and
`CNode::CloseSocketDisconnect` are defined in `net.cpp`, which is not in this repository's
sources; each definition here is modelled from the spec's description of the ban table. A ban
entry is keyed by subnet; a lookup by address succeeds when the address lies in the subnet of some
entry that has not expired; a lookup by subnet needs an unexpired entry under exactly that key.
Banning writes an entry, unbanning removes the one under the key and reports whether there was
one, and saving writes the table as it is.

Closing a peer's socket takes it out of the live set, so the handler's loop
`while (CNode* n = FindNode(..)) n->CloseSocketDisconnect();` ends, having closed the matching
peers in their order. -/

namespace LuxRpcNet

open NetBase

variable [NetBase]

omit [NetBase] in
/-- Looking up a key in a list with one key's entries filtered out. -/
theorem lookup_filter_ne {α β : Type} [DecidableEq α] (l : List (α × β)) (a k : α) :
    (l.filter (·.1 != a)).lookup k = if k = a then none else l.lookup k := by
  induction l with
  | nil => simp
  | cons p l ih =>
      obtain ⟨x, y⟩ := p
      by_cases hk : k = x
      · subst hk
        by_cases hx : k = a
        · rw [List.filter_cons_of_neg (by simpa using hx), ih, if_pos hx, if_pos hx]
        · rw [List.filter_cons_of_pos (by simpa using hx)]
          simp [hx]
      · by_cases hx : x = a
        · rw [List.filter_cons_of_neg (by simpa using hx), ih, List.lookup_cons, beq_false_of_ne hk]
        · rw [List.filter_cons_of_pos (by simpa using hx), List.lookup_cons, List.lookup_cons,
            beq_false_of_ne hk, ih]

namespace BanMap

/-- The entry under a subnet: the table seen as a map. -/
def find? (m : BanMap) (subNet : CSubNet) : Option CBanEntry := m.entries.lookup subNet

/-- The table without the entry of `subNet`. -/
def erase (m : BanMap) (subNet : CSubNet) : BanMap where
  entries := m.entries.filter (·.1 != subNet)
  nodupKeys := m.nodupKeys.sublist ((List.filter_sublist _).map _)

theorem not_mem_erase (m : BanMap) (subNet : CSubNet) :
    subNet ∉ (m.erase subNet).entries.map Prod.fst := by
  simp [erase]

/-- The table with `entry` under `subNet`, in place of any entry there was. -/
def insert (m : BanMap) (subNet : CSubNet) (entry : CBanEntry) : BanMap where
  entries := (m.erase subNet).entries ++ [(subNet, entry)]
  nodupKeys := by
    rw [List.map_append, List.nodup_append]
    exact ⟨(m.erase subNet).nodupKeys, List.nodup_singleton _,
      List.disjoint_singleton.2 (m.not_mem_erase subNet)⟩

/-- Erasing clears one key of the map. -/
theorem find?_erase (m : BanMap) (subNet : CSubNet) :
    (m.erase subNet).find? = Function.update m.find? subNet none := by
  funext k
  simp [find?, erase, Function.update_apply, lookup_filter_ne]

/-- Inserting writes one key of the map. -/
theorem find?_insert (m : BanMap) (subNet : CSubNet) (entry : CBanEntry) :
    (m.insert subNet entry).find? = Function.update m.find? subNet (some entry) := by
  funext k
  have herase := congrFun (m.find?_erase subNet) k
  simp only [find?, insert, List.lookup_append] at herase ⊢
  rw [herase]
  by_cases hk : k = subNet
  · simp [Function.update_apply, hk]
  · simp [Function.update_apply, hk, List.lookup_cons, beq_false_of_ne hk]

end BanMap

/-- Modelled from the spec: `CNode::IsBanned(CSubNet)`, an unexpired entry under this key. -/
def isBannedSubNet (s : NodeState) (subNet : CSubNet) : Bool :=
  (s.setBanned.find? subNet).any fun e => s.env.nTime < e.nBanUntil

/-- Modelled from the spec: `CNode::IsBanned(CNetAddr)`, the address lies in the subnet of an
unexpired entry. -/
def isBannedNetAddr (s : NodeState) (netAddr : CNetAddr) : Bool :=
  s.setBanned.entries.any fun (subNet, e) => subNetMatch subNet netAddr && s.env.nTime < e.nBanUntil

/-- Modelled from the spec: the end `CNode::Ban` gives an entry made now. It is `bantimeoffset`
itself when `sinceUnixEpoch`, an offset from now otherwise, and the default offset from now when
the duration is zero. -/
def banUntil (env : NodeEnv) (bantimeoffset : Int) (sinceUnixEpoch : Bool) : Int :=
  if bantimeoffset = 0 then env.nTime + env.nDefaultBanTime
  else if sinceUnixEpoch then bantimeoffset else env.nTime + bantimeoffset

/-- Modelled from the spec: `CNode::Ban` writes an entry from now to `banUntil`, in place of any
entry of the subnet. -/
def ban (subNet : CSubNet) (banReason : BanReason) (bantimeoffset : Int) (sinceUnixEpoch : Bool) :
    RPC Unit :=
  modify fun s => { s with
    setBanned := s.setBanned.insert subNet
      ⟨s.env.nTime, banUntil s.env bantimeoffset sinceUnixEpoch, banReason⟩ }

theorem noThrow_ban (subNet : CSubNet) (banReason : BanReason) (bantimeoffset : Int)
    (sinceUnixEpoch : Bool) : NoThrow (ban subNet banReason bantimeoffset sinceUnixEpoch) :=
  noThrow_modify _

/-- Modelled from the spec: `CNode::Unban` removes the entry under exactly this key and reports
whether there was one. -/
def unban (subNet : CSubNet) : RPC Bool := do
  let s ← get
  if (s.setBanned.find? subNet).isSome then
    set { s with setBanned := s.setBanned.erase subNet }
    return true
  return false

/-- Modelled from the spec: `DumpBanlist` saves the ban table as it is. -/
def dumpBanlist : RPC Unit := do
  let s ← get
  emit (.dumpBanlist s.setBanned.entries)

theorem noThrow_dumpBanlist : NoThrow dumpBanlist :=
  noThrow_get.bind fun _ => noThrow_emit _

/-- Saving the table and returning: the table is written as it is, last. -/
theorem dumpBanlist_return_run {β : Type} (b : β) (s : NodeState) :
    (dumpBanlist >>= fun _ => pure b) s =
      .ok b { s with events := s.events ++ [.dumpBanlist s.setBanned.entries] } := rfl

/-- Modelled from the spec: `CNode::CloseSocketDisconnect`; the peer leaves the live set. -/
def closeSocketDisconnect (node : CNode) (s : NodeState) : NodeState :=
  { s with
    vNodes := s.vNodes.erase node
    events := s.events ++ [.closeSocketDisconnect node.stats.nodeid] }

/-- Closing a live peer leaves one fewer. -/
theorem closeSocketDisconnect_length {node : CNode} {s : NodeState} (h : node ∈ s.vNodes) :
    (closeSocketDisconnect node s).vNodes.length < s.vNodes.length := by
  simp only [closeSocketDisconnect, List.length_erase_of_mem h]
  have := List.length_pos_of_mem h
  omega

/-- `while (CNode* n = FindNode(..)) n->CloseSocketDisconnect();`, where `FindNode` returns the
first live peer that passes the lookup's test. -/
def disconnectAll (p : CNode → Bool) (s : NodeState) : NodeState :=
  match h : s.vNodes.find? p with
  | none => s
  | some node =>
      have := closeSocketDisconnect_length (List.mem_of_find?_eq_some h)
      disconnectAll p (closeSocketDisconnect node s)
termination_by s.vNodes.length

omit [NetBase] in
theorem filter_eq_cons_erase_of_find? {p : α → Bool} [DecidableEq α] {l : List α} {a : α}
    (h : l.find? p = some a) : l.filter p = a :: (l.erase a).filter p := by
  induction l with
  | nil => cases h
  | cons b l ih =>
      by_cases hb : p b
      · rw [List.find?_cons_of_pos _ hb] at h
        cases h
        simp [hb]
      · rw [List.find?_cons_of_neg _ hb] at h
        have hne : b ≠ a := fun hba => hb (hba ▸ List.find?_some h)
        simp [hb, ih h, List.erase_cons, hne]

omit [NetBase] in
theorem filter_erase_of_not {q : α → Bool} [DecidableEq α] {a : α} (ha : q a = false)
    (l : List α) : (l.erase a).filter q = l.filter q := by
  induction l with
  | nil => rfl
  | cons b l ih =>
      by_cases hb : b = a
      · subst hb
        simp [ha]
      · simp [List.erase_cons, hb, List.filter_cons, ih]

theorem disconnectAll_of_find?_none {p : CNode → Bool} {s : NodeState}
    (h : s.vNodes.find? p = none) : disconnectAll p s = s := by
  rw [disconnectAll.eq_def]
  split <;> simp_all

theorem disconnectAll_of_find?_some {p : CNode → Bool} {s : NodeState} {node : CNode}
    (h : s.vNodes.find? p = some node) :
    disconnectAll p s = disconnectAll p (closeSocketDisconnect node s) := by
  rw [disconnectAll.eq_def]
  split <;> simp_all

/-- The loop closes exactly the peers that pass the test, in their order, and keeps the rest. -/
theorem disconnectAll_eq (p : CNode → Bool) (s : NodeState) :
    disconnectAll p s =
      { s with
        vNodes := s.vNodes.filter (fun n => !p n)
        events := s.events ++ (s.vNodes.filter p).map fun n => .closeSocketDisconnect n.stats.nodeid } := by
  induction s using disconnectAll.induct p with
  | case1 s h =>
      rw [disconnectAll_of_find?_none h]
      rw [List.find?_eq_none] at h
      have hkeep : s.vNodes.filter (fun n => !p n) = s.vNodes :=
        List.filter_eq_self.2 (by simpa using h)
      simp [hkeep, List.filter_eq_nil_iff.2 h]
  | case2 s node h _ ih =>
      rw [disconnectAll_of_find?_some h, ih, filter_eq_cons_erase_of_find? h]
      have hpn : p node = true := List.find?_some h
      have hkeep : (s.vNodes.erase node).filter (fun n => !p n) = s.vNodes.filter (fun n => !p n) :=
        filter_erase_of_not (by simp [hpn]) _
      simp [closeSocketDisconnect, hkeep]

end LuxRpcNet
