import LuxRpcNet.SetBan
import LuxRpcNet.Peers

/-! The ban list: `listbanned`, `clearbanned`, and `setban` seen on the table as a map.

`listbanned` lists every entry of the table, expired ones included, as an object naming the
subnet, the ban's end and start and its reason. `clearbanned` empties the table and saves it.

Seen as a map from subnet to entry, a `setban` that returns writes one key: `add` the entry
starting now, `remove` nothing; every other subnet keeps its entry. Together with `listbanned`
this gives the round trip of a ban: after `add` the list shows an entry whose address parses back
to the subnet, and after `remove` it shows none. -/

namespace LuxRpcNet

open UniValue NetBase

section

variable [NetBase]

/-- Modelled from the spec: `CNode::GetBanned` (net.cpp) copies the whole table, expired entries
included. -/
def getBanned (s : NodeState) : BanMap := s.setBanned

/-- One entry's object (lines 638-642). -/
def bannedObject (item : CSubNet × CBanEntry) : UniValue :=
  .obj [("address", .str (subNetToString item.1)), ("banned_until", .num item.2.nBanUntil),
    ("ban_created", .num item.2.nCreateTime),
    ("ban_reason", .str (banReasonToString item.2.banReason))]

def listbanned : List UniValue → Bool → RPC UniValue :=
  withoutParams "listbanned" do
    let banMap := getBanned (← get)
    return .arr (banMap.entries.map bannedObject)

/-- Modelled from the spec: `CNode::ClearBanned` (net.cpp) removes every entry. -/
def clearBanned : RPC Unit := modify fun s => { s with setBanned := default }

def clearbanned : List UniValue → Bool → RPC UniValue :=
  withoutParams "clearbanned" do
    clearBanned
    dumpBanlist -- store banlist to disk
    return .null

/-! ### What each request does -/

theorem listbanned_run (s : NodeState) :
    listbanned [] false s = .ok (.arr (s.setBanned.entries.map bannedObject)) s := rfl

theorem listbanned_readOnly (params : List UniValue) (fHelp : Bool) :
    ReadOnly (listbanned params fHelp) :=
  readOnly_withoutParams (readOnly_get.bind fun _ => readOnly_pure _) params fHelp

/-- `clearbanned` empties the table and saves the empty table. -/
theorem clearbanned_run (s : NodeState) :
    clearbanned [] false s =
      .ok .null { s with setBanned := default, events := s.events ++ [.dumpBanlist []] } := rfl

theorem clearbanned_state (params : List UniValue) (fHelp : Bool) (s : NodeState) :
    stateOf (clearbanned params fHelp s) = s ∨
      stateOf (clearbanned params fHelp s) =
        { s with setBanned := default, events := s.events ++ [.dumpBanlist []] } :=
  stateOf_withoutParams _ _ params fHelp s

theorem clearbanned_atomic (params : List UniValue) (fHelp : Bool) :
    Atomic (clearbanned params fHelp) :=
  withoutParams_atomic
    ((noThrow_modify _).bind fun _ => noThrow_dumpBanlist.bind fun _ => noThrow_pure _).atomic
    params fHelp

namespace BanMap

theorem mem_entries_of_find? {m : BanMap} {subNet : CSubNet} {entry : CBanEntry}
    (h : m.find? subNet = some entry) : (subNet, entry) ∈ m.entries := by
  obtain ⟨l₁, l₂, hl, -⟩ := List.lookup_eq_some_iff.1 h
  simp [hl]

theorem not_mem_keys_of_find? {m : BanMap} {subNet : CSubNet} (h : m.find? subNet = none) :
    subNet ∉ m.entries.map Prod.fst := by
  simp only [find?, List.lookup_eq_none_iff, bne_iff_ne] at h
  simpa using fun e he => h _ he rfl

theorem mem_keys_erase {m : BanMap} {k subNet : CSubNet}
    (h : subNet ∈ (m.erase k).entries.map Prod.fst) : subNet ∈ m.entries.map Prod.fst := by
  obtain ⟨e, he, rfl⟩ := List.mem_map.1 h
  exact List.mem_map_of_mem _ (List.mem_of_mem_filter he)

theorem mem_keys_insert {m : BanMap} {k subNet : CSubNet} {entry : CBanEntry}
    (h : subNet ∈ (m.insert k entry).entries.map Prod.fst) :
    subNet ∈ m.entries.map Prod.fst ∨ subNet = k := by
  simp only [insert, List.map_append, List.mem_append, List.map_cons, List.map_nil,
    List.mem_singleton] at h
  exact h.imp_left mem_keys_erase

end BanMap

/-- An object of the list names the subnet of an entry of the table. -/
theorem address_of_mem_bannedObjects {entries : List (CSubNet × CBanEntry)} {address : String}
    {rest : List (String × UniValue)}
    (h : .obj (("address", .str address) :: rest) ∈ entries.map bannedObject) :
    ∃ subNet ∈ entries.map Prod.fst, address = subNetToString subNet := by
  obtain ⟨⟨subNet, entry⟩, hmem, hobj⟩ := List.mem_map.1 h
  simp only [bannedObject, UniValue.obj.injEq, List.cons.injEq, Prod.mk.injEq, UniValue.str.injEq] at hobj
  exact ⟨subNet, List.mem_map_of_mem _ hmem, hobj.1.2.symm⟩

/-- A valid target whose subnet holds a live entry is banned, when the subnet of a valid address
holds the address. -/
theorem SetbanTarget.isBanned_of_live
    (hsingle : ∀ a, netAddrIsValid a = true → subNetMatch (subNetOfNetAddr a) a = true)
    {t : SetbanTarget} {s : NodeState} {entry : CBanEntry} (hvalid : t.isValid = true)
    (h : s.setBanned.find? t.banKey = some entry) (hlive : s.env.nTime < entry.nBanUntil) :
    t.isBanned s = true := by
  unfold SetbanTarget.isBanned
  unfold SetbanTarget.banKey at h
  unfold SetbanTarget.isValid at hvalid
  split_ifs at h hvalid ⊢
  · simp [isBannedSubNet, h, hlive]
  · simp only [isBannedNetAddr, List.any_eq_true]
    exact ⟨_, BanMap.mem_entries_of_find? h, by simp [hsingle _ hvalid, hlive]⟩

/-! ### The table as a map -/

/-- The table a `setban` that returns leaves: `add` inserts under the target's subnet the entry
starting now for the default time, `remove` erases that subnet. -/
theorem setban_setBanned (strSubNet strCommand : String) (s s' : NodeState) (v : UniValue)
    (hcmd : strCommand = "add" ∨ strCommand = "remove")
    (h : setban [.str strSubNet, .str strCommand] false s = .ok v s') :
    let t := SetbanTarget.ofString strCommand strSubNet
    s'.setBanned =
      if strCommand = "add" then
        s.setBanned.insert t.banKey ⟨s.env.nTime, s.env.nTime + s.env.nDefaultBanTime, .manually⟩
      else s.setBanned.erase t.banKey := by
  rcases hcmd with rfl | rfl
  · rw [setban_add_run] at h
    split_ifs at h
    cases h
    simp [disconnectAll_eq]
  · rw [setban_remove_run] at h
    split_ifs at h
    cases h
    simp

/-- A `setban` that returns writes the target's subnet and no other: `add` the entry starting now
for the default time, `remove` nothing. -/
theorem setban_find? (strSubNet strCommand : String) (s s' : NodeState) (v : UniValue)
    (hcmd : strCommand = "add" ∨ strCommand = "remove")
    (h : setban [.str strSubNet, .str strCommand] false s = .ok v s') :
    s'.setBanned.find? =
      Function.update s.setBanned.find? (SetbanTarget.ofString strCommand strSubNet).banKey
        (if strCommand = "add" then some ⟨s.env.nTime, s.env.nTime + s.env.nDefaultBanTime, .manually⟩
        else none) := by
  rw [setban_setBanned strSubNet strCommand s s' v hcmd h]
  split_ifs
  · exact BanMap.find?_insert _ _ _
  · exact BanMap.find?_erase _ _

end

/-- On a table of an address and a subnet, at time 20 with a default ban of 100: removing the
subnet leaves the address's entry, and banning another address writes its entry from 20 to 120
beside it. -/
theorem setban_find?_remove_and_add :
    let s : NodeState := { (default : NodeState) with
      setBanned := ⟨[("10.0.0.2", ⟨5, 50, .manually⟩), ("10.0.1.0/24", ⟨1, 40, .manually⟩)], by decide⟩
      env := { (default : NodeEnv) with nTime := 20, nDefaultBanTime := 100 } }
    ∃ s₁ s₂, setban [.str "10.0.1.0/24", .str "remove"] false s = .ok .null s₁ ∧
      s₁.setBanned.find? "10.0.1.0/24" = none ∧ s₁.setBanned.find? "10.0.0.2" = some ⟨5, 50, .manually⟩ ∧
      setban [.str "10.0.0.1", .str "add"] false s = .ok .null s₂ ∧
      s₂.setBanned.find? "10.0.0.1" = some ⟨20, 120, .manually⟩ ∧
      s₂.setBanned.find? "10.0.0.2" = some ⟨5, 50, .manually⟩ := by
  intro s
  obtain ⟨s₁, h₁⟩ : ∃ s₁, setban [.str "10.0.1.0/24", .str "remove"] false s = .ok .null s₁ :=
    ⟨_, (setban_remove_run _ _).trans (by rw [if_neg (by decide), if_pos (by decide)])⟩
  obtain ⟨s₂, h₂⟩ : ∃ s₂, setban [.str "10.0.0.1", .str "add"] false s = .ok .null s₂ :=
    ⟨_, (setban_add_run _ _).trans (by rw [if_neg (by decide), if_neg (by decide)])⟩
  have hf₁ := setban_find? "10.0.1.0/24" "remove" s s₁ .null (.inr rfl) h₁
  have hf₂ := setban_find? "10.0.0.1" "add" s s₂ .null (.inl rfl) h₂
  exact ⟨s₁, s₂, h₁, by rw [hf₁]; rfl, by rw [hf₁]; rfl, h₂, by rw [hf₂]; rfl, by rw [hf₂]; rfl⟩

section

variable [NetBase]

/-- The `absolute` time is not checked against the present: banning a valid target that is not
banned until a positive time already past succeeds, and writes an entry that ends before it was
created. -/
theorem setban_absolute_in_past (strSubNet : String) (nBanUntil : Int) (s : NodeState)
    (hpos : 0 < nBanUntil ∧ nBanUntil ≤ 9223372036854775807) (hpast : nBanUntil < s.env.nTime)
    (hvalid : (SetbanTarget.ofString "add" strSubNet).isValid = true)
    (hfree : (SetbanTarget.ofString "add" strSubNet).isBanned s = false) :
    ∃ s', setban [.str strSubNet, .str "add", .num nBanUntil, .bool true] false s = .ok .null s' ∧
      ∃ entry, s'.setBanned.find? (SetbanTarget.ofString "add" strSubNet).banKey = some entry ∧
        entry.nBanUntil < entry.nCreateTime := by
  set t := SetbanTarget.ofString "add" strSubNet
  set params : List UniValue := [.str strSubNet, .str "add", .num nBanUntil, .bool true]
  have ht : setbanTarget params false s = .ok t s := by
    rw [setbanTarget_run strSubNet "add" _ s (.inl rfl)]
    simp [t, hvalid]
  have hadd : setbanAdd params t s = .ok () (disconnectAll t.covers
      { s with setBanned := s.setBanned.insert t.banKey ⟨s.env.nTime, nBanUntil, .manually⟩ }) := by
    have hne : nBanUntil ≠ 0 := by omega
    have hge : -9223372036854775808 ≤ nBanUntil := by omega
    simp [params, setbanAdd, hfree, ban, setbanBanTime, setbanAbsolute, banUntil, getInt64, getBool,
      hge, hpos.2, hne, isNull]
  refine ⟨_, setban_of_ok ht (by rw [if_pos (show t.strCommand = "add" from rfl), hadd]),
    ⟨s.env.nTime, nBanUntil, .manually⟩, ?_, hpast⟩
  simp [disconnectAll_eq, BanMap.find?_insert]

end

/-- At time 2, banning `10.0.0.1` until time 1. -/
theorem setban_absolute_in_past_at_two :
    ∃ s', setban [.str "10.0.0.1", .str "add", .num 1, .bool true] false
        { (default : NodeState) with env := { (default : NodeEnv) with nTime := 2 } } = .ok .null s' ∧
      ∃ entry, s'.setBanned.find? "10.0.0.1" = some entry ∧ entry.nBanUntil < entry.nCreateTime :=
  setban_absolute_in_past "10.0.0.1" 1 _ (by decide) (by decide) (by decide) (by decide)

section

variable [NetBase]

end

section

variable [NetBase]

/-- A target naming a subnet: its key is that subnet, and its checks are the subnet's. -/
theorem SetbanTarget.ofString_subnet (strCommand strSubNet : String)
    (hsubnet : findNotNpos strSubNet "/" = true) (s : NodeState) :
    let t := SetbanTarget.ofString strCommand strSubNet
    t.banKey = subNetOfString strSubNet ∧ t.isValid = subNetIsValid (subNetOfString strSubNet) ∧
      t.isBanned s = isBannedSubNet s (subNetOfString strSubNet) := by
  simp [SetbanTarget.ofString, SetbanTarget.banKey, SetbanTarget.isValid, SetbanTarget.isBanned,
    hsubnet]

/-- Banning a valid subnet that is not banned, then listing, shows an entry whose address parses
back to the subnet; unbanning it, then listing, shows no entry whose address does, whatever else
the table holds. Printing and parsing are assumed to round-trip on valid subnets and on the
subnets the table holds. -/
theorem setban_listbanned_round_trip (strSubNet : String) (s : NodeState)
    (hparse : ∀ subNet, subNetIsValid subNet = true ∨ subNet ∈ s.setBanned.entries.map Prod.fst →
      subNetOfString (subNetToString subNet) = subNet)
    (hsubnet : findNotNpos strSubNet "/" = true)
    (hvalid : subNetIsValid (subNetOfString strSubNet) = true)
    (hfree : isBannedSubNet s (subNetOfString strSubNet) = false) :
    ∃ s₁ s₂ banned₁ banned₂,
      setban [.str strSubNet, .str "add"] false s = .ok .null s₁ ∧
      listbanned [] false s₁ = .ok (.arr banned₁) s₁ ∧
      (∃ address rest, .obj (("address", .str address) :: rest) ∈ banned₁ ∧
        subNetOfString address = subNetOfString strSubNet) ∧
      setban [.str strSubNet, .str "remove"] false s₁ = .ok .null s₂ ∧
      listbanned [] false s₂ = .ok (.arr banned₂) s₂ ∧
      ∀ address rest, .obj (("address", .str address) :: rest) ∈ banned₂ →
        subNetOfString address ≠ subNetOfString strSubNet := by
  obtain ⟨hkeyA, hvalidA, hbannedA⟩ := SetbanTarget.ofString_subnet "add" strSubNet hsubnet s
  obtain ⟨s₁, hadd⟩ : ∃ s₁, setban [.str strSubNet, .str "add"] false s = .ok .null s₁ := by
    simp [setban_add_run, hvalidA, hvalid, hbannedA, hfree]
  have hfind₁ : s₁.setBanned.find? (subNetOfString strSubNet) =
      some ⟨s.env.nTime, s.env.nTime + s.env.nDefaultBanTime, .manually⟩ := by
    rw [setban_setBanned strSubNet "add" s s₁ _ (.inl rfl) hadd, if_pos rfl, BanMap.find?_insert,
      hkeyA, Function.update_same]
  obtain ⟨hkeyR, hvalidR, -⟩ := SetbanTarget.ofString_subnet "remove" strSubNet hsubnet s₁
  obtain ⟨s₂, hremove⟩ : ∃ s₂, setban [.str strSubNet, .str "remove"] false s₁ = .ok .null s₂ := by
    simp [setban_remove_run, hvalidR, hvalid, hkeyR, hfind₁]
  have hfind₂ : s₂.setBanned.find? (subNetOfString strSubNet) = none := by
    rw [setban_setBanned strSubNet "remove" s₁ s₂ _ (.inr rfl) hremove, if_neg (by decide),
      BanMap.find?_erase, hkeyR, Function.update_same]
  refine ⟨s₁, s₂, _, _, hadd, rfl, ⟨_, _, List.mem_map_of_mem bannedObject
    (BanMap.mem_entries_of_find? hfind₁), hparse _ (.inl hvalid)⟩, hremove, rfl, ?_⟩
  intro address rest hmem
  obtain ⟨subNet, hsubNet, rfl⟩ := address_of_mem_bannedObjects hmem
  have hold : subNet ∈ s.setBanned.entries.map Prod.fst ∨ subNet = subNetOfString strSubNet := by
    have h : subNet ∈ s₂.setBanned.entries.map Prod.fst := hsubNet
    rw [setban_setBanned strSubNet "remove" s₁ s₂ _ (.inr rfl) hremove, if_neg (by decide),
      setban_setBanned strSubNet "add" s s₁ _ (.inl rfl) hadd, if_pos rfl] at h
    rw [← hkeyA]
    exact BanMap.mem_keys_insert (BanMap.mem_keys_erase h)
  rcases hold with hold | rfl
  · rw [hparse subNet (.inr hold)]
    rintro rfl
    exact BanMap.not_mem_keys_of_find? hfind₂ hsubNet
  · exact absurd hsubNet (BanMap.not_mem_keys_of_find? hfind₂)

end

/-- `10.0.0.0/24` banned and unbanned on an empty table. -/
theorem setban_listbanned_round_trip_on_empty :
    findNotNpos "10.0.0.0/24" "/" = true ∧
      ∃ s₁ s₂, setban [.str "10.0.0.0/24", .str "add"] false default = .ok .null s₁ ∧
        setban [.str "10.0.0.0/24", .str "remove"] false s₁ = .ok .null s₂ :=
  let ⟨s₁, s₂, _, _, hadd, _, _, hremove, _⟩ :=
    setban_listbanned_round_trip "10.0.0.0/24" default (fun _ _ => rfl) (by decide) rfl rfl
  ⟨by decide, s₁, s₂, hadd, hremove⟩

section

variable [NetBase]

/-- A ban that returns leaves `getpeerinfo` reporting exactly the peers it does not cover, in
their order: no peer whose address the ban covers is reported. -/
theorem setban_getpeerinfo (strSubNet : String) (s s' : NodeState) (v : UniValue)
    (h : setban [.str strSubNet, .str "add"] false s = .ok v s') :
    let t := SetbanTarget.ofString "add" strSubNet
    getpeerinfo [] false s' =
      .ok (.arr ((s.vNodes.filter fun pNode => !t.covers pNode).map fun pNode =>
        peerObject pNode.stats (getNodeStateStats s' pNode.stats.nodeid))) s' := by
  rw [setban_add_run] at h
  split_ifs at h
  cases h
  simp [getpeerinfo_run, disconnectAll_eq]

end

/-- Banning the address of the first of two live peers leaves `getpeerinfo` reporting the second. -/
theorem setban_getpeerinfo_one_of_two :
    let p₁ : CNode := { (default : CNode) with stats := { (default : CNode).stats with nodeid := 1 }, addr := "10.0.0.1" }
    let p₂ : CNode := { (default : CNode) with stats := { (default : CNode).stats with nodeid := 2 }, addr := "10.0.0.2" }
    let s : NodeState := { (default : NodeState) with vNodes := [p₁, p₂] }
    ∃ s', setban [.str "10.0.0.1", .str "add"] false s = .ok .null s' ∧
      getpeerinfo [] false s' = .ok (.arr [peerObject p₂.stats (getNodeStateStats s' 2)]) s' := by
  intro p₁ p₂ s
  obtain ⟨s', h⟩ : ∃ s', setban [.str "10.0.0.1", .str "add"] false s = .ok .null s' :=
    ⟨_, (setban_add_run _ _).trans (by rw [if_neg (by decide), if_neg (by decide)])⟩
  exact ⟨s', h, (setban_getpeerinfo "10.0.0.1" s s' .null h).trans rfl⟩

section

variable [NetBase]

/-- A ban that returns closed every live peer it covers, one request each, in the peers' order,
kept the others, and then saved the table. -/
theorem setban_add_closes (strSubNet : String) (s s' : NodeState) (v : UniValue)
    (h : setban [.str strSubNet, .str "add"] false s = .ok v s') :
    let t := SetbanTarget.ofString "add" strSubNet
    s'.vNodes = s.vNodes.filter (fun pNode => !t.covers pNode) ∧
      s'.events = s.events ++ (s.vNodes.filter t.covers).map
        (fun pNode => .closeSocketDisconnect pNode.stats.nodeid) ++ [.dumpBanlist s'.setBanned.entries] := by
  rw [setban_add_run] at h
  split_ifs at h
  cases h
  simp [disconnectAll_eq]

end

/-- Banning the address of one of two live peers closes that one and keeps the other. -/
theorem setban_add_closes_one_of_two :
    let s : NodeState := { (default : NodeState) with
      vNodes := [{ (default : CNode) with addr := "10.0.0.1" }, { (default : CNode) with addr := "10.0.0.2" }] }
    ∃ s', setban [.str "10.0.0.1", .str "add"] false s = .ok .null s' ∧
      s'.vNodes = [{ (default : CNode) with addr := "10.0.0.2" }] := by
  intro s
  obtain ⟨s', h⟩ : ∃ s', setban [.str "10.0.0.1", .str "add"] false s = .ok .null s' :=
    ⟨_, (setban_add_run _ _).trans (by rw [if_neg (by decide), if_neg (by decide)])⟩
  exact ⟨s', h, (setban_add_closes "10.0.0.1" s s' .null h).1.trans rfl⟩

end LuxRpcNet
