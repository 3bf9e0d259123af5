import LuxRpcNet.Server

/-! `destination`: a filtered listing of the address book's I2P destinations.

The first parameter selects a filter: none lists everything, `match` keeps the entries whose
address, source or Base64 key contains the second parameter, `good` the tried ones, `attempt` the
ones attempted, `connect` the ones connected to. Anything else, or `match` alone, is refused.

The handler runs two passes over the address book's export under one lock. The first counts
the matches, and the object `{tablesize, matchsize}` is pushed after it; the second pushes an
object per match. One flag `fMatchFound` serves both passes: set by a match and cleared when the
match is counted. Because every entry starts with the flag clear, both passes apply the same test
to each entry, so `matchsize` is the number of objects emitted. `DestinationQuery` states the
filters as the spec gives them, and the handler is shown to compute them. -/

namespace LuxRpcNet

open UniValue

/-- The flags the handler sets from its parameters (lines 115-140). -/
structure DestinationFlags where
  fSelectedMatch : Bool := false
  fMatchStr : Bool := false
  fMatchTried : Bool := false
  fMatchAttempt : Bool := false
  fMatchConnect : Bool := false
  fUnknownCmd : Bool := false
  sMatchStr : String := ""

/-- Lines 123-140. Reading the first parameter, or the second after `match`, may throw. -/
def destinationFlags (params : List UniValue) : Except RPCException DestinationFlags := do
  if params.length > 0 then
    let sCmdStr ← getStr (param params 0)
    let flags : DestinationFlags ←
      if sCmdStr = "match" then
        if params.length > 1 then
          let sMatchStr ← getStr (param params 1)
          pure ({ sMatchStr, fMatchStr := true } : DestinationFlags)
        else pure ({ fUnknownCmd := true } : DestinationFlags)
      else if sCmdStr = "good" then pure ({ fMatchTried := true } : DestinationFlags)
      else if sCmdStr = "attempt" then pure ({ fMatchAttempt := true } : DestinationFlags)
      else if sCmdStr = "connect" then pure ({ fMatchConnect := true } : DestinationFlags)
      else pure ({ fUnknownCmd := true } : DestinationFlags)
    pure { flags with fSelectedMatch := true }
  else pure ({} : DestinationFlags)

/-- The match flag after testing one entry (lines 152-168); a miss leaves it as it was. -/
def matchFound (f : DestinationFlags) (stats : CDestinationStats) (fMatchFound : Bool) : Bool :=
  if f.fSelectedMatch then
    if f.fMatchStr then
      if findNotNpos stats.sAddress f.sMatchStr || findNotNpos stats.sSource f.sMatchStr ||
          findNotNpos stats.sBase64 f.sMatchStr then true
      else fMatchFound
    else if f.fMatchTried then (if stats.fInTried then true else fMatchFound)
    else if f.fMatchAttempt then (if stats.nAttempts > 0 then true else fMatchFound)
    else if f.fMatchConnect then (if stats.nSuccessTime > 0 then true else fMatchFound)
    else fMatchFound
  else true -- match everything

/-- The object built for a match (lines 171-181); the Base64 key only when a filter was given. -/
def destinationObject (fSelectedMatch : Bool) (stats : CDestinationStats) : UniValue :=
  .obj <| [("address", .str stats.sAddress), ("good", .bool stats.fInTried),
    ("attempt", .num stats.nAttempts), ("lasttry", .num stats.nLastTry),
    ("connect", .num stats.nSuccessTime), ("source", .str stats.sSource)] ++
    if fSelectedMatch then [("base64", .str stats.sBase64)] else []

/-- The object pushed after the first pass (lines 192-195). -/
def sizesObject (nTableSize nMatchSize : Int) : UniValue :=
  .obj [("tablesize", .num nTableSize), ("matchsize", .num nMatchSize)]

/-- What a pass carries from one entry to the next. -/
structure PassState where
  ret : List UniValue
  nMatchSize : Int
  fMatchFound : Bool

/-- The loop body for one entry on pass `i` (lines 152-187). -/
def passStep (f : DestinationFlags) (i : Nat) (acc : PassState) (stats : CDestinationStats) :
    PassState :=
  let fMatchFound := matchFound f stats acc.fMatchFound
  let ret := if i = 1 ∧ fMatchFound then acc.ret ++ [destinationObject f.fSelectedMatch stats]
    else acc.ret
  if fMatchFound then ⟨ret, acc.nMatchSize + 1, false⟩ else ⟨ret, acc.nMatchSize, fMatchFound⟩

/-- Pass `i` over the entries, from the array built so far; flag and counter start clear. -/
def destinationPass (f : DestinationFlags) (i : Nat) (ret : List UniValue)
    (vecStats : List CDestinationStats) : PassState :=
  vecStats.foldl (passStep f i) ⟨ret, 0, false⟩

/-- `for (int i = 0; i < 2; i++)` (lines 148-197): the sizes go in after the first pass. -/
def destinationPasses (f : DestinationFlags) (nTableSize : Int)
    (vecStats : List CDestinationStats) : List UniValue :=
  (List.range 2).foldl (fun ret i =>
    let pass := destinationPass f i ret vecStats
    if i = 0 then pass.ret ++ [sizesObject nTableSize pass.nMatchSize] else pass.ret) []

/-- The test an entry meets on either pass: the flag is clear whenever an entry is tested. -/
def DestinationFlags.test (f : DestinationFlags) (stats : CDestinationStats) : Bool :=
  matchFound f stats false

/-- One entry from a clear flag: the flag is clear again, the counter counts a match, and the
second pass appends the match's object. -/
theorem passStep_clear (f : DestinationFlags) (i : Nat) (ret : List UniValue) (c : Int)
    (stats : CDestinationStats) :
    passStep f i ⟨ret, c, false⟩ stats =
      ⟨ret ++ (if i = 1 ∧ f.test stats then [destinationObject f.fSelectedMatch stats] else []),
        c + (if f.test stats then 1 else 0), false⟩ := by
  unfold DestinationFlags.test
  by_cases h : matchFound f stats false <;> by_cases hi : i = 1 <;> simp [passStep, h, hi]

/-- A pass counts the entries that meet the test and, on the second, appends their objects. -/
theorem destinationPass_foldl (f : DestinationFlags) (i : Nat) (vecStats : List CDestinationStats)
    (ret : List UniValue) (c : Int) :
    vecStats.foldl (passStep f i) ⟨ret, c, false⟩ =
      ⟨ret ++ (if i = 1 then (vecStats.filter f.test).map (destinationObject f.fSelectedMatch)
          else []),
        c + (vecStats.filter f.test).length, false⟩ := by
  induction vecStats generalizing ret c with
  | nil => simp
  | cons stats vecStats ih =>
      rw [List.foldl_cons, passStep_clear, ih]
      by_cases h : f.test stats <;> by_cases hi : i = 1 <;> simp [h, hi] <;> omega

/-- The two passes: the sizes object, then one object per entry meeting the test, in order. -/
theorem destinationPasses_eq (f : DestinationFlags) (nTableSize : Int)
    (vecStats : List CDestinationStats) :
    destinationPasses f nTableSize vecStats =
      sizesObject nTableSize (vecStats.filter f.test).length ::
        (vecStats.filter f.test).map (destinationObject f.fSelectedMatch) := by
  simp [destinationPasses, destinationPass, List.range_succ, destinationPass_foldl]

/-! ### The filters as the spec states them -/

/-- The filters of the spec: everything, the entries whose address, source or alternate identity
contains a string, tried entries, attempted entries, entries connected to in the past. -/
inductive DestinationQuery where
  | all
  | substring (s : String)
  | tried
  | attempted
  | connected

/-- Whether an entry meets the query, in the spec's words. -/
def DestinationQuery.admits : DestinationQuery → CDestinationStats → Prop
  | .all, _ => True
  | .substring s, e =>
      s.toList <:+: e.sAddress.toList ∨ s.toList <:+: e.sSource.toList ∨
        s.toList <:+: e.sBase64.toList
  | .tried, e => e.fInTried
  | .attempted, e => 0 < e.nAttempts
  | .connected, e => 0 < e.nSuccessTime

instance (q : DestinationQuery) (e : CDestinationStats) : Decidable (q.admits e) :=
  match q with
  | .all => inferInstanceAs (Decidable True)
  | .substring _ => inferInstanceAs (Decidable (_ ∨ _ ∨ _))
  | .tried => inferInstanceAs (Decidable (e.fInTried = true))
  | .attempted => inferInstanceAs (Decidable (0 < e.nAttempts))
  | .connected => inferInstanceAs (Decidable (0 < e.nSuccessTime))

/-- The parameter lists that ask for the query: none, `match` and the string, or the keyword and
at most one more parameter, which the handler does not read. -/
def DestinationQuery.Selects : DestinationQuery → List UniValue → Prop
  | .all, params => params = []
  | .substring s, params => params = [.str "match", .str s]
  | .tried, params => ∃ rest, params = .str "good" :: rest ∧ rest.length ≤ 1
  | .attempted, params => ∃ rest, params = .str "attempt" :: rest ∧ rest.length ≤ 1
  | .connected, params => ∃ rest, params = .str "connect" :: rest ∧ rest.length ≤ 1

/-- The parameters that ask for a query set flags whose test is the query's, and select the
Base64 key exactly when there are parameters. -/
theorem destinationFlags_of_selects {q : DestinationQuery} {params : List UniValue}
    (h : q.Selects params) :
    ∃ f, destinationFlags params = .ok f ∧ f.fUnknownCmd = false ∧
      f.fSelectedMatch = !params.isEmpty ∧ ∀ e, f.test e = decide (q.admits e) := by
  cases q with
  | all =>
      subst h
      exact ⟨{}, rfl, rfl, rfl, fun e => by simp [DestinationFlags.test, matchFound,
        DestinationQuery.admits]⟩
  | substring s =>
      subst h
      refine ⟨{ sMatchStr := s, fMatchStr := true, fSelectedMatch := true }, rfl, rfl, rfl,
        fun e => ?_⟩
      simp [DestinationFlags.test, matchFound, DestinationQuery.admits, findNotNpos, Bool.or_assoc]
  | tried =>
      obtain ⟨rest, rfl, hr⟩ := h
      refine ⟨{ fMatchTried := true, fSelectedMatch := true }, by simp [destinationFlags]; rfl, rfl, rfl,
        fun e => ?_⟩
      simp [DestinationFlags.test, matchFound, DestinationQuery.admits]
  | attempted =>
      obtain ⟨rest, rfl, hr⟩ := h
      refine ⟨{ fMatchAttempt := true, fSelectedMatch := true }, by simp [destinationFlags]; rfl, rfl, rfl,
        fun e => ?_⟩
      simp [DestinationFlags.test, matchFound, DestinationQuery.admits]
  | connected =>
      obtain ⟨rest, rfl, hr⟩ := h
      refine ⟨{ fMatchConnect := true, fSelectedMatch := true }, by simp [destinationFlags]; rfl, rfl, rfl,
        fun e => ?_⟩
      simp [DestinationFlags.test, matchFound, DestinationQuery.admits]

theorem DestinationQuery.Selects.length_le {q : DestinationQuery} {params : List UniValue}
    (h : q.Selects params) : params.length ≤ 2 := by
  cases q <;> simp only [DestinationQuery.Selects] at h
  all_goals first
    | (subst h; simp)
    | (obtain ⟨rest, rfl, hr⟩ := h; simp; omega)

variable [NetBase]

/-- Modelled from the spec: `CAddrMan::CopyDestinationStats` (addrman.cpp) returns the table size
and fills the vector with every destination's statistics. -/
def copyDestinationStats (s : NodeState) : Int × List CDestinationStats :=
  (s.addrman.nTableSize, s.addrman.vDestinationStats)

def destination (params : List UniValue) (fHelp : Bool) : RPC UniValue := do
  if fHelp || params.length > 2 then
    throw (.usage "destination")
  else
    let f ← destinationFlags params
    let s ← get
    let (nTableSize, vecStats) := copyDestinationStats s
    if !f.fUnknownCmd then
      return .arr (destinationPasses f nTableSize vecStats)
    else
      throw (.jsonRpcError .rpcInvalidParams "Unknown subcommand or argument missing")

theorem destination_readOnly (params : List UniValue) (fHelp : Bool) :
    ReadOnly (destination params fHelp) :=
  readOnly_ite (readOnly_throw _) <| (readOnly_ofExcept _).bind fun _ =>
    readOnly_get.bind fun s => by
      rcases copyDestinationStats s with ⟨_, _⟩
      exact readOnly_ite (readOnly_pure _) (readOnly_throw _)

/-- Within the arity, the flags decide the reply: refused when the command was unknown, the two
passes otherwise. Neither case writes. -/
theorem destination_run (params : List UniValue) (s : NodeState) (hlen : params.length ≤ 2)
    {f : DestinationFlags} (hf : destinationFlags params = .ok f) :
    destination params false s =
      if f.fUnknownCmd then
        .error (.jsonRpcError .rpcInvalidParams "Unknown subcommand or argument missing") s
      else .ok (.arr (destinationPasses f s.addrman.nTableSize s.addrman.vDestinationStats)) s := by
  have : ¬params.length > 2 := by omega
  cases hu : f.fUnknownCmd <;> simp [destination, hf, copyDestinationStats, this, hu]

/-- `destination` computes the spec's filters. For every address-book export and every parameter
list asking for a query, the reply is `{tablesize, matchsize}` followed by one object per entry
meeting the query, in the export's order, `matchsize` counting those objects and `tablesize` the
same for every query; an object carries the entry's address, whether it was tried, its attempts, last
try, last connection and source, and the Base64 key exactly when a filter was given. An unknown
command, and `match` without its string, are refused with `RPC_INVALID_PARAMS` and no reply. -/
theorem destination_query (s : NodeState) :
    let n := s.addrman.nTableSize
    let vecStats := s.addrman.vDestinationStats
    (∀ (q : DestinationQuery) (params : List UniValue), q.Selects params →
      let hits := vecStats.filter fun e => decide (q.admits e)
      destination params false s =
        .ok (.arr (.obj [("tablesize", .num n), ("matchsize", .num hits.length)] ::
          hits.map fun e => .obj ([("address", .str e.sAddress), ("good", .bool e.fInTried),
            ("attempt", .num e.nAttempts), ("lasttry", .num e.nLastTry),
            ("connect", .num e.nSuccessTime), ("source", .str e.sSource)] ++
            if !params.isEmpty then [("base64", .str e.sBase64)] else []))) s) ∧
    (∀ (cmd : String) (rest : List UniValue), cmd ∉ ["match", "good", "attempt", "connect"] →
      rest.length ≤ 1 →
      destination (.str cmd :: rest) false s =
        .error (.jsonRpcError .rpcInvalidParams "Unknown subcommand or argument missing") s) ∧
    destination [.str "match"] false s =
      .error (.jsonRpcError .rpcInvalidParams "Unknown subcommand or argument missing") s := by
  refine ⟨fun q params hq => ?_, fun cmd rest hcmd hrest => ?_, ?_⟩
  · obtain ⟨f, hf, hu, hsel, htest⟩ := destinationFlags_of_selects hq
    have hfilter : s.addrman.vDestinationStats.filter f.test =
        s.addrman.vDestinationStats.filter fun e => decide (q.admits e) :=
      List.filter_congr fun e _ => htest e
    rw [destination_run params s hq.length_le hf, hu, destinationPasses_eq, hfilter, hsel]
    rfl
  · simp only [List.mem_cons, List.mem_singleton, not_or] at hcmd
    obtain ⟨h1, h2, h3, h4⟩ := hcmd
    have hf : destinationFlags (.str cmd :: rest) = .ok { fUnknownCmd := true, fSelectedMatch := true } := by
      simp [destinationFlags, h1, h2, h3, h4]; rfl
    rw [destination_run _ s (by simp; omega) hf]
    rfl
  · exact destination_run _ s (by simp) (f := { fUnknownCmd := true, fSelectedMatch := true }) rfl

/-- `match ab` over a book of three destinations, the first holding `ab` in its address and the
third in its Base64 key: the sizes, then those two, each with its key. -/
theorem destination_query_match_two_of_three :
    let s : NodeState := { (default : NodeState) with addrman := ⟨3,
      [⟨"xab", "s1", "k1", true, 1, 5, 9⟩, ⟨"x2", "s2", "k2", false, 0, 0, 0⟩,
        ⟨"x3", "s3", "kab", false, 2, 7, 0⟩]⟩ }
    DestinationQuery.Selects (.substring "ab") [.str "match", .str "ab"] ∧
      destination [.str "match", .str "ab"] false s =
        .ok (.arr [.obj [("tablesize", .num 3), ("matchsize", .num 2)],
          .obj [("address", .str "xab"), ("good", .bool true), ("attempt", .num 1),
            ("lasttry", .num 5), ("connect", .num 9), ("source", .str "s1"), ("base64", .str "k1")],
          .obj [("address", .str "x3"), ("good", .bool false), ("attempt", .num 2),
            ("lasttry", .num 7), ("connect", .num 0), ("source", .str "s3"),
            ("base64", .str "kab")]]) s := by
  intro s
  refine ⟨rfl, ((destination_query s).1 (.substring "ab") [.str "match", .str "ab"] rfl).trans ?_⟩
  rfl

end LuxRpcNet
