import Mathlib.Data.Rat.Defs
import Mathlib.Data.List.Infix

/-! The JSON values of the RPC layer. A handler receives its positional parameters as a list of
`UniValue`s and builds its reply as one; objects are lists of key and value pairs in the order
`push_back(Pair(..))` adds them. Numbers keep the distinction the handlers make: an integer counter
is `num`, a `double` such as a ping time is `real`.

The typed accessors (`get_str`, `get_int64`, `get_bool`) throw a `std::runtime_error` on a value
of another type, and indexing past the end of the parameter array reads `null`. The exceptions a
handler throws are the help text of its command, such a `runtime_error`, or a `JSONRPCError`
carrying one of the codes of `rpcprotocol.h`. -/

namespace LuxRpcNet

inductive UniValue where
  | null
  | bool (b : Bool)
  | num (n : Int)
  | real (x : ℚ)
  | str (s : String)
  | arr (values : List UniValue)
  | obj (pairs : List (String × UniValue))
  deriving Repr

namespace UniValue

mutual

/-- Equality of JSON values, by structural recursion through arrays and objects. -/
def decEq : (a b : UniValue) → Decidable (a = b)
  | .null, .null => isTrue rfl
  | .bool a, .bool b => decidable_of_iff (a = b) (by simp)
  | .num a, .num b => decidable_of_iff (a = b) (by simp)
  | .real a, .real b => decidable_of_iff (a = b) (by simp)
  | .str a, .str b => decidable_of_iff (a = b) (by simp)
  | .arr a, .arr b =>
      match decEqList a b with
      | isTrue h => isTrue (h ▸ rfl)
      | isFalse h => isFalse fun e => by cases e; exact h rfl
  | .obj a, .obj b =>
      match decEqPairs a b with
      | isTrue h => isTrue (h ▸ rfl)
      | isFalse h => isFalse fun e => by cases e; exact h rfl
  | .null, .bool _ | .null, .num _ | .null, .real _ | .null, .str _ | .null, .arr _
  | .null, .obj _ | .bool _, .null | .bool _, .num _ | .bool _, .real _ | .bool _, .str _
  | .bool _, .arr _ | .bool _, .obj _ | .num _, .null | .num _, .bool _ | .num _, .real _
  | .num _, .str _ | .num _, .arr _ | .num _, .obj _ | .real _, .null | .real _, .bool _
  | .real _, .num _ | .real _, .str _ | .real _, .arr _ | .real _, .obj _ | .str _, .null
  | .str _, .bool _ | .str _, .num _ | .str _, .real _ | .str _, .arr _ | .str _, .obj _
  | .arr _, .null | .arr _, .bool _ | .arr _, .num _ | .arr _, .real _ | .arr _, .str _
  | .arr _, .obj _ | .obj _, .null | .obj _, .bool _ | .obj _, .num _ | .obj _, .real _
  | .obj _, .str _ | .obj _, .arr _ => isFalse nofun

def decEqList : (a b : List UniValue) → Decidable (a = b)
  | [], [] => isTrue rfl
  | [], _ :: _ | _ :: _, [] => isFalse nofun
  | x :: xs, y :: ys =>
      match decEq x y, decEqList xs ys with
      | isTrue h₁, isTrue h₂ => isTrue (h₁ ▸ h₂ ▸ rfl)
      | isFalse h₁, _ => isFalse fun e => by cases e; exact h₁ rfl
      | _, isFalse h₂ => isFalse fun e => by cases e; exact h₂ rfl

def decEqPairs : (a b : List (String × UniValue)) → Decidable (a = b)
  | [], [] => isTrue rfl
  | [], _ :: _ | _ :: _, [] => isFalse nofun
  | (k, x) :: xs, (l, y) :: ys =>
      if hk : k = l then
        match decEq x y, decEqPairs xs ys with
        | isTrue h₁, isTrue h₂ => isTrue (hk ▸ h₁ ▸ h₂ ▸ rfl)
        | isFalse h₁, _ => isFalse fun e => by cases e; exact h₁ rfl
        | _, isFalse h₂ => isFalse fun e => by cases e; exact h₂ rfl
      else isFalse fun e => by cases e; exact hk rfl

end

instance : DecidableEq UniValue := decEq

end UniValue

/-- The error codes of `rpcprotocol.h` these handlers raise. -/
inductive RPCErrorCode where
  | rpcMiscError
  | rpcInvalidParams
  | rpcClientNodeAlreadyAdded
  | rpcClientNodeNotAdded
  | rpcClientNodeNotConnected
  deriving DecidableEq, Repr

/-- What a handler throws. -/
inductive RPCException where
  /-- `std::runtime_error` carrying the help text of the named command. -/
  | usage (method : String)
  /-- Any other `std::runtime_error`, such as a failed type check of a parameter. -/
  | runtimeError (what : String)
  /-- `JSONRPCError(code, message)`. -/
  | jsonRpcError (code : RPCErrorCode) (message : String)
  deriving DecidableEq, Repr

/-- `s.find(sub) != std::string::npos`: `sub` occurs in `s`. -/
def findNotNpos (s sub : String) : Bool := decide (sub.toList <:+: s.toList)

@[simp] theorem except_ok_bind {ε α β : Type} (a : α) (f : α → Except ε β) :
    (Except.ok a >>= f) = f a := rfl

@[simp] theorem except_error_bind {ε α β : Type} (e : ε) (f : α → Except ε β) :
    (Except.error e >>= f) = Except.error e := rfl

namespace UniValue

/-- `params[i]`: an index past the end reads `NullUniValue`. -/
def param (params : List UniValue) (i : Nat) : UniValue := params.getD i .null

/-- `UniValue::push_back`: appends to an array and leaves any other value as it is. -/
def pushBack : UniValue → UniValue → UniValue
  | .arr values, v => .arr (values ++ [v])
  | u, _ => u

def isNull : UniValue → Bool
  | .null => true
  | _ => false

def getStr : UniValue → Except RPCException String
  | .str s => .ok s
  | _ => .error (.runtimeError "JSON value is not a string as expected")

/-- A number reads as an `int64_t` when it is an integer from `INT64_MIN` to `INT64_MAX`. -/
def getInt64 : UniValue → Except RPCException Int
  | .num n =>
      if -9223372036854775808 ≤ n ∧ n ≤ 9223372036854775807 then .ok n
      else .error (.runtimeError "JSON integer out of range")
  | .real _ => .error (.runtimeError "JSON integer out of range")
  | _ => .error (.runtimeError "JSON value is not an integer as expected")

def getBool : UniValue → Except RPCException Bool
  | .bool b => .ok b
  | _ => .error (.runtimeError "JSON value is not a boolean as expected")

@[simp] theorem param_zero (v : UniValue) (vs : List UniValue) : param (v :: vs) 0 = v := rfl

@[simp] theorem param_succ (v : UniValue) (vs : List UniValue) (i : Nat) :
    param (v :: vs) (i + 1) = param vs i := rfl

@[simp] theorem getStr_str (s : String) : getStr (.str s) = .ok s := rfl

theorem getStr_eq_ok {v : UniValue} {s : String} : getStr v = .ok s ↔ v = .str s := by
  cases v <;> simp [getStr]

/-! The one exception each typed read throws: its type error. -/

theorem getStr_eq_error {v : UniValue} {e : RPCException} (h : getStr v = .error e) :
    e = .runtimeError "JSON value is not a string as expected" := by
  cases v <;> cases h <;> rfl

theorem getInt64_eq_error {v : UniValue} {e : RPCException} (h : getInt64 v = .error e) :
    e = .runtimeError "JSON integer out of range" ∨
      e = .runtimeError "JSON value is not an integer as expected" := by
  cases v <;> simp only [getInt64] at h
  case num n =>
    split at h <;> cases h
    exact .inl rfl
  all_goals cases h; simp

theorem getBool_eq_error {v : UniValue} {e : RPCException} (h : getBool v = .error e) :
    e = .runtimeError "JSON value is not a boolean as expected" := by
  cases v <;> cases h <;> rfl

end UniValue

end LuxRpcNet
