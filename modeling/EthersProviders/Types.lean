import Mathlib.Data.List.Basic

/-!
# The values a provider call carries

`provider.rs` moves a handful of `ethers_core` values between its callers and the node: addresses and
hashes of a fixed width, the `uint` crate's 256- and 64-bit integers, byte strings, transaction
requests, and the `ProviderError` every failure is reported as. Widths are part of the types, so an
address of 21 bytes cannot be built, and each error keeps the payload the source gives it.
-/

namespace EthersProviders

/-- A `construct_fixed_hash!` type: exactly `width` bytes. -/
structure FixedBytes (width : Nat) where
  bytes : List UInt8
  length_bytes : bytes.length = width
deriving DecidableEq

/-- `Address`, 20 bytes. -/
abbrev Address := FixedBytes 20

/-- `H256`, 32 bytes, which is also `TxHash`. -/
abbrev H256 := FixedBytes 32

abbrev TxHash := H256

namespace FixedBytes

variable {width : Nat}

/-- `zero()`: every byte zero. -/
def zero (width : Nat) : FixedBytes width :=
  ⟨List.replicate width 0, List.length_replicate _ _⟩

/-- `from_slice`, whose `assert_eq!(src.len(), width)` is the `none` case. -/
def fromSlice? (width : Nat) (src : List UInt8) : Option (FixedBytes width) :=
  if h : src.length = width then some ⟨src, h⟩ else none

theorem ext {x y : FixedBytes width} (h : x.bytes = y.bytes) : x = y := by
  cases x; cases y; cases h; rfl

@[simp] theorem fromSlice?_bytes (x : FixedBytes width) : fromSlice? width x.bytes = some x := by
  simp [fromSlice?, x.length_bytes]

end FixedBytes

/-- `U256` of the `uint` crate. -/
abbrev U256 := BitVec 256

/-- `U64` of the `uint` crate. -/
abbrev U64 := BitVec 64

/-- `Bytes`: a byte string, which serializes as hex text and not as an array of numbers. -/
structure Bytes where
  toList : List UInt8
deriving DecidableEq

/-- `NameOrAddress`: an ENS name still to be resolved, or an address. -/
inductive NameOrAddress
  | name (ensName : String)
  | address (addr : Address)
deriving DecidableEq

inductive BlockNumber
  | latest
  | earliest
  | pending
  | number (n : U64)
deriving DecidableEq

inductive BlockId
  | hash (h : H256)
  | number (num : BlockNumber)
deriving DecidableEq

/-- `TransactionRequest`; a field left `none` is filled in by the node, or by `send_transaction`. -/
structure TransactionRequest where
  «from» : Option Address := none
  «to» : Option NameOrAddress := none
  gas : Option U256 := none
  gasPrice : Option U256 := none
  value : Option U256 := none
  data : Option Bytes := none
  nonce : Option U256 := none
deriving DecidableEq

/-- `Signature`: `r` and `s`, and `v` in Electrum notation. -/
structure Signature where
  r : H256
  s : H256
  v : U64
deriving DecidableEq

/-! ### Errors -/

/-- Peeling one step off a fallible computation that succeeded. -/
theorem Except.bind_eq_ok {ε α β : Type} {x : Except ε α} {f : α → Except ε β} {b : β} :
    x >>= f = .ok b ↔ ∃ a, x = .ok a ∧ f a = .ok b := by
  cases x <;> simp [bind, Except.bind]

/-- A `serde_json::Error`, kept as its message. -/
structure SerdeError where
  message : String
deriving DecidableEq

/-- What a `JsonRpcClient` transport fails with: an error the node answered with, or a body it
could not encode or decode. -/
inductive ClientError
  | rpc (code : Int) (message : String)
  | serde (e : SerdeError)
deriving DecidableEq

inductive FromHexError
  | invalidHexCharacter (c : Char) (index : Nat)
  | oddLength
  | invalidStringLength
deriving DecidableEq

/-- `ProviderError`, one constructor per variant of the source. -/
inductive ProviderError
  | jsonRpcClientError (e : ClientError)
  | ensError (ensName : String)
  | serdeJson (e : SerdeError)
  | hexError (e : FromHexError)
  | customError (message : String)
deriving DecidableEq

/-! ### The provider's configuration -/

/-- `std::time::Duration`, in nanoseconds. -/
structure Duration where
  nanos : Nat
deriving DecidableEq

def Duration.fromMillis (millis : Nat) : Duration := ⟨millis * 1000000⟩

/-- `DEFAULT_POLL_INTERVAL`, the "7 seconds" of `interval`'s documentation. -/
def DEFAULT_POLL_INTERVAL : Duration := Duration.fromMillis 7000

/-- `Provider<P>(P, Option<Address>, Option<Duration>, Option<Address>)` without its transport `P`,
which is the world a call runs in: the ENS registry override, the polling interval and the default
sender. -/
structure Provider where
  ens : Option Address := none
  interval : Option Duration := none
  sender : Option Address := none
deriving DecidableEq

namespace Provider

/-- `Provider::new`: nothing configured. -/
def new : Provider := {}

def withSender (self : Provider) (address : Address) : Provider := { self with sender := some address }

/-- `ens`: the registry to use instead of the mainnet one. -/
def setEns (self : Provider) (ens : Address) : Provider := { self with ens := some ens }

def setInterval (self : Provider) (interval : Duration) : Provider :=
  { self with interval := some interval }

def getInterval (self : Provider) : Duration := self.interval.getD DEFAULT_POLL_INTERVAL

@[simp] theorem getInterval_setInterval (self : Provider) (interval : Duration) :
    (self.setInterval interval).getInterval = interval := rfl

@[simp] theorem getInterval_new : new.getInterval = DEFAULT_POLL_INTERVAL := rfl

end Provider

end EthersProviders
