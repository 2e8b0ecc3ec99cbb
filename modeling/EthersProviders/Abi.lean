import EthersProviders.Types

/-!
# ABI decoding of the resolver's answers

The two hops of ENS resolution each get back the raw bytes of an `eth_call`, and `decode_bytes`
reads them with `ethabi::decode` as a single address or a single string. The decoder is the one
`provider.rs` links, that of `ethabi-next` 13: it reads 32-byte words at byte offsets of the input
and refuses only a read that runs past its end, and, before anything else, empty input, which is
what a call to an address without code returns. An address is the low 20 bytes of the word at the
parameter's offset. A string is reached through an offset word and a length word, and its bytes are
read as UTF-8 with every broken sequence replaced (`String::from_utf8_lossy`). Only the two
parameter types `provider.rs` uses are modelled.
-/

namespace EthersProviders

/-! ### `String::from_utf8_lossy` -/

/-- A UTF-8 continuation byte, `10xxxxxx`. -/
def isContinuation (b : UInt8) : Bool := 0x80 ≤ b && b ≤ 0xBF

/-- The second bytes a three-byte lead can take: no overlong form after `E0`, no surrogate after
`ED` (the table of `core::str::validations`). -/
def continuesThree (b₀ b₁ : UInt8) : Bool :=
  if b₀ = 0xE0 then 0xA0 ≤ b₁ && b₁ ≤ 0xBF
  else if b₀ = 0xED then 0x80 ≤ b₁ && b₁ ≤ 0x9F
  else isContinuation b₁

/-- The second bytes a four-byte lead can take: no overlong form after `F0`, nothing past
`U+10FFFF` after `F4`. -/
def continuesFour (b₀ b₁ : UInt8) : Bool :=
  if b₀ = 0xF0 then 0x90 ≤ b₁ && b₁ ≤ 0xBF
  else if b₀ = 0xF4 then 0x80 ≤ b₁ && b₁ ≤ 0x8F
  else isContinuation b₁

def REPLACEMENT_CHARACTER : Char := Char.ofNat 0xFFFD

/-- `String::from_utf8_lossy`, as `Utf8LossyChunksIter` reads its input: a sequence breaks at the
first byte that cannot continue it, or at the end of the input; one `U+FFFD` stands for the bytes
before that byte, and reading resumes at it. A byte that begins no sequence is replaced alone. -/
def fromUtf8Lossy : List UInt8 → List Char
  | [] => []
  | b₀ :: rest =>
    if b₀ < 0x80 then Char.ofNat b₀.toNat :: fromUtf8Lossy rest
    else if 0xC2 ≤ b₀ ∧ b₀ ≤ 0xDF then
      match rest with
      | b₁ :: rest₁ =>
        if isContinuation b₁ then
          Char.ofNat ((b₀.toNat % 32) * 64 + b₁.toNat % 64) :: fromUtf8Lossy rest₁
        else REPLACEMENT_CHARACTER :: fromUtf8Lossy (b₁ :: rest₁)
      | [] => [REPLACEMENT_CHARACTER]
    else if 0xE0 ≤ b₀ ∧ b₀ ≤ 0xEF then
      match rest with
      | b₁ :: rest₁ =>
        if continuesThree b₀ b₁ then
          match rest₁ with
          | b₂ :: rest₂ =>
            if isContinuation b₂ then
              Char.ofNat ((b₀.toNat % 16) * 4096 + (b₁.toNat % 64) * 64 + b₂.toNat % 64) ::
                fromUtf8Lossy rest₂
            else REPLACEMENT_CHARACTER :: fromUtf8Lossy (b₂ :: rest₂)
          | [] => [REPLACEMENT_CHARACTER]
        else REPLACEMENT_CHARACTER :: fromUtf8Lossy (b₁ :: rest₁)
      | [] => [REPLACEMENT_CHARACTER]
    else if 0xF0 ≤ b₀ ∧ b₀ ≤ 0xF4 then
      match rest with
      | b₁ :: rest₁ =>
        if continuesFour b₀ b₁ then
          match rest₁ with
          | b₂ :: rest₂ =>
            if isContinuation b₂ then
              match rest₂ with
              | b₃ :: rest₃ =>
                if isContinuation b₃ then
                  Char.ofNat ((b₀.toNat % 8) * 262144 + (b₁.toNat % 64) * 4096 +
                    (b₂.toNat % 64) * 64 + b₃.toNat % 64) :: fromUtf8Lossy rest₃
                else REPLACEMENT_CHARACTER :: fromUtf8Lossy (b₃ :: rest₃)
              | [] => [REPLACEMENT_CHARACTER]
            else REPLACEMENT_CHARACTER :: fromUtf8Lossy (b₂ :: rest₂)
          | [] => [REPLACEMENT_CHARACTER]
        else REPLACEMENT_CHARACTER :: fromUtf8Lossy (b₁ :: rest₁)
      | [] => [REPLACEMENT_CHARACTER]
    else REPLACEMENT_CHARACTER :: fromUtf8Lossy rest

namespace Abi

/-- `ethabi::ParamType`, the two variants `provider.rs` decodes. -/
inductive ParamType
  | address
  | string
deriving DecidableEq

/-- `ethabi::Token`, the two variants those parameter types decode to. -/
inductive Token
  | address (a : Address)
  | string (s : String)
deriving DecidableEq

/-- `ethabi::Error`, kept as the message `expect` prints. -/
structure Error where
  message : String
deriving DecidableEq

/-- A 32-byte ABI word. -/
abbrev Word := FixedBytes 32

def invalidData : Error := ⟨"Invalid data"⟩

/-- `peek_32_bytes`: the 32 bytes at byte `offset` (`peek(data, offset, 32)`), refused when they
run past the end. -/
def peek32Bytes (data : List UInt8) (offset : Nat) : Except Error Word :=
  if h : offset + 32 > data.length then .error invalidData
  else .ok ⟨(data.drop offset).take 32, by rw [List.length_take, List.length_drop]; omega⟩

/-- `as_usize`: the big-endian value of the low four bytes of a word whose other 28 are zero. -/
def asUsize (word : Word) : Except Error Nat :=
  if word.bytes.take 28 |>.all (· = 0) then
    .ok ((word.bytes.drop 28).foldl (fun acc b => acc * 256 + b.toNat) 0)
  else .error invalidData

/-- `take_bytes`: the `len` bytes at byte `offset`, refused when they run past the end. -/
def takeBytes (data : List UInt8) (offset len : Nat) : Except Error (List UInt8) :=
  if offset + len > data.length then .error invalidData
  else .ok ((data.drop offset).take len)

/-- `decode_param`: the token at byte `offset`, and the offset of the next parameter. -/
def decodeParam : ParamType → List UInt8 → Nat → Except Error (Token × Nat)
  | .address, data, offset => do
    let slice ← peek32Bytes data offset
    return (.address ⟨slice.bytes.drop 12, by simp [slice.length_bytes]⟩, offset + 32)
  | .string, data, offset => do
    let dynamicOffset ← asUsize (← peek32Bytes data offset)
    let len ← asUsize (← peek32Bytes data dynamicOffset)
    let bytes ← takeBytes data (dynamicOffset + 32) len
    return (.string ⟨fromUtf8Lossy bytes⟩, offset + 32)

/-- `ethabi::decode`. Neither modelled type has the empty input as an encoding, so empty input
is refused before anything else. -/
def decode (types : List ParamType) (data : List UInt8) : Except Error (List Token) := do
  if data.isEmpty then
    throw ⟨"please ensure the contract and method you're calling exist! failed to decode empty " ++
      "bytes. if you're using jsonrpc this is likely due to jsonrpc returning `0x` in case " ++
      "contract or method don't exist"⟩
  let (tokens, _) ← types.foldlM (fun (acc : List Token × Nat) param => do
    let (token, next) ← decodeParam param data acc.2
    return (acc.1 ++ [token], next)) ([], 0)
  return tokens

/-- `ethabi::decode` reads `bytes` as one token of `param`. -/
def Accepts (param : ParamType) (bytes : List UInt8) : Prop := ∃ tokens, decode [param] bytes = .ok tokens

/-- The parameter type a token is a value of. -/
def Token.paramType : Token → ParamType
  | .address _ => .address
  | .string _ => .string

theorem decodeParam_paramType {param : ParamType} {data : List UInt8} {offset next : Nat}
    {token : Token} (h : decodeParam param data offset = .ok (token, next)) :
    token.paramType = param := by
  cases param with
  | address =>
    obtain ⟨_, -, h⟩ := Except.bind_eq_ok.mp h
    cases h; rfl
  | string =>
    simp only [decodeParam, Except.bind_eq_ok] at h
    obtain ⟨_, -, _, -, _, -, _, -, _, -, h⟩ := h
    cases h; rfl

/-- Decoding one parameter gives one token, of that parameter's type. -/
theorem decode_single {param : ParamType} {bytes : List UInt8} {tokens : List Token}
    (h : decode [param] bytes = .ok tokens) : ∃ token, tokens = [token] ∧ token.paramType = param := by
  simp only [decode, List.foldlM_cons, List.foldlM_nil] at h
  split at h
  · cases h
  · simp only [Except.bind_eq_ok, pure, Except.pure, Except.ok.injEq] at h
    obtain ⟨_, -, _, ⟨_, ⟨⟨token, _⟩, hparam, rfl⟩, rfl⟩, rfl⟩ := h
    exact ⟨token, rfl, decodeParam_paramType hparam⟩

/-- `Detokenize` for the two result types: a single token of the right kind. -/
class Detokenize (α : Type) where
  fromTokens : List Token → Except String α

instance : Detokenize Address :=
  ⟨fun | [.address a] => .ok a | _ => .error "Expected single element of type address"⟩

instance : Detokenize String :=
  ⟨fun | [.string s] => .ok s | _ => .error "Expected single element of type string"⟩

/-! ### Encodings, for writing replies -/

/-- The word holding a number below `2 ^ 256`, big-endian. -/
def uintWord (n : Nat) : List UInt8 :=
  (List.range 32).reverse.map fun i => UInt8.ofNat (n >>> (8 * i))

/-- The ABI encoding of one address: its word, left-padded with zeros. -/
def encodeAddress (a : Address) : List UInt8 := List.replicate 12 0 ++ a.bytes

/-- The ABI encoding of one string: the offset of its tail, its length, and its UTF-8 bytes padded
to whole words. -/
def encodeString (s : String) : List UInt8 :=
  let bytes := s.toUTF8.data.toList
  uintWord 32 ++ uintWord bytes.length ++ bytes ++ List.replicate ((32 - bytes.length % 32) % 32) 0

end Abi

end EthersProviders
