import EthersProviders.Hex

/-!
# JSON values and the codecs of the provider's types

What a transport sends and receives is a `serde_json::Value`. Every parameter the provider passes
becomes one, through `utils::serialize` or through the transport, and every `result` the node answers
is decoded from one. The `ethers_core` types follow the convention the spec states: numbers and byte
strings are `0x`-prefixed hex text, and a field that is `None` is left out. A `NameOrAddress` is
written as its address: `ethers_core` refuses to serialize a name, which has to be resolved first,
so a transaction request to a name does not serialize at all.

Serialization is fallible in general (`serde_json::to_string` returns a `Result`), which is what the
tracing in `Provider::request` and the transport expose; `ToJson` is the infallible kind, which
`utils::serialize` assumes of every type it is used on and panics for when a value is refused.
-/

namespace EthersProviders

/-- `serde_json::Value`; numbers are kept as integers, since nothing here reads a float. -/
inductive Json
  | null
  | bool (b : Bool)
  | number (n : Int)
  | string (s : String)
  | array (xs : List Json)
  | object (fields : List (String × Json))

mutual

/-- `PartialEq for Value`: the same constructor and equal contents, fields in order. -/
def Json.beq : Json → Json → Bool
  | .null, .null => true
  | .bool a, .bool b => a == b
  | .number a, .number b => a == b
  | .string a, .string b => a == b
  | .array xs, .array ys => Json.beqList xs ys
  | .object xs, .object ys => Json.beqFields xs ys
  | _, _ => false

def Json.beqList : List Json → List Json → Bool
  | [], [] => true
  | x :: xs, y :: ys => Json.beq x y && Json.beqList xs ys
  | _, _ => false

def Json.beqFields : List (String × Json) → List (String × Json) → Bool
  | [], [] => true
  | (k, x) :: xs, (l, y) :: ys => k == l && Json.beq x y && Json.beqFields xs ys
  | _, _ => false

end

instance : BEq Json := ⟨Json.beq⟩

/-- `Serialize` as `serde_json` runs it: a value, or the error an impl fails with. -/
class Serialize (α : Type) where
  serialize : α → Except SerdeError Json

/-- A `Serialize` that cannot fail: the types `utils::serialize` is used on, which it `expect`s
never to fail ("Types never fail to serialize."). -/
class ToJson (α : Type) where
  toJson : α → Json

/-- `DeserializeOwned` as `serde_json::from_value` runs it. -/
class Deserialize (α : Type) where
  deserialize : Json → Except SerdeError α

export Serialize (serialize)
export ToJson (toJson)
export Deserialize (deserialize)

instance (priority := low) {α : Type} [ToJson α] : Serialize α := ⟨fun a => .ok (toJson a)⟩

/-- A sequence (a Rust array, slice or `Vec`) serializes element by element, and fails with its
first element that does. -/
instance {α : Type} [Serialize α] : Serialize (List α) := ⟨fun xs => Json.array <$> xs.mapM serialize⟩

theorem serialize_toJson {α : Type} [ToJson α] (a : α) : serialize a = .ok (toJson a) := rfl

theorem mapM_serialize_toJson {α : Type} [ToJson α] (xs : List α) :
    xs.mapM serialize = .ok (xs.map toJson) := by
  induction xs with
  | nil => rfl
  | cons x xs ih => simp only [List.mapM_cons, serialize_toJson, ih, List.map_cons]; rfl

@[simp] theorem serialize_list_toJson {α : Type} [ToJson α] (xs : List α) :
    serialize xs = .ok (.array (xs.map toJson)) := by
  show Json.array <$> xs.mapM serialize = _
  rw [mapM_serialize_toJson]; rfl

/-- The error `serde` reports for a value of the wrong shape. -/
def invalidType (expected : String) : SerdeError := ⟨"invalid type: expected " ++ expected⟩

/-! ### Plain values -/

instance : ToJson Json := ⟨id⟩
instance : Deserialize Json := ⟨.ok⟩

@[simp] theorem toJson_json (json : Json) : toJson json = json := rfl

/-- `()` is `null`, which is what the no-parameter calls send. -/
instance : ToJson Unit := ⟨fun _ => .null⟩
instance : Deserialize Unit := ⟨fun | .null => .ok () | _ => .error (invalidType "unit")⟩

instance : ToJson Bool := ⟨.bool⟩
instance : Deserialize Bool := ⟨fun | .bool b => .ok b | _ => .error (invalidType "a boolean")⟩

instance : ToJson String := ⟨.string⟩
instance : Deserialize String := ⟨fun | .string s => .ok s | _ => .error (invalidType "a string")⟩

instance {α : Type} [ToJson α] : ToJson (Option α) := ⟨fun | none => .null | some a => toJson a⟩
instance {α : Type} [Deserialize α] : Deserialize (Option α) :=
  ⟨fun | .null => .ok none | j => some <$> deserialize j⟩

/-- What `utils::serialize` makes of a sequence of infallible values. -/
instance {α : Type} [ToJson α] : ToJson (List α) := ⟨fun xs => .array (xs.map toJson)⟩

instance {α : Type} [Deserialize α] : Deserialize (List α) :=
  ⟨fun | .array xs => xs.mapM deserialize | _ => .error (invalidType "a sequence")⟩

/-! ### Hex text -/

/-- The hex text after a `0x`, or `none` for text without one. -/
def hexBody (s : String) : Option String :=
  match s.data with
  | '0' :: 'x' :: rest => some ⟨rest⟩
  | _ => none

/-- The bytes of `0x`-prefixed hex text. -/
def decodeHexText (json : Json) : Except SerdeError (List UInt8) :=
  match json with
  | .string s =>
    match hexBody s with
    | some body => (Hex.fromHex (utf8Bytes body)).mapError fun _ => ⟨"invalid hex"⟩
    | none => .error ⟨"invalid value: expected a 0x prefix"⟩
  | _ => .error (invalidType "a hex string")

/-- `0x` and the lowercase digits of a byte string. -/
def hexText (bytes : List UInt8) : Json := .string ⟨'0' :: 'x' :: Hex.hexDigits bytes⟩

theorem decodeHexText_hexText (bytes : List UInt8) : decodeHexText (hexText bytes) = .ok bytes := by
  have hdigits : List.Forall₂ Hex.CaseVariant (Hex.hexDigits bytes) (Hex.hexDigits bytes) :=
    List.forall₂_same.mpr fun _ _ => Or.inl rfl
  simp [decodeHexText, hexText, hexBody, utf8Bytes, Hex.fromHex_caseVariants hdigits]
  rfl

instance {width : Nat} : ToJson (FixedBytes width) := ⟨fun x => hexText x.bytes⟩
instance {width : Nat} : Deserialize (FixedBytes width) :=
  ⟨fun json => decodeHexText json >>= fun bytes =>
    match FixedBytes.fromSlice? width bytes with
    | some x => .ok x
    | none => .error ⟨"invalid length"⟩⟩

instance : ToJson Bytes := ⟨fun b => hexText b.toList⟩
instance : Deserialize Bytes := ⟨fun json => Bytes.mk <$> decodeHexText json⟩

@[simp] theorem deserialize_toJson_fixedBytes {width : Nat} (x : FixedBytes width) :
    deserialize (toJson x) = .ok x := by
  show decodeHexText (hexText x.bytes) >>= _ = _
  rw [decodeHexText_hexText]
  simp [bind, Except.bind]

@[simp] theorem deserialize_toJson_bytes (b : Bytes) : deserialize (toJson b) = .ok b := by
  show Bytes.mk <$> decodeHexText (hexText b.toList) = _
  rw [decodeHexText_hexText]
  rfl

/-- The value of one hex digit, in either case. -/
def hexDigitValue (c : Char) : Option Nat :=
  if '0' ≤ c ∧ c ≤ '9' then some (c.toNat - '0'.toNat)
  else if 'a' ≤ c ∧ c ≤ 'f' then some (c.toNat - 'a'.toNat + 10)
  else if 'A' ≤ c ∧ c ≤ 'F' then some (c.toNat - 'A'.toNat + 10)
  else none

/-- The number a run of hex digits writes, most significant first. -/
def hexQuantity (digits : List Char) : Option Nat :=
  digits.foldlM (fun acc c => (acc * 16 + ·) <$> hexDigitValue c) 0

/-- The `uint` integers: `0x` and the digits of the value without leading zeros, `0x0` for zero. -/
instance {w : Nat} : ToJson (BitVec w) := ⟨fun n => .string ⟨'0' :: 'x' :: Nat.toDigits 16 n.toNat⟩⟩
instance {w : Nat} : Deserialize (BitVec w) :=
  ⟨fun
    | .string s =>
      match hexBody s with
      | some body =>
        match hexQuantity body.data with
        | some n => if body.data ≠ [] ∧ n < 2 ^ w then .ok (BitVec.ofNat w n) else .error ⟨"invalid length"⟩
        | none => .error ⟨"invalid hex"⟩
      | none => .error ⟨"invalid value: expected a 0x prefix"⟩
    | _ => .error (invalidType "a hex string")⟩

/-! ### Records -/

/-- The error `ethers_core`'s `Serialize` for `NameOrAddress` fails with on a name. -/
def ensNameRefusal (ensName : String) : SerdeError :=
  ⟨"cannot serialize ENS name " ++ ensName ++ ", must be address"⟩

instance : Serialize NameOrAddress :=
  ⟨fun | .name n => .error (ensNameRefusal n) | .address a => .ok (toJson a)⟩

instance : ToJson BlockNumber :=
  ⟨fun
    | .latest => .string "latest"
    | .earliest => .string "earliest"
    | .pending => .string "pending"
    | .number n => toJson n⟩

instance : ToJson BlockId := ⟨fun | .hash h => toJson h | .number num => toJson num⟩

/-- The member `key` of an object (`skip_serializing_if = "Option::is_none"`): left out when the
field is `None`, and failing as its value does. -/
def optionalField {α : Type} [Serialize α] (key : String) :
    Option α → Except SerdeError (List (String × Json))
  | none => .ok []
  | some a => (fun json => [(key, json)]) <$> serialize a

/-- A transaction request is an object of the fields it sets, in declaration order, written field
by field; the first field that fails fails the object, and only a recipient can. -/
def TransactionRequest.serialize (tx : TransactionRequest) : Except SerdeError Json := do
  let «from» ← optionalField "from" tx.from
  let «to» ← optionalField "to" tx.to
  let gas ← optionalField "gas" tx.gas
  let gasPrice ← optionalField "gasPrice" tx.gasPrice
  let value ← optionalField "value" tx.value
  let data ← optionalField "data" tx.data
  let nonce ← optionalField "nonce" tx.nonce
  return .object («from» ++ «to» ++ gas ++ gasPrice ++ value ++ data ++ nonce)

instance : Serialize TransactionRequest := ⟨TransactionRequest.serialize⟩

theorem optionalField_ok {α : Type} [ToJson α] (key : String) (a : Option α) :
    ∃ fields, optionalField key a = .ok fields := by
  cases a <;> exact ⟨_, rfl⟩

/-- A transaction request to a name does not serialize: the name's refusal is its error. -/
theorem serialize_transactionRequest_name {tx : TransactionRequest} {ensName : String}
    (hto : tx.to = some (.name ensName)) : serialize tx = .error (ensNameRefusal ensName) := by
  obtain ⟨«from», hfrom⟩ := optionalField_ok "from" tx.from
  show tx.serialize = _
  rw [TransactionRequest.serialize, hfrom, hto]
  rfl

/-- Every other transaction request serializes. -/
theorem serialize_transactionRequest_ok {tx : TransactionRequest}
    (hto : ∀ ensName, tx.to ≠ some (.name ensName)) : ∃ json, serialize tx = .ok json := by
  obtain ⟨«to», hto'⟩ : ∃ fields, optionalField "to" tx.to = .ok fields := by
    rcases h : tx.to with _ | ⟨ensName⟩ | ⟨a⟩
    · exact ⟨_, rfl⟩
    · exact absurd h (hto ensName)
    · exact ⟨_, rfl⟩
  obtain ⟨«from», hfrom⟩ := optionalField_ok "from" tx.from
  obtain ⟨gas, hgas⟩ := optionalField_ok "gas" tx.gas
  obtain ⟨gasPrice, hgasPrice⟩ := optionalField_ok "gasPrice" tx.gasPrice
  obtain ⟨value, hvalue⟩ := optionalField_ok "value" tx.value
  obtain ⟨data, hdata⟩ := optionalField_ok "data" tx.data
  obtain ⟨nonce, hnonce⟩ := optionalField_ok "nonce" tx.nonce
  refine ⟨.object («from» ++ «to» ++ gas ++ gasPrice ++ value ++ data ++ nonce), ?_⟩
  show tx.serialize = _
  rw [TransactionRequest.serialize, hfrom, hto', hgas, hgasPrice, hvalue, hdata, hnonce]
  rfl

/-- A one-element sequence serializes as its element does, in an array. -/
theorem serialize_singleton {α : Type} [Serialize α] (a : α) :
    serialize [a] = (fun json => Json.array [json]) <$> serialize a := by
  show Json.array <$> [a].mapM serialize = _
  rcases h : serialize a with e | json <;> simp only [List.mapM_cons, List.mapM_nil, h] <;> rfl

/-- A transaction request is sent alone as `[tx]`, which serializes exactly when `tx` does. -/
theorem serialize_singleton_transactionRequest_name {tx : TransactionRequest} {ensName : String}
    (hto : tx.to = some (.name ensName)) : serialize [tx] = .error (ensNameRefusal ensName) := by
  rw [serialize_singleton, serialize_transactionRequest_name hto]; rfl

theorem serialize_singleton_transactionRequest_ok {tx : TransactionRequest}
    (hto : ∀ ensName, tx.to ≠ some (.name ensName)) : ∃ json, serialize [tx] = .ok json := by
  obtain ⟨json, hjson⟩ := serialize_transactionRequest_ok hto
  exact ⟨_, by rw [serialize_singleton, hjson]; rfl⟩

end EthersProviders
