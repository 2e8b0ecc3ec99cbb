import EthersProviders.Resolution

/-!
# `get_storage_at`

The node answers `eth_getStorageAt` with text. `get_storage_at` removes every `0x` from it, pads
what is left with `0` to 64 characters, hex-decodes that and reads the bytes with
`H256::from_slice`, which asserts that there are 32 of them.

What a reply ends in depends only on its digits, the text left once every `0x` is gone: at most 64
hex digits read as a value, more than 64 in an even number stop at the assertion, and anything
else is a `HexError`. The hex rendering of a value, short of some of its leading zeros, in either
letter case and with or without `0x`, reads back as the value.
-/

namespace EthersProviders

open Rpc

/-- The request `get_storage_at` sends once the account is an address. -/
def storageRequest (addr : Address) (location : H256) (block : Option BlockId) : Request :=
  ⟨"eth_getStorageAt", .array [toJson addr, toJson location, toJson (blockOrLatest block)]⟩

/-! ### The reply's digits -/

/-- The text `get_storage_at` decodes: the reply without any `0x`, padded with `0` to 64. -/
theorem padded_data (s : String) :
    (String.leftpad 64 '0' (Hex.replace0x s)).data =
      List.replicate (64 - (Hex.remove0x s.data).length) '0' ++ Hex.remove0x s.data :=
  rfl

/-- The padded text decodes when the digits are hex digits, and are at most 64 or even. -/
theorem fromHex_padded_ok_iff (s : String) :
    (∃ bytes, Hex.fromHex (utf8Bytes (String.leftpad 64 '0' (Hex.replace0x s))) = .ok bytes) ↔
      (∀ c ∈ Hex.remove0x s.data, Hex.isDigitChar c) ∧
        ((Hex.remove0x s.data).length ≤ 64 ∨ (Hex.remove0x s.data).length % 2 = 0) := by
  have hzero : Hex.isDigitChar '0' := by decide
  rw [utf8Bytes, padded_data, Hex.fromHex_text_ok_iff]
  simp only [List.length_append, List.length_replicate, List.mem_append, List.mem_replicate]
  constructor
  · rintro ⟨heven, hdigits⟩
    exact ⟨fun c hc => hdigits c (.inr hc), by omega⟩
  · rintro ⟨hdigits, hlength⟩
    refine ⟨by omega, fun c hc => ?_⟩
    rcases hc with ⟨-, rfl⟩ | hc
    · exact hzero
    · exact hdigits c hc

theorem length_fromHex_padded {s : String} {bytes : List UInt8}
    (h : Hex.fromHex (utf8Bytes (String.leftpad 64 '0' (Hex.replace0x s))) = .ok bytes) :
    2 * bytes.length = 64 - (Hex.remove0x s.data).length + (Hex.remove0x s.data).length := by
  rw [utf8Bytes, padded_data] at h
  simpa using Hex.length_fromHex_text h

section Decoding

variable (w : World)

variable {s : String}

theorem outcome_storageValue_undecoded {e : FromHexError}
    (hdec : Hex.fromHex (utf8Bytes (String.leftpad 64 '0' (Hex.replace0x s))) = .error e) :
    outcome w (storageValue s) = .err (.hexError e) := by
  simp [storageValue, hdec]

theorem outcome_storageValue_decoded {bytes : List UInt8}
    (hdec : Hex.fromHex (utf8Bytes (String.leftpad 64 '0' (Hex.replace0x s))) = .ok bytes) :
    outcome w (storageValue s) =
      if h : bytes.length = 32 then .ok ⟨bytes, h⟩ else .panic "assertion failed: `(left == right)`" := by
  simp only [storageValue, hdec, FixedBytes.fromSlice?]
  split_ifs <;> rfl

theorem storageValue_ok_iff :
    (∃ h, outcome w (storageValue s) = .ok h) ↔
      (∀ c ∈ Hex.remove0x s.data, Hex.isDigitChar c) ∧ (Hex.remove0x s.data).length ≤ 64 := by
  rcases hdec : Hex.fromHex (utf8Bytes (String.leftpad 64 '0' (Hex.replace0x s))) with e | bytes
  · rw [outcome_storageValue_undecoded w hdec]
    refine iff_of_false (by simp) fun ⟨hdigits, hlength⟩ => ?_
    obtain ⟨_, hok⟩ := (fromHex_padded_ok_iff s).mpr ⟨hdigits, .inl hlength⟩
    cases hdec.symm.trans hok
  · have hlength := length_fromHex_padded hdec
    obtain ⟨hdigits, -⟩ := (fromHex_padded_ok_iff s).mp ⟨_, hdec⟩
    rw [outcome_storageValue_decoded w hdec]
    split_ifs with h32
    · exact iff_of_true ⟨_, rfl⟩ ⟨hdigits, by omega⟩
    · exact iff_of_false (by simp) fun ⟨_, h64⟩ => h32 (by omega)

theorem storageValue_panic_iff :
    (∃ m, outcome w (storageValue s) = .panic m) ↔
      (∀ c ∈ Hex.remove0x s.data, Hex.isDigitChar c) ∧ 64 < (Hex.remove0x s.data).length ∧
        (Hex.remove0x s.data).length % 2 = 0 := by
  rcases hdec : Hex.fromHex (utf8Bytes (String.leftpad 64 '0' (Hex.replace0x s))) with e | bytes
  · rw [outcome_storageValue_undecoded w hdec]
    refine iff_of_false (by simp) fun ⟨hdigits, _, heven⟩ => ?_
    obtain ⟨_, hok⟩ := (fromHex_padded_ok_iff s).mpr ⟨hdigits, .inr heven⟩
    cases hdec.symm.trans hok
  · have hlength := length_fromHex_padded hdec
    obtain ⟨hdigits, hshape⟩ := (fromHex_padded_ok_iff s).mp ⟨_, hdec⟩
    rw [outcome_storageValue_decoded w hdec]
    split_ifs with h32
    · exact iff_of_false (by simp) fun ⟨_, h64, _⟩ => by omega
    · exact iff_of_true ⟨_, rfl⟩ ⟨hdigits, by omega, by omega⟩

/-- Every error of the decoding is the decoder's. -/
theorem storageValue_err {e : ProviderError} (h : outcome w (storageValue s) = .err e) :
    ∃ he, e = .hexError he := by
  rcases hdec : Hex.fromHex (utf8Bytes (String.leftpad 64 '0' (Hex.replace0x s))) with he | bytes
  · rw [outcome_storageValue_undecoded w hdec, Outcome.err.injEq] at h
    exact ⟨he, h.symm⟩
  · rw [outcome_storageValue_decoded w hdec] at h
    split_ifs at h

/-! ### Rendered values -/

/-- The number of leading zeros of a value's 64-digit rendering. -/
def leadingZeroDigits (h : H256) : Nat := ((Hex.hexDigits h.bytes).takeWhile (· == '0')).length

theorem leadingZeroDigits_le (h : H256) : leadingZeroDigits h ≤ 64 := by
  simpa [leadingZeroDigits, h.length_bytes] using
    (List.takeWhile_sublist (· == '0') (l := Hex.hexDigits h.bytes)).length_le

theorem take_eq_replicate {l : List Char} {k : Nat} (hk : k ≤ (l.takeWhile (· == '0')).length) :
    l.take k = List.replicate k '0' := by
  induction l generalizing k with
  | nil => simp_all
  | cons c l ih =>
    cases k with
    | zero => rfl
    | succ k =>
      by_cases hc : c = '0'
      · subst hc
        simp only [List.takeWhile_cons, beq_self_eq_true, if_true, List.length_cons] at hk
        simp [ih (show k ≤ _ by omega), List.replicate_succ]
      · simp [List.takeWhile_cons, hc] at hk

/-- **Storage values read back.** The rendering of a value short of some of its leading zeros, in
either letter case and with or without `0x`, decodes to the value. -/
theorem storageValue_rendering {h : H256} {k : Nat} {pre cs : List Char}
    (hk : k ≤ leadingZeroDigits h) (hpre : pre = [] ∨ pre = ['0', 'x'])
    (hcase : List.Forall₂ Hex.CaseVariant cs ((Hex.hexDigits h.bytes).drop k)) :
    outcome w (storageValue ⟨pre ++ cs⟩) = .ok h := by
  have hdigits : ∀ c ∈ cs, Hex.isDigitChar c :=
    Hex.isDigitChar_of_caseVariants hcase fun d hd => Hex.mem_hexDigits (List.mem_of_mem_drop hd)
  have hx : 'x' ∉ cs := fun hmem => absurd (hdigits 'x' hmem) (by decide)
  have hremove : Hex.remove0x (pre ++ cs) = cs := by
    rcases hpre with rfl | rfl <;> simp [Hex.remove0x_of_not_mem hx]
  have hlength : cs.length = 64 - k := by simp [hcase.length_eq, h.length_bytes]
  have hk64 := hk.trans (leadingZeroDigits_le h)
  have hpadded : (String.leftpad 64 '0' (Hex.replace0x ⟨pre ++ cs⟩)).data = List.replicate k '0' ++ cs := by
    rw [padded_data]
    simp only [hremove, hlength]
    congr 2; omega
  have hvariants : List.Forall₂ Hex.CaseVariant (List.replicate k '0' ++ cs) (Hex.hexDigits h.bytes) := by
    rw [← List.take_append_drop k (Hex.hexDigits h.bytes), take_eq_replicate hk]
    exact List.rel_append (List.forall₂_same.mpr fun _ _ => .inl rfl) hcase
  have hdec := Hex.fromHex_caseVariants hvariants
  rw [← hpadded] at hdec
  simp [storageValue, utf8Bytes, hdec]

end Decoding

/-! ### `get_storage_at` -/

section Run

variable (w : World) (namehash : String → H256) (p : Provider)

/-- Once the account resolves and the node answers with text, `get_storage_at` ends as the
decoding of the text. -/
theorem outcome_getStorageAt_reply {account : NameOrAddress} {location : H256}
    {block : Option BlockId} {addr : Address} {s : String}
    (hresolve : outcome w (p.resolveNameOrAddress namehash account) = .ok addr)
    (hreply : w.node (storageRequest addr location block) = .ok (.string s)) :
    outcome w (p.getStorageAt namehash account location block) = outcome w (storageValue s) := by
  rw [storageRequest] at hreply
  simp only [Provider.getStorageAt, outcome_bind, hresolve, Outcome.ok_bind, outcome_request_list,
    List.map_cons, List.map_nil, toJson_json, hreply]
  rfl

/-- **How `get_storage_at` reads a reply.** It returns a value exactly when the reply, with every
`0x` removed wherever it stands, is at most 64 hex digits; it panics in `H256::from_slice` exactly
when that is more than 64 digits in an even number; every other reply is a `HexError`. -/
theorem getStorageAt_reply_iff {account : NameOrAddress} {location : H256} {block : Option BlockId}
    {addr : Address} {s : String}
    (hresolve : outcome w (p.resolveNameOrAddress namehash account) = .ok addr)
    (hreply : w.node (storageRequest addr location block) = .ok (.string s)) :
    ((∃ h, outcome w (p.getStorageAt namehash account location block) = .ok h) ↔
        (∀ c ∈ Hex.remove0x s.data, Hex.isDigitChar c) ∧ (Hex.remove0x s.data).length ≤ 64) ∧
      ((∃ m, outcome w (p.getStorageAt namehash account location block) = .panic m) ↔
        (∀ c ∈ Hex.remove0x s.data, Hex.isDigitChar c) ∧ 64 < (Hex.remove0x s.data).length ∧
          (Hex.remove0x s.data).length % 2 = 0) ∧
      ∀ e, outcome w (p.getStorageAt namehash account location block) = .err e →
        ∃ he, e = .hexError he := by
  rw [outcome_getStorageAt_reply w namehash p hresolve hreply]
  exact ⟨storageValue_ok_iff w, storageValue_panic_iff w, fun _ => storageValue_err w⟩

/-- **Storage values read back, from the node.** -/
theorem getStorageAt_rendering {account : NameOrAddress} {location : H256} {block : Option BlockId}
    {addr : Address} {h : H256} {k : Nat} {pre cs : List Char}
    (hresolve : outcome w (p.resolveNameOrAddress namehash account) = .ok addr)
    (hreply : w.node (storageRequest addr location block) = .ok (.string ⟨pre ++ cs⟩))
    (hk : k ≤ leadingZeroDigits h) (hpre : pre = [] ∨ pre = ['0', 'x'])
    (hcase : List.Forall₂ Hex.CaseVariant cs ((Hex.hexDigits h.bytes).drop k)) :
    outcome w (p.getStorageAt namehash account location block) = .ok h := by
  rw [outcome_getStorageAt_reply w namehash p hresolve hreply]
  exact storageValue_rendering w hk hpre hcase

end Run

/-! ### Replies -/

/-- A node that answers every call with the text `s`. -/
def storageWorld (s : String) : World := ⟨fun _ => .ok (.string s), fun _ => .ok (), false⟩

/-- The value whose rendering is 62 zeros and `ab`. -/
def lowByteValue : H256 := ⟨List.replicate 31 0 ++ [0xab], by simp⟩

theorem getStorageAt_rendering_short :
    outcome (storageWorld ⟨['0', 'x', 'A', 'B']⟩)
        (Provider.new.getStorageAt exampleKey (.address victim) (FixedBytes.zero 32) none) =
      .ok lowByteValue :=
  @getStorageAt_rendering (storageWorld ⟨['0', 'x', 'A', 'B']⟩) exampleKey Provider.new (.address victim)
    (FixedBytes.zero 32) none victim lowByteValue 62 ['0', 'x'] ['A', 'B'] rfl rfl (by decide)
    (Or.inr rfl) (by decide)

theorem getStorageAt_inner_0x_and_long :
    (∃ h, outcome (storageWorld "120x34")
        (Provider.new.getStorageAt exampleKey (.address victim) (FixedBytes.zero 32) none) = .ok h) ∧
      ∃ m, outcome (storageWorld ⟨'0' :: 'x' :: List.replicate 66 '0'⟩)
        (Provider.new.getStorageAt exampleKey (.address victim) (FixedBytes.zero 32) none) = .panic m :=
  ⟨(@getStorageAt_reply_iff (storageWorld "120x34") exampleKey Provider.new (.address victim)
      (FixedBytes.zero 32) none victim "120x34" rfl rfl).1.mpr ⟨by decide, by decide⟩,
    (@getStorageAt_reply_iff (storageWorld ⟨'0' :: 'x' :: List.replicate 66 '0'⟩) exampleKey
      Provider.new (.address victim) (FixedBytes.zero 32) none victim
      ⟨'0' :: 'x' :: List.replicate 66 '0'⟩ rfl rfl).2.1.mpr ⟨by decide, by decide, by decide⟩⟩

end EthersProviders
