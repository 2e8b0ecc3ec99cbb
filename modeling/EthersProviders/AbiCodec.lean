import EthersProviders.Abi
import EthersProviders.Hex

/-!
# What the ABI decoder reads back

`decode_bytes` trusts the registry and the resolvers to answer in the ABI encoding. This module says
what `ethabi::decode` makes of such answers, layer by layer: `peek_32_bytes` and `take_bytes` read
bytes at byte offsets, `as_usize` reads a length word, and `String::from_utf8_lossy` reads UTF-8
back as the characters it encodes. Assembled: an address is read from any input of at least 32
bytes, from the low 20 bytes of its first 32, the other bytes unread, and in particular back from
its encoding; a string's reading is in `AbiString`.
-/

namespace EthersProviders

/-! ### UTF-8 -/

/-- The equation of `fromUtf8Lossy` on a nonempty input; Lean derives one per length of the input
only. -/
theorem fromUtf8Lossy_cons (b₀ : UInt8) (rest : List UInt8) :
    fromUtf8Lossy (b₀ :: rest) =
    if b₀ < 0x80 then Char.ofNat b₀.toNat :: fromUtf8Lossy rest
    else if 0xC2 ≤ b₀ ∧ b₀ ≤ 0xDF then
      match rest with
      | b₁ :: rest₁ =>
        if isContinuation b₁ then
          Char.ofNat ((b₀.toNat % 32) * 64 + b₁.toNat % 64) :: fromUtf8Lossy rest₁
        else REPLACEMENT_CHARACTER :: fromUtf8Lossy (b₁ :: rest₁)
      | [] => [REPLACEMENT_CHARACTER]
    else if 0xE0 ≤ b₀ ∧ b₀ ≤ 0xEF then
      match rest with
      | b₁ :: rest₁ =>
        if continuesThree b₀ b₁ then
          match rest₁ with
          | b₂ :: rest₂ =>
            if isContinuation b₂ then
              Char.ofNat ((b₀.toNat % 16) * 4096 + (b₁.toNat % 64) * 64 + b₂.toNat % 64) ::
                fromUtf8Lossy rest₂
            else REPLACEMENT_CHARACTER :: fromUtf8Lossy (b₂ :: rest₂)
          | [] => [REPLACEMENT_CHARACTER]
        else REPLACEMENT_CHARACTER :: fromUtf8Lossy (b₁ :: rest₁)
      | [] => [REPLACEMENT_CHARACTER]
    else if 0xF0 ≤ b₀ ∧ b₀ ≤ 0xF4 then
      match rest with
      | b₁ :: rest₁ =>
        if continuesFour b₀ b₁ then
          match rest₁ with
          | b₂ :: rest₂ =>
            if isContinuation b₂ then
              match rest₂ with
              | b₃ :: rest₃ =>
                if isContinuation b₃ then
                  Char.ofNat ((b₀.toNat % 8) * 262144 + (b₁.toNat % 64) * 4096 +
                    (b₂.toNat % 64) * 64 + b₃.toNat % 64) :: fromUtf8Lossy rest₃
                else REPLACEMENT_CHARACTER :: fromUtf8Lossy (b₃ :: rest₃)
              | [] => [REPLACEMENT_CHARACTER]
            else REPLACEMENT_CHARACTER :: fromUtf8Lossy (b₂ :: rest₂)
          | [] => [REPLACEMENT_CHARACTER]
        else REPLACEMENT_CHARACTER :: fromUtf8Lossy (b₁ :: rest₁)
      | [] => [REPLACEMENT_CHARACTER]
    else REPLACEMENT_CHARACTER :: fromUtf8Lossy rest := by
  rcases rest with _ | ⟨b₁, _ | ⟨b₂, _ | ⟨b₃, rest⟩⟩⟩ <;> rfl

theorem uint8_all {P : UInt8 → Prop} (h : ∀ n, n < 256 → P (UInt8.ofNat n)) (v : UInt8) : P v := by
  have hv : UInt8.ofNat v.toNat = v := UInt8.eq_of_val_eq (by simp [UInt8.ofNat, UInt8.toNat])
  exact hv ▸ h v.toNat v.toNat_lt_size

set_option maxRecDepth 4000 in
/-- The four ways `utf8EncodeChar` builds a byte: some low bits of a value under a mask, and the
tag of the byte's position. -/
theorem utf8_mask_tag (x : UInt8) :
    (x &&& 0x3f ||| 0x80) = UInt8.ofNat (0x80 + x.toNat % 64) ∧
      (x &&& 0x1f ||| 0xc0) = UInt8.ofNat (0xc0 + x.toNat % 32) ∧
      (x &&& 0x0f ||| 0xe0) = UInt8.ofNat (0xe0 + x.toNat % 16) ∧
      (x &&& 0x07 ||| 0xf0) = UInt8.ofNat (0xf0 + x.toNat % 8) :=
  uint8_all (P := fun x => (x &&& 0x3f ||| 0x80) = UInt8.ofNat (0x80 + x.toNat % 64) ∧
    (x &&& 0x1f ||| 0xc0) = UInt8.ofNat (0xc0 + x.toNat % 32) ∧
    (x &&& 0x0f ||| 0xe0) = UInt8.ofNat (0xe0 + x.toNat % 16) ∧
    (x &&& 0x07 ||| 0xf0) = UInt8.ofNat (0xf0 + x.toNat % 8)) (by decide) x

/-- The low byte of a code point shifted right by `k`. -/
theorem toNat_shift_toUInt8 (v : UInt32) (k : Nat) (hk : k < 32) :
    (v >>> UInt32.ofNat k).toUInt8.toNat = v.toNat / 2 ^ k % 256 := by
  show (BitVec.ofNat 8 (v.toBitVec >>> ((UInt32.ofNat k).mod 32).toBitVec).toNat).toNat = _
  simp [BitVec.toNat_ushiftRight, Nat.shiftRight_eq_div_pow, UInt32.mod, UInt32.ofNat]
  rw [Nat.mod_eq_of_lt (by omega : k < 4294967296), Nat.mod_eq_of_lt hk]
  rfl

/-- The bytes `utf8EncodeChar` writes for a character, as numbers. -/
theorem utf8EncodeChar_eq (c : Char) :
    String.utf8EncodeChar c =
      if c.toNat < 0x80 then [UInt8.ofNat c.toNat]
      else if c.toNat < 0x800 then
        [UInt8.ofNat (0xc0 + c.toNat / 64), UInt8.ofNat (0x80 + c.toNat % 64)]
      else if c.toNat < 0x10000 then
        [UInt8.ofNat (0xe0 + c.toNat / 4096), UInt8.ofNat (0x80 + c.toNat / 64 % 64),
          UInt8.ofNat (0x80 + c.toNat % 64)]
      else
        [UInt8.ofNat (0xf0 + c.toNat / 262144), UInt8.ofNat (0x80 + c.toNat / 4096 % 64),
          UInt8.ofNat (0x80 + c.toNat / 64 % 64), UInt8.ofNat (0x80 + c.toNat % 64)] := by
  have hvalid : c.toNat < 0xD800 ∨ (0xDFFF < c.toNat ∧ c.toNat < 0x110000) := c.valid
  have hle : ∀ k, k < 4294967296 → (c.val ≤ UInt32.ofNat k ↔ c.toNat ≤ k) := fun k hk => by
    rw [UInt32.le_def, BitVec.le_def]
    show c.toNat ≤ (UInt32.ofNat k).toNat ↔ _
    simp [UInt32.ofNat, UInt32.toNat, BitVec.toNat_ofNat, Nat.mod_eq_of_lt hk]
  have h0 : c.val.toUInt8.toNat = c.toNat % 256 := by
    show (BitVec.ofNat 8 c.val.toNat).toNat = _
    simp [BitVec.toNat_ofNat]; rfl
  have h6 : (c.val >>> 6).toUInt8.toNat = c.toNat / 64 % 256 := toNat_shift_toUInt8 c.val 6 (by omega)
  have h12 : (c.val >>> 12).toUInt8.toNat = c.toNat / 4096 % 256 :=
    toNat_shift_toUInt8 c.val 12 (by omega)
  have h18 : (c.val >>> 18).toUInt8.toNat = c.toNat / 262144 % 256 :=
    toNat_shift_toUInt8 c.val 18 (by omega)
  unfold String.utf8EncodeChar
  simp only [show (0x7f : UInt32) = UInt32.ofNat 0x7f from rfl,
    show (0x7ff : UInt32) = UInt32.ofNat 0x7ff from rfl,
    show (0xffff : UInt32) = UInt32.ofNat 0xffff from rfl, hle _ (by omega : 0x7f < 4294967296),
    hle _ (by omega : 0x7ff < 4294967296), hle _ (by omega : 0xffff < 4294967296),
    (utf8_mask_tag _).1, (utf8_mask_tag _).2.1, (utf8_mask_tag _).2.2.1, (utf8_mask_tag _).2.2.2,
    h0, h6, h12, h18, show c.toNat ≤ 0x7f ↔ c.toNat < 0x80 by omega,
    show c.toNat ≤ 0x7ff ↔ c.toNat < 0x800 by omega, show c.toNat ≤ 0xffff ↔ c.toNat < 0x10000 by omega]
  rw [show c.val.toUInt8 = UInt8.ofNat c.toNat from rfl]
  -- Both sides now branch on the same three tests.
  split_ifs <;> simp only [List.cons.injEq, and_true] <;> (repeat' apply And.intro) <;> congr 1 <;> omega

/-- Comparisons of a byte whose value is `k`. -/
theorem byte_compare {x : UInt8} {k : Nat} (hx : x.toNat = k) (m : UInt8) :
    (x < m ↔ k < m.toNat) ∧ (m ≤ x ↔ m.toNat ≤ k) ∧ (x ≤ m ↔ k ≤ m.toNat) ∧ (x = m ↔ k = m.toNat) := by
  subst hx
  exact ⟨Iff.rfl, Iff.rfl, Iff.rfl, ⟨congrArg _, UInt8.toNat.inj⟩⟩

theorem isContinuation_ofNat {b : Nat} (hb : 0x80 ≤ b ∧ b ≤ 0xBF) :
    isContinuation (UInt8.ofNat b) = true := by
  have hb' := UInt8.toNat_ofNat_of_lt (show b < 256 by omega)
  simp only [isContinuation, Bool.and_eq_true, decide_eq_true_eq, byte_compare hb', UInt8.reduceToNat]
  exact hb

theorem fromUtf8Lossy_one {a : Nat} (ha : a < 0x80) (rest : List UInt8) :
    fromUtf8Lossy (UInt8.ofNat a :: rest) = Char.ofNat a :: fromUtf8Lossy rest := by
  have ha' := UInt8.toNat_ofNat_of_lt (show a < 256 by omega)
  rw [fromUtf8Lossy_cons, if_pos ((byte_compare ha' 0x80).1.mpr ha), ha']

theorem fromUtf8Lossy_two {a b : Nat} (ha : 0xC2 ≤ a ∧ a ≤ 0xDF) (hb : 0x80 ≤ b ∧ b ≤ 0xBF)
    (rest : List UInt8) :
    fromUtf8Lossy (UInt8.ofNat a :: UInt8.ofNat b :: rest) =
      Char.ofNat (a % 32 * 64 + b % 64) :: fromUtf8Lossy rest := by
  have ha' := UInt8.toNat_ofNat_of_lt (show a < 256 by omega)
  have hb' := UInt8.toNat_ofNat_of_lt (show b < 256 by omega)
  rw [fromUtf8Lossy_cons]
  simp only [byte_compare ha', ha', hb', UInt8.reduceToNat, isContinuation_ofNat hb]
  rw [if_neg (by omega), if_pos ha]
  rfl

theorem fromUtf8Lossy_three {a b c : Nat} (ha : 0xE0 ≤ a ∧ a ≤ 0xEF)
    (hb : 0x80 ≤ b ∧ b ≤ 0xBF ∧ (a = 0xE0 → 0xA0 ≤ b) ∧ (a = 0xED → b ≤ 0x9F))
    (hc : 0x80 ≤ c ∧ c ≤ 0xBF) (rest : List UInt8) :
    fromUtf8Lossy (UInt8.ofNat a :: UInt8.ofNat b :: UInt8.ofNat c :: rest) =
      Char.ofNat (a % 16 * 4096 + b % 64 * 64 + c % 64) :: fromUtf8Lossy rest := by
  have ha' := UInt8.toNat_ofNat_of_lt (show a < 256 by omega)
  have hb' := UInt8.toNat_ofNat_of_lt (show b < 256 by omega)
  have hc' := UInt8.toNat_ofNat_of_lt (show c < 256 by omega)
  have hsecond : continuesThree (UInt8.ofNat a) (UInt8.ofNat b) = true := by
    simp only [continuesThree, isContinuation, Bool.and_eq_true, decide_eq_true_eq, byte_compare ha',
      byte_compare hb', UInt8.reduceToNat]
    split_ifs <;> simp only [Bool.and_eq_true, decide_eq_true_eq] <;> omega
  rw [fromUtf8Lossy_cons]
  simp only [byte_compare ha', ha', hb', hc', UInt8.reduceToNat, hsecond, isContinuation_ofNat hc]
  rw [if_neg (by omega), if_neg (by omega), if_pos ha]
  rfl

theorem fromUtf8Lossy_four {a b c d : Nat} (ha : 0xF0 ≤ a ∧ a ≤ 0xF4)
    (hb : 0x80 ≤ b ∧ b ≤ 0xBF ∧ (a = 0xF0 → 0x90 ≤ b) ∧ (a = 0xF4 → b ≤ 0x8F))
    (hc : 0x80 ≤ c ∧ c ≤ 0xBF) (hd : 0x80 ≤ d ∧ d ≤ 0xBF) (rest : List UInt8) :
    fromUtf8Lossy (UInt8.ofNat a :: UInt8.ofNat b :: UInt8.ofNat c :: UInt8.ofNat d :: rest) =
      Char.ofNat (a % 8 * 262144 + b % 64 * 4096 + c % 64 * 64 + d % 64) :: fromUtf8Lossy rest := by
  have ha' := UInt8.toNat_ofNat_of_lt (show a < 256 by omega)
  have hb' := UInt8.toNat_ofNat_of_lt (show b < 256 by omega)
  have hc' := UInt8.toNat_ofNat_of_lt (show c < 256 by omega)
  have hd' := UInt8.toNat_ofNat_of_lt (show d < 256 by omega)
  have hsecond : continuesFour (UInt8.ofNat a) (UInt8.ofNat b) = true := by
    simp only [continuesFour, isContinuation, Bool.and_eq_true, decide_eq_true_eq, byte_compare ha',
      byte_compare hb', UInt8.reduceToNat]
    split_ifs <;> simp only [Bool.and_eq_true, decide_eq_true_eq] <;> omega
  rw [fromUtf8Lossy_cons]
  simp only [byte_compare ha', ha', hb', hc', hd', UInt8.reduceToNat, hsecond, isContinuation_ofNat hc,
    isContinuation_ofNat hd]
  rw [if_neg (by omega), if_neg (by omega), if_neg (by omega), if_pos ha]
  rfl

/-- `from_utf8_lossy` reads a character's UTF-8 bytes back as the character, with nothing
replaced: the bytes of a scalar value pass every check of `core::str::validations`, overlong forms,
surrogates and values past `U+10FFFF` included. -/
theorem fromUtf8Lossy_utf8EncodeChar (c : Char) (rest : List UInt8) :
    fromUtf8Lossy (String.utf8EncodeChar c ++ rest) = c :: fromUtf8Lossy rest := by
  have hvalid : c.toNat < 0xD800 ∨ (0xDFFF < c.toNat ∧ c.toNat < 0x110000) := c.valid
  have hc : ∀ n, n = c.toNat → Char.ofNat n = c := fun n hn => hn ▸ Char.ofNat_toNat c
  -- A continuation byte carries six bits under its tag.
  have htag : ∀ k, (0x80 + k % 64) % 64 = k % 64 := fun k => by omega
  rw [utf8EncodeChar_eq]
  split_ifs with h1 h2 h3
  · rw [List.singleton_append, fromUtf8Lossy_one h1, hc _ rfl]
  · rw [List.cons_append, List.singleton_append, fromUtf8Lossy_two (by omega) (by omega)]
    simp only [htag, hc _ (by omega : (0xc0 + c.toNat / 64) % 32 * 64 + c.toNat % 64 = c.toNat)]
  · rw [List.cons_append, List.cons_append, List.singleton_append,
      fromUtf8Lossy_three (by omega) (by omega) (by omega)]
    simp only [htag, hc _ (by omega : (0xe0 + c.toNat / 4096) % 16 * 4096 + c.toNat / 64 % 64 * 64 +
      c.toNat % 64 = c.toNat)]
  · rw [List.cons_append, List.cons_append, List.cons_append, List.singleton_append,
      fromUtf8Lossy_four (by omega) (by omega) (by omega) (by omega)]
    simp only [htag, hc _ (by omega : (0xf0 + c.toNat / 262144) % 8 * 262144 + c.toNat / 4096 % 64 * 4096 +
      c.toNat / 64 % 64 * 64 + c.toNat % 64 = c.toNat)]

/-- The UTF-8 bytes of a text read back as its characters. -/
theorem fromUtf8Lossy_utf8Bytes (s : String) : fromUtf8Lossy (utf8Bytes s) = s.data := by
  unfold utf8Bytes
  induction s.data with
  | nil => rfl
  | cons c cs ih => rw [List.flatMap_cons, fromUtf8Lossy_utf8EncodeChar, ih]

namespace Abi

/-! ### Reading at byte offsets -/

theorem peek32Bytes_eq_ok_iff {data : List UInt8} {offset : Nat} {w : Word} :
    peek32Bytes data offset = .ok w ↔ offset + 32 ≤ data.length ∧ w.bytes = (data.drop offset).take 32 := by
  unfold peek32Bytes
  split
  · exact iff_of_false (by simp) fun h => by omega
  · rw [Except.ok.injEq]
    exact ⟨fun h => h ▸ ⟨by omega, rfl⟩, fun h => FixedBytes.ext h.2.symm⟩

theorem takeBytes_eq_ok_iff {data : List UInt8} {offset len : Nat} {bytes : List UInt8} :
    takeBytes data offset len = .ok bytes ↔
      offset + len ≤ data.length ∧ bytes = (data.drop offset).take len := by
  unfold takeBytes
  split
  · exact iff_of_false (by simp) fun h => by omega
  · rw [Except.ok.injEq]
    exact ⟨fun h => ⟨by omega, h.symm⟩, fun h => h.2.symm⟩

/-- Decoding one parameter from nonempty input is decoding it at byte 0. -/
theorem decode_single_eq {param : ParamType} {data : List UInt8} (hne : data ≠ []) :
    decode [param] data = (fun r => [r.1]) <$> decodeParam param data 0 := by
  unfold decode
  rw [show data.isEmpty = false from
    List.isEmpty_eq_false_iff_exists_mem.mpr (List.exists_mem_of_ne_nil _ hne)]
  simp only [List.foldlM_cons, List.foldlM_nil, Bool.false_eq_true, if_false, bind, Except.bind, pure,
    Except.pure]
  generalize decodeParam param data 0 = r
  rcases r with e | ⟨t, n⟩ <;> rfl

@[simp] theorem length_uintWord (n : Nat) : (uintWord n).length = 32 := by simp [uintWord]

/-- The word of a number below `2 ^ 32`: 28 zero bytes and the number's four. -/
theorem uintWord_of_lt {n : Nat} (h : n < 2 ^ 32) :
    uintWord n = List.replicate 28 (0 : UInt8) ++
      [UInt8.ofNat (n >>> 24), UInt8.ofNat (n >>> 16), UInt8.ofNat (n >>> 8), UInt8.ofNat n] := by
  apply List.ext_getElem (by simp)
  intro i h₁ h₂
  simp only [uintWord, List.getElem_map, List.getElem_reverse, List.getElem_range, List.length_range]
  by_cases hi : i < 28
  · rw [List.getElem_append_left (by simpa using hi), List.getElem_replicate]
    have hzero : n >>> (8 * (32 - 1 - i)) = 0 := by
      rw [Nat.shiftRight_eq_div_pow,
        Nat.div_eq_of_lt (lt_of_lt_of_le h (Nat.pow_le_pow_right (by omega) (by omega)))]
    rw [hzero]; rfl
  · rw [List.getElem_append_right (by simp; omega)]
    simp only [List.length_replicate]
    have : i = 28 ∨ i = 29 ∨ i = 30 ∨ i = 31 := by simp at h₁; omega
    rcases this with rfl | rfl | rfl | rfl <;> rfl

theorem toNat_uint8_ofNat (k : Nat) : (UInt8.ofNat k).toNat = k % 256 := by
  show (BitVec.ofNat 8 k).toNat = _
  simp [BitVec.toNat_ofNat]

/-- `as_usize` reads back a number below `2 ^ 32` from its word. -/
theorem asUsize_uintWord {n : Nat} (h : n < 2 ^ 32) :
    asUsize ⟨uintWord n, length_uintWord n⟩ = .ok n := by
  simp only [asUsize, uintWord_of_lt h, List.take_left' (List.length_replicate 28 _),
    List.drop_left' (List.length_replicate 28 _),
    if_pos (show (List.replicate 28 (0 : UInt8)).all (· = 0) by decide)]
  simp only [List.foldl, toNat_uint8_ofNat, Nat.shiftRight_eq_div_pow, Except.ok.injEq]
  omega

/-- **What `as_usize` accepts.** A word reads as `n` exactly when it is the word of `n`, and `n` is
below `2 ^ 32`. -/
theorem asUsize_eq_ok_iff {w : Word} {n : Nat} : asUsize w = .ok n ↔ n < 2 ^ 32 ∧ w.bytes = uintWord n := by
  refine ⟨fun h => ?_, fun ⟨hn, hw⟩ => ?_⟩
  · obtain ⟨bytes, hlen⟩ := w
    unfold asUsize at h
    split at h
    · rename_i hzero
      obtain ⟨b₀, b₁, b₂, b₃, hlow⟩ : ∃ b₀ b₁ b₂ b₃ : UInt8, bytes.drop 28 = [b₀, b₁, b₂, b₃] := by
        rcases hd : bytes.drop 28 with _ | ⟨b₀, _ | ⟨b₁, _ | ⟨b₂, _ | ⟨b₃, _ | ⟨b₄, rest⟩⟩⟩⟩⟩ <;>
          have := congrArg List.length hd <;> simp [hlen] at this
        exact ⟨b₀, b₁, b₂, b₃, rfl⟩
      have hhigh : bytes.take 28 = List.replicate 28 0 :=
        List.eq_replicate_iff.mpr ⟨by simp [hlen], by simpa using hzero⟩
      simp only [hlow, List.foldl, Except.ok.injEq] at h
      subst h
      have h₀ := b₀.toNat_lt_size; have h₁ := b₁.toNat_lt_size
      have h₂ := b₂.toNat_lt_size; have h₃ := b₃.toNat_lt_size
      simp only [UInt8.size] at h₀ h₁ h₂ h₃
      refine ⟨by omega, show bytes = _ from ?_⟩
      rw [← List.take_append_drop 28 bytes, hhigh, hlow, uintWord_of_lt (by omega)]
      simp only [List.append_cancel_left_eq, List.cons.injEq, and_true, Nat.shiftRight_eq_div_pow]
      refine ⟨?_, ?_, ?_, ?_⟩ <;> exact UInt8.toNat.inj (by rw [toNat_uint8_ofNat]; omega)
    · cases h
  · obtain rfl : w = ⟨uintWord n, length_uintWord n⟩ := FixedBytes.ext hw
    exact asUsize_uintWord hn

/-! ### Addresses -/

/-- What `decode` reads from `data` as an address: `a` is the low 20 bytes of the first 32 bytes,
and the input has them. No other byte is read. -/
def ReadsAddress (data : List UInt8) (a : Address) : Prop :=
  32 ≤ data.length ∧ a.bytes = (data.take 32).drop 12

theorem ReadsAddress.unique {data : List UInt8} {a b : Address} (ha : ReadsAddress data a)
    (hb : ReadsAddress data b) : a = b :=
  FixedBytes.ext (ha.2.trans hb.2.symm)

/-- **What an address is decoded from.** Input of at least 32 bytes decodes to the address in the
low 20 bytes of its first 32, the other bytes unread; shorter input is refused. -/
theorem decode_address_cases (data : List UInt8) :
    (∃ a, decode [.address] data = .ok [.address a] ∧ ReadsAddress data a) ∨
      ((∃ e, decode [.address] data = .error e) ∧ data.length < 32) := by
  by_cases hlen : 32 ≤ data.length
  · have hne : data ≠ [] := fun h => by simp [h] at hlen
    refine .inl ⟨⟨(data.take 32).drop 12, by simp; omega⟩, ?_, hlen, rfl⟩
    rw [decode_single_eq hne]
    simp only [decodeParam, peek32Bytes, dif_neg (show ¬ 0 + 32 > data.length by omega)]
    rfl
  · refine .inr ⟨?_, by omega⟩
    by_cases hnil : data = []
    · exact ⟨_, by rw [hnil]; rfl⟩
    · rw [decode_single_eq hnil]
      simp only [decodeParam, peek32Bytes, dif_pos (show 0 + 32 > data.length by omega)]
      exact ⟨_, rfl⟩

/-- A reply one byte longer than a word still reads as the address in its first word. -/
example : decode [.address] (List.replicate 32 0 ++ [0xFF]) = .ok [.address (FixedBytes.zero 20)] := rfl

theorem accepts_address_iff (data : List UInt8) : Accepts .address data ↔ 32 ≤ data.length := by
  rcases decode_address_cases data with ⟨a, hdecode, hreads⟩ | ⟨⟨e, hdecode⟩, hshort⟩
  · exact iff_of_true ⟨_, hdecode⟩ hreads.1
  · exact iff_of_false (fun ⟨_, hok⟩ => by rw [hdecode] at hok; cases hok) (by omega)

theorem decode_encodeAddress (a : Address) : decode [.address] (encodeAddress a) = .ok [.address a] := by
  have hlen : (encodeAddress a).length = 32 := by simp [encodeAddress, a.length_bytes]
  rcases decode_address_cases (encodeAddress a) with ⟨b, hdecode, -, hb⟩ | ⟨-, hshort⟩
  · have hba : b = a := FixedBytes.ext <| by
      rw [hb, List.take_of_length_le hlen.le, encodeAddress, List.drop_left' (List.length_replicate 12 _)]
    rw [hdecode, hba]
  · omega

end Abi

end EthersProviders
