import EthersProviders.Types
import Mathlib.Data.String.Lemmas
import Mathlib.Tactic.IntervalCases

/-!
# Hex text

Two calls of `provider.rs` turn the node's text into bytes. `sign` strips one optional `0x` and calls
`hex::decode`; `get_storage_at` removes every `0x`, pads the rest to 64 digits and calls
`Vec::from_hex`. Both are the `hex` crate's `FromHex for Vec<u8>`, which reads the UTF-8 bytes of the
text, refuses an odd length before anything else, and then reads two digits per byte, in either
letter case. This module models that decoder and the string operations around it, and proves the round
trip the node's replies rely on: the digits of a byte string, each in either case, decode to it.
-/

namespace EthersProviders

/-- The bytes of `s.as_bytes()`, the UTF-8 encoding `String.toUTF8` computes. -/
def utf8Bytes (s : String) : List UInt8 := s.data.flatMap String.utf8EncodeChar

theorem utf8Bytes_eq_toUTF8 (s : String) : utf8Bytes s = s.toUTF8.data.toList := rfl

/-- An ASCII character is one byte of UTF-8, its code. -/
theorem utf8EncodeChar_of_ascii {c : Char} (h : c.toNat < 128) :
    String.utf8EncodeChar c = [UInt8.ofNat c.toNat] := by
  have hval : c.val ≤ 0x7f := by
    rw [UInt32.le_def]
    show c.val.toNat ≤ 127
    exact Nat.lt_succ_iff.mp h
  simp [String.utf8EncodeChar, hval]
  rfl

namespace Hex

/-- `val(c, idx)`: the value of one hex digit, or the character and the index it failed at. -/
def val (c : UInt8) (idx : Nat) : Except FromHexError UInt8 :=
  if 65 ≤ c ∧ c ≤ 70 then .ok (c - 65 + 10)
  else if 97 ≤ c ∧ c ≤ 102 then .ok (c - 97 + 10)
  else if 48 ≤ c ∧ c ≤ 57 then .ok (c - 48)
  else .error (.invalidHexCharacter (Char.ofNat c.toNat) idx)

/-- The pairs of `FromHex for Vec<u8>`: pair `i` is the digits at `2 * i` and `2 * i + 1`, and the
first digit that is not one ends the decoding. -/
def decodePairs : List UInt8 → Nat → Except FromHexError (List UInt8)
  | hi :: lo :: rest, i => do
    let high ← val hi (2 * i)
    let low ← val lo (2 * i + 1)
    let tail ← decodePairs rest (i + 1)
    return (high <<< 4 ||| low) :: tail
  | _, _ => .ok []

/-- `Vec::from_hex`, and `hex::decode`: an odd length is refused before any digit is read. -/
def fromHex (hex : List UInt8) : Except FromHexError (List UInt8) :=
  if hex.length % 2 ≠ 0 then .error .oddLength else decodePairs hex 0

/-- The lowercase digits of a byte string, high half first, as `hex::encode` writes them. -/
def hexDigits (bytes : List UInt8) : List Char :=
  bytes.flatMap fun b => [Nat.digitChar (b.toNat / 16), Nat.digitChar (b.toNat % 16)]

/-- `c` is the digit `d` in either letter case. -/
def CaseVariant (c d : Char) : Prop := c = d ∨ c = d.toUpper

instance : DecidableRel CaseVariant := fun c d => inferInstanceAs (Decidable (c = d ∨ c = d.toUpper))

@[simp] theorem hexDigits_nil : hexDigits [] = [] := rfl

@[simp] theorem hexDigits_cons (b : UInt8) (bytes : List UInt8) :
    hexDigits (b :: bytes) =
      Nat.digitChar (b.toNat / 16) :: Nat.digitChar (b.toNat % 16) :: hexDigits bytes := rfl

@[simp] theorem length_hexDigits (bytes : List UInt8) :
    (hexDigits bytes).length = 2 * bytes.length := by
  induction bytes <;> simp [*]; omega

/-! ### The round trip -/

/-- Each of the sixteen digits, in either case, is one ASCII byte that `val` reads back. -/
theorem val_caseVariant {d : Nat} (hd : d < 16) {c : Char} (hc : CaseVariant c (Nat.digitChar d)) :
    c.toNat < 128 ∧ ∀ idx, val (UInt8.ofNat c.toNat) idx = .ok (UInt8.ofNat d) := by
  interval_cases d <;> rcases hc with rfl | rfl <;> exact ⟨by decide, fun _ => rfl⟩

private theorem halves :
    ∀ h, h < 16 → ∀ l, l < 16 → (UInt8.ofNat h <<< 4 ||| UInt8.ofNat l).toNat = h * 16 + l := by
  decide

/-- A byte is its high digit shifted over its low digit. -/
theorem byte_halves (b : UInt8) :
    (UInt8.ofNat (b.toNat / 16) <<< 4 ||| UInt8.ofNat (b.toNat % 16)) = b := by
  apply UInt8.toNat.inj
  have hb := b.toNat_lt_size
  rw [halves _ (by simp [UInt8.size] at hb; omega) _ (by omega)]
  omega

/-- The bytes of case-variant digits: one per digit, read back two at a time. -/
theorem decodePairs_caseVariants {bytes : List UInt8} {digits : List Char}
    (hdigits : List.Forall₂ CaseVariant digits (hexDigits bytes)) (i : Nat) :
    (digits.flatMap String.utf8EncodeChar).length = 2 * bytes.length ∧
      decodePairs (digits.flatMap String.utf8EncodeChar) i = .ok bytes := by
  induction bytes generalizing digits i with
  | nil => cases hdigits; exact ⟨rfl, rfl⟩
  | cons b bytes ih =>
    rw [hexDigits_cons] at hdigits
    rcases hdigits with _ | ⟨h₁, _ | ⟨h₂, hrest⟩⟩
    have hb : b.toNat < 256 := b.toNat_lt_size
    obtain ⟨ha₁, hv₁⟩ := val_caseVariant (by omega) h₁
    obtain ⟨ha₂, hv₂⟩ := val_caseVariant (by omega) h₂
    obtain ⟨hlength, hdecode⟩ := ih hrest (i + 1)
    simp only [List.flatMap_cons, utf8EncodeChar_of_ascii ha₁, utf8EncodeChar_of_ascii ha₂,
      List.singleton_append, List.length_cons, hlength, List.length_cons]
    refine ⟨by omega, ?_⟩
    simp [decodePairs, hv₁, hv₂, hdecode, byte_halves, bind, Except.bind, pure, Except.pure]

/-- **Hex round trip.** The digits of a byte string, each in either letter case, decode to it. -/
theorem fromHex_caseVariants {bytes : List UInt8} {digits : List Char}
    (hdigits : List.Forall₂ CaseVariant digits (hexDigits bytes)) :
    fromHex (digits.flatMap String.utf8EncodeChar) = .ok bytes := by
  obtain ⟨hlength, hdecode⟩ := decodePairs_caseVariants hdigits 0
  simp [fromHex, hlength, hdecode]

/-! ### What the decoder accepts -/

/-- The codes of the digits `val` reads: `A` to `F`, `a` to `f` and `0` to `9`. -/
def digitCode (n : Nat) : Bool := (65 ≤ n && n ≤ 70) || (97 ≤ n && n ≤ 102) || (48 ≤ n && n ≤ 57)

/-- A byte `val` reads as a digit. -/
def isDigit (c : UInt8) : Bool := digitCode c.toNat

/-- A hex digit character, in either case. -/
def isDigitChar (c : Char) : Bool := digitCode c.toNat

theorem lt_of_digitCode {n : Nat} (h : digitCode n) : n < 128 := by
  simp [digitCode] at h; omega

theorem val_ok_iff (c : UInt8) (idx : Nat) : (∃ v, val c idx = .ok v) ↔ isDigit c := by
  simp only [val, isDigit, digitCode, UInt8.le_def, BitVec.le_def, UInt8.toNat]
  split_ifs <;> simp_all

/-- Digits decode two at a time, whatever their number; an odd last one is left over. -/
theorem decodePairs_of_digits {bytes : List UInt8} (h : ∀ b ∈ bytes, isDigit b) (i : Nat) :
    ∃ out, decodePairs bytes i = .ok out ∧ out.length = bytes.length / 2 := by
  induction bytes, i using decodePairs.induct with
  | case1 hi lo rest i ih =>
    simp only [List.mem_cons, forall_eq_or_imp] at h
    obtain ⟨v₁, hv₁⟩ := (val_ok_iff hi (2 * i)).mpr h.1
    obtain ⟨v₂, hv₂⟩ := (val_ok_iff lo (2 * i + 1)).mpr h.2.1
    obtain ⟨tail, htail, hlength⟩ := ih h.2.2
    refine ⟨(v₁ <<< 4 ||| v₂) :: tail,
      by simp [decodePairs, hv₁, hv₂, htail, bind, Except.bind, pure, Except.pure], ?_⟩
    simp [hlength]; omega
  | case2 bytes i hshort =>
    refine ⟨[], by rw [decodePairs.eq_2 _ _ hshort], ?_⟩
    match bytes, hshort with
    | [], _ | [_], _ => simp
    | _ :: _ :: _, hshort => exact absurd rfl (hshort _ _ _)

theorem digits_of_decodePairs {bytes : List UInt8} {i : Nat} {out : List UInt8}
    (heven : bytes.length % 2 = 0) (h : decodePairs bytes i = .ok out) : ∀ b ∈ bytes, isDigit b := by
  induction bytes, i using decodePairs.induct generalizing out with
  | case1 hi lo rest i ih =>
    simp only [decodePairs, Except.bind_eq_ok] at h
    obtain ⟨v₁, hv₁, v₂, hv₂, tail, htail, -⟩ := h
    simp only [List.mem_cons, forall_eq_or_imp]
    exact ⟨(val_ok_iff _ _).mp ⟨_, hv₁⟩, (val_ok_iff _ _).mp ⟨_, hv₂⟩,
      ih (by simp only [List.length_cons] at heven; omega) htail⟩
  | case2 bytes i hshort =>
    match bytes, hshort with
    | [], _ => simp
    | [_], _ => simp at heven
    | _ :: _ :: _, hshort => exact absurd rfl (hshort _ _ _)

/-- **What `from_hex` accepts.** An even number of digit bytes. -/
theorem fromHex_ok_iff (hex : List UInt8) :
    (∃ bytes, fromHex hex = .ok bytes) ↔ hex.length % 2 = 0 ∧ ∀ b ∈ hex, isDigit b := by
  unfold fromHex
  split_ifs with hodd
  · simp [hodd]
  · refine ⟨fun ⟨_, h⟩ => ⟨by omega, digits_of_decodePairs (by omega) h⟩, fun ⟨_, hdigits⟩ => ?_⟩
    obtain ⟨out, h, -⟩ := decodePairs_of_digits hdigits 0
    exact ⟨out, h⟩

/-- One byte for every two digits. -/
theorem length_fromHex {hex bytes : List UInt8} (h : fromHex hex = .ok bytes) :
    2 * bytes.length = hex.length := by
  obtain ⟨heven, hdigits⟩ := (fromHex_ok_iff hex).mp ⟨_, h⟩
  obtain ⟨out, hout, hlength⟩ := decodePairs_of_digits hdigits 0
  have : fromHex hex = .ok out := by simp [fromHex, heven, hout]
  rw [h, Except.ok.injEq] at this
  subst this
  omega

theorem le_toNat_or_0x80 (x : UInt8) : 128 ≤ (x ||| 0x80).toNat := by
  have h : (x ||| 0x80).toNat = x.toNat ||| 128 := BitVec.toNat_or _ _
  have hbit : Nat.testBit 128 7 = true := by decide
  rw [h]
  exact Nat.testBit_implies_ge (by simp [hbit] : Nat.testBit (x.toNat ||| 128) 7 = true)

/-- The UTF-8 encoding of a character past ASCII ends in a continuation byte. -/
theorem exists_high_byte {c : Char} (h : 128 ≤ c.toNat) :
    ∃ b ∈ String.utf8EncodeChar c, 128 ≤ b.toNat := by
  refine ⟨c.val.toUInt8 &&& 0x3f ||| 0x80, ?_, le_toNat_or_0x80 _⟩
  have hval : ¬ c.val ≤ 0x7f := by
    rw [UInt32.le_def]
    show ¬ c.val.toNat ≤ 127
    exact Nat.not_le.mpr h
  unfold String.utf8EncodeChar
  simp only [hval, if_false]
  split_ifs <;> simp

/-- A character's UTF-8 bytes are digits exactly when it is a hex digit. -/
theorem utf8EncodeChar_digits_iff (c : Char) :
    (∀ b ∈ String.utf8EncodeChar c, isDigit b) ↔ isDigitChar c := by
  by_cases hc : c.toNat < 128
  · have hsize : c.toNat < UInt8.size := by simp [UInt8.size]; omega
    simp [utf8EncodeChar_of_ascii hc, isDigit, isDigitChar, UInt8.toNat_ofNat_of_lt hsize]
  · obtain ⟨b, hb, hhigh⟩ := exists_high_byte (Nat.not_lt.mp hc)
    refine iff_of_false (fun hall => ?_) (fun hd => hc (lt_of_digitCode hd))
    exact absurd (lt_of_digitCode (hall b hb)) (by omega)

theorem length_utf8_of_digits {cs : List Char} (h : ∀ c ∈ cs, isDigitChar c) :
    (cs.flatMap String.utf8EncodeChar).length = cs.length := by
  induction cs with
  | nil => rfl
  | cons c cs ih =>
    simp only [List.mem_cons, forall_eq_or_imp] at h
    simp [utf8EncodeChar_of_ascii (lt_of_digitCode h.1), ih h.2]

/-- **What `from_hex` accepts, as text.** An even number of hex digits, in either case. -/
theorem fromHex_text_ok_iff (cs : List Char) :
    (∃ bytes, fromHex (cs.flatMap String.utf8EncodeChar) = .ok bytes) ↔
      cs.length % 2 = 0 ∧ ∀ c ∈ cs, isDigitChar c := by
  have hdigits : (∀ b ∈ cs.flatMap String.utf8EncodeChar, isDigit b) ↔ ∀ c ∈ cs, isDigitChar c :=
    ⟨fun h c hc => (utf8EncodeChar_digits_iff c).mp fun b hb => h b (List.mem_flatMap.mpr ⟨c, hc, hb⟩),
      fun h b hb => by
        obtain ⟨c, hc, hb⟩ := List.mem_flatMap.mp hb
        exact (utf8EncodeChar_digits_iff c).mpr (h c hc) b hb⟩
  rw [fromHex_ok_iff, hdigits]
  exact ⟨fun ⟨heven, h⟩ => ⟨length_utf8_of_digits h ▸ heven, h⟩,
    fun ⟨heven, h⟩ => ⟨(length_utf8_of_digits h).symm ▸ heven, h⟩⟩

theorem length_fromHex_text {cs : List Char} {bytes : List UInt8}
    (h : fromHex (cs.flatMap String.utf8EncodeChar) = .ok bytes) : 2 * bytes.length = cs.length := by
  rw [length_fromHex h, length_utf8_of_digits ((fromHex_text_ok_iff cs).mp ⟨_, h⟩).2]

/-- The digits of a byte string are hex digits. -/
theorem mem_hexDigits {c : Char} {bytes : List UInt8} (h : c ∈ hexDigits bytes) :
    ∃ d < 16, c = Nat.digitChar d := by
  induction bytes with
  | nil => simp at h
  | cons b bytes ih =>
    have hb : b.toNat < 256 := b.toNat_lt_size
    simp only [hexDigits_cons, List.mem_cons] at h
    rcases h with rfl | rfl | h
    · exact ⟨_, by omega, rfl⟩
    · exact ⟨_, by omega, rfl⟩
    · exact ih h

theorem isDigitChar_of_caseVariant {d : Nat} (hd : d < 16) {c : Char}
    (hc : CaseVariant c (Nat.digitChar d)) : isDigitChar c := by
  obtain ⟨hascii, hval⟩ := val_caseVariant hd hc
  have hsize : c.toNat < UInt8.size := by simp [UInt8.size]; omega
  simpa [isDigit, isDigitChar, UInt8.toNat_ofNat_of_lt hsize] using (val_ok_iff _ 0).mp ⟨_, hval 0⟩

/-- Case variants of hex digits are hex digits. -/
theorem isDigitChar_of_caseVariants {cs ds : List Char} (h : List.Forall₂ CaseVariant cs ds)
    (hds : ∀ d ∈ ds, ∃ n < 16, d = Nat.digitChar n) : ∀ c ∈ cs, isDigitChar c := by
  induction h with
  | nil => simp
  | cons hc _ ih =>
    simp only [List.mem_cons, forall_eq_or_imp] at hds ⊢
    obtain ⟨n, hn, rfl⟩ := hds.1
    exact ⟨isDigitChar_of_caseVariant hn hc, ih hds.2⟩

/-! ### The text around the digits -/

/-- `s.strip_prefix("0x").unwrap_or(&s)`: one leading `0x`, if there is one, is dropped. -/
def stripPrefix0x (s : String) : String :=
  match s.data with
  | '0' :: 'x' :: rest => ⟨rest⟩
  | _ => s

/-- The characters of `s.replace("0x", "")`: every `0x`, wherever it stands, is dropped. -/
def remove0x : List Char → List Char
  | '0' :: 'x' :: rest => remove0x rest
  | c :: rest => c :: remove0x rest
  | [] => []

/-- `s.replace("0x", "")`. -/
def replace0x (s : String) : String := ⟨remove0x s.data⟩

@[simp] theorem remove0x_zero_x (rest : List Char) : remove0x ('0' :: 'x' :: rest) = remove0x rest := by
  simp [remove0x]

/-- Text without an `x` has no `0x` to remove. -/
theorem remove0x_of_not_mem {cs : List Char} (h : 'x' ∉ cs) : remove0x cs = cs := by
  induction cs using remove0x.induct with
  | case1 rest _ => simp at h
  | case2 c rest hnot ih =>
    simp only [List.mem_cons, not_or] at h
    rw [remove0x.eq_2 c rest hnot, ih h.2]
  | case3 => rfl

end Hex

end EthersProviders
