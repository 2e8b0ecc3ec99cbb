import EthersProviders.AbiCodec

/-!
# What the ABI decoder reads as a string

`lookup_address` trusts the resolver's answer to be one ABI-encoded string, and `decode_bytes`
panics on anything `ethabi::decode` refuses. Here is exactly what it accepts and what it reads: the
first word of the input holds an offset, the word at that byte offset holds a length, and that many
bytes follow it inside the input. Those bytes are read as UTF-8 with every broken sequence
replaced, so any bytes at all make a string; what is refused is a layout that runs past the end of
the input. The offset need not be 32, the input need not be whole words, and the bytes outside
those read are never looked at, so many inputs decode to the same string.
-/

namespace EthersProviders

namespace Abi

/-- The layout `decode` follows to a string: the first word is the word of the offset `offset`,
the word at that byte offset is the word of the length `len`, both below `2 ^ 32` as `as_usize`
requires, and the `len` bytes after the length word are inside the input. -/
def StringLayout (data : List UInt8) (offset len : Nat) : Prop :=
  offset < 2 ^ 32 ∧ len < 2 ^ 32 ∧ 32 ≤ data.length ∧ data.take 32 = uintWord offset ∧
    (data.drop offset).take 32 = uintWord len ∧ offset + 32 + len ≤ data.length

/-- What `decode` reads from `data` as a string: the bytes its layout points at, read by
`from_utf8_lossy`. -/
def ReadsString (data : List UInt8) (s : String) : Prop :=
  ∃ offset len, StringLayout data offset len ∧ s.data = fromUtf8Lossy ((data.drop (offset + 32)).take len)

theorem decodeParam_string_iff (data : List UInt8) (s : String) :
    (∃ next, decodeParam .string data 0 = .ok (.string s, next)) ↔ ReadsString data s := by
  simp only [decodeParam, Except.bind_eq_ok, peek32Bytes_eq_ok_iff, asUsize_eq_ok_iff,
    takeBytes_eq_ok_iff, List.drop_zero, Nat.zero_add]
  constructor
  · rintro ⟨next, w₀, ⟨hdata, hw₀⟩, offset, ⟨ho, hoffset⟩, wₗ, ⟨-, hwₗ⟩, len, ⟨hl, hlen⟩, bytes,
      ⟨hbound, rfl⟩, h⟩
    cases h
    exact ⟨offset, len, ⟨ho, hl, hdata, hw₀ ▸ hoffset, hwₗ ▸ hlen, hbound⟩, rfl⟩
  · rintro ⟨offset, len, ⟨ho, hl, hdata, hfirst, hlen, hbound⟩, hs⟩
    refine ⟨32, ⟨uintWord offset, length_uintWord _⟩, ⟨hdata, hfirst.symm⟩, offset, ⟨ho, rfl⟩,
      ⟨uintWord len, length_uintWord _⟩, ⟨by omega, hlen.symm⟩, len, ⟨hl, rfl⟩, _, ⟨hbound, rfl⟩, ?_⟩
    rw [← hs]
    rfl

/-- **What a string is decoded from.** `decode` reads `data` as the string `s` exactly when
`ReadsString data s`. -/
theorem decode_string_iff (data : List UInt8) (s : String) :
    decode [.string] data = .ok [.string s] ↔ ReadsString data s := by
  by_cases hnil : data = []
  · subst hnil
    exact iff_of_false (by intro h; cases h) fun ⟨_, _, ⟨_, _, hdata, _⟩, _⟩ => by simp at hdata
  · rw [decode_single_eq hnil, ← decodeParam_string_iff]
    constructor
    · intro h
      rcases hparam : decodeParam .string data 0 with e | ⟨token, next⟩ <;> rw [hparam] at h <;> cases h
      exact ⟨next, rfl⟩
    · rintro ⟨next, hparam⟩
      rw [hparam]; rfl

/-- An unpadded reply whose one byte is not UTF-8 reads as the replacement character. -/
example : decode [.string] (uintWord 32 ++ uintWord 1 ++ [0xFF]) = .ok [.string ⟨[REPLACEMENT_CHARACTER]⟩] :=
  rfl

theorem ReadsString.unique {data : List UInt8} {s t : String} (hs : ReadsString data s)
    (ht : ReadsString data t) : s = t := by
  have h := ((decode_string_iff data s).mpr hs).symm.trans ((decode_string_iff data t).mpr ht)
  simpa using h

/-- Any layout reads as a string: `from_utf8_lossy` refuses no bytes. -/
theorem readsString_of_layout {data : List UInt8} {offset len : Nat} (h : StringLayout data offset len) :
    ReadsString data ⟨fromUtf8Lossy ((data.drop (offset + 32)).take len)⟩ :=
  ⟨offset, len, h, rfl⟩

/-- **What `decode` accepts as a string.** Exactly the inputs with a string layout: the decoder
refuses a layout that runs past the end of the input, never the bytes it points at. -/
theorem accepts_string_iff (data : List UInt8) :
    Accepts .string data ↔ ∃ offset len, StringLayout data offset len := by
  constructor
  · rintro ⟨tokens, hdecode⟩
    obtain ⟨token, rfl, htype⟩ := decode_single hdecode
    cases token with
    | string s =>
      obtain ⟨offset, len, hlayout, -⟩ := (decode_string_iff data s).mp hdecode
      exact ⟨offset, len, hlayout⟩
    | address a => cases htype
  · rintro ⟨offset, len, hlayout⟩
    exact ⟨_, (decode_string_iff data _).mpr (readsString_of_layout hlayout)⟩

/-- The encoding of a string of fewer than `2 ^ 32` bytes has the layout of offset 32 and its
length, and the bytes it points at are the string's UTF-8. -/
theorem readsString_encodeString {s : String} (hs : s.utf8ByteSize < 2 ^ 32) :
    ReadsString (encodeString s) s := by
  have hsize : (utf8Bytes s).length = s.utf8ByteSize := by
    rw [utf8Bytes_eq_toUTF8, Array.length_toList]; exact String.size_toUTF8 s
  have hencode : encodeString s = uintWord 32 ++ uintWord s.utf8ByteSize ++
      (utf8Bytes s ++ List.replicate ((32 - s.utf8ByteSize % 32) % 32) 0) := by
    simp only [encodeString, ← utf8Bytes_eq_toUTF8, hsize, List.append_assoc]
  have htail : (encodeString s).drop 32 = uintWord s.utf8ByteSize ++
      (utf8Bytes s ++ List.replicate ((32 - s.utf8ByteSize % 32) % 32) 0) := by
    rw [hencode, List.append_assoc, List.drop_left' (length_uintWord 32)]
  have hbytes : (encodeString s).drop (32 + 32) = utf8Bytes s ++
      List.replicate ((32 - s.utf8ByteSize % 32) % 32) 0 := by
    rw [← List.drop_drop, htail, List.drop_left' (length_uintWord _)]
  refine ⟨32, s.utf8ByteSize, ⟨by decide, hs, ?_, ?_, ?_, ?_⟩, ?_⟩
  · rw [hencode]; simp
  · rw [hencode, List.append_assoc, List.take_left' (length_uintWord 32)]
  · rw [htail, List.take_left' (length_uintWord _)]
  · rw [hencode]; simp [hsize]; omega
  · rw [hbytes, List.take_left' hsize, fromUtf8Lossy_utf8Bytes]

/-- A string of fewer than `2 ^ 32` bytes reads back from its encoding. -/
theorem decode_encodeString {s : String} (hs : s.utf8ByteSize < 2 ^ 32) :
    decode [.string] (encodeString s) = .ok [.string s] :=
  (decode_string_iff _ s).mpr (readsString_encodeString hs)

end Abi

end EthersProviders
