import EthersProviders.Resolution

/-!
# `sign` and `is_signer`

`sign` asks the node for `eth_sign`, strips one `0x` from the text it answers, hex-decodes the
rest and reads the bytes as a signature, which takes exactly 65 of them. So the reply is a
signature exactly when it is 130 hex digits after that `0x`; text the decoder refuses is a
`HexError`, and decoded bytes of another length a `CustomError`. Nothing on this path panics, so
`is_signer`, which asks `sign` to sign nothing for the default sender, is `true` exactly when
there is a default sender and the node's answer for it has that form.
-/

namespace EthersProviders

open Rpc

/-- The reply `sign` reads as a signature: 130 hex digits once one `0x` is stripped. -/
def SignatureText (s : String) : Prop :=
  (∀ c ∈ (Hex.stripPrefix0x s).data, Hex.isDigitChar c) ∧ (Hex.stripPrefix0x s).data.length = 130

instance (s : String) : Decidable (SignatureText s) := inferInstanceAs (Decidable (_ ∧ _))

/-- The request `sign` sends. -/
def signRequest («from» : Address) (data : Bytes) : Request :=
  ⟨"eth_sign", .array [toJson «from», toJson data]⟩

/-! ### Reading the reply -/

section Decoding

variable (w : World) {s : String}

theorem outcome_signatureOf_undecoded {e : FromHexError}
    (hdec : Hex.fromHex (utf8Bytes (Hex.stripPrefix0x s)) = .error e) :
    outcome w (signatureOf s) = .err (.hexError e) := by
  simp [signatureOf, hdec]

theorem outcome_signatureOf_decoded {bytes : List UInt8}
    (hdec : Hex.fromHex (utf8Bytes (Hex.stripPrefix0x s)) = .ok bytes) :
    outcome w (signatureOf s) =
      if h : bytes.length = 65 then
        .ok { r := ⟨bytes.take 32, by rw [List.length_take, h]; rfl⟩
              s := ⟨(bytes.drop 32).take 32, by rw [List.length_take, List.length_drop, h]; rfl⟩
              v := BitVec.ofNat 64 (bytes.get ⟨64, by omega⟩).toNat }
      else .err (.customError (SignatureError.invalidLength bytes.length).toString) := by
  simp only [signatureOf, hdec, Signature.tryFrom]
  split_ifs <;> rfl

/-- The decoded bytes are as many as half the digits, and there are digits only if they are hex. -/
theorem decoded_signature_text {bytes : List UInt8}
    (hdec : Hex.fromHex (utf8Bytes (Hex.stripPrefix0x s)) = .ok bytes) :
    (∀ c ∈ (Hex.stripPrefix0x s).data, Hex.isDigitChar c) ∧
      2 * bytes.length = (Hex.stripPrefix0x s).data.length :=
  ⟨((Hex.fromHex_text_ok_iff _).mp ⟨_, hdec⟩).2, Hex.length_fromHex_text hdec⟩

theorem signatureOf_ok_iff : (∃ sig, outcome w (signatureOf s) = .ok sig) ↔ SignatureText s := by
  rcases hdec : Hex.fromHex (utf8Bytes (Hex.stripPrefix0x s)) with e | bytes
  · rw [outcome_signatureOf_undecoded w hdec]
    refine iff_of_false (by simp) fun ⟨hdigits, hlength⟩ => ?_
    obtain ⟨_, hok⟩ := (Hex.fromHex_text_ok_iff (Hex.stripPrefix0x s).data).mpr ⟨by omega, hdigits⟩
    cases hdec.symm.trans hok
  · obtain ⟨hdigits, hlength⟩ := decoded_signature_text hdec
    rw [outcome_signatureOf_decoded w hdec]
    split_ifs with h65
    · exact iff_of_true ⟨_, rfl⟩ ⟨hdigits, by omega⟩
    · exact iff_of_false (by simp) fun ⟨_, h130⟩ => h65 (by omega)

/-- A signature read from the reply is bytes 0 to 32, 32 to 64 and byte 64 of its decoding. -/
theorem signatureOf_fields {sig : Signature} (h : outcome w (signatureOf s) = .ok sig) :
    ∃ bytes, Hex.fromHex (utf8Bytes (Hex.stripPrefix0x s)) = .ok bytes ∧
      sig.r.bytes = bytes.take 32 ∧ sig.s.bytes = (bytes.drop 32).take 32 ∧
      sig.v = BitVec.ofNat 64 (bytes.getD 64 0).toNat := by
  rcases hdec : Hex.fromHex (utf8Bytes (Hex.stripPrefix0x s)) with e | bytes
  · rw [outcome_signatureOf_undecoded w hdec] at h; cases h
  · rw [outcome_signatureOf_decoded w hdec] at h
    split_ifs at h with h65
    cases h
    exact ⟨bytes, rfl, rfl, rfl, by rw [List.getD_eq_getElem?_getD, List.getElem?_eq_getElem (by omega)]; rfl⟩

theorem signatureOf_hexError_iff :
    (∃ e, outcome w (signatureOf s) = .err (.hexError e)) ↔
      ¬ ((∀ c ∈ (Hex.stripPrefix0x s).data, Hex.isDigitChar c) ∧
        (Hex.stripPrefix0x s).data.length % 2 = 0) := by
  rcases hdec : Hex.fromHex (utf8Bytes (Hex.stripPrefix0x s)) with e | bytes
  · rw [outcome_signatureOf_undecoded w hdec]
    refine iff_of_true ⟨e, rfl⟩ fun ⟨hdigits, heven⟩ => ?_
    obtain ⟨_, hok⟩ := (Hex.fromHex_text_ok_iff _).mpr ⟨heven, hdigits⟩
    cases hdec.symm.trans hok
  · obtain ⟨hdigits, hlength⟩ := decoded_signature_text hdec
    rw [outcome_signatureOf_decoded w hdec]
    refine iff_of_false ?_ (not_not.mpr ⟨hdigits, by omega⟩)
    split_ifs <;> simp

theorem signatureOf_customError_iff :
    (∃ m, outcome w (signatureOf s) = .err (.customError m)) ↔
      (∀ c ∈ (Hex.stripPrefix0x s).data, Hex.isDigitChar c) ∧
        (Hex.stripPrefix0x s).data.length % 2 = 0 ∧ (Hex.stripPrefix0x s).data.length ≠ 130 := by
  rcases hdec : Hex.fromHex (utf8Bytes (Hex.stripPrefix0x s)) with e | bytes
  · rw [outcome_signatureOf_undecoded w hdec]
    refine iff_of_false (by simp) fun ⟨hdigits, heven, _⟩ => ?_
    obtain ⟨_, hok⟩ := (Hex.fromHex_text_ok_iff _).mpr ⟨heven, hdigits⟩
    cases hdec.symm.trans hok
  · obtain ⟨hdigits, hlength⟩ := decoded_signature_text hdec
    rw [outcome_signatureOf_decoded w hdec]
    split_ifs with h65
    · exact iff_of_false (by simp) fun ⟨_, _, h130⟩ => h130 (by omega)
    · exact iff_of_true ⟨_, rfl⟩ ⟨hdigits, by omega, by omega⟩

theorem signatureOf_not_panic (m : String) : outcome w (signatureOf s) ≠ .panic m := by
  rcases hdec : Hex.fromHex (utf8Bytes (Hex.stripPrefix0x s)) with e | bytes
  · simp [outcome_signatureOf_undecoded w hdec]
  · rw [outcome_signatureOf_decoded w hdec]
    split_ifs <;> simp

end Decoding

/-! ### `sign` and `is_signer` -/

section Run

variable (w : World) (p : Provider)

theorem outcome_sign (data : Bytes) («from» : Address) :
    outcome w (Provider.sign data «from») =
      (Outcome.ofClient (decodeReply (w.node (signRequest «from» data)))).bind fun sig =>
        outcome w (signatureOf sig) := by
  simp [Provider.sign, signRequest]

/-- `sign` never panics, whatever the node answers. -/
theorem sign_not_panic (data : Bytes) («from» : Address) (m : String) :
    outcome w (Provider.sign data «from») ≠ .panic m := by
  rw [outcome_sign]
  rcases decodeReply (R := String) (w.node (signRequest «from» data)) with e | sig
  · simp [Outcome.ofClient]
  · exact signatureOf_not_panic w m

theorem decodeReply_string_iff {reply : Except ClientError Json} {s : String} :
    decodeReply reply = .ok s ↔ reply = .ok (.string s) := by
  rcases reply with e | (_ | _ | _ | s' | _ | _) <;>
    simp [decodeReply, bind, Except.bind, Except.mapError, deserialize, Deserialize.deserialize]

/-- `sign` returns a signature exactly when the node answers with text that reads as one. -/
theorem sign_ok_iff (data : Bytes) («from» : Address) :
    (∃ sig, outcome w (Provider.sign data «from») = .ok sig) ↔
      ∃ s, w.node (signRequest «from» data) = .ok (.string s) ∧ SignatureText s := by
  rw [outcome_sign]
  rcases hdecode : decodeReply (R := String) (w.node (signRequest «from» data)) with e | s
  · refine iff_of_false (by simp [Outcome.ofClient]) fun ⟨s, hs, _⟩ => ?_
    rw [decodeReply_string_iff.mpr hs] at hdecode; cases hdecode
  · have hs := decodeReply_string_iff.mp hdecode
    simp only [Outcome.ofClient, Outcome.ok_bind, signatureOf_ok_iff, hs, Except.ok.injEq,
      Json.string.injEq, exists_eq_left']

/-- `is_signer` for a default sender: whether `sign` signs nothing for it. -/
theorem outcome_isSigner_sender {sender : Address} (hsender : p.sender = some sender) :
    outcome w p.isSigner =
      .ok (match outcome w (Provider.sign ⟨[]⟩ sender) with | .ok _ => true | _ => false) := by
  simp only [Provider.isSigner, hsender, outcome_bind, outcome_attempt]
  rcases hsign : outcome w (Provider.sign ⟨[]⟩ sender) with sig | e | m
  · rfl
  · rfl
  · exact absurd hsign (sign_not_panic w _ _ m)

/-- **`is_signer` always answers**, with `true` or `false`, and never fails or panics. -/
theorem isSigner_answers : ∃ b, outcome w p.isSigner = .ok b := by
  rcases hsender : p.sender with _ | sender
  · exact ⟨false, by simp [Provider.isSigner, hsender]⟩
  · exact ⟨_, outcome_isSigner_sender w p hsender⟩

theorem isSigner_iff :
    outcome w p.isSigner = .ok true ↔
      ∃ sender, p.sender = some sender ∧ ∃ s, w.node (signRequest sender ⟨[]⟩) = .ok (.string s) ∧
        SignatureText s := by
  rcases hsender : p.sender with _ | sender
  · simp [Provider.isSigner, hsender]
  · rw [outcome_isSigner_sender w p hsender]
    simp only [Option.some.injEq, exists_eq_left', ← sign_ok_iff]
    rcases outcome w (Provider.sign ⟨[]⟩ sender) with sig | e | m <;> simp

/-- **`sign` and `is_signer`, by the node's reply.** For a reply `s` to `eth_sign`, `sign` returns a
signature exactly when `s` is 130 hex digits after one optional `0x`, with `r`, `s` and `v` bytes 0
to 32, 32 to 64 and byte 64 of its decoding; a `HexError` exactly when the digits are not hex or odd
in number; a `CustomError` exactly when they are hex, even and not 130; never a panic. `is_signer`
is `true` exactly when there is a default sender and the node's reply for it has that form. -/
theorem sign_reply {data : Bytes} {«from» : Address} {s : String}
    (hreply : w.node (signRequest «from» data) = .ok (.string s)) :
    ((∃ sig, outcome w (Provider.sign data «from») = .ok sig) ↔ SignatureText s) ∧
      (∀ sig, outcome w (Provider.sign data «from») = .ok sig →
        ∃ bytes, Hex.fromHex (utf8Bytes (Hex.stripPrefix0x s)) = .ok bytes ∧
          sig.r.bytes = bytes.take 32 ∧ sig.s.bytes = (bytes.drop 32).take 32 ∧
          sig.v = BitVec.ofNat 64 (bytes.getD 64 0).toNat) ∧
      ((∃ e, outcome w (Provider.sign data «from») = .err (.hexError e)) ↔
        ¬ ((∀ c ∈ (Hex.stripPrefix0x s).data, Hex.isDigitChar c) ∧
          (Hex.stripPrefix0x s).data.length % 2 = 0)) ∧
      ((∃ m, outcome w (Provider.sign data «from») = .err (.customError m)) ↔
        (∀ c ∈ (Hex.stripPrefix0x s).data, Hex.isDigitChar c) ∧
          (Hex.stripPrefix0x s).data.length % 2 = 0 ∧ (Hex.stripPrefix0x s).data.length ≠ 130) ∧
      (∀ m, outcome w (Provider.sign data «from») ≠ .panic m) ∧
      (outcome w p.isSigner = .ok true ↔
        ∃ sender, p.sender = some sender ∧ ∃ s', w.node (signRequest sender ⟨[]⟩) = .ok (.string s') ∧
          SignatureText s') := by
  have hrun : outcome w (Provider.sign data «from») = outcome w (signatureOf s) := by
    rw [outcome_sign, decodeReply_string_iff.mpr hreply]; rfl
  rw [hrun]
  exact ⟨signatureOf_ok_iff w, fun _ => signatureOf_fields w, signatureOf_hexError_iff w,
    signatureOf_customError_iff w, signatureOf_not_panic w, isSigner_iff w p⟩

end Run

/-- A provider whose default sender is `victim`. -/
def signerProvider : Provider := Provider.new.withSender victim

/-- A node that answers every call with the text `s`. -/
def signWorld (s : String) : World := ⟨fun _ => .ok (.string s), fun _ => .ok (), false⟩

/-- A reply of the signature's form: `0x` and 130 hex digits. -/
def signatureReply : String := ⟨'0' :: 'x' :: List.replicate 130 '1'⟩

theorem signatureText_signatureReply : SignatureText signatureReply := by
  have hdata : (Hex.stripPrefix0x signatureReply).data = List.replicate 130 '1' := rfl
  rw [SignatureText, hdata]
  exact ⟨fun c hc => by rw [(List.mem_replicate.mp hc).2]; rfl, List.length_replicate _ _⟩

theorem sign_reply_signature :
    (∃ sig, outcome (signWorld signatureReply) (Provider.sign ⟨[]⟩ victim) = .ok sig) ∧
      outcome (signWorld signatureReply) signerProvider.isSigner = .ok true :=
  have hsign := @sign_reply (signWorld signatureReply) signerProvider ⟨[]⟩ victim signatureReply rfl
  ⟨hsign.1.mpr signatureText_signatureReply,
    hsign.2.2.2.2.2.mpr ⟨victim, rfl, signatureReply, rfl, signatureText_signatureReply⟩⟩

end EthersProviders
