import ChatClient.Acceptance
import ChatClient.UdpCodec

/-!
# The receive buffer

`runListener` receives into 1024 bytes, `recvfrom` is told 1500, and the validators let a message have
more than either.

* `message_fits_iff`: which messages are received whole.
* `decoder_in_bounds_iff`: for which datagrams that fit the decoder stays inside the buffer.  The
  decoder is not told the length, so it takes the zero bytes behind a datagram for terminators of
  its strings, and there may be too few of them.
-/

namespace ChatClient

open MailBox Outcome

/-! ## What is sent -/

theorem length_serializeAs (type : MessageType) (data : MessageData) :
    (udpSerializer.serializeAs type data).length =
      1 + 2 * data.numbers.length + (data.strings.map fun s => s.length + 1).sum := by
  have hnumbers : (data.numbers.flatMap CInt.htons).length = 2 * data.numbers.length := by
    rw [List.length_flatMap, mul_comm]
    simp [CInt.htons]
  have hstrings : (data.strings.flatMap (· ++ [nul])).length =
      (data.strings.map fun s => s.length + 1).sum := by
    rw [List.length_flatMap]
    simp
  rw [MailSerializer.serializeAs_udp, visit_udp, List.length_cons, List.length_append, hnumbers,
    hstrings]
  omega

/-- The display name and the content together leave room for the numbers and the terminators. -/
def MessageData.Fits : MessageData → Prop
  | error m => m.displayName.val.length + m.messageContent.val.length ≤ 1019
  | text m => m.displayName.val.length + m.messageContent.val.length ≤ 1019
  | reply m => m.messageContent.val.length ≤ 1016
  | confirm _ | auth _ | join _ | bye _ | unknown _ => True

theorem length_le_bufferSize_iff (type : MessageType) (data : MessageData) :
    (udpSerializer.serializeAs type data).length ≤ bufferSize ↔ data.Fits := by
  rw [length_serializeAs, bufferSize]
  cases data with
  | confirm m | bye m | unknown m => simp [MessageData.numbers, MessageData.strings, MessageData.Fits]
  | auth m =>
    have husername := m.username.valid.1
    have hname := m.displayName.valid.1
    have hsecret := m.secret.valid.1
    simp only [MessageData.numbers, MessageData.strings, MessageData.Fits, List.length_cons,
      List.length_nil, List.map_cons, List.map_nil, List.sum_cons, List.sum_nil, iff_true]
    omega
  | join m =>
    have hchannel := m.channelID.valid.1
    have hname := m.displayName.valid.1
    simp only [MessageData.numbers, MessageData.strings, MessageData.Fits, List.length_cons,
      List.length_nil, List.map_cons, List.map_nil, List.sum_cons, List.sum_nil, iff_true]
    omega
  | error m | text m | reply m =>
    simp only [MessageData.numbers, MessageData.strings, MessageData.Fits, List.length_cons,
      List.length_nil, List.map_cons, List.map_nil, List.sum_cons, List.sum_nil]
    omega

/-- A datagram that does not fit is written past the end of the buffer. -/
theorem udpReceiveData_outOfBounds {bytes : Bytes} (hlen : bufferSize < bytes.length) :
    udpReceiveData (some bytes) = .error .outOfBounds := by
  have hne : bytes ≠ [] := List.ne_nil_of_length_pos (Nat.zero_lt_of_lt hlen)
  have htake : ¬ (bytes.take 1500).length ≤ bufferSize := by
    rw [List.length_take]
    rw [bufferSize] at hlen ⊢
    omega
  simp only [udpReceiveData, if_neg hne, if_neg htake]

/-- For every mail: its datagram fits the buffer, and is received into it whole, iff its strings leave
room enough. -/
theorem message_fits_iff (type : MessageType) (data : MessageData) (queue sigint : Bool) :
    (∃ bytes, udpSerializer.serialize ⟨some type, data, queue, sigint⟩ = .ok bytes ∧
      bytes.length ≤ bufferSize ∧ udpReceiveData (some bytes) = .ok (stored bytes)) ↔
    data.Fits := by
  have hserialize : udpSerializer.serialize ⟨some type, data, queue, sigint⟩ =
      .ok (udpSerializer.serializeAs type data) := rfl
  rw [← length_le_bufferSize_iff type data]
  constructor
  · rintro ⟨bytes, hbytes, hlen, -⟩
    cases hserialize.symm.trans hbytes
    exact hlen
  · intro hlen
    exact ⟨_, hserialize, hlen, udpReceiveData_stored (List.cons_ne_nil _ _) hlen⟩

/-- A MSG with 1400 characters. -/
theorem message_too_long :
    ∃ content : MessageContent, ∃ bytes, content.val.length = 1400 ∧
      udpSerializer.serialize
        { type := some .msg, data := .text ⟨false, 0, ⟨chars "a", by decide⟩, content⟩ } =
          .ok bytes ∧
      bytes.length = 1406 ∧ udpReceiveData (some bytes) = .error .outOfBounds := by
  have hvalid : messageContentPattern.Valid 1400 (List.replicate 1400 97) := by decide +kernel
  have hlength : ∀ data : TextMessage, data.displayName.val.length = 1 →
      data.messageContent.val.length = 1400 →
      (udpSerializer.serializeAs .msg (.text data)).length = 1406 := by
    intro data hname hcontent
    simp [length_serializeAs, MessageData.numbers, MessageData.strings, hname, hcontent]
  have h := hlength ⟨false, 0, ⟨chars "a", by decide⟩, ⟨_, hvalid⟩⟩ rfl List.length_replicate
  have hlong : bufferSize < 1406 := by decide
  exact ⟨⟨_, hvalid⟩, _, List.length_replicate, rfl, h,
    udpReceiveData_outOfBounds (hlong.trans_eq h.symm)⟩

/-! ## What is read -/

theorem datagramType_stored {data : Bytes} (hd : data ≠ []) :
    datagramType (stored data) = datagramType data := by
  obtain ⟨c, rest, rfl⟩ := List.exists_cons_of_ne_nil hd
  rfl

/-- The decoder leaves its buffer when there are fewer terminators than strings. -/
theorem writeUDPMail_outOfBounds_iff (mb : MailBox) (mail : Mail) {buffer : Bytes}
    (h : 6 ≤ buffer.length) :
    writeUDPMail mb mail buffer = .error .outOfBounds ↔
      (datagramStrings buffer).length < (datagramType buffer).validators.length := by
  have hchecks := writeUDPMail_checks mb mail h
  constructor
  · intro herror
    by_contra hlen
    have hinvalid := hchecks.error _ herror
    rw [DatagramError, if_pos (not_lt.1 hlen)] at hinvalid
    obtain ⟨_, -, _, hinvalid⟩ := hinvalid
    cases hinvalid
  · intro hlen
    rcases hres : writeUDPMail mb mail buffer with e | res
    · have herror := hchecks.error e hres
      rw [DatagramError, if_neg (not_le.2 hlen)] at herror
      rw [herror]
    · have hpasses := hchecks.ok_iff.1 ⟨res, hres⟩
      exact absurd hpasses.length_le (not_le.2 hlen)

/-- For every datagram of 1 to 1023 bytes: the decoder reads inside the buffer iff the zero bytes of
the datagram behind its id and those behind the datagram are as many as its strings. -/
theorem decoder_in_bounds_iff (mb : MailBox) (mail : Mail) {data : Bytes} (hd : data ≠ [])
    (hlen : data.length ≤ 1023) :
    writeUDPMail mb mail (stored data) ≠ .error .outOfBounds ↔
      (datagramType data).validators.length ≤
        (data.drop 3).count nul + (bufferSize - data.length) := by
  have hstored : (stored data).length = bufferSize := length_stored (by rw [bufferSize]; omega)
  have hzeros : ∀ k, ((stored data).drop k).count nul =
      (data.drop k).count nul + (bufferSize - data.length - (k - data.length)) := by
    intro k
    rw [stored, List.drop_append, List.drop_replicate, List.count_append,
      List.count_replicate_self]
  have hthree : (datagramType data).validators.length ≤ 3 := by
    cases datagramType data <;> decide
  rw [Ne, writeUDPMail_outOfBounds_iff mb mail (by rw [hstored, bufferSize]; omega), not_lt,
    datagramStrings, Records.count_complete, datagramType_stored hd, hzeros, bufferSize]
  by_cases hreply : datagramType data = .reply
  · -- the one string of a REPLY ends behind the datagram at the latest
    have hone : (datagramType data).validators.length = 1 := by rw [hreply]; rfl
    rw [if_pos hreply, hone]
    omega
  · rw [if_neg hreply]
    omega

/-- A MSG that fills the buffer to its last byte but one. -/
theorem decoder_in_bounds_iff_msg :
    let data := MessageType.msg.code :: 0 :: 1 :: (chars "a" ++ nul :: List.replicate 1018 97)
    writeUDPMail { deliveryService := .udp } {} (stored data) ≠ .error .outOfBounds ↔
      (datagramType data).validators.length ≤
        (data.drop 3).count nul + (bufferSize - data.length) :=
  decoder_in_bounds_iff _ _ (by decide) (by decide +kernel)

/-- An AUTH of 1023 bytes without a terminator. -/
theorem decoder_out_of_bounds :
    let data := MessageType.auth.code :: List.replicate 1022 97
    data.length = 1023 ∧ udpReceiveData (some data) = .ok (stored data) ∧
      writeUDPMail { deliveryService := .udp } {} (stored data) = .error .outOfBounds := by
  intro data
  have hlength : data.length = 1023 := by decide +kernel
  refine ⟨hlength, udpReceiveData_stored (List.cons_ne_nil _ _) (by rw [bufferSize]; omega), ?_⟩
  rw [writeUDPMail_outOfBounds_iff]
  · decide +kernel
  · rw [length_stored (by rw [bufferSize]; omega), bufferSize]
    omega

end ChatClient
