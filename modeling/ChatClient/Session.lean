import ChatClient.Confirm
import ChatClient.Tags

/-!
# How long a UDP session can be

No CONFIRM is decoded to the id 128 (`joinBytes_ne`), so the mail with that id stays in flight and is
the last one of its session: at most 129 mails are ever transmitted, and in a session that has all of
its mails confirmed there are at most 128 (`session_limit`).  So the ids of a session are those of the
natural numbers, and none is used twice.
-/

namespace ChatClient

open MailBox Outcome

/-! ## The header of a datagram -/

/-- The numbers of a message that `readUInt16` reads come from two bytes. -/
theorem readUInt16_eq_ok {buffer rest : Bytes} {id : UInt16}
    (h : readUInt16 buffer = .ok (id, rest)) :
    ∃ hi lo, buffer = hi :: lo :: rest ∧ id = CInt.joinBytes hi lo := by
  unfold readUInt16 at h
  split at h
  · cases h
    exact ⟨_, _, rfl, rfl⟩
  · cases h

theorem readChar_eq_ok {buffer rest : Bytes} {c : Byte} (h : readChar buffer = .ok (c, rest)) :
    buffer = c :: rest := by
  unfold readChar at h
  split at h <;> cases h
  rfl

/-- What is decoded begins with the code of its type and the two bytes its id is read from. -/
theorem header_of_writeUDPMail {mb : MailBox} {mail m : Mail} {buffer rest : Bytes} {b : Bool}
    (h : writeUDPMail mb mail buffer = .ok ((b, m), rest)) :
    ∃ code hi lo more, buffer = code :: hi :: lo :: more ∧
      m.type = some ((MessageType.ofCode code).getD .unknown) ∧
      m.getMessageID = (CInt.joinBytes hi lo).toNat := by
  rw [writeUDPMail, stateBind_eq_ok] at h
  obtain ⟨code, s₁, hcode, h⟩ := h
  obtain rfl := readChar_eq_ok hcode
  rcases hty : MessageType.ofCode code with _ | ty
  · simp only [hty, stateBind_eq_ok] at h
    obtain ⟨id, s₂, hid, h⟩ := h
    obtain ⟨hi, lo, rfl, rfl⟩ := readUInt16_eq_ok hid
    cases h
    refine ⟨code, hi, lo, _, rfl, ?_, rfl⟩
    rw [hty]
    rfl
  · cases ty <;> simp only [hty, stateBind_eq_ok, lift_eq_ok] at h <;>
      obtain ⟨id, s₂, hid, h⟩ := h <;> obtain ⟨hi, lo, rfl, rfl⟩ := readUInt16_eq_ok hid <;>
      refine ⟨code, hi, lo, s₂, rfl, ?_⟩ <;> rw [hty]
    case auth =>
      obtain ⟨_, _, -, _, _, -, _, _, -, msg, _, ⟨hmsg, -⟩, h⟩ := h
      cases h
      refine ⟨rfl, ?_⟩
      have := (AuthMessage.new_eq_ok hmsg).1
      simp [Mail.getMessageID, this]
    case join =>
      obtain ⟨_, _, -, _, _, -, msg, _, ⟨hmsg, -⟩, h⟩ := h
      cases h
      exact ⟨rfl, (JoinMessage.new_eq_ok hmsg).1⟩
    case err =>
      obtain ⟨_, _, -, _, _, -, msg, _, ⟨hmsg, -⟩, h⟩ := h
      cases h
      exact ⟨rfl, (ErrorMessage.new_eq_ok hmsg).1⟩
    case msg =>
      obtain ⟨_, _, -, _, _, -, msg, _, ⟨hmsg, -⟩, h⟩ := h
      cases h
      exact ⟨rfl, (TextMessage.new_eq_ok hmsg).2.1⟩
    case reply =>
      obtain ⟨_, _, -, _, _, -, _, _, -, msg, _, ⟨hmsg, -⟩, h⟩ := h
      cases h
      exact ⟨rfl, (ReplyMessage.new_eq_ok hmsg).1⟩
    all_goals
      cases h
      exact ⟨rfl, rfl⟩

/-- What is decoded is the zero-filled buffer. -/
theorem decodeDatagram_of_fits {datagram : Bytes} (hnil : datagram ≠ [])
    (hfits : datagram.length ≤ bufferSize) :
    decodeDatagram (some datagram) =
      (writeUDPMail { deliveryService := .udp } {} (stored datagram)).map fun res => res.1.2 := by
  rw [decodeDatagram, udpReceiveData_stored hnil hfits]
  change ((writeUDPMail _ _).run' (stored _) >>= _) = _
  rw [StateT.run']
  rcases writeUDPMail { deliveryService := .udp } {} (stored datagram) with e | res <;> rfl

/-- A datagram that is decoded fits the buffer, and what is decoded is the zero-filled buffer. -/
theorem writeUDPMail_of_decodeDatagram {datagram : Bytes} {mail : Mail}
    (h : decodeDatagram (some datagram) = .ok mail) :
    datagram ≠ [] ∧ datagram.length ≤ bufferSize ∧
      ∃ rest, writeUDPMail { deliveryService := .udp } {} (stored datagram) =
        .ok ((true, mail), rest) := by
  simp only [decodeDatagram, bind_eq_ok] at h
  obtain ⟨buffer, hbuffer, ⟨b, m⟩, hm, h⟩ := h
  cases h
  have hreceive := hbuffer
  simp only [udpReceiveData] at hbuffer
  split_ifs at hbuffer with hnil hlen
  have hfits : datagram.length ≤ bufferSize := by
    rw [List.length_take, bufferSize] at hlen
    rw [bufferSize]
    omega
  rw [udpReceiveData_stored hnil hfits] at hreceive
  cases hreceive
  obtain ⟨rest, hm⟩ := run'_eq_ok.1 hm
  obtain ⟨rfl, -⟩ := writeUDPMail_decoded rfl hm
  exact ⟨hnil, hfits, rest, hm⟩

theorem ofCode_getD_confirm {code : Byte}
    (h : (MessageType.ofCode code).getD .unknown = .confirm) : code = MessageType.confirm.code := by
  unfold MessageType.ofCode at h
  split_ifs at h <;> first | assumption | cases h

/-- What is decoded to a CONFIRM begins with its code, and the id is read from the two bytes behind
it. -/
theorem confirm_of_decodeDatagram {datagram : Bytes} {mail : Mail}
    (h : decodeDatagram (some datagram) = .ok mail) (ht : mail.type = some .confirm) :
    ∃ hi lo more, stored datagram = MessageType.confirm.code :: hi :: lo :: more ∧
      mail.getMessageID = (CInt.joinBytes hi lo).toNat := by
  obtain ⟨-, -, rest, hm⟩ := writeUDPMail_of_decodeDatagram h
  obtain ⟨code, hi, lo, more, hbuffer, htype, hid⟩ := header_of_writeUDPMail hm
  rw [htype] at ht
  obtain rfl := ofCode_getD_confirm (Option.some.inj ht)
  exact ⟨hi, lo, more, hbuffer, hid⟩

/-- 128 is no id that `readUInt16` can read: a low byte of 0x80 makes the high byte 0xFF. -/
theorem joinBytes_ne (hi lo : Byte) : (CInt.joinBytes hi lo).toNat ≠ 128 := by
  rw [CInt.joinBytes_toNat]
  have := lo.toNat_lt
  split_ifs <;> omega

/-! ## The last mail -/

namespace Client

variable {connection : NetworkConnection} {t es : List Event} {s : Client}

/-- A mail with an id that no CONFIRM is decoded to stays in flight, and nothing is transmitted behind
it. -/
theorem last_of_unconfirmable (hu : connection.type = .udp) (r : (system connection).Run t s)
    {pre post : List Event} {mail : Mail} {bytes : Bytes}
    (h : t = pre ++ .transmitted mail bytes :: post)
    (hid : ∀ hi lo, ((CInt.joinBytes hi lo).toNat : Int) ≠ mail.getMessageID) :
    transmitted post = [] ∧ unconfirmed t ≠ none := by
  have hflight : ∀ mid rest, post = mid ++ rest → transmitted mid = [] →
      unconfirmed (pre ++ .transmitted mail bytes :: mid) ≠ none := by
    intro mid rest hpost hmid hnone
    obtain ⟨mid₁, datagram, confirm, delivered, mid₂, rfl, htype, heq, -⟩ :=
      exists_confirm hmid hnone
    have hmem : .received datagram confirm delivered ∈ t := by simp [h, hpost]
    have hdec := decodeDatagram_of_received hu r hmem
    obtain ⟨hi, lo, -, -, hread⟩ := confirm_of_decodeDatagram hdec htype
    exact hid hi lo (hread.symm.trans heq)
  have hlast : transmitted post = [] := by
    rcases hpost : transmitted post with _ | ⟨next, more⟩
    · rfl
    · -- the next mail was transmitted while this one was in flight
      have hfirst : transmitted post = [] ++ next :: more := hpost
      obtain ⟨mid, e, rest, rfl, he, hmid, -⟩ := Lts.exists_of_filterMap hfirst
      cases e with
      | transmitted next' bytes' =>
        apply absurd _ (hflight mid _ rfl hmid)
        apply unconfirmed_before hu r
        rw [h, List.append_assoc, List.cons_append]
      | _ => cases he
  refine ⟨hlast, ?_⟩
  rw [h]
  exact hflight post [] (List.append_nil _).symm hlast

/-- In UDP mode `writeMail` returns true for everything that is received. -/
theorem written (hu : connection.type = .udp) (r : (system connection).Run t s) :
    Written connection t := by
  rintro ⟨datagram, mail⟩ hx
  obtain ⟨e, he, heq⟩ := List.mem_filterMap.1 hx
  cases e with
  | received datagram' mail' delivered =>
    cases heq
    obtain ⟨hnil, hfits, rest, hm⟩ :=
      writeUDPMail_of_decodeDatagram (decodeDatagram_of_received hu r he)
    exact ⟨{ deliveryService := .udp }, stored datagram, hu.symm,
      connection.receiveData_stored hnil hfits, run'_eq_ok.2 ⟨rest, hm⟩⟩
  | _ => cases heq

end Client

/-! ## The limit -/

namespace Program

variable {connection : NetworkConnection} {t es : List Event} {p : Program}

/-- In UDP mode the mails transmitted have data of their type, and the `k`-th has the id `k` modulo
65536. -/
theorem transmitted_numbered (hu : connection.type = .udp) (r : (system connection).Run t p) {k : ℕ}
    {mail : Mail} (h : (transmitted t)[k]? = some mail) :
    mail.WellTagged ∧ mail.data.numbered = true ∧ mail.getMessageID = (k % 65536 : ℕ) := by
  have hw := Client.written hu (client_run r)
  have hk : (stamp 0 (submitted t))[k]? = some mail := by
    obtain ⟨rest, hrest⟩ := Client.transmitted_prefix_submitted (client_run r)
    rw [← hrest, List.getElem?_append_left (List.getElem?_eq_some_iff.1 h).1, h]
  obtain ⟨htag, hid⟩ := stamp_wellTagged r hw hk
  refine ⟨htag, ?_, hid⟩
  obtain ⟨mail', hmem, id, rfl⟩ := exists_of_mem_stamp (List.mem_of_getElem? hk)
  rw [Mail.numbered_stamped]
  exact (submitted_wellTagged r hw hmem).2

/-- The ids of the mails transmitted are those of the natural numbers, as long as these have 16
bits. -/
theorem getMessageID_transmitted (hu : connection.type = .udp) (r : (system connection).Run t p)
    (hlen : (transmitted t).length ≤ 65536) :
    (transmitted t).map Mail.getMessageID = (List.range (transmitted t).length).map Nat.cast := by
  apply List.ext_getElem
  · simp
  · intro k hk hk'
    rw [List.length_map] at hk
    obtain ⟨-, -, hid⟩ := transmitted_numbered hu r (List.getElem?_eq_getElem hk)
    rw [List.getElem_map, hid, List.getElem_map, List.getElem_range, Nat.mod_eq_of_lt (by omega)]

/-- Nothing is transmitted behind the mail with the id 128, which stays in flight. -/
theorem length_transmitted (hu : connection.type = .udp) (r : (system connection).Run t p) :
    (transmitted t).length ≤ 129 ∧
      (p.client.listener.receivedConfirm = true → (transmitted t).length ≤ 128) := by
  by_cases hlen : (transmitted t).length ≤ 128
  · exact ⟨by omega, fun _ => hlen⟩
  · have hk : 128 < (transmitted t).length := by omega
    obtain ⟨-, -, hid⟩ := transmitted_numbered hu r (List.getElem?_eq_getElem hk)
    have hsplit := List.take_append_drop 128 (transmitted t)
    rw [List.drop_eq_getElem_cons hk] at hsplit
    obtain ⟨pre, e, post, ht, he, hpre, hpost⟩ := Lts.exists_of_filterMap hsplit.symm
    cases e with
    | transmitted mail bytes =>
      obtain rfl : mail = (transmitted t)[128] := Option.some.inj he
      obtain ⟨hlast, hflight⟩ := Client.last_of_unconfirmable hu (client_run r) ht fun hi lo => by
        rw [hid]
        exact_mod_cast joinBytes_ne hi lo
      constructor
      · have hdrop : ((transmitted t).drop 129).length = 0 := by
          rw [← hpost]
          exact congrArg List.length hlast
        rw [List.length_drop] at hdrop
        omega
      · intro hrc
        rw [← Client.inFlight_eq_unconfirmed hu (client_run r), Client.inFlight, hrc] at hflight
        exact absurd rfl hflight
    | _ => cases he

/-- In every run in UDP mode the `k`-th mail transmitted has the id `k`, there are at most 129 of them,
and at most 128 when none awaits its CONFIRM. -/
theorem session_limit (hu : connection.type = .udp) (r : (system connection).Run t p) :
    (transmitted t).map Mail.getMessageID = (List.range (transmitted t).length).map Nat.cast ∧
      (transmitted t).length ≤ 129 ∧
      (p.client.listener.receivedConfirm = true → (transmitted t).length ≤ 128) := by
  obtain ⟨hle, hconfirmed⟩ := length_transmitted hu r
  exact ⟨getMessageID_transmitted hu r (by omega), hle, hconfirmed⟩

/-! ## A session of 129 mails -/

section Longest

open Client (udpConnection)

/-- The user has sent an AUTH `n` times, and each was confirmed. -/
def authenticating (n : UInt16) : Program where
  client := { Client.confirmed n with
    mailbox := { deliveryService := .udp, displayName := chars "ann", sequenceUDPNumber := n } }
  fsm := ⟨.auth, Client.authMail (n - 1), .head⟩

/-- Another AUTH is in flight, and there is something to read from the socket. -/
def authenticatingAgain (n : UInt16) : Program where
  client := { Client.awaiting n with
    mailbox := { deliveryService := .udp, displayName := chars "ann", sequenceUDPNumber := n + 1 } }
  fsm := ⟨.auth, Client.authMail n, .head⟩

/-- The user sends an AUTH. -/
def authAgain : List Action :=
  round [.stdinPipe] [.listenStdin (some (chars "/auth ann pw ann\n"))] ++ mainThread 5 ++
    round [.toSendPipe] [.readNotify, .popMail, .transmit] ++ round [.socketPipe] []

theorem exec_authAgain (n : UInt16) :
    ∃ es, (authenticating n).exec udpConnection authAgain = some (authenticatingAgain n, es) ∧
      (transmitted es).length = 1 :=
  ⟨_, rfl, rfl⟩

/-- The CONFIRM for an id that survives `readUInt16`. -/
theorem exec_confirm {n : UInt16} (hn : receivedID n = n) :
    (authenticatingAgain n).exec udpConnection
        [.listener (.listenSocket (some [MessageType.confirm.code, CInt.hiByte n, CInt.loByte n]))] =
      some (authenticating (n + 1), [.received [MessageType.confirm.code, CInt.hiByte n,
        CInt.loByte n] (receivedConfirmMail (CInt.hiByte n) (CInt.loByte n)) false]) := by
  have hid : ((CInt.joinBytes (CInt.hiByte n) (CInt.loByte n)).toNat : Int) = n.toNat :=
    congrArg (fun v : UInt16 => (v.toNat : Int)) hn
  have hok : ChatClient.listenSocket udpConnection (authenticatingAgain n).client.listener
      (authenticatingAgain n).client.mailbox
      (some [MessageType.confirm.code, CInt.hiByte n, CInt.loByte n]) = _ :=
    listenSocket_confirm rfl rfl rfl rfl hid
  have hnext : n + 1 - 1 = n := by simp
  simp only [exec, Lts.exec, step, Client.step, Client.listenSocket, hok]
  rw [authenticating, Client.confirmed, hnext]
  rfl

theorem exists_run_authenticating {k : ℕ} (hk : 1 ≤ k) (hk' : k ≤ 128) :
    ∃ t, (system udpConnection).Run t (authenticating (UInt16.ofNat k)) ∧
      (transmitted t).length = k := by
  induction k, hk using Nat.le_induction with
  | base =>
    obtain ⟨es, hexec, hes⟩ : ∃ es, (initial udpConnection).exec udpConnection
        (authAgain ++ [.listener (.listenSocket (some [0, 0, 0]))]) =
          some (authenticating 1, es) ∧ (transmitted es).length = 1 := ⟨_, rfl, rfl⟩
    exact ⟨_, run_of_exec _ (.init rfl) _ hexec, hes⟩
  | succ k hk ih =>
    obtain ⟨t, r, hlen⟩ := ih (by omega)
    obtain ⟨es, hexec, hes⟩ := exec_authAgain (UInt16.ofNat k)
    have hn : receivedID (UInt16.ofNat k) = UInt16.ofNat k := by
      rw [receivedID_eq_iff, UInt16.toNat_ofNat']
      omega
    have r := run_of_exec _ (run_of_exec _ r _ hexec) _ (exec_confirm hn)
    rw [UInt16.ofNat_add]
    refine ⟨_, r, ?_⟩
    simp only [transmitted, List.filterMap_append, List.length_append] at hlen hes ⊢
    rw [hlen, hes]
    rfl

/-- The session whose mail with the id 128 is in flight. -/
theorem session_limit_reached :
    ∃ t p, (system udpConnection).Run t p ∧ (transmitted t).length = 129 ∧
      (transmitted t).map Mail.getMessageID = (List.range (transmitted t).length).map Nat.cast ∧
      (transmitted t).length ≤ 129 ∧
      (p.client.listener.receivedConfirm = true → (transmitted t).length ≤ 128) := by
  obtain ⟨t, r, hlen⟩ := exists_run_authenticating (by decide : 1 ≤ 128) le_rfl
  obtain ⟨es, hexec, hes⟩ := exec_authAgain (UInt16.ofNat 128)
  have r := run_of_exec _ r _ hexec
  refine ⟨_, _, r, ?_, session_limit rfl r⟩
  simp only [transmitted, List.filterMap_append, List.length_append] at hlen hes ⊢
  rw [hlen, hes]

end Longest

end Program

end ChatClient
