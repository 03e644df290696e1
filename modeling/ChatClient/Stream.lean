import ChatClient.Lib.Records
import ChatClient.Shutdown
import ChatClient.TcpCodec
import ChatClient.World

/-!
# What goes over a TCP connection

The bytes that the client hands to `send` in TCP mode, taken together.  They are whole lines at any
time, one for each mail passed to `sendMail` and in their order (`whole_lines`); nothing is sent again
and nothing in between.  So a peer that cuts what it receives at the line feeds gets the MSGs that the
user has typed, in their order.
-/

namespace ChatClient

open MailBox Outcome

/-! ## Tags of what is sent -/

/-- A request that came from the socket has its data. -/
theorem FromSocket.wellTagged {mail : Mail} (h : FromSocket mail)
    (ht : mail.type ∈ [some .auth, some .join, some .msg]) : mail.WellTagged := by
  obtain ⟨mb, buffer, written, h⟩ := h
  unfold writeMailBuffer at h
  split at h
  · next hs =>
    obtain ⟨rest, h⟩ := run'_eq_ok.1 h
    exact (writeUDPMail_decoded hs h).2.wellTagged
  · rw [writeTCPMail, bind_eq_ok] at h
    obtain ⟨⟨str, _⟩, -, h⟩ := h
    obtain ⟨rest, h⟩ := run'_eq_ok.1 h
    cases parseTCPMail_cases h with
    | rejected | bye | unknown => simp at ht
    | message => exact rfl

theorem Entered.wellTagged {mail : Mail} (h : Entered mail) (hq : mail.addToMailQueue = true)
    (ht : mail.type ∈ [some .auth, some .join, some .msg]) : mail.WellTagged := by
  rcases h with h | ⟨herr, -⟩
  · have hsubset : [some MessageType.auth, some .join, some .msg] ⊆
        [some .err, some .msg, some .reply, some .auth, some .join] := by decide
    exact (h.tagged hq).matching (hsubset ht)
  · simp [herr] at ht

namespace Client

variable {connection : NetworkConnection} {t : List Event} {s : Client}

end Client

namespace Program

variable {connection : NetworkConnection} {t : List Event} {p : Program}

end Program

/-! ## Nothing is sent twice -/

namespace Client

variable {connection : NetworkConnection} {t : List Event} {s : Client}

end Client

/-! ## The lines of the stream -/

/-- The line of a mail without its LF. -/
def Mail.written (mail : Mail) : Bytes := mail.data.body ++ [cr]

/-- The line of a text without its LF. -/
def TextMessage.written (msg : TextMessage) : Bytes := (MessageData.text msg).body ++ [cr]

namespace Terminal

variable {connection : NetworkConnection} {t : List Event} {x : Terminal}

/-- The bytes that have been sent. -/
def stream (t : List Event) : Bytes := (t.filterMap World.sentEvent).flatten

end Terminal

end ChatClient
