import ChatClient.MailSerializer

/-!
# The network connection

The classes `TcpProtocol`, `UdpProtocol` and `NetworkConnection` as the listener uses them: what one
`sendData` puts on the wire and what one `receiveData` leaves in the zero-filled buffer it is given.
Addresses, ports and the opening of the socket are left out, and so is a `send` or `sendto` that fails
and the line about the received text that `receiveData` logs, which reads on behind 1024 bytes that have
no zero among them.
-/

namespace ChatClient

/-- Retransmission parameters are kept for UDP only. -/
structure NetworkConnection where
  type : ProtocolType
  timeout : UInt16 := 0
  retries : UInt16 := 0

/-- The size of the buffer that `runListener` passes to `receiveData`. -/
def bufferSize : ℕ := 1024

/-- Bytes stored at the start of the zero-filled buffer. -/
def stored (data : Bytes) : Bytes := data ++ List.replicate (bufferSize - data.length) nul

theorem length_stored {data : Bytes} (h : data.length ≤ bufferSize) :
    (stored data).length = bufferSize := by
  rw [stored, List.length_append, List.length_replicate]
  omega

theorem nul_mem_stored {data : Bytes} (h : data.length < bufferSize) : nul ∈ stored data := by
  rw [stored, List.mem_append, List.mem_replicate]
  exact .inr ⟨by omega, rfl⟩

/-- `recv` stores at most 1024 bytes; `none` is a `recv` that fails. -/
def tcpReceiveData (received : Option Bytes) : Except Error Bytes :=
  match received with
  | none => .error (.runtimeError (chars "Failed to receive data"))
  | some data => .ok (stored (data.take 1024))

/-- `recvfrom` stores at most 1500 bytes, whatever the size of the buffer. -/
def udpReceiveData (received : Option Bytes) : Except Error Bytes :=
  match received with
  | none => .error (.runtimeError (chars "Failed to receive data"))
  | some data =>
    if data = [] then .error (.runtimeError (chars "Connection closed by peer"))
    else if (data.take 1500).length ≤ bufferSize then .ok (stored (data.take 1500))
    else .error .outOfBounds

theorem tcpReceiveData_stored {bytes : Bytes} (hlen : bytes.length ≤ bufferSize) :
    tcpReceiveData (some bytes) = .ok (stored bytes) := by
  have htake : bytes.take 1024 = bytes := List.take_of_length_le hlen
  rw [tcpReceiveData, htake]

theorem udpReceiveData_stored {bytes : Bytes} (hne : bytes ≠ []) (hlen : bytes.length ≤ bufferSize) :
    udpReceiveData (some bytes) = .ok (stored bytes) := by
  have htake : bytes.take 1500 = bytes := by
    apply List.take_of_length_le
    rw [bufferSize] at hlen
    omega
  simp only [udpReceiveData, if_neg hne, htake, if_pos hlen]

namespace NetworkConnection

def getTimeout (connection : NetworkConnection) : Int :=
  match connection.type with
  | .tcp => -1
  | .udp => connection.timeout.toNat

def getRetries (connection : NetworkConnection) : Int :=
  match connection.type with
  | .tcp => -1
  | .udp => connection.retries.toNat

/-- The bytes handed to `send` or `sendto`, which take them all. -/
def sendData (connection : NetworkConnection) (mail : Mail) : Except Error Bytes :=
  (MailSerializer.mk (connection.type == .udp)).serialize mail

def receiveData (connection : NetworkConnection) (received : Option Bytes) : Except Error Bytes :=
  match connection.type with
  | .tcp => tcpReceiveData received
  | .udp => udpReceiveData received

theorem receiveData_stored (connection : NetworkConnection) {data : Bytes} (hd : data ≠ [])
    (hlen : data.length ≤ bufferSize) : connection.receiveData (some data) = .ok (stored data) := by
  unfold receiveData
  split
  · exact tcpReceiveData_stored hlen
  · exact udpReceiveData_stored hd hlen

theorem length_receiveData {connection : NetworkConnection} {received : Option Bytes}
    {buffer : Bytes} (h : connection.receiveData received = .ok buffer) :
    buffer.length = bufferSize := by
  unfold receiveData at h
  rcases received with _ | data
  · split at h <;> cases h
  · split at h
    · cases h
      exact length_stored (List.length_take_le 1024 data)
    · simp only [udpReceiveData] at h
      split_ifs at h with hnil hlen
      cases h
      exact length_stored hlen

end NetworkConnection

end ChatClient
