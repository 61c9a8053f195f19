import Seifenkiste.Message.Frame

/-!
# The client

`tcp_client` on the robot: how it gets to its connection, and how it sends a message in two
writes. What the kernel answers to a call is an argument; the bytes that a write places on the
connection are part of the result.
-/

namespace Seifenkiste

open Memory

inductive TcpStateDef where
  | tcpNotInitialized
  | socketError
  | socketFdReady
  | gethostError
  | tcpReadyToConnect
  | connectError
  | connectionReady
  deriving DecidableEq, Repr

structure TcpClient where
  tcpState : TcpStateDef
  sockfd : Int
  deriving DecidableEq, Repr

/-- The result of a call that sends something. -/
structure Sent where
  result : Int
  client : TcpClient
  /-- The bytes that the call placed on the connection. -/
  placed : Bytes
  deriving DecidableEq, Repr

/-- What the kernel answers to the two writes of a message. The second answer is not used when
the first write fails. -/
structure Writes where
  header : Int
  data : Int
  deriving DecidableEq, Repr

/-- An answer of the kernel to a write: a failure, or the number of bytes it took. -/
def Written (offered : Nat) (result : Int) : Prop := -1 ≤ result ∧ result ≤ offered

instance (offered : Nat) (result : Int) : Decidable (Written offered result) :=
  inferInstanceAs (Decidable (_ ∧ _))

namespace TcpClient

/-- A client that has got its connection. -/
def connected : TcpClient := ⟨.connectionReady, 3⟩

/-! ### The connection -/

def createSocketfd (client : TcpClient) (socket : Int) : Int × TcpClient :=
  let client := { client with sockfd := socket }
  let client := if client.sockfd < 0 then { client with tcpState := .socketError } else client
  (client.sockfd, client)

/-- `found` tells whether `gethostbyname` knows the server. -/
def getHostname (client : TcpClient) (found : Bool) : Int × TcpClient :=
  if found then (0, client) else (-1, { client with tcpState := .gethostError })

def tcpConnect (client : TcpClient) (connect : Int) : Int × TcpClient :=
  if client.tcpState ≠ .tcpReadyToConnect then (-2, client)
  else if connect < 0 then (-1, { client with tcpState := .connectError })
  else (0, { client with tcpState := .connectionReady })

def tcpDisconnect (client : TcpClient) (close : Int) : Int × TcpClient :=
  (close, { client with tcpState := .tcpReadyToConnect })

/-- The constructor. A socket error does not keep it from connecting, since the state is
overwritten when the host is found. -/
def new (socket : Int) (found : Bool) (connect : Int) : TcpClient :=
  let client := (createSocketfd ⟨.tcpNotInitialized, 0⟩ socket).2
  let client :=
    if client.tcpState = .socketError then client else { client with tcpState := .socketFdReady }
  let client := (client.getHostname found).2
  let client :=
    if client.tcpState = .gethostError then client
    else { client with tcpState := .tcpReadyToConnect }
  (client.tcpConnect connect).2

/-! ### Sending -/

/-- One write. A failure is only reported: the client stays in its state. -/
def send (client : TcpClient) (buffer : Bytes) (bufferLength : UInt32) (written : Int) : Sent :=
  if client.tcpState ≠ .connectionReady then ⟨-1, client, []⟩
  else ⟨toInt written, client, (buffer.take bufferLength.toNat).take written.toNat⟩

/-- `none` when the header is to be filled from a NULL pointer. The header buffer comes from the
heap. -/
def sendMessage (client : TcpClient) (message : MessageClass) (heap : Nat → UInt8)
    (writes : Writes) : Option Sent :=
  (message.createTCPHeader (malloc heap tcpHeaderLength)).map fun header =>
    let sendResult := client.send header 37 writes.header
    if sendResult.result < 0 then { sendResult with result := -2 }
    else
      let dataLength := message.getDataLength
      let dataBuffer := message.getDataBufferPtr.getD []
      let sendResult' := sendResult.client.send dataBuffer dataLength writes.data
      { result := if sendResult'.result < 0 then -2 else 0
        client := sendResult'.client
        placed := sendResult.placed ++ sendResult'.placed }

/-! ### What the calls do -/

lemma toInt_of_written {offered : Nat} {result : Int} (h : Written offered result)
    (hsmall : offered < 2 ^ 31) : toInt result = result := by
  obtain ⟨hlow, hhigh⟩ := h
  exact toInt_eq_self (by omega) (by omega)

/-- A large number of bytes comes back as a failure. -/
lemma toInt_neg_iff {offered : Nat} {result : Int} (h : Written offered result)
    (hsmall : offered < 2 ^ 32) : toInt result < 0 ↔ result < 0 ∨ 2 ^ 31 ≤ result := by
  obtain ⟨hlow, hhigh⟩ := h
  rw [toInt, Int.bmod_def]
  split_ifs with hhalf
  · omega
  · omega

/-- What sending a message comes to: nothing is placed unless the connection is there and the
header is taken. The state of the client never changes. -/
theorem sendMessage_eq (client : TcpClient) (o : Outgoing) (heap : Nat → UInt8) {writes : Writes}
    (h : Written tcpHeaderLength writes.header) :
    client.sendMessage o.message heap writes = some
      (if client.tcpState = .connectionReady ∧ 0 ≤ writes.header then
        { result := if toInt writes.data < 0 then -2 else 0
          client := client
          placed := o.header.take writes.header.toNat ++ o.data.take writes.data.toNat }
      else ⟨-2, client, []⟩) := by
  have hint : toInt writes.header = writes.header := toInt_of_written h (by decide)
  have hheader : o.header.take (37 : UInt32).toNat = o.header := by
    rw [show (37 : UInt32).toNat = o.header.length from o.length_header.symm, List.take_length]
  have hdata : o.data.take o.message.getDataLength.toNat = o.data := by
    rw [MessageClass.getDataLength, ← o.data_length, List.take_length]
  rw [sendMessage, o.createTCPHeader_eq (length_malloc heap tcpHeaderLength), Option.map_some,
    MessageClass.getDataBufferPtr, o.data_eq, Option.getD_some]
  congr 1
  by_cases hready : client.tcpState = .connectionReady
  · simp only [send, hready, ne_eq, not_true, if_false, hint, hheader, hdata, true_and]
    by_cases hfailed : writes.header < 0
    · have hnone : writes.header.toNat = 0 := Int.toNat_of_nonpos hfailed.le
      simp only [hfailed, not_le.mpr hfailed, if_true, if_false, hnone, List.take_zero]
    · simp only [hfailed, not_lt.mp hfailed, if_true, if_false]
  · simp [send, hready]

end TcpClient
end Seifenkiste
