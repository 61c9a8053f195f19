import Seifenkiste.Client.Send

/-!
# The state of a client and its socket

A client next to what is true of its socket: whether its descriptor is open, whether it has been
connected, and whether the address of the server is known. The operations change both, the one by
the code and the other by what the kernel answers.
-/

namespace Seifenkiste

open Transition

/-- What the descriptor in `sockfd` really is. -/
inductive Descriptor where
  | closed
  | opened
  /-- Open, and a `connect` has succeeded on it. -/
  | connected
  deriving DecidableEq, Repr

structure Session where
  client : TcpClient
  descriptor : Descriptor
  /-- `serv_addr` has been filled from a resolved host. -/
  servAddr : Bool
  deriving DecidableEq, Repr

/-- The operations of a client and the answers of the kernel to them. A `close` that fails may
have released the descriptor all the same. -/
inductive Operation where
  | tcpConnect (connect : Int)
  | tcpDisconnect (close : Int) (released : Bool)
  | send (buffer : Bytes) (bufferLength : UInt32) (written : Int)
  | sendMessage (message : MessageClass) (heap : Nat → UInt8) (writes : Writes)

/-- The constructor up to its call of `TCP_connect`. -/
def TcpClient.resolve (socket : Int) (found : Bool) : TcpClient :=
  let client := (createSocketfd ⟨.tcpNotInitialized, 0⟩ socket).2
  let client :=
    if client.tcpState = .socketError then client else { client with tcpState := .socketFdReady }
  let client := (client.getHostname found).2
  if client.tcpState = .gethostError then client
  else { client with tcpState := .tcpReadyToConnect }

namespace Session

/-- The session in which the constructor calls `TCP_connect`. -/
def resolved (socket : Int) (found : Bool) : Session where
  client := .resolve socket found
  descriptor := if 0 ≤ socket then .opened else .closed
  servAddr := found

/-- An operation, and the result that it returns, if it does. -/
def step (s : Session) : Operation → Session × List Int
  | .tcpConnect connect =>
    let (result, client) := s.client.tcpConnect connect
    -- `connect` is only called in the state that is ready for it
    let connected := s.client.tcpState = .tcpReadyToConnect ∧ 0 ≤ connect ∧ s.descriptor ≠ .closed
    let descriptor := if connected then .connected else s.descriptor
    ({ s with client := client, descriptor := descriptor }, [result])
  | .tcpDisconnect close released =>
    let (result, client) := s.client.tcpDisconnect close
    let descriptor := if released then .closed else s.descriptor
    ({ s with client := client, descriptor := descriptor }, [result])
  | .send buffer bufferLength written =>
    let sent := s.client.send buffer bufferLength written
    ({ s with client := sent.client }, [sent.result])
  | .sendMessage message heap writes =>
    match s.client.sendMessage message heap writes with
    | some sent => ({ s with client := sent.client }, [sent.result])
    | none      => (s, [])

abbrev machine : Machine Session Operation Int := ⟨step⟩

/-- What the kernel may answer: a closed descriptor cannot be connected, and a `close` that
succeeds releases the descriptor. -/
def Possible (s : Session) : Operation → Prop
  | .tcpConnect connect           =>
    s.client.tcpState = .tcpReadyToConnect → s.descriptor = .closed → connect < 0
  | .tcpDisconnect close released => 0 ≤ close → released = true
  | _                             => True

/-- The state tells the truth about the socket. -/
structure Truthful (s : Session) : Prop where
  connectionReady : s.client.tcpState = .connectionReady → s.descriptor = .connected
  readyToConnect : s.client.tcpState = .tcpReadyToConnect →
    s.descriptor = .opened ∧ s.servAddr = true

/-- A disconnection that leaves a socket to connect: it finds one that is not connected, and does
not get rid of it. -/
def KeepsSocket (s : Session) : Operation → Prop
  | .tcpDisconnect _ released =>
    released = false ∧ s.descriptor = .opened ∧ s.servAddr = true
  | _                         => True

/-- The constructor is its first part and a connection attempt. -/
lemma client_constructed (socket : Int) (found : Bool) (connect : Int) :
    (machine.state (resolved socket found) [.tcpConnect connect]).client
      = .new socket found connect := rfl

/-! ### One operation -/

variable {s : Session}

lemma step_send (s : Session) (buffer : Bytes) (bufferLength : UInt32) (written : Int) :
    (s.step (.send buffer bufferLength written)).1 = s := by
  simp only [step, TcpClient.send_client]

lemma step_sendMessage (s : Session) (message : MessageClass) (heap : Nat → UInt8)
    (writes : Writes) : (s.step (.sendMessage message heap writes)).1 = s := by
  cases hsent : s.client.sendMessage message heap writes with
  | none => simp only [step, hsent]
  | some sent => simp only [step, hsent, TcpClient.sendMessage_client hsent]

lemma tcpState_tcpConnect (s : Session) (connect : Int) :
    (s.step (.tcpConnect connect)).1.client.tcpState =
      if s.client.tcpState ≠ .tcpReadyToConnect then s.client.tcpState
      else if connect < 0 then .connectError else .connectionReady := by
  simp only [step, TcpClient.tcpConnect]
  split_ifs <;> rfl

/-- A connection attempt that is not made, or not successful, leaves the socket as it is. -/
lemma step_tcpConnect_of_not_ready (h : s.client.tcpState ≠ .tcpReadyToConnect) (connect : Int) :
    (s.step (.tcpConnect connect)).1 = s := by
  simp [step, TcpClient.tcpConnect, h]

/-- A client that is connected has a socket that is. -/
lemma connected_step (hs : s.client.tcpState = .connectionReady → s.descriptor = .connected)
    {op : Operation} (hop : s.Possible op) :
    (s.step op).1.client.tcpState = .connectionReady → (s.step op).1.descriptor = .connected := by
  cases op with
  | tcpConnect connect =>
    by_cases hready : s.client.tcpState = .tcpReadyToConnect
    · intro h
      have hconnect : 0 ≤ connect := by
        by_contra hfailed
        rw [tcpState_tcpConnect] at h
        simp [hready, not_le.mp hfailed] at h
      have hopen : s.descriptor ≠ .closed := fun hclosed => (hop hready hclosed).not_ge hconnect
      simp [step, hready, hconnect, hopen]
    · rwa [step_tcpConnect_of_not_ready hready]
  | tcpDisconnect close released =>
    intro h
    cases h
  | send buffer bufferLength written => rwa [step_send]
  | sendMessage message heap writes => rwa [step_sendMessage]

/-- A connection attempt in a truthful session has a socket to work on. -/
lemma Truthful.tcpConnect (hs : s.Truthful) {connect : Int}
    (hop : s.Possible (.tcpConnect connect)) : (s.step (.tcpConnect connect)).1.Truthful := by
  refine ⟨connected_step hs.connectionReady hop, ?_⟩
  intro h
  by_cases hready : s.client.tcpState = .tcpReadyToConnect
  · rw [tcpState_tcpConnect] at h
    simp only [hready, ne_eq, not_true, if_false] at h
    split_ifs at h
  · rw [step_tcpConnect_of_not_ready hready] at h ⊢
    exact hs.readyToConnect h

/-- A disconnection announces a socket to connect, whatever it leaves. -/
lemma truthful_tcpDisconnect_iff (s : Session) (close : Int) (released : Bool) :
    (s.step (.tcpDisconnect close released)).1.Truthful
      ↔ released = false ∧ s.descriptor = .opened ∧ s.servAddr = true := by
  have hstate : (s.step (.tcpDisconnect close released)).1.client.tcpState
      = .tcpReadyToConnect := rfl
  have hdescriptor : (s.step (.tcpDisconnect close released)).1.descriptor = .opened
      ↔ released = false ∧ s.descriptor = .opened := by
    cases released with
    | true => simp [step]
    | false => simp [step]
  constructor
  · intro h
    obtain ⟨hopened, hresolved⟩ := h.readyToConnect hstate
    obtain ⟨hkept, hopened⟩ := hdescriptor.mp hopened
    exact ⟨hkept, hopened, hresolved⟩
  · rintro ⟨hkept, hopened, hresolved⟩
    refine ⟨?_, fun _ => ⟨hdescriptor.mpr ⟨hkept, hopened⟩, hresolved⟩⟩
    intro h
    rw [hstate] at h
    cases h

/-- From a truthful session only a disconnection leads to one that is not. -/
lemma truthful_step_iff (hs : s.Truthful) {op : Operation} (hop : s.Possible op) :
    (s.step op).1.Truthful ↔ s.KeepsSocket op := by
  cases op with
  | tcpConnect connect => exact iff_of_true (hs.tcpConnect hop) trivial
  | tcpDisconnect close released => exact s.truthful_tcpDisconnect_iff close released
  | send buffer bufferLength written =>
    rw [step_send]
    exact iff_of_true hs trivial
  | sendMessage message heap writes =>
    rw [step_sendMessage]
    exact iff_of_true hs trivial

/-! ### Whole runs -/

lemma tcpState_resolve (socket : Int) (found : Bool) :
    (TcpClient.resolve socket found).tcpState
      = if found then .tcpReadyToConnect else .gethostError := by
  cases found with
  | false => simp [TcpClient.resolve, TcpClient.getHostname]
  | true =>
    by_cases hsocket : socket < 0
    · simp [TcpClient.resolve, TcpClient.createSocketfd, TcpClient.getHostname, hsocket]
    · simp [TcpClient.resolve, TcpClient.createSocketfd, TcpClient.getHostname, hsocket]

/-- The constructor connects when the host is found and the connection is accepted. -/
theorem tcpState_new_iff (socket : Int) (found : Bool) (connect : Int) :
    (TcpClient.new socket found connect).tcpState = .connectionReady
      ↔ found = true ∧ 0 ≤ connect := by
  rw [← client_constructed, Machine.state_cons, Machine.state_nil, tcpState_tcpConnect, resolved,
    tcpState_resolve]
  cases found with
  | false => simp
  | true =>
    by_cases hfailed : connect < 0
    · simp [hfailed]
    · simp [hfailed, not_lt.mp hfailed]

/-- The constructor has a socket for its connection unless the error of `socket` was overwritten
when the host was found. -/
lemma truthful_resolved_iff (socket : Int) (found : Bool) :
    (resolved socket found).Truthful ↔ (found = true → 0 ≤ socket) := by
  have hstate := tcpState_resolve socket found
  cases found with
  | false =>
    refine iff_of_true ⟨?_, ?_⟩ (by simp)
    · intro h
      rw [resolved, hstate] at h
      cases h
    · intro h
      rw [resolved, hstate] at h
      cases h
  | true =>
    constructor
    · intro h _
      by_contra hsocket
      have hopened := (h.readyToConnect hstate).1
      simp [resolved, hsocket] at hopened
    · intro hsocket
      refine ⟨?_, fun _ => ⟨if_pos (hsocket rfl), rfl⟩⟩
      intro h
      rw [resolved, hstate] at h
      cases h

/-- In every run that the kernel admits, a client that says it is connected is. It has a socket to
connect whenever it says so exactly if the constructor got a socket or no host, and no
disconnection closes the socket or finds one that cannot be connected. -/
theorem stays_truthful_iff (socket : Int) (found : Bool) (connect : Int) {ops : List Operation}
    (hops : machine.Along Possible (resolved socket found) (.tcpConnect connect :: ops)) :
    let after (n : Nat) : Session :=
      machine.state (resolved socket found) ((Operation.tcpConnect connect :: ops).take n)
    (∀ n, (after n).client.tcpState = .connectionReady → (after n).descriptor = .connected) ∧
      ((∀ n, (after n).Truthful) ↔ (found = true → 0 ≤ socket) ∧
        machine.Along KeepsSocket (resolved socket found) (.tcpConnect connect :: ops)) := by
  have hstart : (resolved socket found).client.tcpState = .connectionReady →
      (resolved socket found).descriptor = .connected := by
    intro h
    rw [resolved, tcpState_resolve] at h
    cases found <;> cases h
  refine ⟨machine.invariant_along (P := Possible)
    (I := fun s => s.client.tcpState = .connectionReady → s.descriptor = .connected)
    (fun _ _ hs hop => connected_step hs hop) hstart hops, ?_⟩
  rw [← truthful_resolved_iff]
  have hrun (hresolved : (resolved socket found).Truthful) :=
    machine.forall_state_iff (P := Possible) (Q := KeepsSocket) (I := Truthful)
      (fun _ _ hs hop => truthful_step_iff hs hop) hresolved hops
  constructor
  · intro h
    have hresolved : (resolved socket found).Truthful := h 0
    exact ⟨hresolved, (hrun hresolved).mp h⟩
  · rintro ⟨hresolved, hkeeps⟩
    exact (hrun hresolved).mpr hkeeps

/-- The theorem at a host that refuses the connection, and a message to it. -/
theorem truthful_refused :
    (machine.state (resolved 3 true) [.tcpConnect (-1), .send [] 0 0]).Truthful := by
  have hops : machine.Along Possible (resolved 3 true) [.tcpConnect (-1), .send [] 0 0] :=
    ⟨fun _ _ => by decide, trivial, trivial⟩
  exact (stays_truthful_iff 3 true (-1) hops).2.mpr ⟨by decide, trivial, trivial, trivial⟩ 2

/-- A client that disconnects from its server. -/
def disconnected : Session :=
  machine.state (resolved 3 true) [.tcpConnect 0, .tcpDisconnect 0 true]

/-- It is ready to connect again, and has no socket. -/
theorem disconnected_not_truthful :
    machine.Along Possible (resolved 3 true) [.tcpConnect 0, .tcpDisconnect 0 true] ∧
    disconnected.client.tcpState = .tcpReadyToConnect ∧ disconnected.descriptor = .closed ∧
    ¬ disconnected.Truthful := by
  refine ⟨⟨fun _ h => ?_, fun _ => rfl, trivial⟩, rfl, rfl, ?_⟩
  · exact absurd h (by decide)
  · intro h
    exact absurd (h.readyToConnect rfl).1 (by decide)

end Session
end Seifenkiste
