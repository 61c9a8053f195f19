import Seifenkiste.Client.State
import Seifenkiste.System.TestImage
import Mathlib.Logic.Function.Basic

/-!
# The descriptors of a process

Clients come and go in a process that opens other descriptors as well, such as the image files of
the test programs. The constructor keeps its socket whatever becomes of the connection, and the
destructor closes it twice. In every run each client writes to its own socket only, no socket
outlives its client, and the rest of the process finds its descriptors as it would without any
client (`descriptors_tidy`).
-/

namespace Seifenkiste

open Transition

/-- Who has opened a descriptor. -/
inductive Holder where
  /-- The client that was constructed as number `k`. -/
  | client (k : Nat)
  /-- The rest of the process. -/
  | other
  deriving DecidableEq, Repr

structure ClientProcess where
  /-- The number of clients that were constructed. -/
  constructed : Nat
  clients : Nat → Option TcpClient
  descriptors : Int → Option Holder

/-- Bytes that a client wrote, and who had opened the descriptor. -/
structure Placement where
  client : Nat
  holder : Option Holder
  placed : Bytes
  deriving DecidableEq, Repr

namespace ClientProcess

/-- What happens in the process, with the answers of the kernel. -/
inductive Call where
  | construct (socket : Int) (found : Bool) (connect : Int)
  | sendMessage (k : Nat) (message : MessageClass) (heap : Nat → UInt8) (writes : Writes)
  | sendTestImage (k : Nat) (image : Bytes) (imagelen currentTime timestamp : UInt64)
      (heap : Nat → UInt8) (behind : Bytes) (writes : Writes)
  | destroy (k : Nat) (close : Int)
  | openOther (fd : Int)
  | closeOther (fd : Int)

/-- A process without clients. -/
def start (held : Int → Bool) : ClientProcess where
  constructed := 0
  clients := fun _ => none
  descriptors := fun fd => if held fd then some .other else none

/-- The system call; a descriptor that is not open stays so. -/
def close (descriptors : Int → Option Holder) (fd : Int) : Int → Option Holder :=
  Function.update descriptors fd none

/-- A public method that writes to the socket of the client. -/
def sending (p : ClientProcess) (k : Nat) (send : TcpClient → Option Sent) :
    ClientProcess × List Placement :=
  match p.clients k with
  | none        => (p, [])
  | some client =>
    match send client with
    | none      => (p, [])
    | some sent =>
      ({ p with clients := Function.update p.clients k (some sent.client) },
        [⟨k, p.descriptors client.sockfd, sent.placed⟩])

/-- The destructor: `TCP_disconnect`, whose result is not looked at, and another `close`. -/
def destroy (p : ClientProcess) (k : Nat) (client : TcpClient) (result : Int) : ClientProcess :=
  let descriptors := close p.descriptors client.sockfd
  let client := (client.tcpDisconnect result).2
  let descriptors := close descriptors client.sockfd
  { p with clients := Function.update p.clients k none, descriptors := descriptors }

def step (p : ClientProcess) : Call → ClientProcess × List Placement
  | .construct socket found connect =>
    let client := TcpClient.new socket found connect
    let descriptors :=
      if 0 ≤ socket then Function.update p.descriptors socket (some (.client p.constructed))
      else p.descriptors
    ({ constructed := p.constructed + 1
       clients := Function.update p.clients p.constructed (some client)
       descriptors := descriptors }, [])
  | .sendMessage k message heap writes =>
    p.sending k fun client => client.sendMessage message heap writes
  | .sendTestImage k image imagelen currentTime timestamp heap behind writes =>
    p.sending k fun client =>
      client.sendTestImage image imagelen currentTime timestamp heap behind writes
  | .destroy k result =>
    match p.clients k with
    | some client => (p.destroy k client result, [])
    | none        => (p, [])
  | .openOther fd  =>
    ({ p with descriptors := Function.update p.descriptors fd (some .other) }, [])
  | .closeOther fd => ({ p with descriptors := close p.descriptors fd }, [])

abbrev machine : Machine ClientProcess Call Placement := ⟨step⟩

/-- What the kernel may answer: a new descriptor is one that is not open, and only an open one can
be connected. The rest of the process closes what it has opened. -/
def Possible (p : ClientProcess) : Call → Prop
  | .construct socket _ connect =>
    (0 ≤ socket → p.descriptors socket = none) ∧ (socket < 0 → connect < 0)
  | .openOther fd  => 0 ≤ fd ∧ p.descriptors fd = none
  | .closeOther fd => p.descriptors fd = some .other
  | _              => True

instance (p : ClientProcess) : ∀ call, Decidable (p.Possible call)
  | .construct _ _ _                  => inferInstanceAs (Decidable (_ ∧ _))
  | .sendMessage _ _ _ _              => isTrue trivial
  | .sendTestImage _ _ _ _ _ _ _ _    => isTrue trivial
  | .destroy _ _                      => isTrue trivial
  | .openOther _                      => inferInstanceAs (Decidable (_ ∧ _))
  | .closeOther _                     => inferInstanceAs (Decidable (_ = _))

/-- What the rest of the process has open after one call, clients or not. -/
def heldAfter (held : Int → Bool) : Call → Int → Bool
  | .openOther fd  => Function.update held fd true
  | .closeOther fd => Function.update held fd false
  | _              => held

/-! ### The sockets of the clients -/

lemma sockfd_new (socket : Int) (found : Bool) (connect : Int) :
    (TcpClient.new socket found connect).sockfd = socket := by
  simp only [TcpClient.new, TcpClient.createSocketfd, TcpClient.getHostname, TcpClient.tcpConnect]
  split_ifs <;> rfl

/-- A client is connected to a socket or not at all. -/
lemma sockfd_nonneg_of_ready {socket : Int} {found : Bool} {connect : Int}
    (hconnect : socket < 0 → connect < 0)
    (h : (TcpClient.new socket found connect).tcpState = .connectionReady) : 0 ≤ socket := by
  by_contra hsocket
  have hfailed := hconnect (not_le.mp hsocket)
  exact absurd ((Session.tcpState_new_iff socket found connect).mp h).2 (not_le.mpr hfailed)

/-- A method that leaves the client as it is, and writes nothing unless it is connected. -/
def WritesWhenReady (send : TcpClient → Option Sent) : Prop :=
  ∀ client sent, send client = some sent →
    sent.client = client ∧ (client.tcpState ≠ .connectionReady → sent.placed = [])

lemma send_of_not_ready {client : TcpClient} (h : client.tcpState ≠ .connectionReady)
    (buffer : Bytes) (bufferLength : UInt32) (written : Int) :
    client.send buffer bufferLength written = ⟨-1, client, []⟩ := by
  simp [TcpClient.send, h]

lemma writesWhenReady_sendMessage (message : MessageClass) (heap : Nat → UInt8)
    (writes : Writes) :
    WritesWhenReady fun client => client.sendMessage message heap writes := by
  intro client sent h
  refine ⟨TcpClient.sendMessage_client h, ?_⟩
  intro hready
  obtain ⟨header, -, rfl⟩ := Option.map_eq_some_iff.mp h
  simp [send_of_not_ready hready]

lemma writesWhenReady_sendTestImage (image : Bytes) (imagelen currentTime timestamp : UInt64)
    (heap : Nat → UInt8) (behind : Bytes) (writes : Writes) :
    WritesWhenReady fun client =>
      client.sendTestImage image imagelen currentTime timestamp heap behind writes := by
  intro client sent h
  simp only [TcpClient.sendTestImage] at h
  obtain ⟨header, -, rfl⟩ := Option.map_eq_some_iff.mp h
  refine ⟨?_, ?_⟩
  · split
    · exact TcpClient.send_client _ _ _ _
    · dsimp only
      rw [TcpClient.send_client, TcpClient.send_client]
  · intro hready
    simp [send_of_not_ready hready]

/-! ### What every run keeps -/

/-- The rest of the process has open what it would have without clients, each live client has its
socket open, and nothing else is. -/
structure Tidy (held : Int → Bool) (p : ClientProcess) : Prop where
  other_iff : ∀ fd, p.descriptors fd = some .other ↔ held fd = true
  owned : ∀ k client, p.clients k = some client → 0 ≤ client.sockfd →
    p.descriptors client.sockfd = some (.client k)
  owner : ∀ fd k, p.descriptors fd = some (.client k) →
    0 ≤ fd ∧ ∃ client, p.clients k = some client ∧ client.sockfd = fd
  ready : ∀ k client, p.clients k = some client → client.tcpState = .connectionReady →
    0 ≤ client.sockfd
  fresh : ∀ k, p.constructed ≤ k → p.clients k = none
  held_nonneg : ∀ fd, held fd = true → 0 ≤ fd

variable {held : Int → Bool} {p : ClientProcess}

lemma tidy_start (hheld : ∀ fd, held fd = true → 0 ≤ fd) : Tidy held (start held) where
  other_iff := by simp [start]
  owned := by simp [start]
  owner := by simp [start]
  ready := by simp [start]
  fresh := by simp [start]
  held_nonneg := hheld

/-- The new client gets a descriptor that nobody has, or none. -/
lemma Tidy.construct (h : Tidy held p) {socket : Int} {found : Bool} {connect : Int}
    (hcall : p.Possible (.construct socket found connect)) :
    Tidy held (p.step (.construct socket found connect)).1 := by
  obtain ⟨hfree, hconnect⟩ := hcall
  obtain ⟨client, hclient⟩ : ∃ client, client = TcpClient.new socket found connect := ⟨_, rfl⟩
  have hsockfd : client.sockfd = socket := by rw [hclient, sockfd_new]
  have hready (hready : client.tcpState = .connectionReady) : 0 ≤ client.sockfd := by
    rw [hsockfd]
    exact sockfd_nonneg_of_ready hconnect (hclient ▸ hready)
  have hnew := h.fresh p.constructed le_rfl
  simp only [step, ← hclient]
  obtain ⟨hother, howned, howner, hreadys, hfresh, hheld⟩ := h
  constructor
  · intro fd
    grind [Function.update_apply]
  · intro k client' hk hpos
    grind [Function.update_apply]
  · intro fd k hfd
    grind [Function.update_apply]
  · intro k client' hk
    grind [Function.update_apply]
  · intro k hk
    grind [Function.update_apply]
  · exact hheld

/-- A client takes nobody's descriptor but its own with it. -/
lemma Tidy.destroy (h : Tidy held p) {k : Nat} {client : TcpClient}
    (hclient : p.clients k = some client) (result : Int) :
    Tidy held (p.destroy k client result) := by
  obtain ⟨hother, howned, howner, hreadys, hfresh, hheld⟩ := h
  simp only [ClientProcess.destroy, close, TcpClient.tcpDisconnect]
  constructor
  · intro fd
    grind [Function.update_apply]
  · intro k client' hk hpos
    grind [Function.update_apply]
  · intro fd k hfd
    grind [Function.update_apply]
  · intro k client' hk
    grind [Function.update_apply]
  · intro k hk
    grind [Function.update_apply]
  · exact hheld

/-- A method that sends changes nothing, and writes to the socket of its client only. -/
lemma Tidy.sending (h : Tidy held p) {send : TcpClient → Option Sent}
    (hsend : WritesWhenReady send) (k : Nat) :
    (p.sending k send).1 = p ∧ ∀ placement ∈ (p.sending k send).2, placement.placed ≠ [] →
      placement.holder = some (.client placement.client) := by
  unfold ClientProcess.sending
  split
  · simp
  · rename_i client hclient
    split
    · simp
    · rename_i sent hsent
      obtain ⟨hsame, hquiet⟩ := hsend client sent hsent
      refine ⟨?_, ?_⟩
      · rw [hsame, ← hclient, Function.update_eq_self]
      · intro placement hplacement hplaced
        obtain rfl := List.mem_singleton.mp hplacement
        have hready : client.tcpState = .connectionReady := by
          by_contra hready
          exact hplaced (hquiet hready)
        exact h.owned k client hclient (h.ready k client hclient hready)

lemma Tidy.openOther (h : Tidy held p) {fd : Int} (hcall : p.Possible (.openOther fd)) :
    Tidy (heldAfter held (.openOther fd)) (p.step (.openOther fd)).1 := by
  obtain ⟨hpos, hfree⟩ := hcall
  obtain ⟨hother, howned, howner, hreadys, hfresh, hheld⟩ := h
  simp only [step, heldAfter]
  constructor
  · intro fd'
    grind [Function.update_apply]
  · intro k client hk hpos
    grind [Function.update_apply]
  · intro fd' k hfd
    grind [Function.update_apply]
  · exact hreadys
  · exact hfresh
  · intro fd' hfd
    grind [Function.update_apply]

lemma Tidy.closeOther (h : Tidy held p) {fd : Int} (hcall : p.Possible (.closeOther fd)) :
    Tidy (heldAfter held (.closeOther fd)) (p.step (.closeOther fd)).1 := by
  have hopen : p.descriptors fd = some .other := hcall
  obtain ⟨hother, howned, howner, hreadys, hfresh, hheld⟩ := h
  simp only [step, heldAfter, close]
  constructor
  · intro fd'
    grind [Function.update_apply]
  · intro k client hk hpos
    grind [Function.update_apply]
  · intro fd' k hfd
    grind [Function.update_apply]
  · exact hreadys
  · exact hfresh
  · intro fd' hfd
    grind [Function.update_apply]

lemma Tidy.step (h : Tidy held p) {call : Call} (hcall : p.Possible call) :
    Tidy (heldAfter held call) (p.step call).1 ∧
      ∀ placement ∈ (p.step call).2, placement.placed ≠ [] →
        placement.holder = some (.client placement.client) := by
  have hsending {send : TcpClient → Option Sent} (hsend : WritesWhenReady send) (k : Nat) :
      Tidy held (p.sending k send).1 ∧ ∀ placement ∈ (p.sending k send).2,
        placement.placed ≠ [] → placement.holder = some (.client placement.client) := by
    obtain ⟨hsame, hown⟩ := h.sending hsend k
    refine ⟨?_, hown⟩
    rw [hsame]
    exact h
  cases call with
  | construct socket found connect => exact ⟨h.construct hcall, by simp [ClientProcess.step]⟩
  | sendMessage k message heap writes =>
    exact hsending (writesWhenReady_sendMessage message heap writes) k
  | sendTestImage k image imagelen currentTime timestamp heap behind writes =>
    exact hsending
      (writesWhenReady_sendTestImage image imagelen currentTime timestamp heap behind writes) k
  | destroy k result =>
    cases hclient : p.clients k with
    | none =>
      simp only [ClientProcess.step, hclient]
      exact ⟨h, by simp⟩
    | some client =>
      simp only [ClientProcess.step, hclient]
      exact ⟨h.destroy hclient result, by simp⟩
  | openOther fd => exact ⟨h.openOther hcall, by simp [ClientProcess.step]⟩
  | closeOther fd => exact ⟨h.closeOther hcall, by simp [ClientProcess.step]⟩

lemma Tidy.run (h : Tidy held p) {calls : List Call} (hcalls : machine.Along Possible p calls) :
    Tidy (calls.foldl heldAfter held) (machine.state p calls) ∧
      ∀ placement ∈ machine.output p calls, placement.placed ≠ [] →
        placement.holder = some (.client placement.client) := by
  induction calls generalizing held p with
  | nil => exact ⟨h, by simp⟩
  | cons call calls ih =>
    obtain ⟨hcall, hcalls⟩ := hcalls
    obtain ⟨hnext, hown⟩ := h.step hcall
    obtain ⟨hlast, hrest⟩ := ih hnext hcalls
    refine ⟨hlast, ?_⟩
    intro placement hplacement
    rcases List.mem_append.mp hplacement with hfirst | hlater
    · exact hown placement hfirst
    · exact hrest placement hlater

/-- In every run the rest of the process has open what it would have without clients, each client
its socket until it is destroyed and nothing afterwards, and what a client writes goes to its own
socket. -/
theorem descriptors_tidy (hheld : ∀ fd, held fd = true → 0 ≤ fd) {calls : List Call}
    (h : machine.Along Possible (start held) calls) :
    let p := machine.state (start held) calls
    (∀ fd, p.descriptors fd = some .other ↔ calls.foldl heldAfter held fd = true) ∧
      (∀ fd k, p.descriptors fd = some (.client k) ↔
        0 ≤ fd ∧ ∃ client, p.clients k = some client ∧ client.sockfd = fd) ∧
      ∀ placement ∈ machine.output (start held) calls, placement.placed ≠ [] →
        placement.holder = some (.client placement.client) := by
  intro p
  obtain ⟨htidy, hown⟩ := (tidy_start hheld).run h
  refine ⟨htidy.other_iff, ?_, hown⟩
  intro fd k
  constructor
  · exact htidy.owner fd k
  · rintro ⟨hpos, client, hclient, rfl⟩
    exact htidy.owned k client hclient hpos

/-- The standard streams of a process. -/
def standardStreams (fd : Int) : Bool := 0 ≤ fd && fd ≤ 2

/-- A client that reads an image from a file and sends it, and one that takes its place. -/
def twoLifetimes : List Call :=
  [.construct 3 true 0, .openOther 4, .closeOther 4,
    .sendTestImage 0 [7] 1 0 0 (fun _ => 0) [] ⟨25, 1⟩, .destroy 0 0, .openOther 3,
    .construct 4 true 0, .destroy 1 0]

/-- The theorem at two clients, the first of which has had the descriptor of a file. -/
theorem descriptors_tidy_two :
    (machine.state (start standardStreams) twoLifetimes).descriptors 3 = some .other := by
  have hheld (fd : Int) (h : standardStreams fd = true) : 0 ≤ fd := by
    simp [standardStreams] at h
    exact h.1
  exact ((descriptors_tidy hheld (by decide +kernel)).1 3).mpr rfl

end ClientProcess
end Seifenkiste
