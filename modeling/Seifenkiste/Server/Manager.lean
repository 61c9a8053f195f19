import Seifenkiste.Library.Interleaving
import Seifenkiste.Server.Machine

/-!
# The server and its connections

`tcp_server` accepts one connection after the other and forks a process for each of them. Both
processes go on with a copy of the object and of the open descriptors: the child closes the
listening socket and serves its connection, the parent closes the connection and returns to
accept the next one. The children and the parent run interleaved, and the bytes of a connection
arrive while it is being served.
-/

namespace Seifenkiste

open Transition

/-- What a descriptor refers to. -/
inductive File where
  | listening
  /-- The connection that was accepted after so many others. -/
  | connection (k : Nat)
  deriving DecidableEq, Repr

/-- The object, and the descriptors that are open in its process. -/
structure TcpServer where
  sockfd : Int
  connectionfd : Int
  portno : Int
  descriptors : List (Int × File)
  deriving DecidableEq, Repr

namespace TcpServer

def opened (server : TcpServer) (fd : Int) (file : File) : TcpServer :=
  { server with descriptors := (fd, file) :: server.descriptors }

def close (server : TcpServer) (fd : Int) : TcpServer :=
  { server with descriptors := server.descriptors.filter fun descriptor => descriptor.1 ≠ fd }

/-- Create a socket, bind it and listen. A failure of any of the three calls leaves the
program. -/
def initSocket (server : TcpServer) (socket bind listen : Int) :
    Except String (Int × TcpServer) :=
  let server := { server with sockfd := socket }
  if server.sockfd < 0 then .error "ERROR opening server socket"
  else
    let server := server.opened server.sockfd .listening
    if bind < 0 then .error "ERROR on binding"
    else
      let errorcode := listen
      if errorcode < 0 then .error "ERROR on listening" else .ok (errorcode, server)

/-- The constructor. The two descriptors are assigned before they are used; an error code is only
reported, and `initSocket` never returns one. -/
def new (portnumber socket bind listen : Int) : Except String TcpServer := do
  let (_, server) ← initSocket ⟨-1, -1, portnumber, []⟩ socket bind listen
  return server

/-- The descriptor of the next connection. -/
def connectToSocket (accept : Int) : Except String Int :=
  let newsockfd := accept
  if newsockfd < 0 then .error "\nERROR on accept" else .ok newsockfd

lemma new_eq {portnumber socket bind listen : Int} {server : TcpServer}
    (h : new portnumber socket bind listen = .ok server) :
    0 ≤ socket ∧ server = ⟨socket, -1, portnumber, [(socket, .listening)]⟩ := by
  simp only [new, initSocket, opened] at h
  by_cases hsocket : socket < 0
  · simp [hsocket, Bind.bind, Except.bind] at h
  · by_cases hbind : bind < 0
    · simp [hsocket, hbind, Bind.bind, Except.bind] at h
    · by_cases hlisten : listen < 0
      · simp [hsocket, hbind, hlisten, Bind.bind, Except.bind] at h
      · simp only [hsocket, hbind, hlisten, if_false, Bind.bind, Except.bind, pure, Except.pure,
          Except.ok.injEq] at h
        exact ⟨not_lt.mp hsocket, h.symm⟩

end TcpServer

namespace Server

/-! ### The processes -/

/-- The process that accepts connections. -/
structure Manager where
  server : TcpServer
  /-- The number of connections that were accepted. -/
  accepted : Nat
  /-- What the calls of `connect_and_receive` returned. -/
  results : List Int
  /-- The message with which the process left, if it did. -/
  exited : Option String
  deriving DecidableEq, Repr

/-- A process that serves a connection. -/
structure Child where
  server : TcpServer
  state : State

/-- What the kernel answers to a call of `connect_and_receive`. -/
structure Answers where
  accept : Int
  fork : Int
  deriving DecidableEq, Repr

/-- Both calls succeed. -/
def Answers.Succeed (answers : Answers) : Prop := 0 ≤ answers.accept ∧ 0 ≤ answers.fork

namespace Manager

/-- The manager at the beginning of its loop. -/
def start (server : TcpServer) : Manager := ⟨server, 0, [], none⟩

/-- Accept a connection and fork a child that serves it. The child is at the beginning of
`process_messages`; it never comes back. -/
def connectAndReceive (m : Manager) (answers : Answers) : Manager × List Child :=
  match TcpServer.connectToSocket answers.accept with
  | .error message   => ({ m with exited := some message }, [])
  | .ok connectionfd =>
    let server := { m.server with connectionfd := connectionfd }
    let server := server.opened connectionfd (.connection m.accepted)
    let m := { m with server := server, accepted := m.accepted + 1 }
    let pid := answers.fork
    if pid < 0 then ({ m with exited := some "ERROR on fork" }, [])
    else
      let child := server.close server.sockfd
      let parent := server.close server.connectionfd
      ({ m with server := parent, results := m.results ++ [0] }, [⟨child, Server.start []⟩])

/-- The main program calls `connect_and_receive` again and again, whatever it returned. -/
abbrev machine : Machine Manager Answers Child := ⟨connectAndReceive⟩

lemma machine_step : machine.step = connectAndReceive := rfl

/-- The process is still there, and `accept` does not hand out a descriptor that is in use. -/
def Possible (m : Manager) (answers : Answers) : Prop :=
  m.exited = none ∧ ∀ descriptor ∈ m.server.descriptors, descriptor.1 ≠ answers.accept

instance (m : Manager) (answers : Answers) : Decidable (m.Possible answers) :=
  inferInstanceAs (Decidable (_ ∧ _))

end Manager

/-! ### A connection while its bytes arrive -/

namespace State

def arrive (s : State) (more : Bytes) : State := { s with input := s.input ++ more }

/-- A result that the read can have in which the server waits. -/
def Admits (s : State) (result : Int) : Prop :=
  match s.phase with
  | .idle        => Granted tcpHeaderLength s.input.length result
  | .receiving t => Granted t.length s.input.length result
  | .stopped _   => False

instance (s : State) (result : Int) : Decidable (s.Admits result) :=
  match s with
  | ⟨.idle, _, _⟩        => inferInstanceAs (Decidable (Granted _ _ _))
  | ⟨.receiving _, _, _⟩ => inferInstanceAs (Decidable (Granted _ _ _))
  | ⟨.stopped _, _, _⟩   => inferInstanceAs (Decidable False)

end State

section Arrival

variable {memory : Nat → Environment} {env : Environment} {t : Turn} {turns : Nat} {result : Int}
  {received input more : Bytes}

lemma headerRead_append :
    headerRead env turns result received (input ++ more)
      = ((headerRead env turns result received input).1.arrive more,
        (headerRead env turns result received input).2) := by
  unfold headerRead
  split_ifs <;> rfl

lemma dataRead_append :
    dataRead env t turns result received (input ++ more)
      = ((dataRead env t turns result received input).1.arrive more,
        (dataRead env t turns result received input).2) := by
  unfold dataRead
  split_ifs <;> rfl

/-- A read that has its bytes does not see what arrives behind them. -/
lemma step_arrive {s : State} (h : s.Admits result) :
    step memory (s.arrive more) result
      = ((step memory s result).1.arrive more, (step memory s result).2) := by
  obtain ⟨phase, input, turns⟩ := s
  have hgrows {asked : Nat} (hgranted : Granted asked input.length result) :
      Granted asked (input ++ more).length result ∧
        (input ++ more).take result.toNat = input.take result.toNat ∧
        (input ++ more).drop result.toNat = input.drop result.toNat ++ more := by
    obtain ⟨hlow, hasked, hthere, hmax⟩ := hgranted
    have hle : result.toNat ≤ input.length := Int.toNat_le.mpr hthere
    refine ⟨⟨hlow, hasked, ?_, hmax⟩, List.take_append_of_le_length hle,
      List.drop_append_of_le_length hle⟩
    rw [List.length_append]
    exact hthere.trans (Int.ofNat_le.mpr (Nat.le_add_right _ _))
  cases phase with
  | stopped stop => exact absurd h id
  | idle =>
    obtain ⟨hgranted, htake, hdrop⟩ := hgrows h
    rw [State.arrive, step_idle hgranted, step_idle h, htake, hdrop, headerRead_append]
  | receiving t =>
    obtain ⟨hgranted, htake, hdrop⟩ := hgrows h
    rw [State.arrive, step_receiving hgranted, step_receiving h, htake, hdrop, dataRead_append]

/-- The bytes of its connection reach a server one after the other. -/
def serverFeed (memory : Nat → Environment) : Feed (machine memory) UInt8 where
  feed := State.arrive
  Admits := State.Admits
  feed_append s arrived more := by simp only [State.arrive, List.append_assoc]
  step_feed _ _ _ h := step_arrive h

/-- A read that is not possible stops the server for good. -/
lemma exists_stop_of_not_admits {s : State} (h : ¬ s.Admits result) :
    ∃ stop, (step memory s result).1.phase = .stopped stop := by
  obtain ⟨phase, input, turns⟩ := s
  cases phase with
  | stopped stop => exact ⟨stop, rfl⟩
  | idle =>
    rw [step_idle_refused h]
    exact ⟨_, rfl⟩
  | receiving t =>
    rw [step_receiving_refused h]
    exact ⟨_, rfl⟩

/-- In a run that comes back to the beginning of the loop every read was possible. -/
lemma along_admits_of_idle {s : State} {schedule : List Int}
    (h : ((machine memory).state s schedule).phase = .idle) :
    (machine memory).Along State.Admits s schedule := by
  induction schedule generalizing s with
  | nil => trivial
  | cons result schedule ih =>
    refine ⟨?_, ih h⟩
    by_contra hrefused
    obtain ⟨stop, hstop⟩ := @exists_stop_of_not_admits memory result s hrefused
    have hfixed := (machine memory).state_of_fixed (fun i => step_stopped hstop i) schedule
    rw [Machine.state_cons, machine_step, hfixed.1, hstop] at h
    cases h

end Arrival

/-- A child on its connection; only its receiver loop changes. -/
abbrev receiver (memory : Nat → Environment) : Machine Child Int Event :=
  ⟨fun c result =>
    ({ c with state := (step memory c.state result).1 }, (step memory c.state result).2)⟩

lemma receiver_run (memory : Nat → Environment) (c : Child) (schedule : List Int) :
    (receiver memory).state c schedule
        = { c with state := (machine memory).state c.state schedule } ∧
      (receiver memory).output c schedule = (machine memory).output c.state schedule := by
  induction schedule generalizing c with
  | nil => exact ⟨rfl, rfl⟩
  | cons result schedule ih =>
    obtain ⟨hstate, houtput⟩ := ih { c with state := (step memory c.state result).1 }
    exact ⟨hstate, congrArg _ houtput⟩

/-- So do the bytes of a child's connection. -/
def connectionFeed (memory : Nat → Environment) : Feed (receiver memory) UInt8 where
  feed c more := { c with state := c.state.arrive more }
  Admits c result := c.state.Admits result
  feed_append c arrived more := by simp only [State.arrive, List.append_assoc]
  step_feed c result more h := by simp only [step_arrive h]

/-! ### The whole server -/

/-- The parent and its children; what happens on the `k`-th connection is an arrival of bytes or
a result of the read in which its child waits. -/
def system (memory : Nat → Nat → Environment) :
    Machine (Family Manager Child) (Scheduled Answers (Fed UInt8 Int)) (Nat × Event) :=
  forking Manager.machine fun k => (connectionFeed (memory k)).fed

def Possible (memory : Nat → Nat → Environment) :
    Family Manager Child → Scheduled Answers (Fed UInt8 Int) → Prop :=
  FamilyPossible Manager.Possible fun k => (connectionFeed (memory k)).Possible

instance (memory : Nat → Environment) (c : Child) (result : Int) :
    Decidable ((connectionFeed memory).Admits c result) :=
  inferInstanceAs (Decidable (c.state.Admits result))

instance (memory : Nat → Nat → Environment) (s : Family Manager Child)
    (i : Scheduled Answers (Fed UInt8 Int)) : Decidable (Possible memory s i) :=
  inferInstanceAs (Decidable (FamilyPossible _ _ s i))

/-- The server before its first connection. -/
def booted (server : TcpServer) : Family Manager Child := ⟨.start server, []⟩

/-- The bytes that arrive on the `k`-th connection. -/
def arrivals (k : Nat) (inputs : List (Scheduled Answers (Fed UInt8 Int))) : Bytes :=
  Fed.arrived (Scheduled.forChild k inputs)

/-- The results of the reads on the `k`-th connection. -/
def readResultsOf (k : Nat) (inputs : List (Scheduled Answers (Fed UInt8 Int))) : List Int :=
  Fed.inputs (Scheduled.forChild k inputs)

/-! ### The descriptors of the processes -/

namespace Manager

/-- Between two calls the process holds its listening socket and nothing else. -/
structure Listening (m : Manager) : Prop where
  running : m.exited = none
  descriptors : m.server.descriptors = [(m.server.sockfd, .listening)]

variable {m : Manager} {answers : Answers}

/-- A call that does not succeed leaves the program. -/
lemma connectAndReceive_failed (h : ¬ answers.Succeed) :
    (m.connectAndReceive answers).1.exited ≠ none ∧
      (m.connectAndReceive answers).1.results = m.results ∧
      (m.connectAndReceive answers).2 = [] := by
  unfold connectAndReceive TcpServer.connectToSocket
  by_cases haccept : answers.accept < 0
  · simp [haccept]
  · have hfork : answers.fork < 0 := by
      by_contra hfork
      exact h ⟨not_lt.mp haccept, not_lt.mp hfork⟩
    simp [haccept, hfork]

/-- A call that succeeds starts a child that holds the new connection only, and leaves the parent
without it. -/
lemma connectAndReceive_succeeded (hm : m.Listening) (hpossible : m.Possible answers)
    (h : answers.Succeed) :
    ∃ m' child, m.connectAndReceive answers = (m', [child]) ∧ m'.Listening ∧
      m'.server.sockfd = m.server.sockfd ∧ m'.accepted = m.accepted + 1 ∧
      m'.results = m.results ++ [0] ∧
      child.server.descriptors = [(child.server.connectionfd, .connection m.accepted)] ∧
      child.state = Server.start [] := by
  obtain ⟨haccept, hfork⟩ := h
  have hother : m.server.sockfd ≠ answers.accept := by
    have hused := hpossible.2 (m.server.sockfd, .listening)
    rw [hm.descriptors] at hused
    exact hused (List.mem_singleton_self _)
  unfold connectAndReceive TcpServer.connectToSocket
  simp only [not_lt.mpr haccept, not_lt.mpr hfork, if_false]
  refine ⟨_, _, rfl, ⟨hm.running, ?_⟩, rfl, rfl, rfl, ?_, rfl⟩
  · simp [TcpServer.close, TcpServer.opened, hm.descriptors, hother]
  · simp [TcpServer.close, TcpServer.opened, hm.descriptors, hother.symm]

/-- What holds of the manager and the children it has started after a list of calls. -/
structure Managed (m : Manager) (calls : List Answers) : Prop where
  listening : (machine.state m calls).exited = none → (machine.state m calls).Listening
  sockfd : (machine.state m calls).exited = none →
    (machine.state m calls).server.sockfd = m.server.sockfd
  children : ∀ (k : Nat) (child : Child), (machine.output m calls)[k]? = some child →
    child.server.descriptors = [(child.server.connectionfd, .connection (m.accepted + k))] ∧
      child.state = Server.start []
  results : (machine.state m calls).results
    = m.results ++ List.replicate (machine.output m calls).length 0
  running_iff : (machine.state m calls).exited = none ↔ ∀ answers ∈ calls, answers.Succeed
  length : (machine.state m calls).exited = none → (machine.output m calls).length = calls.length

/-- Nothing is called after the process has left. -/
lemma calls_eq_nil_of_exited {calls : List Answers} (hexited : m.exited ≠ none)
    (h : machine.Along Possible m calls) : calls = [] := by
  cases calls with
  | nil => rfl
  | cons answers calls => exact absurd h.1.1 hexited

lemma managed {calls : List Answers} (hm : m.Listening) (h : machine.Along Possible m calls) :
    m.Managed calls := by
  induction calls generalizing m with
  | nil =>
    refine ⟨fun _ => hm, fun _ => rfl, ?_, by simp, by simp [hm.running], fun _ => rfl⟩
    intro k child hchild
    simp at hchild
  | cons answers calls ih =>
    obtain ⟨hpossible, h⟩ := h
    by_cases hsucceed : answers.Succeed
    · obtain ⟨m', child, hcall, hm', hsockfd, haccepted, hresults, hdescriptors, hstate⟩ :=
        connectAndReceive_succeeded hm hpossible hsucceed
      rw [machine_step, hcall] at h
      have hrest := ih hm' h
      have hrun : machine.state m (answers :: calls) = machine.state m' calls := by
        rw [Machine.state_cons, machine_step, hcall]
      have hout : machine.output m (answers :: calls) = child :: machine.output m' calls := by
        rw [Machine.output_cons, machine_step, hcall]
        rfl
      refine ⟨?_, ?_, ?_, ?_, ?_, ?_⟩
      · rw [hrun]
        exact hrest.listening
      · rw [hrun, ← hsockfd]
        exact hrest.sockfd
      · rw [hout]
        intro k child' hchild'
        cases k with
        | zero =>
          obtain rfl := Option.some.inj hchild'
          exact ⟨hdescriptors, hstate⟩
        | succ k =>
          have hchild := hrest.children k child' hchild'
          rwa [haccepted, Nat.add_assoc, Nat.add_comm 1] at hchild
      · rw [hrun, hout, hrest.results, hresults, List.length_cons, List.append_assoc,
          List.singleton_append, ← List.replicate_succ]
      · rw [hrun, hrest.running_iff, List.forall_mem_cons, and_iff_right hsucceed]
      · rw [hrun, hout]
        intro hrunning
        rw [List.length_cons, List.length_cons, hrest.length hrunning]
    · obtain ⟨hexited, hresults, hnone⟩ := @connectAndReceive_failed m answers hsucceed
      obtain rfl := calls_eq_nil_of_exited hexited h
      have hrun : machine.state m [answers] = (m.connectAndReceive answers).1 := rfl
      have hout : machine.output m [answers] = [] := by
        rw [Machine.output_cons, machine_step, hnone]
        rfl
      refine ⟨?_, ?_, ?_, ?_, ?_, ?_⟩
      · rw [hrun]
        exact fun hrunning => absurd hrunning hexited
      · rw [hrun]
        exact fun hrunning => absurd hrunning hexited
      · rw [hout]
        intro k child hchild
        simp at hchild
      · rw [hrun, hout, hresults, List.length_nil, List.replicate_zero, List.append_nil]
      · rw [hrun]
        refine iff_of_false hexited fun hall => hsucceed ?_
        exact hall answers (List.mem_singleton_self _)
      · rw [hrun]
        exact fun hrunning => absurd hrunning hexited

end Manager

/-! ### Every connection for itself -/

section System

variable {memory : Nat → Nat → Environment} {portnumber socket bind listen : Int}
  {server : TcpServer} {inputs : List (Scheduled Answers (Fed UInt8 Int))}

lemma listening_new (hnew : TcpServer.new portnumber socket bind listen = .ok server) :
    (Manager.start server).Listening := by
  obtain ⟨-, rfl⟩ := TcpServer.new_eq hnew
  exact ⟨rfl, rfl⟩

/-- The manager and the calls that it makes, apart from the children. -/
lemma managed_system (hnew : TcpServer.new portnumber socket bind listen = .ok server)
    (h : (system memory).Along (Possible memory) (booted server) inputs) :
    ((system memory).state (booted server) inputs).parent
        = Manager.machine.state (.start server) (Scheduled.forParent inputs) ∧
      (Manager.start server).Managed (Scheduled.forParent inputs) := by
  obtain ⟨hparent, halong⟩ := forking_parent h
  exact ⟨hparent, Manager.managed (listening_new hnew) halong⟩

/-- The `k`-th child, and what it does, whatever is still to arrive. -/
lemma child_spec (hnew : TcpServer.new portnumber socket bind listen = .ok server)
    (h : (system memory).Along (Possible memory) (booted server) inputs) {k : Nat} {child : Child}
    (hchild : ((system memory).state (booted server) inputs).children[k]? = some child) :
    child.server.descriptors = [(child.server.connectionfd, .connection k)] ∧ ∀ more,
      (machine (memory k)).state (start (arrivals k inputs ++ more)) (readResultsOf k inputs)
          = child.state.arrive more ∧
        (machine (memory k)).output (start (arrivals k inputs ++ more)) (readResultsOf k inputs)
          = emittedBy k ((system memory).output (booted server) inputs) := by
  obtain ⟨-, hmanaged⟩ := managed_system hnew h
  have hlt : k < (Manager.machine.output (.start server) (Scheduled.forParent inputs)).length := by
    have hlength := length_forking h
    rw [booted, List.nil_append] at hlength
    exact hlength ▸ (List.getElem?_eq_some_iff.mp hchild).1
  have hstarted := List.getElem?_eq_getElem hlt
  set first := (Manager.machine.output (.start server) (Scheduled.forParent inputs))[k]
  obtain ⟨hdescriptors, hstart⟩ := hmanaged.children k first hstarted
  have hfirst : ((booted server).children ++ Manager.machine.output (booted server).parent
      (Scheduled.forParent inputs))[k]? = some first := hstarted
  obtain ⟨hstate, houtput, halong⟩ := forking_child h hfirst
  obtain rfl : (connectionFeed (memory k)).fed.state first (Scheduled.forChild k inputs) = child :=
    Option.some.inj (hstate.symm.trans hchild)
  have hserver : ((connectionFeed (memory k)).fed.state first
      (Scheduled.forChild k inputs)).server = first.server := by
    obtain ⟨hfed, -⟩ := (connectionFeed (memory k)).fed_spec halong []
    rw [(receiver_run _ _ _).1] at hfed
    exact (congrArg Child.server hfed).symm
  rw [hserver, hdescriptors, Manager.start, Nat.zero_add]
  refine ⟨rfl, fun more => ?_⟩
  obtain ⟨hfed, hfedOutput⟩ := (connectionFeed (memory k)).fed_spec halong more
  have hfeed : ((connectionFeed (memory k)).feed first
      (Fed.arrived (Scheduled.forChild k inputs) ++ more)).state
        = start (arrivals k inputs ++ more) := by
    simp only [connectionFeed, hstart]
    rfl
  rw [(receiver_run _ _ _).1, hfeed] at hfed
  rw [(receiver_run _ _ _).2, hfeed] at hfedOutput
  refine ⟨congrArg Child.state hfed, ?_⟩
  rw [system, houtput, ← hfedOutput]
  rfl

/-- Whatever happens on the other connections and whenever its bytes arrive, a child does with
its connection what the receiver loop does with these bytes and these read results alone. -/
theorem served_alone (hnew : TcpServer.new portnumber socket bind listen = .ok server)
    (h : (system memory).Along (Possible memory) (booted server) inputs) {k : Nat} {child : Child}
    (hchild : ((system memory).state (booted server) inputs).children[k]? = some child) :
    serve (memory k) (arrivals k inputs) (readResultsOf k inputs)
      = { stop := child.state.phase.stop
          input := child.state.input
          trace := emittedBy k ((system memory).output (booted server) inputs) } := by
  obtain ⟨hstate, houtput⟩ := (child_spec hnew h hchild).2 []
  rw [List.append_nil, State.arrive, List.append_nil] at hstate
  rw [List.append_nil] at houtput
  rw [serve_eq, hstate, houtput]

/-- Two connections: on the second one two bytes arrive and are read before anything is read on
the first one. -/
def twoConnections : List (Scheduled Answers (Fed UInt8 Int)) :=
  [.parent ⟨4, 100⟩, .child 0 (.arrive [9]), .parent ⟨4, 101⟩, .child 1 (.arrive [1, 2]),
    .child 1 (.input 2), .child 0 (.input 1)]

/-- The server on its port. -/
def port8192 : TcpServer := ⟨3, -1, 8192, [(3, .listening)]⟩

/-- The theorem at the second one of two connections. -/
theorem served_alone_second :
    serve (fun _ => .cleared) [1, 2] [2]
      = { stop := .exit "ERROR message header too short"
          input := []
          trace := [.readHeader 2 [1, 2]] } :=
  @served_alone (fun _ _ => .cleared) 8192 3 0 0 port8192 twoConnections rfl
    (by decide +kernel) 1 _ rfl

/-- The parent never keeps a connection and a child never holds anything but its own one; every
call that returns has started a child and returned 0, and the parent leaves exactly when `accept`
or `fork` fails. -/
theorem descriptors_kept (hnew : TcpServer.new portnumber socket bind listen = .ok server)
    (h : (system memory).Along (Possible memory) (booted server) inputs) :
    let s := (system memory).state (booted server) inputs
    let calls := Scheduled.forParent inputs
    (s.parent.exited = none → s.parent.server.descriptors = [(socket, .listening)]) ∧
      (∀ (k : Nat) (child : Child), s.children[k]? = some child →
        child.server.descriptors = [(child.server.connectionfd, .connection k)]) ∧
      s.parent.results = List.replicate s.children.length 0 ∧
      (s.parent.exited = none ↔ ∀ answers ∈ calls, 0 ≤ answers.accept ∧ 0 ≤ answers.fork) ∧
      (s.parent.exited = none → s.children.length = calls.length) := by
  obtain ⟨hparent, hmanaged⟩ := managed_system hnew h
  obtain ⟨-, hserver⟩ := TcpServer.new_eq hnew
  have hlength := length_forking h
  rw [booted, List.nil_append] at hlength
  refine ⟨?_, ?_, ?_, ?_, ?_⟩
  · rw [hparent]
    intro hrunning
    rw [(hmanaged.listening hrunning).descriptors, hmanaged.sockfd hrunning, hserver]
    rfl
  · intro k child hchild
    exact (child_spec hnew h hchild).1
  · rw [hparent, hmanaged.results, system, booted, hlength]
    rfl
  · rw [hparent]
    exact hmanaged.running_iff
  · rw [hparent, system, booted, hlength]
    exact hmanaged.length

/-- The theorem at two connections. -/
theorem descriptors_kept_two :
    ((system fun _ _ => .cleared).state (booted port8192) twoConnections).parent.results
      = [0, 0] :=
  (@descriptors_kept (fun _ _ => .cleared) 8192 3 0 0 port8192 twoConnections rfl
    (by decide +kernel)).2.2.1

end System

end Server
end Seifenkiste
