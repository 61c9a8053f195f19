import Seifenkiste.System.CameraRun

/-!
# The way back

The server writes a response for each image, and the client has no code that reads one. A
connection holds a number of bytes in each direction. When the way back is full the server stays
in the write of a response, and then the camera in the write of an image. Where a run ends does
not depend on the order of its moves (`shown_of_stuck`), and the camera leaves its main loop
early enough for a way back of 10010 bytes (`all_shown`).
-/

namespace Seifenkiste

open Memory LittleEndian Transition Trace

/-! ### A connection between a camera and its server -/

/-- The number of bytes that a connection holds in each direction. -/
structure Link where
  up : Nat
  down : Nat

namespace Server

/-- A result of the next read that takes bytes of one frame only: a whole header, or some of the
body. -/
def State.CutsAtFrame (s : State) (result : Int) : Prop :=
  match s.phase with
  | .idle        => result = tcpHeaderLength ∧ tcpHeaderLength ≤ s.input.length
  | .receiving t => 1 ≤ result ∧ t.data.length + result ≤ t.length ∧ result ≤ s.input.length ∧
      result ≤ transferMax
  | .stopped _   => False

instance (s : State) (result : Int) : Decidable (s.CutsAtFrame result) :=
  match s with
  | ⟨.idle, _, _⟩        => inferInstanceAs (Decidable (_ ∧ _))
  | ⟨.receiving _, _, _⟩ => inferInstanceAs (Decidable (_ ∧ _ ∧ _ ∧ _))
  | ⟨.stopped _, _, _⟩   => inferInstanceAs (Decidable False)

end Server

/-- A camera and its server while the connection is open. -/
structure Connection where
  /-- The bytes that the camera has still to write. -/
  unsent : Bytes
  /-- Its input is what the camera has written and the server has not read. -/
  server : Server.State
  /-- What is left of the response that the server is writing. -/
  unwritten : Bytes
  /-- The responses on the way back. -/
  unread : Bytes

namespace Connection

inductive Move where
  /-- The kernel takes so many bytes of what the camera writes. -/
  | send (n : Nat)
  /-- A read of the server returns. -/
  | read (result : Int)
  /-- The kernel takes so many bytes of the response. -/
  | respond (n : Nat)

def start (wire : Bytes) : Connection := ⟨wire, Server.start [], [], []⟩

/-- When a read completes an image, the server goes on to the write of its response, and does not
return from there until the kernel has taken it all. -/
def step (memory : Nat → Environment) (c : Connection) : Move → Connection × List Event
  | .send n =>
    ({ c with unsent := c.unsent.drop n, server := c.server.arrive (c.unsent.take n) }, [])
  | .read result =>
    let (server, events) := Server.step memory c.server result
    let written := (memory c.server.turns).written.toNat
    ({ c with server := server, unwritten := (responses events).flatten.take written }, events)
  | .respond n =>
    ({ c with unwritten := c.unwritten.drop n, unread := c.unread ++ c.unwritten.take n }, [])

abbrev machine (memory : Nat → Environment) : Machine Connection Move Event := ⟨step memory⟩

/-- The moves that the link has room for, when the reads cut at the frames. The server does not
read while it is in the write of a response. -/
def Possible (link : Link) (c : Connection) : Move → Prop
  | .send n      => 1 ≤ n ∧ n ≤ c.unsent.length ∧ c.server.input.length + n ≤ link.up
  | .read result => c.unwritten = [] ∧ c.server.CutsAtFrame result
  | .respond n   => 1 ≤ n ∧ n ≤ c.unwritten.length ∧ c.unread.length + n ≤ link.down

instance (link : Link) (c : Connection) : ∀ move, Decidable (Possible link c move)
  | .send _    => inferInstanceAs (Decidable (_ ∧ _ ∧ _))
  | .read _    => inferInstanceAs (Decidable (_ ∧ _))
  | .respond _ => inferInstanceAs (Decidable (_ ∧ _ ∧ _))

/-- Nothing can happen any more while the connection is open. -/
def Stuck (link : Link) (c : Connection) : Prop := ∀ move, ¬ Possible link c move

end Connection

/-! ### One read that cuts at the frames -/

namespace Server

variable {memory : Nat → Environment} {s : State} {result : Int} {more : Bytes}
  {rest : List Outgoing}

lemma State.CutsAtFrame.arrive (h : s.CutsAtFrame result) (more : Bytes) :
    (s.arrive more).CutsAtFrame result := by
  obtain ⟨phase, input, turns⟩ := s
  have hgrows : input.length ≤ (input ++ more).length := by simp
  cases phase with
  | stopped stop => exact h
  | idle => exact ⟨h.1, h.2.trans hgrows⟩
  | receiving t =>
    obtain ⟨hone, hbody, hthere, hmax⟩ := h
    exact ⟨hone, hbody, hthere.trans (Int.ofNat_le.mpr hgrows), hmax⟩

lemma State.CutsAtFrame.admits (h : s.CutsAtFrame result) : s.Admits result := by
  obtain ⟨phase, input, turns⟩ := s
  cases phase with
  | stopped stop => exact h
  | idle =>
    obtain ⟨rfl, hthere⟩ := h
    exact ⟨by decide, le_rfl, Int.ofNat_le.mpr hthere, by decide⟩
  | receiving t =>
    obtain ⟨hone, hbody, hthere, hmax⟩ := h
    exact ⟨by omega, by omega, hthere, hmax⟩

/-- It takes a byte at least. -/
lemma State.CutsAtFrame.input_lt (memory : Nat → Environment) (h : s.CutsAtFrame result) :
    (step memory s result).1.input.length < s.input.length := by
  have hadmits := h.admits
  obtain ⟨phase, input, turns⟩ := s
  have hdrop (hone : 1 ≤ result) (hthere : 0 < input.length) :
      (input.drop result.toNat).length < input.length := by
    rw [List.length_drop]
    omega
  cases phase with
  | stopped stop => exact absurd h id
  | idle =>
    obtain ⟨rfl, hthere⟩ := h
    rw [step_idle hadmits, headerRead_full rfl]
    exact hdrop (by decide) (Nat.lt_of_lt_of_le (by decide) hthere)
  | receiving t =>
    obtain ⟨hone, -, hthere, -⟩ := h
    have hinput : 0 < input.length := Int.ofNat_lt.mp (Int.lt_of_lt_of_le hone hthere)
    rw [step_receiving hadmits, dataRead]
    split_ifs
    all_goals exact hdrop hone hinput

/-- The server is between two frames, or inside the body of one, and the rest of the frames is
what it has still to read. -/
inductive Located (memory : Nat → Environment) : List Outgoing → State → Prop
  | idle {rest : List Outgoing} {turns : Nat} :
      Located memory rest ⟨.idle, Outgoing.stream rest, turns⟩
  | receiving {o : Outgoing} {rest : List Outgoing} {t : Turn} {data : Bytes} {turns : Nat}
      (hbegun : t.Begun (memory turns)) (hheader : t.header = o.header)
      (hdata : t.data ++ data = o.data) (hmore : data ≠ []) :
      Located memory (o :: rest) ⟨.receiving t, data ++ Outgoing.stream rest, turns⟩

lemma Located.input_eq (h : Located memory rest s) (hidle : s.phase = .idle) :
    s.input = Outgoing.stream rest := by
  cases h with
  | idle => rfl
  | receiving => exact Phase.noConfusion hidle

/-- A read that cuts at the frames stays inside a frame, or shows the image of the frame and
acknowledges it. -/
lemma Located.read (hmem : NeverInvalid memory) (hpos : ∀ o ∈ rest, 0 < o.data.length)
    (h : Located memory rest s) (hcut : s.CutsAtFrame result) :
    let after := step memory s result
    (Located memory rest after.1 ∧ displayed after.2 = [] ∧ responses after.2 = []) ∨
      ∃ o later, rest = o :: later ∧ Located memory later after.1 ∧ after.1.phase = .idle ∧
        displayed after.2 = [o.image] ∧ responses after.2 = [o.response] := by
  intro after
  cases h with
  | @idle rest turns =>
    obtain ⟨rfl, hthere⟩ := hcut
    cases rest with
    | nil => exact absurd hthere (Nat.not_succ_le_zero _)
    | cons o later =>
      obtain ⟨t, hheader, hchunks, hbegun, hstep⟩ :=
        step_header (o.data ++ Outgoing.stream later) (hmem turns) (hpos o List.mem_cons_self)
      have hafter : after = (⟨.receiving t, o.data ++ Outgoing.stream later, turns⟩,
          [.readHeader tcpHeaderLength o.header, .constructed t.message]) := by
        rw [← hstep, ← Outgoing.stream_cons]
      have hdata : t.data ++ o.data = o.data := by
        rw [Turn.data, hchunks, List.flatten_nil, List.nil_append]
      have hmore : o.data ≠ [] := List.ne_nil_of_length_pos (hpos o List.mem_cons_self)
      left
      rw [hafter]
      exact ⟨.receiving hbegun hheader hdata hmore, rfl, rfl⟩
  | @receiving o later t data turns hbegun hheader hdata hmore =>
    have hadmits := hcut.admits
    obtain ⟨hone, hbody, -, -⟩ := hcut
    obtain ⟨n, rfl⟩ := Int.eq_ofNat_of_zero_le (show 0 ≤ result by omega)
    obtain ⟨hlength, -⟩ := turn_of_sent hbegun (hmem turns) hheader
    have hsum : t.data.length + data.length = t.length := by
      rw [← List.length_append, hdata, hlength]
    have hle : n ≤ data.length := by omega
    have hneg : ¬ (n : Int) < 0 := by omega
    have hafter : after = dataRead (memory turns) t turns n (data.take n)
        (data.drop n ++ Outgoing.stream later) := by
      show step memory _ _ = _
      rw [step_receiving hadmits, Int.toNat_natCast, List.take_append_of_le_length hle,
        List.drop_append_of_le_length hle]
    obtain ⟨t', ht'⟩ : ∃ t', t' = t.receive (data.take n) := ⟨_, rfl⟩
    have hbegun' : t'.Begun (memory turns) := by
      rw [ht']
      exact ⟨hbegun.length_header, hbegun.message_eq⟩
    have hheader' : t'.header = o.header := by
      rw [ht']
      exact hheader
    have hdata' : t'.data ++ data.drop n = o.data := by
      rw [ht', Turn.data_receive, List.append_assoc, List.take_append_drop, hdata]
    by_cases hlast : n = data.length
    · -- the body is there, so this is the end of the turn
      have hcomplete : t'.data = o.data := by
        rw [← hdata', hlast, List.drop_length, List.append_nil]
      have haccepts : (memory turns).object.Accepts t'.header :=
        ⟨hheader' ▸ o.hasControlSegments_header, hmem turns⟩
      obtain ⟨himage, hresponse⟩ := shown_of_frame hbegun' (hmem turns) hheader' hcomplete
      have hend : t.length ≤ t'.data.length := by rw [hcomplete, hlength]
      right
      refine ⟨o, later, rfl, ?_⟩
      rw [hafter, dataRead_of_le hneg (ht' ▸ hend), ← ht', hbegun'.leave_of_accepts haccepts,
        hlast, List.drop_length, List.nil_append, Turn.closing, himage, hresponse]
      exact ⟨.idle, rfl, rfl, rfl⟩
    · have hrest : data.drop n ≠ [] := by
        apply List.ne_nil_of_length_pos
        rw [List.length_drop]
        omega
      have hshort : t'.data.length < t.length := by
        rw [ht', Turn.data_receive, List.length_append, List.length_take_of_le hle]
        omega
      left
      rw [hafter, dataRead_of_lt hneg (ht' ▸ hshort), ← ht']
      exact ⟨.receiving hbegun' hheader' hdata' hrest, rfl, rfl⟩

end Server

namespace Connection

variable {memory : Nat → Environment} {link : Link} {shown rest : List Outgoing}
  {events : List Event} {c : Connection}

/-! ### What every run keeps -/

/-- The messages are split into those that were shown and the rest; the responses to the former
are on the way back, and the latter are what the server has still to read. -/
structure Progress (memory : Nat → Environment) (link : Link) (shown rest : List Outgoing)
    (events : List Event) (c : Connection) : Prop where
  located : Server.Located memory rest (c.server.arrive c.unsent)
  displayed_eq : displayed events = shown.map Outgoing.image
  responses_eq : c.unread ++ c.unwritten = (shown.map Outgoing.response).flatten
  /-- The server is not in a frame while it writes a response. -/
  busy : c.unwritten ≠ [] → c.server.phase = .idle
  unwritten_le : c.unwritten.length ≤ 10
  input_le : c.server.input.length ≤ link.up
  unread_le : c.unread.length ≤ link.down

lemma Progress.start (memory : Nat → Environment) (link : Link) (sent : List Outgoing) :
    Progress memory link [] sent [] (start (Outgoing.stream sent)) where
  located := .idle
  displayed_eq := rfl
  responses_eq := rfl
  busy := fun h => absurd rfl h
  unwritten_le := Nat.zero_le _
  input_le := Nat.zero_le _
  unread_le := Nat.zero_le _

/-- Bytes that the kernel takes from the camera are bytes that the server has still to read. -/
lemma Progress.send (h : Progress memory link shown rest events c) {n : Nat}
    (hmove : Possible link c (.send n)) :
    Progress memory link shown rest events (c.step memory (.send n)).1 := by
  obtain ⟨-, hthere, hroom⟩ := hmove
  refine { h with located := ?_, input_le := ?_ }
  · show Server.Located memory rest
      ((c.server.arrive (c.unsent.take n)).arrive (c.unsent.drop n))
    rw [Server.State.arrive, Server.State.arrive, List.append_assoc, List.take_append_drop]
    exact h.located
  · show (c.server.input ++ c.unsent.take n).length ≤ link.up
    rw [List.length_append, List.length_take_of_le hthere]
    exact hroom

lemma Progress.respond (h : Progress memory link shown rest events c) {n : Nat}
    (hmove : Possible link c (.respond n)) :
    Progress memory link shown rest events (c.step memory (.respond n)).1 := by
  obtain ⟨-, hthere, hroom⟩ := hmove
  refine { h with responses_eq := ?_, busy := ?_, unwritten_le := ?_, unread_le := ?_ }
  · show (c.unread ++ c.unwritten.take n) ++ c.unwritten.drop n = _
    rw [List.append_assoc, List.take_append_drop, h.responses_eq]
  · intro hleft
    apply h.busy
    intro hnone
    exact hleft (by simp [Connection.step, hnone])
  · show (c.unwritten.drop n).length ≤ 10
    rw [List.length_drop]
    exact (Nat.sub_le _ _).trans h.unwritten_le
  · show (c.unread ++ c.unwritten.take n).length ≤ link.down
    rw [List.length_append, List.length_take_of_le hthere]
    exact hroom

/-- A read may bring a message to its end. -/
lemma Progress.read (hmem : Server.NeverInvalid memory) (hwritten : ∀ k, (memory k).written = 10)
    (hpos : ∀ o ∈ rest, 0 < o.data.length) (h : Progress memory link shown rest events c)
    {result : Int} (hmove : Possible link c (.read result)) :
    ∃ more later, rest = more ++ later ∧
      Progress memory link (shown ++ more) later (events ++ (c.step memory (.read result)).2)
        (c.step memory (.read result)).1 := by
  obtain ⟨hnone, hcut⟩ := hmove
  have hunread : c.unread = (shown.map Outgoing.response).flatten := by
    rw [← h.responses_eq, hnone, List.append_nil]
  have hbefore : (Server.step memory c.server result).1.input.length
      ≤ c.server.input.length := by
    rw [← Server.consumed_step c.server result, List.length_append]
    exact Nat.le_add_left _ _
  obtain ⟨⟨server, new⟩, hserver⟩ : ∃ x, x = Server.step memory c.server result := ⟨_, rfl⟩
  have hlocated := h.located.read hmem hpos (hcut.arrive c.unsent)
  rw [Server.step_arrive hcut.admits, ← hserver] at hlocated
  rw [← hserver] at hbefore
  have hmoved : c.step memory (.read result)
      = ({ c with server := server, unwritten := (responses new).flatten.take 10 }, new) := by
    simp only [step, ← hserver, hwritten]
    rfl
  rw [hmoved]
  rcases hlocated with ⟨hinside, hquiet, hquiet'⟩ |
    ⟨o, later, rfl, hbetween, hidle, himage, hresponse⟩
  · refine ⟨[], rest, rfl, ?_⟩
    rw [List.append_nil, hquiet', List.flatten_nil, List.take_nil]
    refine { located := hinside, displayed_eq := ?_, responses_eq := ?_,
             busy := fun hbusy => absurd rfl hbusy, unwritten_le := Nat.zero_le _,
             input_le := hbefore.trans h.input_le, unread_le := h.unread_le }
    · rw [displayed, List.filterMap_append]
      exact (congrArg₂ (· ++ ·) h.displayed_eq hquiet).trans (List.append_nil _)
    · exact (List.append_nil _).trans hunread
  · have hwhole : o.response.take 10 = o.response := by
      rw [← o.length_response, List.take_length]
    refine ⟨[o], later, rfl, ?_⟩
    rw [hresponse, List.flatten_singleton, hwhole]
    refine { located := hbetween, displayed_eq := ?_, responses_eq := ?_,
             busy := fun _ => hidle, unwritten_le := o.length_response.le,
             input_le := hbefore.trans h.input_le, unread_le := h.unread_le }
    · rw [displayed, List.filterMap_append, List.map_append]
      exact congrArg₂ (· ++ ·) h.displayed_eq himage
    · rw [List.map_append, List.flatten_append, ← hunread]
      simp

lemma Progress.run (hmem : Server.NeverInvalid memory) (hwritten : ∀ k, (memory k).written = 10)
    (hpos : ∀ o ∈ rest, 0 < o.data.length) (h : Progress memory link shown rest events c)
    {moves : List Move} (hmoves : (machine memory).Along (Possible link) c moves) :
    ∃ more later, rest = more ++ later ∧
      Progress memory link (shown ++ more) later (events ++ (machine memory).output c moves)
        ((machine memory).state c moves) := by
  induction moves generalizing shown rest events c with
  | nil =>
    refine ⟨[], rest, rfl, ?_⟩
    rw [List.append_nil, Machine.output_nil, List.append_nil]
    exact h
  | cons move moves ih =>
    obtain ⟨hmove, hmoves⟩ := hmoves
    obtain ⟨more, later, rfl, hnext⟩ : ∃ more later, rest = more ++ later ∧
        Progress memory link (shown ++ more) later (events ++ (c.step memory move).2)
          (c.step memory move).1 := by
      cases move with
      | send n =>
        refine ⟨[], rest, rfl, ?_⟩
        rw [List.append_nil]
        exact (List.append_nil events).symm ▸ h.send hmove
      | respond n =>
        refine ⟨[], rest, rfl, ?_⟩
        rw [List.append_nil]
        exact (List.append_nil events).symm ▸ h.respond hmove
      | read result => exact h.read hmem hwritten hpos hmove
    obtain ⟨more', later', rfl, hlast⟩ :=
      ih (fun o ho => hpos o (List.mem_append_right _ ho)) hnext hmoves
    refine ⟨more ++ more', later', (List.append_assoc _ _ _).symm, ?_⟩
    rw [Machine.output_cons, Machine.state_cons, ← List.append_assoc, ← List.append_assoc]
    exact hlast

/-! ### Where a run ends -/

lemma length_responses (os : List Outgoing) :
    (os.map Outgoing.response).flatten.length = 10 * os.length := by
  induction os with
  | nil => rfl
  | cons o os ih =>
    rw [List.map_cons, List.flatten_cons, List.length_append, ih, o.length_response,
      List.length_cons, Nat.mul_succ, Nat.add_comm]

/-- While the server is not in the write of a response, only the end of the messages keeps the run
from going on. -/
lemma Progress.finished (hmem : Server.NeverInvalid memory) (hup : tcpHeaderLength ≤ link.up)
    (h : Progress memory link shown rest events c) (hstuck : Stuck link c)
    (hnone : c.unwritten = []) : rest = [] ∧ c.unsent = [] := by
  obtain ⟨unsent, ⟨phase, input, turns⟩, unwritten, unread⟩ := c
  obtain rfl : unwritten = [] := hnone
  -- the camera has nothing to write, or it would find room for it
  have hsent (hroom : input.length < tcpHeaderLength) : unsent = [] := by
    by_contra hmore
    exact hstuck (.send 1) ⟨le_rfl, List.length_pos_of_ne_nil hmore, hroom.trans_le hup⟩
  obtain ⟨s, hs⟩ : ∃ s, s = Server.State.mk phase (input ++ unsent) turns := ⟨_, rfl⟩
  have hlocated : Server.Located memory rest s := by
    rw [hs]
    exact h.located
  cases hlocated with
  | @idle rest turns =>
    obtain ⟨rfl, hinput, rfl⟩ := Server.State.mk.inj hs
    have hshort : input.length < tcpHeaderLength := by
      by_contra hheader
      exact hstuck (.read tcpHeaderLength) ⟨rfl, rfl, not_lt.mp hheader⟩
    obtain rfl := hsent hshort
    rw [List.append_nil] at hinput
    cases rest with
    | nil => exact ⟨rfl, rfl⟩
    | cons o later =>
      rw [← hinput, Outgoing.stream_cons, List.length_append, o.length_header] at hshort
      exact absurd hshort (Nat.le_add_right _ _).not_gt
  | @receiving o later t data turns hbegun hheader hdata hmore =>
    obtain ⟨rfl, hinput, rfl⟩ := Server.State.mk.inj hs
    have hleft := List.length_pos_of_ne_nil hmore
    have hlength : t.length = t.data.length + data.length := by
      rw [(Server.turn_of_sent hbegun (hmem _) hheader).1, ← hdata, List.length_append]
    have hempty : input = [] := by
      by_contra hthere
      have hone := List.length_pos_of_ne_nil hthere
      exact hstuck (.read 1) ⟨rfl, le_rfl, by omega, Int.ofNat_le.mpr hone, by decide⟩
    obtain rfl := hempty
    rw [hsent (by decide)] at hinput
    exact absurd (List.append_eq_nil_iff.mp hinput).1 hmore

/-- A server in the write of a response has filled the way back, and the camera has filled the
way to it. -/
lemma Progress.jammed (h : Progress memory link shown rest events c) (hstuck : Stuck link c)
    (hbusy : c.unwritten ≠ []) :
    c.unread.length = link.down ∧ shown.length = link.down / 10 + 1 ∧
      c.unsent = (Outgoing.stream rest).drop link.up := by
  have hwriting := List.length_pos_of_ne_nil hbusy
  have hfull : c.unread.length = link.down := by
    by_contra hroom
    have hle := h.unread_le
    exact hstuck (.respond 1) ⟨le_rfl, hwriting, by omega⟩
  have hcount := congrArg List.length h.responses_eq
  rw [List.length_append, length_responses] at hcount
  have hlast := h.unwritten_le
  refine ⟨hfull, by omega, ?_⟩
  have hinput : c.server.input ++ c.unsent = Outgoing.stream rest :=
    h.located.input_eq (h.busy hbusy)
  rw [← hinput]
  by_cases hsent : c.unsent = []
  · rw [hsent, List.append_nil]
    exact (List.drop_of_length_le h.input_le).symm
  · have hroom : link.up ≤ c.server.input.length := by
      by_contra hroom
      exact hstuck (.send 1) ⟨le_rfl, List.length_pos_of_ne_nil hsent, by omega⟩
    exact (List.drop_left' (h.input_le.antisymm hroom)).symm

/-- Every move makes this smaller: a byte goes from the camera to the server, a read takes more
from it than a response has. -/
def left (c : Connection) : Nat :=
  12 * c.unsent.length + 11 * c.server.input.length + c.unwritten.length

lemma left_step (hwritten : ∀ k, (memory k).written = 10) {move : Move}
    (hmove : Possible link c move) : (c.step memory move).1.left < c.left := by
  cases move with
  | send n =>
    obtain ⟨hone, hthere, -⟩ := hmove
    simp only [left, step, Server.State.arrive, List.length_append, List.length_drop,
      List.length_take_of_le hthere]
    omega
  | respond n =>
    obtain ⟨hone, hthere, -⟩ := hmove
    simp only [left, step, List.length_drop]
    omega
  | read result =>
    have hinput := hmove.2.input_lt memory
    have hresponse : (c.step memory (.read result)).1.unwritten.length ≤ 10 := by
      simp only [step, hwritten]
      exact List.length_take_le _ _
    show 12 * c.unsent.length + 11 * (Server.step memory c.server result).1.input.length
      + (c.step memory (.read result)).1.unwritten.length < c.left
    rw [left]
    omega

/-- A run that can go no further has shown as many images as the way back has room for responses,
and one more. -/
lemma Progress.of_stuck (hmem : Server.NeverInvalid memory) (hup : tcpHeaderLength ≤ link.up)
    {sent : List Outgoing} (hsent : sent = shown ++ rest)
    (h : Progress memory link shown rest events c) (hstuck : Stuck link c) :
    shown = sent.take (link.down / 10 + 1) ∧
      c.unread = (sent.map Outgoing.response).flatten.take link.down ∧
      c.unsent = (Outgoing.stream sent).drop ((Outgoing.stream shown).length + link.up) := by
  by_cases hnone : c.unwritten = []
  · obtain ⟨rfl, hunsent⟩ := h.finished hmem hup hstuck hnone
    rw [List.append_nil] at hsent
    have hunread : c.unread = (sent.map Outgoing.response).flatten := by
      rw [hsent, ← h.responses_eq, hnone, List.append_nil]
    have hroom := h.unread_le
    rw [hunread, length_responses] at hroom
    refine ⟨?_, ?_, ?_⟩
    · rw [← hsent, List.take_of_length_le (by omega)]
    · rw [hunread, List.take_of_length_le (by rwa [length_responses])]
    · rw [hunsent, ← hsent, List.drop_of_length_le (Nat.le_add_right _ _)]
  · obtain ⟨hfull, hcount, hunsent⟩ := h.jammed hstuck hnone
    have hstream : Outgoing.stream sent = Outgoing.stream shown ++ Outgoing.stream rest := by
      rw [hsent, Outgoing.stream, List.flatMap_append]
      rfl
    refine ⟨?_, ?_, ?_⟩
    · rw [hsent, ← hcount, List.take_left]
    · rw [hsent, List.map_append, List.flatten_append, ← h.responses_eq, List.append_assoc,
        ← hfull, List.take_left]
    · rw [hunsent, hstream, List.drop_append, List.drop_of_length_le (Nat.le_add_right _ _),
        Nat.add_sub_cancel_left, List.nil_append]

/-- Each party has nothing to do, or waits for the other one. -/
lemma stuck_of_waits (hsend : c.unsent = [] ∨ link.up ≤ c.server.input.length)
    (hread : c.server.input = [] ∨ c.unwritten ≠ [])
    (hrespond : c.unwritten = [] ∨ link.down ≤ c.unread.length) : Stuck link c := by
  intro move hmove
  cases move with
  | send n =>
    obtain ⟨hone, hthere, hroom⟩ := hmove
    rcases hsend with hnone | hfull
    · rw [hnone, List.length_nil] at hthere
      omega
    · omega
  | read result =>
    obtain ⟨hidle, hcut⟩ := hmove
    rcases hread with hnone | hbusy
    · have hbyte := hcut.input_lt fun _ => .cleared
      rw [hnone] at hbyte
      exact Nat.not_lt_zero _ hbyte
    · exact hbusy hidle
  | respond n =>
    obtain ⟨hone, hthere, hroom⟩ := hmove
    rcases hrespond with hnone | hfull
    · rw [hnone, List.length_nil] at hthere
      omega
    · omega

section Camera

variable {client client' : TcpClient} {shots : List Shot} {wire : Bytes} {moves : List Move}

/-- A run on what the camera has sent makes progress with the messages of its images. -/
lemma exists_progress (hready : client.tcpState = .connectionReady)
    (hclean : ∀ shot ∈ shots, shot.Clean)
    (hcamera : cameraMain client 0 shots = some (client', wire))
    (hmem : Server.NeverInvalid memory) (hwritten : ∀ k, (memory k).written = 10)
    (hpixels : ∀ image ∈ deliveredImages 0 shots, 0 < image.2.length)
    (h : (machine memory).Along (Possible link) (start wire) moves) :
    ∃ sent shown rest, List.Forall₂ IsImage sent (deliveredImages 0 shots) ∧
      wire = Outgoing.stream sent ∧ sent = shown ++ rest ∧
      Progress memory link shown rest ((machine memory).output (start wire) moves)
        ((machine memory).state (start wire) moves) := by
  obtain ⟨sent, himages, rfl⟩ := wire_cameraMain hready hclean hcamera
  obtain ⟨shown, rest, hsent, hprogress⟩ := (Progress.start memory link sent).run hmem hwritten
    (length_pos_of_images himages hpixels) h
  exact ⟨sent, shown, rest, himages, rfl, hsent, hprogress⟩

/-- Three pixels. -/
def threePixels : List Shot := List.replicate 3 (Server.pixelShot ⟨37, 3⟩)

def threeWire : Bytes := ((cameraMain .connected 0 threePixels).getD (.connected, [])).2

/-- The response to the second pixel finds no room, and the third frame fills the way up. -/
def jammingMoves : List Move :=
  [.send 37, .read 37, .send 3, .read 3, .respond 10, .send 37, .read 37, .send 3, .read 3,
    .send 37]

/-- A pixel and its response. -/
def pixelMoves : List Move := [.send 40, .read 37, .read 3, .respond 10]

end Camera

end Connection
end Seifenkiste
