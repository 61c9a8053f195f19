import Seifenkiste.Server.Machine

/-!
# Traces

What can be read off the events of a run: the bytes taken from the connection, the headers,
messages, images and responses in their order, and the turns the run consists of.
-/

namespace Seifenkiste

/-- The bytes that an event takes from the connection. -/
def Event.received : Event → Bytes
  | .readHeader _ received => received
  | .readData _ received   => received
  | _                      => []

def Event.isHeaderRead : Event → Bool
  | .readHeader _ _ => true
  | _               => false

namespace Trace

/-- The bytes taken from the connection. -/
def consumed (t : List Event) : Bytes := t.flatMap Event.received

/-- The complete headers. -/
def headers (t : List Event) : List Bytes :=
  t.filterMap fun
    | .readHeader result header => if result = tcpHeaderLength then some header else none
    | _ => none

/-- The messages built from the headers. -/
def messages (t : List Event) : List MessageClass :=
  t.filterMap fun
    | .constructed message => some message
    | _ => none

/-- The images that were displayed. -/
def displayed (t : List Event) : List Mat :=
  t.filterMap fun
    | .displayed frame => some frame
    | _ => none

def responses (t : List Event) : List Bytes :=
  t.filterMap fun
    | .responded response => some response
    | _ => none

/-- The header and the data of every message that was processed to the end. -/
def processed (t : List Event) : List (Bytes × Bytes) :=
  t.filterMap fun
    | .processed header data => some (header, data)
    | _ => none

def headerResults (t : List Event) : List Int :=
  t.filterMap fun
    | .readHeader result _ => some result
    | _ => none

def dataResults (t : List Event) : List Int :=
  t.filterMap fun
    | .readData result _ => some result
    | _ => none

/-- The bytes taken from the connection since the last header read. -/
def sinceHeader (t : List Event) : Bytes :=
  t.foldl (fun bytes event =>
    match event with
    | .readHeader _ _     => []
    | .readData _ received => bytes ++ received
    | _                    => bytes) []

/-- The events before the first header read, and those from each header read to the next. -/
def cut : List Event → List Event × List (List Event)
  | []     => ([], [])
  | e :: t => if e.isHeaderRead then ([], (e :: (cut t).1) :: (cut t).2)
    else (e :: (cut t).1, (cut t).2)

/-- The turns of a trace: a header read and all that happens up to the next one. -/
def turns (t : List Event) : List (List Event) := (cut t).2

lemma cut_append {t u : List Event} (ht : ∀ e ∈ t, e.isHeaderRead = false) :
    cut (t ++ u) = (t ++ (cut u).1, (cut u).2) := by
  induction t with
  | nil => rfl
  | cons e t ih =>
    obtain ⟨he, ht⟩ := List.forall_mem_cons.mp ht
    simp [cut, he, ih ht]

lemma cut_cons_append {e : Event} {t u : List Event} (he : e.isHeaderRead = true)
    (ht : ∀ e ∈ t, e.isHeaderRead = false) :
    cut (e :: t ++ u) = ([], (e :: t ++ (cut u).1) :: (cut u).2) := by
  simp [cut, he, cut_append ht]

/-- The results of the header read and of the body reads of a turn, the latter summed up. -/
def readSums (turn : List Event) : List Int × Int := (headerResults turn, (dataResults turn).sum)

end Trace

/-! ### Turns and their events -/

namespace Turn

def opening (t : Turn) : List Event :=
  [.readHeader tcpHeaderLength t.header, .constructed t.message]

def reads (t : Turn) : List Event := t.chunks.map fun chunk => .readData chunk.length chunk

def events (t : Turn) : List Event := t.opening ++ t.reads ++ t.closing

/-! ### The trace of complete turns -/

variable (t : Turn) (ts : List Turn)

@[simp] lemma headers_events : Trace.headers t.events = [t.header] := by
  simp [Trace.headers, events, opening, reads, closing, List.filterMap_map]

@[simp] lemma messages_events : Trace.messages t.events = [t.message] := by
  simp [Trace.messages, events, opening, reads, closing, List.filterMap_map]

@[simp] lemma displayed_events : Trace.displayed t.events = [t.frame] := by
  simp [Trace.displayed, events, opening, reads, closing, List.filterMap_map]

@[simp] lemma responses_events : Trace.responses t.events = [t.response] := by
  simp [Trace.responses, events, opening, reads, closing, List.filterMap_map]

@[simp] lemma processed_events :
    Trace.processed t.events = [(t.header, t.data.take t.length)] := by
  simp [Trace.processed, events, opening, reads, closing, List.filterMap_map]

lemma consumed_opening_reads (u : List Event) :
    Trace.consumed (t.opening ++ t.reads ++ u) = t.header ++ t.data ++ Trace.consumed u := by
  simp [Trace.consumed, opening, reads, Event.received, data, List.flatMap_map]

@[simp] lemma consumed_events : Trace.consumed t.events = t.header ++ t.data := by
  rw [events, consumed_opening_reads]
  simp [Trace.consumed, closing, Event.received]

/-- What is collected from the events of complete turns is collected turn by turn. -/
lemma collect_flatMap {β : Type*} {collect : List Event → List β} {one : Turn → β}
    (happend : ∀ t u, collect (t ++ u) = collect t ++ collect u)
    (hone : ∀ t : Turn, collect t.events = [one t]) (u : List Event) :
    collect (ts.flatMap events ++ u) = ts.map one ++ collect u := by
  induction ts with
  | nil => rfl
  | cons t ts ih => rw [List.flatMap_cons, List.append_assoc, happend, hone, ih]; rfl

lemma headers_flatMap (u : List Event) :
    Trace.headers (ts.flatMap events ++ u) = ts.map header ++ Trace.headers u :=
  collect_flatMap ts (fun _ _ => List.filterMap_append) headers_events u

lemma messages_flatMap (u : List Event) :
    Trace.messages (ts.flatMap events ++ u) = ts.map message ++ Trace.messages u :=
  collect_flatMap ts (fun _ _ => List.filterMap_append) messages_events u

lemma displayed_flatMap (u : List Event) :
    Trace.displayed (ts.flatMap events ++ u) = ts.map frame ++ Trace.displayed u :=
  collect_flatMap ts (fun _ _ => List.filterMap_append) displayed_events u

lemma responses_flatMap (u : List Event) :
    Trace.responses (ts.flatMap events ++ u) = ts.map response ++ Trace.responses u :=
  collect_flatMap ts (fun _ _ => List.filterMap_append) responses_events u

lemma processed_flatMap (u : List Event) :
    Trace.processed (ts.flatMap events ++ u)
      = ts.map (fun t => (t.header, t.data.take t.length)) ++ Trace.processed u :=
  collect_flatMap ts (fun _ _ => List.filterMap_append) processed_events u

lemma consumed_flatMap (u : List Event) :
    Trace.consumed (ts.flatMap events ++ u)
      = ts.flatMap (fun t => t.header ++ t.data) ++ Trace.consumed u := by
  rw [Trace.consumed, List.flatMap_append, List.flatMap_assoc]
  exact congrArg (· ++ _) (List.flatMap_congr fun t _ => consumed_events t)

/-- A turn up to some point after its message was built is a single turn of the trace. -/
lemma cut_opening_reads {u v : List Event} (hu : ∀ e ∈ u, e.isHeaderRead = false)
    (hv : (Trace.cut v).1 = []) :
    Trace.cut (t.opening ++ t.reads ++ u ++ v)
      = ([], (t.opening ++ t.reads ++ u) :: (Trace.cut v).2) := by
  have htail : ∀ e ∈ Event.constructed t.message :: (t.reads ++ u), e.isHeaderRead = false := by
    intro e he
    rcases List.mem_cons.mp he with rfl | he
    · rfl
    rcases List.mem_append.mp he with he | he
    · obtain ⟨chunk, -, rfl⟩ := List.mem_map.mp he
      rfl
    · exact hu e he
  have hcons : t.opening ++ t.reads ++ u
      = .readHeader tcpHeaderLength t.header :: (.constructed t.message :: (t.reads ++ u)) := by
    simp [opening]
  rw [hcons, Trace.cut_cons_append rfl htail, hv, List.append_nil]

lemma cut_begun {u : List Event} (hu : ∀ e ∈ u, e.isHeaderRead = false) :
    Trace.cut (t.opening ++ t.reads ++ u) = ([], [t.opening ++ t.reads ++ u]) := by
  have hcut := t.cut_opening_reads (v := []) hu rfl
  rwa [List.append_nil] at hcut

lemma isHeaderRead_closing : ∀ e ∈ t.closing, e.isHeaderRead = false := by
  simp [closing, Event.isHeaderRead]

lemma cut_flatMap {u : List Event} (hu : (Trace.cut u).1 = []) :
    Trace.cut (ts.flatMap events ++ u) = ([], ts.map events ++ Trace.turns u) := by
  induction ts with
  | nil => exact Prod.ext hu rfl
  | cons t ts ih =>
    have hrest : (Trace.cut (ts.flatMap events ++ u)).1 = [] := by rw [ih]
    rw [List.flatMap_cons, List.append_assoc, events,
      t.cut_opening_reads t.isHeaderRead_closing hrest, ih]
    rfl

lemma sum_chunks : (t.chunks.map fun chunk => (chunk.length : Int)).sum = t.data.length := by
  have hsum (chunks : List Bytes) :
      (chunks.map fun chunk => (chunk.length : Int)).sum = chunks.flatten.length := by
    induction chunks with
    | nil => rfl
    | cons chunk chunks ih => simp [ih]
  exact hsum t.chunks

lemma readSums_opening_reads (u : List Event) :
    Trace.readSums (t.opening ++ t.reads ++ u)
      = ((tcpHeaderLength : Int) :: (Trace.readSums u).1,
        t.data.length + (Trace.readSums u).2) := by
  refine Prod.ext ?_ ?_
  · simp [Trace.readSums, Trace.headerResults, opening, reads, List.filterMap_map]
  · rw [← sum_chunks]
    simp [Trace.readSums, Trace.dataResults, opening, reads, List.filterMap_map]

lemma readSums_events :
    Trace.readSums t.events = ([(tcpHeaderLength : Int)], (t.data.length : Int)) := by
  rw [events, readSums_opening_reads]
  simp [Trace.readSums, Trace.headerResults, Trace.dataResults, closing]

lemma sinceHeader_opening_reads (u : List Event) :
    Trace.sinceHeader (u ++ (t.opening ++ t.reads)) = t.data := by
  have hreads (chunks : List Bytes) (bytes : Bytes) :
      (chunks.map fun chunk => Event.readData chunk.length chunk).foldl
        (fun bytes event =>
          match event with
          | .readHeader _ _      => []
          | .readData _ received => bytes ++ received
          | _                    => bytes) bytes = bytes ++ chunks.flatten := by
    induction chunks generalizing bytes with
    | nil => simp
    | cons chunk chunks ih => simp [ih, List.append_assoc]
  simp only [Trace.sinceHeader, List.foldl_append, opening, reads, hreads]
  rfl

end Turn
end Seifenkiste
