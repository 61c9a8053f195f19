import Mathlib.Data.Bool.Count
import Mathlib.Data.List.Range
import Seifenkiste.Library.Transition
import Seifenkiste.System.TestImage

/-!
# The timer program

A program that is to send five test images, one for each tick of a timer. The handler of the timer
runs between any two statements of the main program and talks to it through two variables: it
counts the ticks and raises the indicator, which the main program polls and takes back once it has
tried to send an image. A tick that finds the indicator raised leaves no trace but in the count.

The statements of the main program are executed as they are written; the compiler is not taken to
move the accesses to the two variables. Statements that only print are no steps.
-/

namespace Seifenkiste

open Transition

/-! ### Reading an image -/

/-- The result, and what the two variables of the caller are set to, if they are. `files` holds the
contents of the files that can be opened, and `memory` tells whether `malloc` succeeds. -/
def readImage (files : Nat → Option Bytes) (memory : Bool) (imageCounter : Nat) :
    Int × Option (Bytes × UInt64) :=
  match files imageCounter with
  | none         => (2, none)
  | some content => if memory then (0, some (content, UInt64.ofNat content.length)) else (1, none)

/-- Only a file that was read sets the variables, to its content and its length. -/
lemma readImage_eq_zero {files : Nat → Option Bytes} {memory : Bool} {imageCounter : Nat}
    (h : (readImage files memory imageCounter).1 = 0) :
    ∃ content, files imageCounter = some content ∧
      readImage files memory imageCounter = (0, some (content, UInt64.ofNat content.length)) := by
  cases hfile : files imageCounter with
  | none => simp [readImage, hfile] at h
  | some content =>
    cases memory with
    | false => simp [readImage, hfile] at h
    | true => exact ⟨content, rfl, by simp [readImage, hfile]⟩

/-! ### The main program and the handler -/

/-- The statement that the main program executes next. -/
inductive Statement where
  | testCount
  | testIndicator
  | readImage
  | sendTestImage
  | clearIndicator
  | countImage
  | wrapCounter
  | done
  deriving DecidableEq, Repr

structure TimerProgram where
  next : Statement
  imageCounter : Nat
  count1 : Nat
  count2 : Nat
  sendIndicator : Bool
  /-- What the two variables of the image hold. They are not initialised, and a file that cannot
  be read leaves them as they were. -/
  image : Bytes
  imagelen : UInt64
  tcp : TcpClient

/-- What the next statement meets: the files, the memory, the clock and the answers of the
kernel. -/
structure Surroundings where
  files : Nat → Option Bytes
  memory : Bool
  currentTime : UInt64
  timestamp : UInt64
  heap : Nat → UInt8
  behind : Bytes
  writes : Writes

namespace TimerProgram

/-- A call of `read_image`: the number, what is in its file, if it can be opened, and the result. -/
structure ImageRead where
  imageCounter : Nat
  file : Option Bytes
  result : Int
  deriving DecidableEq, Repr

/-- A call of `send_test_image`: what it is handed, and what it comes to. -/
structure ImageSent where
  image : Bytes
  imagelen : UInt64
  sent : Option Sent
  deriving DecidableEq, Repr

inductive Event where
  /-- A tick of the first timer, and whether it found the indicator raised. -/
  | ticked (raised : Bool)
  | imageRead (read : ImageRead)
  | imageSent (sent : ImageSent)
  deriving DecidableEq, Repr

/-- A signal of one of the timers, or a statement of the main program. -/
inductive Input where
  | timer1
  | timer2
  | statement (w : Surroundings)

/-- The program when the timers have been started. -/
def start (image : Bytes) (imagelen : UInt64) (tcp : TcpClient) : TimerProgram :=
  ⟨.testCount, 1, 0, 0, false, image, imagelen, tcp⟩

/-- The next statement of the main program. The results of `read_image` and of `send_test_image`
are not looked at. -/
def execute (p : TimerProgram) (w : Surroundings) : TimerProgram × List Event :=
  match p.next with
  | .testCount      => ({ p with next := if p.count1 ≤ 5 then .testIndicator else .done }, [])
  | .testIndicator  => ({ p with next := if p.sendIndicator then .readImage else .testCount }, [])
  | .readImage      =>
    let (res, read) := Seifenkiste.readImage w.files w.memory p.imageCounter
    let (image, imagelen) := read.getD (p.image, p.imagelen)
    ({ p with next := .sendTestImage, image := image, imagelen := imagelen },
      [.imageRead ⟨p.imageCounter, w.files p.imageCounter, res⟩])
  | .sendTestImage  =>
    let sent := p.tcp.sendTestImage p.image p.imagelen w.currentTime w.timestamp w.heap w.behind
      w.writes
    let tcp := (sent.map Sent.client).getD p.tcp
    ({ p with next := .clearIndicator, tcp := tcp }, [.imageSent ⟨p.image, p.imagelen, sent⟩])
  | .clearIndicator => ({ p with next := .countImage, sendIndicator := false }, [])
  | .countImage     => ({ p with next := .wrapCounter, imageCounter := p.imageCounter + 1 }, [])
  | .wrapCounter    =>
    let imageCounter := if p.imageCounter > 5 then 1 else p.imageCounter
    ({ p with next := .testCount, imageCounter := imageCounter }, [])
  | .done           => (p, [])

/-- The handler runs to its end before the main program goes on. -/
def timerCallback (p : TimerProgram) : TimerProgram × List Event :=
  ({ p with count1 := p.count1 + 1, sendIndicator := true }, [.ticked p.sendIndicator])

def step (p : TimerProgram) : Input → TimerProgram × List Event
  | .timer1      => p.timerCallback
  | .timer2      => ({ p with count2 := p.count2 + 1 }, [])
  | .statement w => p.execute w

abbrev machine : Machine TimerProgram Input Event := ⟨step⟩

/-! ### What a run consists of -/

def reads (t : List Event) : List ImageRead :=
  t.filterMap fun
    | .imageRead read => some read
    | _ => none

def sends (t : List Event) : List ImageSent :=
  t.filterMap fun
    | .imageSent sent => some sent
    | _ => none

/-- The numbers of the images that the program has tried to read. -/
def images (t : List Event) : List Nat := (reads t).map ImageRead.imageCounter

/-- A call of `read_image` and the call of `send_test_image` that belongs to it. -/
abbrev Pass := ImageRead × ImageSent

def passes (t : List Event) : List Pass := (reads t).zip (sends t)

/-- What is sent is what the file of the image holds, with its length. -/
def Pass.FromFile (pass : Pass) : Prop :=
  pass.1.file = some pass.2.image ∧ pass.2.imagelen = UInt64.ofNat pass.2.image.length

/-- Neither of the two calls has reported an error. -/
def Pass.Worked (pass : Pass) : Prop :=
  pass.1.result = 0 ∧ pass.2.sent.map Sent.result = some 0

instance (pass : Pass) : Decidable pass.Worked := inferInstanceAs (Decidable (_ ∧ _))

/-- The passes that have delivered an image. -/
def delivered (t : List Event) : List Pass := (passes t).filter fun pass => pass.Worked

/-- The passes in which the image was not read or not sent. -/
def failed (t : List Event) : List Pass := (passes t).filter fun pass => ¬ pass.Worked

/-- For each tick, whether it found the indicator raised. -/
def ticks (t : List Event) : List Bool :=
  t.filterMap fun
    | .ticked raised => some raised
    | _ => none

lemma reads_append (t u : List Event) : reads (t ++ u) = reads t ++ reads u :=
  List.filterMap_append

lemma sends_append (t u : List Event) : sends (t ++ u) = sends t ++ sends u :=
  List.filterMap_append

lemma ticks_append (t u : List Event) : ticks (t ++ u) = ticks t ++ ticks u :=
  List.filterMap_append

lemma images_append (t u : List Event) : images (t ++ u) = images t ++ images u := by
  rw [images, reads_append, List.map_append]
  rfl

/-- The ticks that left no trace but in the count. -/
def lost (t : List Event) : Nat := (ticks t).count true

/-- The images in the order in which the program goes through them. -/
def cycle (n : Nat) : List Nat := (List.range n).map fun k => k % 5 + 1

/-- The image that comes after `n` others. -/
def upcoming (n : Nat) : Nat := n % 5 + 1

lemma cycle_succ (n : Nat) : cycle (n + 1) = cycle n ++ [upcoming n] := by
  simp [cycle, upcoming, List.range_succ]

/-- The counter of the images after its wrap. -/
def wrapped (imageCounter : Nat) : Nat := if imageCounter > 5 then 1 else imageCounter

lemma wrapped_upcoming (n : Nat) : wrapped (upcoming n + 1) = upcoming (n + 1) := by
  unfold wrapped upcoming
  split_ifs with h
  · omega
  · omega

/-! ### The invariant -/

/-- Where the main program is in its loop, by the number of reads so far and the number of ticks that
raised the indicator. From the test of the count until the image is read, the image is one of at
most six. -/
def Position (p : TimerProgram) (read raised : Nat) : Prop :=
  match p.next with
  | .testCount      =>
    p.imageCounter = upcoming read ∧ raised = read + p.sendIndicator.toNat ∧ read ≤ 6
  | .testIndicator  =>
    p.imageCounter = upcoming read ∧ raised = read + p.sendIndicator.toNat ∧ read ≤ 5
  | .readImage      =>
    p.imageCounter = upcoming read ∧ p.sendIndicator = true ∧ raised = read + 1 ∧ read ≤ 5
  | .sendTestImage | .clearIndicator =>
    wrapped (p.imageCounter + 1) = upcoming read ∧ p.sendIndicator = true ∧ raised = read ∧
      read ≤ 6
  | .countImage     =>
    wrapped (p.imageCounter + 1) = upcoming read ∧ raised = read + p.sendIndicator.toNat ∧
      read ≤ 6
  | .wrapCounter    =>
    wrapped p.imageCounter = upcoming read ∧ raised = read + p.sendIndicator.toNat ∧ read ≤ 6
  | .done           => raised = read + p.sendIndicator.toNat ∧ read ≤ 6 ∧ 6 ≤ p.count1

/-- What holds of the program and of what it has done. -/
structure Consistent (t : List Event) (p : TimerProgram) : Prop where
  images_eq : images t = cycle (images t).length
  length_ticks : (ticks t).length = p.count1
  position : p.Position (images t).length ((ticks t).count false)

variable {t : List Event} {p : TimerProgram}

/-- The ticks that raised the indicator are among the ticks. -/
lemma Consistent.raised_le (h : Consistent t p) : (ticks t).count false ≤ p.count1 :=
  h.length_ticks ▸ List.count_le_length

lemma consistent_start (image : Bytes) (imagelen : UInt64) (tcp : TcpClient) :
    Consistent [] (start image imagelen tcp) :=
  ⟨rfl, rfl, rfl, rfl, Nat.zero_le _⟩

/-- A tick raises the indicator, or is lost. -/
lemma Position.timerCallback {read raised : Nat} (h : p.Position read raised) :
    p.timerCallback.1.Position read (raised + (!p.sendIndicator).toNat) := by
  obtain ⟨next, imageCounter, count1, count2, sendIndicator, image, imagelen, tcp⟩ := p
  have hpending : sendIndicator.toNat + (!sendIndicator).toNat = 1 := by
    cases sendIndicator <;> rfl
  cases next with
  | testCount | testIndicator | countImage | wrapCounter =>
    obtain ⟨hcounter, rfl, hread⟩ := h
    refine ⟨hcounter, ?_, hread⟩
    rw [Nat.add_assoc, hpending]
    rfl
  | readImage | sendTestImage | clearIndicator =>
    obtain ⟨hcounter, hindicator, hraised, hread⟩ := h
    have hlost : (!sendIndicator).toNat = 0 := by
      simp only at hindicator
      simp [hindicator]
    rw [hlost, Nat.add_zero]
    exact ⟨hcounter, rfl, hraised, hread⟩
  | done =>
    obtain ⟨rfl, hread, hcount⟩ := h
    refine ⟨?_, hread, Nat.le_succ_of_le hcount⟩
    rw [Nat.add_assoc, hpending]
    rfl

lemma count_append_ticked (raised : Bool) :
    (ticks (t ++ [.ticked raised])).count false = (ticks t).count false + (!raised).toNat := by
  rw [ticks_append, List.count_append]
  cases raised <;> rfl

lemma Consistent.timerCallback (h : Consistent t p) :
    Consistent (t ++ p.timerCallback.2) p.timerCallback.1 := by
  have hsame : images (t ++ p.timerCallback.2) = images t := by
    rw [images_append]
    exact List.append_nil _
  refine ⟨?_, ?_, ?_⟩
  · rw [hsame]
    exact h.images_eq
  · rw [ticks_append, List.length_append, h.length_ticks]
    rfl
  · rw [hsame, TimerProgram.timerCallback, count_append_ticked]
    exact h.position.timerCallback

/-- A statement that emits nothing only has to take the program to its next position. -/
lemma Consistent.moved (h : Consistent t p) {p' : TimerProgram} (hcount : p'.count1 = p.count1)
    (hposition : p'.Position (images t).length ((ticks t).count false)) :
    Consistent (t ++ []) p' := by
  rw [List.append_nil]
  exact ⟨h.images_eq, h.length_ticks.trans hcount.symm, hposition⟩

lemma Consistent.execute (h : Consistent t p) (w : Surroundings) :
    Consistent (t ++ (p.execute w).2) (p.execute w).1 := by
  have hraised := h.raised_le
  have hposition := h.position
  obtain ⟨next, imageCounter, count1, count2, sendIndicator, image, imagelen, tcp⟩ := p
  cases next with
  | testCount =>
    obtain ⟨hcounter, hpending, hread⟩ := hposition
    refine h.moved rfl ?_
    by_cases hfive : count1 ≤ 5
    · have hearlier : (images t).length ≤ count1 :=
        (Nat.le_add_right _ _).trans (hpending ▸ hraised)
      simp only [execute, hfive, if_true]
      exact ⟨hcounter, hpending, hearlier.trans hfive⟩
    · simp only [execute, hfive, if_false]
      exact ⟨hpending, hread, not_le.mp hfive⟩
  | testIndicator =>
    obtain ⟨hcounter, hpending, hread⟩ := hposition
    refine h.moved rfl ?_
    cases sendIndicator with
    | false => exact ⟨hcounter, hpending, hread.trans (by decide)⟩
    | true => exact ⟨hcounter, rfl, hpending, hread⟩
  | readImage =>
    obtain ⟨hcounter, hindicator, hpending, hread⟩ := hposition
    simp only at hcounter hindicator
    have himages (file : Option Bytes) (result : Int) :
        images (t ++ [.imageRead ⟨imageCounter, file, result⟩])
          = images t ++ [upcoming (images t).length] := by
      rw [← hcounter, images_append]
      rfl
    have hticks (read : ImageRead) : ticks (t ++ [.imageRead read]) = ticks t := by
      rw [ticks_append]
      exact List.append_nil _
    refine ⟨?_, ?_, ?_⟩
    · simp only [TimerProgram.execute, himages, List.length_append, List.length_singleton,
        cycle_succ]
      rw [← h.images_eq]
    · simp only [TimerProgram.execute, hticks]
      exact h.length_ticks
    · simp only [TimerProgram.execute, himages, hticks, List.length_append, List.length_singleton]
      refine ⟨?_, hindicator, hpending, Nat.succ_le_succ hread⟩
      rw [hcounter, wrapped_upcoming]
  | sendTestImage =>
    have himages (sent : ImageSent) : images (t ++ [.imageSent sent]) = images t := by
      rw [images_append]
      exact List.append_nil _
    have hticks (sent : ImageSent) : ticks (t ++ [.imageSent sent]) = ticks t := by
      rw [ticks_append]
      exact List.append_nil _
    refine ⟨?_, ?_, ?_⟩
    · simp only [TimerProgram.execute, himages]
      exact h.images_eq
    · simp only [TimerProgram.execute, hticks]
      exact h.length_ticks
    · simp only [TimerProgram.execute, himages, hticks]
      exact hposition
  | clearIndicator =>
    obtain ⟨hcounter, hindicator, hpending, hread⟩ := hposition
    exact h.moved rfl ⟨hcounter, hpending, hread⟩
  | countImage =>
    obtain ⟨hcounter, hpending, hread⟩ := hposition
    exact h.moved rfl ⟨hcounter, hpending, hread⟩
  | wrapCounter =>
    obtain ⟨hcounter, hpending, hread⟩ := hposition
    exact h.moved rfl ⟨hcounter, hpending, hread⟩
  | done => exact h.moved rfl hposition

lemma Consistent.step (h : Consistent t p) (i : Input) :
    Consistent (t ++ (p.step i).2) (p.step i).1 := by
  cases i with
  | timer1 => exact h.timerCallback
  | timer2 => exact h.moved rfl h.position
  | statement w => exact h.execute w

/-- The invariant holds in every run, whenever the ticks come. -/
lemma consistent_run (image : Bytes) (imagelen : UInt64) (tcp : TcpClient) (inputs : List Input) :
    Consistent (machine.output (start image imagelen tcp) inputs)
      (machine.state (start image imagelen tcp) inputs) :=
  machine.invariant_output (I := Consistent) (fun _ _ i h => h.step i)
    (consistent_start image imagelen tcp) inputs

lemma Position.read_le {read raised : Nat} (h : p.Position read raised) : read ≤ 6 := by
  obtain ⟨next, imageCounter, count1, count2, sendIndicator, image, imagelen, tcp⟩ := p
  cases next with
  | testCount | countImage | wrapCounter => exact h.2.2
  | testIndicator => exact h.2.2.trans (by decide)
  | readImage => exact h.2.2.2.trans (by decide)
  | sendTestImage | clearIndicator => exact h.2.2.2
  | done => exact h.2.1

lemma cycle_prefix {m n : Nat} (h : m ≤ n) : cycle m <+: cycle n := by
  obtain ⟨k, rfl⟩ := Nat.exists_eq_add_of_le h
  rw [cycle, cycle, List.range_add, List.map_append]
  exact List.prefix_append _ _

/-! ### What is sent -/

/-- Each read is followed by its send before the next one, and a file that was read is what the
two variables hold until then. -/
structure Paired (t : List Event) (p : TimerProgram) : Prop where
  fromFile : ∀ pass ∈ passes t, pass.1.result = 0 → pass.FromFile
  pending : ∃ sent unsent, reads t = sent ++ unsent ∧ sent.length = (sends t).length ∧
    unsent.length = (if p.next = .sendTestImage then 1 else 0) ∧
    ∀ read ∈ unsent, read.result = 0 →
      read.file = some p.image ∧ p.imagelen = UInt64.ofNat p.image.length

lemma paired_start (image : Bytes) (imagelen : UInt64) (tcp : TcpClient) :
    Paired [] (start image imagelen tcp) :=
  ⟨by simp [passes, reads], [], [], rfl, rfl, rfl, by simp⟩

/-- What neither reads nor sends leaves the pending read as it is. -/
lemma Paired.moved (h : Paired t p) {u : List Event} {p' : TimerProgram} (hreads : reads u = [])
    (hsends : sends u = [])
    (hnext : p'.next = .sendTestImage ↔ p.next = .sendTestImage) (himage : p'.image = p.image)
    (himagelen : p'.imagelen = p.imagelen) : Paired (t ++ u) p' := by
  obtain ⟨hfrom, hpending⟩ := h
  refine ⟨?_, ?_⟩
  · rw [passes, reads_append, sends_append, hreads, hsends, List.append_nil, List.append_nil]
    exact hfrom
  · rw [reads_append, sends_append, hreads, hsends, List.append_nil, List.append_nil, himage,
      himagelen]
    simp only [hnext]
    exact hpending

lemma passes_eq {sent unsent : List ImageRead} (hreads : reads t = sent ++ unsent)
    (hlen : sent.length = (sends t).length) : passes t = sent.zip (sends t) := by
  rw [passes, hreads]
  conv_lhs => rw [← List.append_nil (sends t)]
  rw [List.zip_append hlen, List.zip_nil_right, List.append_nil]

lemma Paired.readImage (h : Paired t p) (hnext : p.next = .readImage) (w : Surroundings) :
    Paired (t ++ (p.execute w).2) (p.execute w).1 := by
  obtain ⟨hfrom, sent, unsent, hreads, hlen, hnone, -⟩ := h
  obtain rfl : unsent = [] := by
    rw [hnext] at hnone
    exact List.length_eq_zero_iff.mp hnone
  rw [List.append_nil] at hreads
  obtain ⟨read, hread⟩ : ∃ read, read = ImageRead.mk p.imageCounter (w.files p.imageCounter)
    (Seifenkiste.readImage w.files w.memory p.imageCounter).1 := ⟨_, rfl⟩
  have hevents : (p.execute w).2 = [.imageRead read] := by
    simp only [execute, hnext, hread]
  have hreads' : reads (t ++ [.imageRead read]) = sent ++ [read] := by
    rw [reads_append, hreads]
    rfl
  have hsends' : sends (t ++ [.imageRead read]) = sends t := by
    rw [sends_append]
    exact List.append_nil _
  rw [hevents]
  refine ⟨?_, sent, [read], hreads', ?_, ?_, ?_⟩
  · rw [passes_eq hreads' (hsends' ▸ hlen), hsends', ← hreads]
    exact hfrom
  · rw [hsends']
    exact hlen
  · simp [execute, hnext]
  · intro read' hmem hzero
    obtain rfl := List.mem_singleton.mp hmem
    rw [hread] at hzero ⊢
    obtain ⟨content, hfile, hset⟩ := readImage_eq_zero hzero
    simp [execute, hnext, hset, hfile]

lemma Paired.sendTestImage (h : Paired t p) (hnext : p.next = .sendTestImage) (w : Surroundings) :
    Paired (t ++ (p.execute w).2) (p.execute w).1 := by
  obtain ⟨hfrom, sent, unsent, hreads, hlen, hone, hheld⟩ := h
  obtain ⟨read, rfl⟩ : ∃ read, unsent = [read] := by
    rw [if_pos hnext] at hone
    exact List.length_eq_one_iff.mp hone
  obtain ⟨s, hs⟩ : ∃ s, s = ImageSent.mk p.image p.imagelen (p.tcp.sendTestImage p.image p.imagelen
    w.currentTime w.timestamp w.heap w.behind w.writes) := ⟨_, rfl⟩
  have hevents : (p.execute w).2 = [.imageSent s] := by
    simp only [execute, hnext, hs]
  have hreads' : reads (t ++ [.imageSent s]) = sent ++ [read] := by
    rw [reads_append, hreads]
    exact List.append_nil _
  have hsends' : sends (t ++ [.imageSent s]) = sends t ++ [s] := by
    rw [sends_append]
    rfl
  rw [hevents]
  refine ⟨?_, sent ++ [read], [], ?_, ?_, ?_, ?_⟩
  · rw [passes, hreads', hsends', List.zip_append hlen, ← passes_eq hreads hlen]
    intro pass hpass
    rcases List.mem_append.mp hpass with hpass | hpass
    · exact hfrom pass hpass
    · obtain rfl := List.mem_singleton.mp hpass
      rw [Pass.FromFile, hs]
      exact hheld read (List.mem_singleton.mpr rfl)
  · rw [hreads', List.append_nil]
  · rw [hsends', List.length_append, List.length_append, hlen]
    rfl
  · simp [execute, hnext]
  · simp

lemma Paired.step (h : Paired t p) (i : Input) : Paired (t ++ (p.step i).2) (p.step i).1 := by
  cases i with
  | timer1 => exact h.moved rfl rfl Iff.rfl rfl rfl
  | timer2 => exact h.moved rfl rfl Iff.rfl rfl rfl
  | statement w =>
    change Paired (t ++ (p.execute w).2) (p.execute w).1
    cases hnext : p.next with
    | readImage => exact h.readImage hnext w
    | sendTestImage => exact h.sendTestImage hnext w
    | testCount | testIndicator =>
      apply h.moved
      · simp [execute, hnext, reads]
      · simp [execute, hnext, sends]
      · simp only [execute, hnext]
        split_ifs <;> simp
      · simp [execute, hnext]
      · simp [execute, hnext]
    | clearIndicator | countImage | wrapCounter | done =>
      apply h.moved
      all_goals simp [execute, hnext, reads, sends]

lemma paired_run (image : Bytes) (imagelen : UInt64) (tcp : TcpClient) (inputs : List Input) :
    Paired (machine.output (start image imagelen tcp) inputs)
      (machine.state (start image imagelen tcp) inputs) :=
  machine.invariant_output (I := Paired) (fun _ _ i h => h.step i)
    (paired_start image imagelen tcp) inputs

/-- Every read but the last is that of a pass, and outside of a pass the last one is, too. -/
lemma Paired.length_reads (h : Paired t p) :
    (reads t).length = (sends t).length + if p.next = .sendTestImage then 1 else 0 := by
  obtain ⟨-, sent, unsent, hreads, hlen, hunsent, -⟩ := h
  rw [hreads, List.length_append, hlen, hunsent]

/-- Whenever the ticks come, the program tries to read the images in their order, and at most the
first one a second time. Each attempt is followed by one call of `send_test_image` before the next
one, and the call is handed the file, if it could be read. -/
theorem images_in_order (image : Bytes) (imagelen : UInt64) (tcp : TcpClient)
    (inputs : List Input) :
    let t := machine.output (start image imagelen tcp) inputs
    images t <+: [1, 2, 3, 4, 5, 1] ∧ (sends t).length ≤ (reads t).length ∧
      (reads t).length ≤ (sends t).length + 1 ∧
      ∀ pass ∈ passes t, pass.1.result = 0 → pass.FromFile := by
  intro t
  have h := consistent_run image imagelen tcp inputs
  have hpaired := paired_run image imagelen tcp inputs
  have hlength := hpaired.length_reads
  refine ⟨?_, ?_, ?_, hpaired.fromFile⟩
  · rw [h.images_eq]
    exact cycle_prefix h.position.read_le
  · exact hlength ▸ Nat.le_add_right _ _
  · have hone : (if (machine.state (start image imagelen tcp) inputs).next = .sendTestImage then 1
        else 0) ≤ 1 := by
      split_ifs <;> simp
    exact hlength.trans_le (Nat.add_le_add_left hone _)

/-! ### The end of the program -/

lemma lost_add_raised (t : List Event) :
    lost t + (ticks t).count false = (ticks t).length := by
  exact List.count_true_add_count_false _

lemma delivered_add_failed (t : List Event) :
    (delivered t).length + (failed t).length = (passes t).length := by
  have hsplit := @List.length_eq_length_filter_add _ (passes t) fun pass => decide (Pass.Worked pass)
  rw [hsplit]
  simp only [delivered, failed, decide_not]

/-- If no pass failed, the images delivered are those that the program has tried to read. -/
lemma images_of_failed_eq_nil (hsame : (reads t).length = (sends t).length)
    (hfailed : failed t = []) :
    (delivered t).map (fun pass => pass.1.imageCounter) = images t := by
  have hall : delivered t = passes t := by
    rw [delivered, List.filter_eq_self]
    intro pass hpass
    by_contra hnot
    exact List.filter_eq_nil_iff.mp hfailed pass hpass (by simpa using hnot)
  rw [hall, images, ← List.map_fst_zip hsame.le, List.map_map]
  rfl

/-- A statement in surroundings in which everything works: the files hold their own numbers. -/
def workingStatement : Input :=
  .statement ⟨fun n => some [UInt8.ofNat n], true, 0, 0, fun _ => 0, [], ⟨25, 1⟩⟩

/-- Six ticks, each of which the program answers before the next one. -/
def promptRun : List Input :=
  (List.replicate 6 (.timer1 :: List.replicate 8 workingStatement)).flatten

/-- The number of statements until the program is done, at most, once six ticks have come. -/
def remaining : Statement → Nat
  | .done           => 0
  | .testCount      => 1
  | .wrapCounter    => 2
  | .countImage     => 3
  | .clearIndicator => 4
  | .sendTestImage  => 5
  | .readImage      => 6
  | .testIndicator  => 7

def Input.isStatement : Input → Bool
  | .statement _ => true
  | _            => false

lemma remaining_execute (hcount : 6 ≤ p.count1) (w : Surroundings) :
    remaining (p.execute w).1.next ≤ remaining p.next - 1 ∧ (p.execute w).1.count1 = p.count1 := by
  obtain ⟨next, imageCounter, count1, count2, sendIndicator, image, imagelen, tcp⟩ := p
  have hnot : ¬ count1 ≤ 5 := not_le.mpr hcount
  cases next with
  | testCount => simp [execute, hnot, remaining]
  | testIndicator => cases sendIndicator <;> simp [execute, remaining]
  | _ => simp [execute, remaining]

/-- Once six ticks have come, every statement takes the program nearer to its end, and a tick does
not take it away from it. -/
lemma remaining_run (hcount : 6 ≤ p.count1) (inputs : List Input) :
    remaining (machine.state p inputs).next
      ≤ remaining p.next - inputs.countP Input.isStatement := by
  induction inputs generalizing p with
  | nil => exact le_rfl
  | cons i inputs ih =>
    rw [Machine.state_cons]
    cases i with
    | timer1 => exact ih (Nat.le_succ_of_le hcount)
    | timer2 => exact ih hcount
    | statement w =>
      obtain ⟨hnearer, hsame⟩ := remaining_execute hcount w
      have hrest := @ih (p.execute w).1 (hsame ▸ hcount)
      rw [List.countP_cons_of_pos rfl]
      exact hrest.trans (by omega)

/-- After the sixth tick the program is done within seven statements, not counting those that only
print. -/
theorem done_of_six {image : Bytes} {imagelen : UInt64} {tcp : TcpClient}
    {inputs more : List Input}
    (hcount : 6 ≤ (machine.state (start image imagelen tcp) inputs).count1)
    (hmore : 7 ≤ more.countP Input.isStatement) :
    (machine.state (start image imagelen tcp) (inputs ++ more)).next = .done := by
  have hrun := remaining_run hcount more
  rw [← Machine.state_append] at hrun
  have hseven (next : Statement) : remaining next ≤ 7 := by cases next <;> decide
  have hzero : remaining (machine.state (start image imagelen tcp) (inputs ++ more)).next = 0 := by
    have hstart := hseven (machine.state (start image imagelen tcp) inputs).next
    omega
  generalize (machine.state (start image imagelen tcp) (inputs ++ more)).next = next at hzero
  cases next <;> first | rfl | cases hzero

/-- The theorem at six ticks that all come at once. -/
theorem done_of_six_at_once :
    (machine.state (start [] 0 .connected)
      (List.replicate 6 .timer1 ++ List.replicate 7 workingStatement)).next = .done :=
  done_of_six (by decide) (by decide)

end TimerProgram
end Seifenkiste
