import Seifenkiste.Server.ProcessMemory
import Seifenkiste.System.CameraRun

/-!
# The camera and the memory of the server

The camera sends the number of bytes that its frame has, and the server shows three bytes for each
pixel. Whether the server stays in its memory while it reads what the camera has sent is a matter
of the frames alone (`camera_memorySafe_iff`).
-/

namespace Seifenkiste

open Memory LittleEndian Transition Trace

namespace Server

section Frames

variable {envs : Nat → Environment} {sent : List Outgoing} {bodies : List (List Int)}

/-- Body reads that deliver the rest of the body stay in the memory of the message exactly when
the image does. -/
lemma conforms_body (turns : Nat) (t : Turn) (data more : Bytes) {body : List Int}
    (hlt : t.data.length < t.length) (hlen : t.length = (t.data ++ data).length)
    (hbody : ∀ result ∈ body, 1 ≤ result ∧ result ≤ transferMax) (hsum : body.sum = data.length) :
    (machine envs).Along Conforms ⟨.receiving t, data ++ more, turns⟩ body
      ↔ t.frame.viewed ≤ t.length := by
  induction body generalizing t data with
  | nil =>
    have hnil : data.length = 0 := by simpa using hsum.symm
    rw [List.length_append, hnil, Nat.add_zero] at hlen
    exact absurd hlen.symm hlt.ne
  | cons result body ih =>
    obtain ⟨⟨hone, hmax⟩, htail⟩ := List.forall_mem_cons.mp hbody
    have hrest := length_le_sum fun r hr => (htail r hr).1
    rw [List.sum_cons] at hsum
    rw [List.length_append] at hlen
    obtain ⟨n, rfl⟩ := Int.eq_ofNat_of_zero_le (show 0 ≤ result by omega)
    have hle : n ≤ data.length := by omega
    have hgranted : Granted t.length (data ++ more).length n := by
      refine ⟨by omega, by omega, ?_, hmax⟩
      rw [List.length_append]
      omega
    have htake : (data ++ more).take n = data.take n := List.take_append_of_le_length hle
    have hreceived : (t.receive (data.take n)).data.length = t.data.length + n := by
      rw [Turn.data_receive, List.length_append, List.length_take_of_le hle]
    have hwithin : t.data.length + n ≤ t.length := by omega
    have hconforms : Conforms ⟨.receiving t, data ++ more, turns⟩ n
        ↔ (t.data.length + n = t.length → t.frame.viewed ≤ t.length) := by
      simp only [Conforms, hgranted, true_imp_iff, Int.toNat_natCast, htake, hreceived, hwithin,
        true_and]
    rw [Machine.Along, hconforms]
    by_cases hmore : t.data.length + n < t.length
    · have hstep : (step envs ⟨.receiving t, data ++ more, turns⟩ n).1
          = ⟨.receiving (t.receive (data.take n)), data.drop n ++ more, turns⟩ := by
        rw [step_receiving hgranted, Int.toNat_natCast, htake,
          List.drop_append_of_le_length hle,
          dataRead_of_lt (Int.natCast_nonneg n).not_gt (by rwa [hreceived])]
      have hagain : (t.receive (data.take n)).data ++ data.drop n = t.data ++ data := by
        rw [Turn.data_receive, List.append_assoc, List.take_append_drop]
      rw [machine_step, hstep, ih (t.receive (data.take n)) (data.drop n)
        (by rwa [hreceived]) (by rw [hagain, List.length_append]; exact hlen) htail
        (by rw [List.length_drop]; omega)]
      exact and_iff_right fun h => absurd h hmore.ne
    · obtain rfl : body = [] := List.length_eq_zero_iff.mp (by omega)
      have hfull : t.data.length + n = t.length := hwithin.antisymm (not_lt.mp hmore)
      simp only [hfull, true_imp_iff, Machine.Along, and_true]

/-- A frame that is read on its own takes the server out of its memory exactly when its image has
more pixels than there is room for. -/
lemma conforms_frame {turns : Nat} {o : Outgoing} (more : Bytes) {body : List Int}
    (hmem : (envs turns).object.state ≠ MessageStateDef.invalid.toUInt32)
    (hpos : 0 < o.data.length) (hbody : ∀ result ∈ body, 1 ≤ result ∧ result ≤ transferMax)
    (hsum : body.sum = o.data.length) :
    (machine envs).Along Conforms ⟨.idle, o.header ++ (o.data ++ more), turns⟩
        ((tcpHeaderLength : Int) :: body)
      ↔ o.image.viewed ≤ o.data.length := by
  obtain ⟨t, hheader, hchunks, hbegun, hstep⟩ := step_header (o.data ++ more) hmem hpos
  obtain ⟨hlength, -⟩ := turn_of_sent hbegun hmem hheader
  have hnone : t.data = [] := by rw [Turn.data, hchunks, List.flatten_nil]
  have hconforms : Conforms ⟨.idle, o.header ++ (o.data ++ more), turns⟩ tcpHeaderLength := by
    intro _ _
    rw [Int.toNat_natCast, List.take_left' o.length_header]
    exact o.hasControlSegments_header
  have hviewed : t.frame.viewed = o.image.viewed := by
    have hcomplete : Turn.Begun (envs turns) { t with chunks := [o.data] } :=
      ⟨hbegun.length_header, hbegun.message_eq⟩
    rw [← (shown_of_frame hcomplete hmem hheader (List.append_nil _)).1]
    rfl
  rw [Machine.Along, and_iff_right hconforms, machine_step, hstep, ← hviewed, ← hlength]
  exact conforms_body turns t o.data more (by rwa [hnone, hlength])
    (by rw [hnone, hlength, List.nil_append]) hbody hsum

lemma conforms_frames (hmem : NeverInvalid envs) (hpos : ∀ o ∈ sent, 0 < o.data.length)
    (turns : Nat)
    (hbodies : ∀ body ∈ bodies, ∀ result ∈ body, 1 ≤ result ∧ result ≤ transferMax)
    (hsums : bodies.map List.sum = sent.map fun o => (o.data.length : Int)) :
    (machine envs).Along Conforms ⟨.idle, Outgoing.stream sent, turns⟩
        (bodies.flatMap fun body => (tcpHeaderLength : Int) :: body)
      ↔ ∀ o ∈ sent, o.image.viewed ≤ o.data.length := by
  induction sent generalizing bodies turns with
  | nil =>
    obtain rfl : bodies = [] := by simpa using hsums
    simp [Machine.Along]
  | cons o sent ih =>
    cases bodies with
    | nil => exact absurd hsums (by simp)
    | cons body bodies =>
      obtain ⟨hbody, hbodies⟩ := List.forall_mem_cons.mp hbodies
      obtain ⟨ho, hpos⟩ := List.forall_mem_cons.mp hpos
      rw [List.map_cons, List.map_cons] at hsums
      obtain ⟨hsum, hsums⟩ := List.cons_eq_cons.mp hsums
      obtain ⟨hstate, -⟩ := run_frame (Outgoing.stream sent) (hmem turns) ho hbody hsum
      rw [Outgoing.stream_cons, List.flatMap_cons, Machine.along_append, hstate,
        conforms_frame (Outgoing.stream sent) (hmem turns) ho hbody hsum,
        ih hpos (turns + 1) hbodies hsums, List.forall_mem_cons]

end Frames

lemma fits_of_images {sent : List Outgoing} {images : List (UInt32 × Shot)}
    (h : List.Forall₂ IsImage sent images) :
    (∀ o ∈ sent, o.image.viewed ≤ o.data.length)
      ↔ ∀ image ∈ images, image.2.image.viewed ≤ image.2.length := by
  induction h with
  | nil => simp
  | cons himage _ ih =>
    rw [List.forall_mem_cons, List.forall_mem_cons, ih, himage.image_eq, himage.length]

section Camera

variable {supply : Nat → TurnMallocs} {memory : Placed} {client client' : TcpClient}
  {shots : List Shot} {wire : Bytes} {bodies : List (List Int)}

/-- While it reads what the camera has sent, cut at the frames, the server stays in its memory
exactly when no image has three bytes for each pixel but less in its message. Then it is left
between two turns, with the block of a response for each image. -/
theorem camera_memorySafe_iff (hready : client.tcpState = .connectionReady)
    (hclean : ∀ shot ∈ shots, shot.Clean)
    (hcamera : cameraMain client 0 shots = some (client', wire))
    (hpixels : ∀ image ∈ deliveredImages 0 shots, 0 < image.2.length)
    (hbodies : ∀ body ∈ bodies, ∀ result ∈ body, 1 ≤ result ∧ result ≤ transferMax)
    (hsums : bodies.map List.sum
      = (deliveredImages 0 shots).map fun image => (image.2.length : Int))
    (hstate : memory.object.state ≠ MessageStateDef.invalid.toUInt32)
    (hstale : memory.heap.block memory.object.specialParamBuffer = none)
    (hsupplied : (Process.machine supply).Along (Process.Supplied supply)
      (Process.start memory wire) (bodies.flatMap fun body => (tcpHeaderLength : Int) :: body)) :
    let p := (Process.machine supply).state (Process.start memory wire)
      (bodies.flatMap fun body => (tcpHeaderLength : Int) :: body)
    let images := deliveredImages 0 shots
    (p.phase ≠ .undefined ↔ ∀ image ∈ images, image.2.image.viewed ≤ image.2.length) ∧
      (p.phase ≠ .undefined → p.phase = .idle ∧
        p.memory.heap = withResponses supply memory.heap
          (images.map fun image => okokok ++ bytes image.1)) := by
  intro p images
  obtain ⟨sent, himages, rfl⟩ := wire_cameraMain hready hclean hcamera
  obtain ⟨hpos, hsent⟩ := cut_of_images himages hpixels hsums
  have hstart : Agrees supply memory.heap [] (Process.start memory (Outgoing.stream sent))
      (start (Outgoing.stream sent)) := agrees_start hstate hstale
  have hdefined := defined_iff hstart neverInvalid_cleared hsupplied
  refine ⟨?_, ?_⟩
  · rw [← fits_of_images himages, ← conforms_frames neverInvalid_cleared hpos 0 hbodies hsent]
    exact hdefined
  · intro hsafe
    obtain ⟨hevents, hagrees⟩ :=
      agrees_run hstart neverInvalid_cleared hsupplied (hdefined.mp hsafe)
    obtain ⟨hend, -⟩ := run_frames neverInvalid_cleared hpos 0 hbodies hsent
    have hidle : p.phase = .idle := hagrees.phase_of_idle (congrArg State.phase hend)
    refine ⟨hidle, ?_⟩
    obtain ⟨-, hresponses⟩ := shown_all neverInvalid_cleared hpos hbodies hsent
    obtain ⟨-, -, hids⟩ := map_of_images himages
    rw [hagrees.heap_of_idle hidle, List.nil_append, hevents, responses_filter, hresponses, hids]

/-- The theorem at two pixels of which the second one is delivered. -/
theorem camera_memorySafe_pixel :
    ((Process.machine spreadBlocks).state (Process.start ⟨staleObject, emptyHeap⟩ pixelWire)
      [37, 3]).phase = .idle := by
  have hcamera : cameraMain .connected 0 pixelShots = some (.connected, pixelWire) := by
    decide +kernel
  have hclean : ∀ shot ∈ pixelShots, shot.Clean := by decide +kernel
  have hpixels : ∀ image ∈ deliveredImages 0 pixelShots, 0 < image.2.length := by decide +kernel
  have hsafe := @camera_memorySafe_iff spreadBlocks ⟨staleObject, emptyHeap⟩ .connected .connected
    pixelShots pixelWire [[3]] rfl hclean hcamera hpixels (by decide) (by decide +kernel)
    (by decide) rfl (by decide +kernel)
  exact (hsafe.2 (hsafe.1.mpr (by decide +kernel))).1

end Camera

end Server
end Seifenkiste
