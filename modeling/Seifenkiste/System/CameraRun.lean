import Mathlib.Data.Finset.Card
import Mathlib.Order.Interval.Finset.Nat
import Seifenkiste.Client.Camera
import Seifenkiste.Client.Send
import Seifenkiste.Server.Alignment
import Seifenkiste.Server.Manager

/-!
# The camera and the server

The main program of the camera with the client that it sends through, and the server at the other
end of the connection, among the other connections that it serves. A camera whose header writes
fail or whose writes take everything leaves frames on the connection, and the server shows and
acknowledges these images in their order.
-/

namespace Seifenkiste

open Memory LittleEndian Transition Trace

/-! ### The main program of the camera -/

/-- What an iteration of the main program meets: the capture, the heap that the header buffer of
`send_message` comes from, and what the kernel answers to the writes. -/
structure Shot where
  capture : Capture
  heap : Nat → UInt8
  writes : Writes

/-- `prep` with its call of `send_message`, whose result it does not look at. -/
def TcpClient.prep (client : TcpClient) (currentTime imageCounter : UInt32) (frame : CameraFrame)
    (heap heap' : Nat → UInt8) (writes : Writes) : Option (TcpClient × Bytes) := do
  let newMessage ← Seifenkiste.prep currentTime imageCounter frame heap
  let sent ← client.sendMessage newMessage heap' writes
  return (sent.client, sent.placed)

/-- The loop of the main program: the client afterwards, and the bytes on its connection. -/
def cameraMain : TcpClient → UInt32 → List Shot → Option (TcpClient × Bytes)
  | client, _, []                       => some (client, [])
  | client, imageCounter, shot :: shots => do
    let currentTime := (getTimestamp shot.capture.time).toUInt32
    let imageCounter := imageCounter + 1
    let (client, placed) ← client.prep currentTime imageCounter shot.capture.frame
      shot.capture.heap shot.heap shot.writes
    if imageCounter > 1000 ∨ shot.capture.keyPressed then return (client, placed)
    let (client, more) ← cameraMain client imageCounter shots
    return (client, placed ++ more)

/-- The shots that the loop gets to, with the numbers that it gives them. -/
def numbered : UInt32 → List Shot → List (UInt32 × Shot)
  | _, []                       => []
  | imageCounter, shot :: shots =>
    let imageCounter := imageCounter + 1
    if imageCounter > 1000 ∨ shot.capture.keyPressed then [(imageCounter, shot)]
    else (imageCounter, shot) :: numbered imageCounter shots

namespace Shot

/-- The number of bytes that the message of the shot has. -/
def length (shot : Shot) : Nat :=
  (shot.capture.frame.rows * shot.capture.frame.cols * shot.capture.frame.channels).toNat

/-- The header write fails, or both writes take everything. -/
def Clean (shot : Shot) : Prop :=
  shot.writes.header = -1 ∨
    shot.writes.header = tcpHeaderLength ∧ shot.writes.data = shot.length

instance (shot : Shot) : Decidable shot.Clean := inferInstanceAs (Decidable (_ ∨ _))

/-- The image that is to be displayed. -/
def image (shot : Shot) : Mat where
  rows := shot.capture.frame.rows
  cols := shot.capture.frame.cols
  elemSize := cv8UC3
  data := shot.capture.frame.data.take shot.length

end Shot

/-- The images of a camera run whose header was taken, with their numbers. -/
def deliveredImages (imageCounter : UInt32) (shots : List Shot) : List (UInt32 × Shot) :=
  (numbered imageCounter shots).filter fun image => image.2.writes.header = tcpHeaderLength

/-- The message of an image as it goes out. -/
structure IsImage (o : Outgoing) (image : UInt32 × Shot) : Prop where
  messageId : o.message.messageId = image.1
  params : o.params = bytes image.2.capture.frame.rows ++
    (bytes image.2.capture.frame.cols ++ bytes image.2.capture.frame.channels)
  data : o.data = image.2.capture.frame.data.take image.2.length
  length : o.data.length = image.2.length

/-! ### What the camera leaves on the connection -/

section Camera

variable {client client' : TcpClient} {shot : Shot} {shots : List Shot} {imageCounter : UInt32}
  {wire placed : Bytes}

lemma exists_outgoing {m : MessageClass} (h : shot.capture.message imageCounter = some m) :
    ∃ o : Outgoing, o.message = m ∧ IsImage o (imageCounter, shot) := by
  have hlen := length_of_createMessage h
  have heq := (createMessage_eq hlen).symm.trans h
  let o := (createMessage_built h).wellFormed.outgoing
  obtain rfl := Option.some.inj heq
  refine ⟨o, rfl, rfl, rfl, rfl, ?_⟩
  exact List.length_take_of_le hlen

/-- What an iteration leaves on the connection if its header write takes everything or fails. -/
lemma prep_placed (hready : client.tcpState = .connectionReady)
    (hheader : shot.writes.header = -1 ∨ shot.writes.header = tcpHeaderLength)
    (h : client.prep (getTimestamp shot.capture.time).toUInt32 imageCounter shot.capture.frame
      shot.capture.heap shot.heap shot.writes = some (client', placed)) :
    client' = client ∧ ∃ o, IsImage o (imageCounter, shot) ∧
      placed = if shot.writes.header = tcpHeaderLength then
        o.header ++ o.data.take shot.writes.data.toNat else [] := by
  obtain ⟨m, hm, h⟩ := Option.bind_eq_some_iff.mp h
  obtain ⟨sent, hsent, h⟩ := Option.bind_eq_some_iff.mp h
  obtain ⟨rfl, rfl⟩ := Prod.mk.inj (Option.some.inj h)
  obtain ⟨o, rfl, himage⟩ := exists_outgoing hm
  have hwritten : Written tcpHeaderLength shot.writes.header := by
    rcases hheader with hheader | hheader
    · rw [hheader]
      decide
    · rw [hheader]
      decide
  have hplaced := hsent.symm.trans (client.sendMessage_eq o shot.heap hwritten)
  refine ⟨TcpClient.sendMessage_client hsent, o, himage, ?_⟩
  rw [Option.some.inj hplaced, hready]
  rcases hheader with hheader | hheader
  · have hnot : ¬ (0 : Int) ≤ -1 := by decide
    have hne : (-1 : Int) ≠ tcpHeaderLength := by decide
    simp only [hheader, hnot, hne, and_false, if_false]
  · simp only [hheader, Int.natCast_nonneg, and_self, if_true, Int.toNat_natCast]
    rw [← o.length_header, List.take_length]

/-- An iteration with clean writes leaves the frame of its image, or nothing. -/
lemma prep_eq (hready : client.tcpState = .connectionReady) (hclean : shot.Clean)
    (h : client.prep (getTimestamp shot.capture.time).toUInt32 imageCounter shot.capture.frame
      shot.capture.heap shot.heap shot.writes = some (client', placed)) :
    client' = client ∧ ∃ o, IsImage o (imageCounter, shot) ∧
      placed = if shot.writes.header = tcpHeaderLength then o.message.frame else [] := by
  obtain ⟨hclient, o, himage, hplaced⟩ := prep_placed hready (hclean.imp_right And.left) h
  refine ⟨hclient, o, himage, ?_⟩
  rcases hclean with hheader | ⟨hheader, hdata⟩
  · have hne : (-1 : Int) ≠ tcpHeaderLength := by decide
    rw [hplaced, hheader, if_neg hne, if_neg hne]
  · rw [hplaced, if_pos hheader, if_pos hheader, hdata, Int.toNat_natCast, ← himage.length,
      List.take_length, o.frame_message, Outgoing.frame]

/-- An iteration without pixels leaves its header, whatever its second write returns. -/
lemma prep_empty (hready : client.tcpState = .connectionReady)
    (hheader : shot.writes.header = tcpHeaderLength) (hempty : shot.length = 0)
    (h : client.prep (getTimestamp shot.capture.time).toUInt32 imageCounter shot.capture.frame
      shot.capture.heap shot.heap shot.writes = some (client', placed)) :
    client' = client ∧ ∃ o : Outgoing, o.data.length = 0 ∧ placed = o.header := by
  obtain ⟨hclient, o, himage, hplaced⟩ := prep_placed hready (Or.inr hheader) h
  have hnone : o.data.length = 0 := himage.length.trans hempty
  refine ⟨hclient, o, hnone, ?_⟩
  rw [hplaced, if_pos hheader, List.length_eq_zero_iff.mp hnone, List.take_nil, List.append_nil]

/-- So its header comes first, whatever the camera leaves behind it. -/
lemma exists_header_of_empty (hready : client.tcpState = .connectionReady)
    (hheader : shot.writes.header = tcpHeaderLength) (hempty : shot.length = 0)
    (h : cameraMain client imageCounter (shot :: shots) = some (client', wire)) :
    ∃ o : Outgoing, o.data.length = 0 ∧ ∃ more, wire = o.header ++ more := by
  obtain ⟨⟨client₁, placed⟩, hprep, hlater⟩ := Option.bind_eq_some_iff.mp h
  obtain ⟨-, o, hnone, rfl⟩ := prep_empty hready hheader hempty hprep
  refine ⟨o, hnone, ?_⟩
  simp only at hlater
  split_ifs at hlater with hlast
  · obtain ⟨-, rfl⟩ := Prod.mk.inj (Option.some.inj hlater)
    exact ⟨[], (List.append_nil _).symm⟩
  · obtain ⟨⟨client₂, more⟩, -, hlater⟩ := Option.bind_eq_some_iff.mp hlater
    obtain ⟨-, rfl⟩ := Prod.mk.inj (Option.some.inj hlater)
    exact ⟨more, rfl⟩

/-- The frame of an image comes before the frames of the images behind it, if it was taken. -/
lemma stream_cons_of_image {o : Outgoing} {image : UInt32 × Shot}
    {images : List (UInt32 × Shot)} {sent : List Outgoing} (himage : IsImage o image)
    (hplaced : placed
      = if image.2.writes.header = tcpHeaderLength then o.message.frame else [])
    (hsent : List.Forall₂ IsImage sent
      (images.filter fun image => image.2.writes.header = tcpHeaderLength)) :
    ∃ sent', List.Forall₂ IsImage sent'
        ((image :: images).filter fun image => image.2.writes.header = tcpHeaderLength) ∧
      placed ++ Outgoing.stream sent = Outgoing.stream sent' := by
  by_cases hheader : image.2.writes.header = tcpHeaderLength
  · rw [List.filter_cons_of_pos (by simpa using hheader), hplaced, if_pos hheader]
    exact ⟨o :: sent, hsent.cons himage, rfl⟩
  · rw [List.filter_cons_of_neg (by simpa using hheader), hplaced, if_neg hheader]
    exact ⟨sent, hsent, rfl⟩

/-- The camera leaves the frames of the delivered images and nothing else. -/
lemma wire_cameraMain (hready : client.tcpState = .connectionReady)
    (hclean : ∀ shot ∈ shots, shot.Clean)
    (h : cameraMain client imageCounter shots = some (client', wire)) :
    ∃ sent, List.Forall₂ IsImage sent (deliveredImages imageCounter shots) ∧
      wire = Outgoing.stream sent := by
  induction shots generalizing imageCounter client wire with
  | nil =>
    obtain ⟨-, rfl⟩ := Prod.mk.inj (Option.some.inj h)
    exact ⟨[], List.Forall₂.nil, rfl⟩
  | cons shot shots ih =>
    obtain ⟨hshot, hclean⟩ := List.forall_mem_cons.mp hclean
    obtain ⟨⟨client₁, placed⟩, hprep, hlater⟩ := Option.bind_eq_some_iff.mp h
    obtain ⟨hclient, o, himage, hplaced⟩ := prep_eq hready hshot hprep
    simp only [hclient] at hlater
    simp only [deliveredImages, numbered]
    split_ifs at hlater with hlast
    · obtain ⟨-, rfl⟩ := Prod.mk.inj (Option.some.inj hlater)
      rw [if_pos hlast, ← List.append_nil placed]
      exact @stream_cons_of_image _ o _ [] [] himage hplaced List.Forall₂.nil
    · obtain ⟨⟨client₂, more⟩, hrest, hlater⟩ := Option.bind_eq_some_iff.mp hlater
      obtain ⟨rfl, rfl⟩ := Prod.mk.inj (Option.some.inj hlater)
      obtain ⟨sent, hsent, rfl⟩ := ih hready hclean hrest
      rw [if_neg hlast]
      exact stream_cons_of_image himage hplaced hsent

lemma toNat_add_one (hn : imageCounter.toNat ≤ 1000) :
    (imageCounter + 1).toNat = imageCounter.toNat + 1 := by
  rw [UInt32.toNat_add]
  exact Nat.mod_eq_of_lt (Nat.lt_of_le_of_lt (Nat.succ_le_succ hn) (by decide))

/-- The camera gets to the shots behind some clean ones, unless one of these is its last. -/
lemma wire_cameraMain_append {first later : List Shot}
    (hready : client.tcpState = .connectionReady) (hclean : ∀ shot ∈ first, shot.Clean)
    (hkeys : ∀ shot ∈ first, shot.capture.keyPressed = false)
    (hcount : imageCounter.toNat + first.length ≤ 1000)
    (h : cameraMain client imageCounter (first ++ later) = some (client', wire)) :
    ∃ sent n rest, List.Forall₂ IsImage sent (deliveredImages imageCounter first) ∧
      cameraMain client n later = some (client', rest) ∧ wire = Outgoing.stream sent ++ rest := by
  induction first generalizing imageCounter client wire with
  | nil => exact ⟨[], imageCounter, wire, List.Forall₂.nil, h, rfl⟩
  | cons shot first ih =>
    obtain ⟨hshot, hclean⟩ := List.forall_mem_cons.mp hclean
    obtain ⟨hkey, hkeys⟩ := List.forall_mem_cons.mp hkeys
    obtain ⟨⟨client₁, placed⟩, hprep, hlater⟩ := Option.bind_eq_some_iff.mp h
    obtain ⟨hclient, o, himage, hplaced⟩ := prep_eq hready hshot hprep
    rw [List.length_cons] at hcount
    have hnext := @toNat_add_one imageCounter (by omega)
    have hgoes : ¬ (imageCounter + 1 > 1000 ∨ shot.capture.keyPressed) := by
      rw [hkey]
      simp only [gt_iff_lt, UInt32.lt_iff_toNat_lt, hnext, Bool.false_eq_true, or_false, not_lt]
      change imageCounter.toNat + 1 ≤ 1000
      omega
    simp only [hclient, hgoes, if_false] at hlater
    obtain ⟨⟨client₂, more⟩, hrest, hlater⟩ := Option.bind_eq_some_iff.mp hlater
    obtain ⟨rfl, rfl⟩ := Prod.mk.inj (Option.some.inj hlater)
    obtain ⟨sent, n, rest, hsent, hcamera, rfl⟩ := ih hready hclean hkeys (by omega) hrest
    obtain ⟨sent', hsent', hstream⟩ := stream_cons_of_image himage hplaced hsent
    simp only [deliveredImages, numbered, hgoes, if_false]
    refine ⟨sent', n, rest, hsent', hcamera, ?_⟩
    rw [← List.append_assoc, hstream]

/-- The numbers go up one by one, and the loop ends at 1001 at the latest. -/
lemma numbered_increasing (hn : imageCounter.toNat ≤ 1000) :
    ((numbered imageCounter shots).map fun image => image.1.toNat).Pairwise (· < ·) ∧
      ∀ image ∈ numbered imageCounter shots,
        imageCounter.toNat < image.1.toNat ∧ image.1.toNat ≤ 1001 := by
  induction shots generalizing imageCounter with
  | nil => simp [numbered]
  | cons shot shots ih =>
    have hnext := toNat_add_one hn
    simp only [numbered]
    split_ifs with hlast
    · refine ⟨List.pairwise_singleton _ _, ?_⟩
      intro image himage
      obtain rfl := List.mem_singleton.mp himage
      show _ < (imageCounter + 1).toNat ∧ (imageCounter + 1).toNat ≤ 1001
      omega
    · have hle : (imageCounter + 1).toNat ≤ 1000 := by
        have hnot : ¬ imageCounter + 1 > 1000 := fun h => hlast (Or.inl h)
        exact UInt32.le_iff_toNat_le.mp (UInt32.not_lt.mp hnot)
      obtain ⟨hpairs, hrange⟩ := ih hle
      rw [List.map_cons, List.pairwise_cons, List.forall_mem_cons, List.forall_mem_map]
      refine ⟨⟨fun image himage => (hrange image himage).1, hpairs⟩, ?_, ?_⟩
      · show imageCounter.toNat < (imageCounter + 1).toNat ∧ (imageCounter + 1).toNat ≤ 1001
        omega
      · intro image himage
        have hlater := hrange image himage
        omega

/-- So do the numbers of the delivered images. -/
lemma deliveredImages_increasing (shots : List Shot) :
    ((deliveredImages 0 shots).map fun image => image.1.toNat).Pairwise (· < ·) := by
  obtain ⟨hpairs, -⟩ := @numbered_increasing shots 0 (by decide)
  exact hpairs.sublist (List.filter_sublist.map _)

/-- There are no more of them than the loop counts. -/
lemma length_deliveredImages (shots : List Shot) : (deliveredImages 0 shots).length ≤ 1001 := by
  obtain ⟨hpairs, hrange⟩ := @numbered_increasing shots 0 (by decide)
  obtain ⟨numbers, hnumbers⟩ : ∃ numbers, numbers
    = (numbered 0 shots).map fun image => image.1.toNat := ⟨_, rfl⟩
  rw [← hnumbers] at hpairs
  have hnodup : numbers.Nodup := hpairs.imp ne_of_lt
  have hcounted : numbers.toFinset ⊆ Finset.Ioc 0 1001 := by
    intro n hn
    rw [List.mem_toFinset, hnumbers, List.mem_map] at hn
    obtain ⟨image, himage, rfl⟩ := hn
    exact Finset.mem_Ioc.mpr (hrange image himage)
  calc (deliveredImages 0 shots).length
      ≤ (numbered 0 shots).length := List.length_filter_le _ _
    _ = numbers.length := by rw [hnumbers, List.length_map]
    _ = numbers.toFinset.card := (List.toFinset_card_of_nodup hnodup).symm
    _ ≤ (Finset.Ioc 0 1001).card := Finset.card_le_card hcounted
    _ = 1001 := Nat.card_Ioc 0 1001

end Camera

/-! ### What the server makes of it -/

namespace Outgoing

/-- The image that a message stands for. -/
def image (o : Outgoing) : Mat where
  rows := word (slice o.params 0 4)
  cols := word (slice o.params 4 4)
  elemSize := cv8UC3
  data := o.data

def response (o : Outgoing) : Bytes := okokok ++ bytes o.message.messageId

lemma length_response (o : Outgoing) : o.response.length = 10 := by
  rw [response, List.length_append, length_bytes]
  rfl

lemma stream_cons (o : Outgoing) (rest : List Outgoing) :
    stream (o :: rest) = o.header ++ (o.data ++ stream rest) := by
  rw [stream_eq, List.flatMap_cons, List.append_assoc, ← stream_eq]

lemma length_stream (sent : List Outgoing) :
    (stream sent).length = (sent.map fun o => tcpHeaderLength + o.data.length).sum := by
  induction sent with
  | nil => rfl
  | cons o sent ih =>
    rw [stream_cons, List.length_append, List.length_append, ih, o.length_header, List.map_cons,
      List.sum_cons, Nat.add_assoc]

end Outgoing

lemma IsImage.image_eq {o : Outgoing} {image : UInt32 × Shot} (h : IsImage o image) :
    o.image = image.2.image := by
  obtain ⟨hrows, hcols, -⟩ := slice_dimensions image.2.capture.frame.rows
    image.2.capture.frame.cols image.2.capture.frame.channels
  rw [Outgoing.image, Shot.image, h.params, h.data, hrows, hcols, word_bytes, word_bytes]

lemma IsImage.response_eq {o : Outgoing} {image : UInt32 × Shot} (h : IsImage o image) :
    o.response = okokok ++ bytes image.1 := by
  rw [Outgoing.response, h.messageId]

/-- The messages of a list of images, seen by what the server needs of them. -/
lemma map_of_images {sent : List Outgoing} {images : List (UInt32 × Shot)}
    (h : List.Forall₂ IsImage sent images) :
    (sent.map fun o => o.data.length) = (images.map fun image => image.2.length) ∧
      sent.map Outgoing.image = (images.map fun image => image.2.image) ∧
      sent.map Outgoing.response = images.map fun image => okokok ++ bytes image.1 :=
  ⟨Server.map_eq_map_iff.mpr (h.imp fun _ _ himage => himage.length),
    Server.map_eq_map_iff.mpr (h.imp fun _ _ himage => himage.image_eq),
    Server.map_eq_map_iff.mpr (h.imp fun _ _ himage => himage.response_eq)⟩

lemma length_pos_of_images {sent : List Outgoing} {images : List (UInt32 × Shot)}
    (h : List.Forall₂ IsImage sent images) (hpixels : ∀ image ∈ images, 0 < image.2.length) :
    ∀ o ∈ sent, 0 < o.data.length := by
  have hall : ∀ n ∈ sent.map (fun o => o.data.length), 0 < n := by
    rw [(map_of_images h).1]
    exact List.forall_mem_map.mpr hpixels
  exact List.forall_mem_map.mp hall

/-- Cutting at the images is cutting at their messages. -/
lemma cut_of_images {sent : List Outgoing} {images : List (UInt32 × Shot)}
    {bodies : List (List Int)} (h : List.Forall₂ IsImage sent images)
    (hpixels : ∀ image ∈ images, 0 < image.2.length)
    (hsums : bodies.map List.sum = images.map fun image => (image.2.length : Int)) :
    (∀ o ∈ sent, 0 < o.data.length) ∧
      bodies.map List.sum = sent.map fun o => (o.data.length : Int) := by
  refine ⟨length_pos_of_images h hpixels, ?_⟩
  have hcast := congrArg (List.map fun n : Nat => (n : Int)) (map_of_images h).1
  rw [List.map_map, List.map_map] at hcast
  rw [hsums]
  exact hcast.symm

namespace Server

section Shown

variable {memory : Nat → Environment} {sent : List Outgoing} {bodies : List (List Int)}

/-- A turn that read a frame and nothing else shows its image and acknowledges its id. -/
lemma shown_of_frame {env : Environment} {t : Turn} {o : Outgoing} (hbegun : t.Begun env)
    (hmem : env.object.state ≠ MessageStateDef.invalid.toUInt32) (hheader : t.header = o.header)
    (hdata : t.data = o.data) : t.frame = o.image ∧ t.response = o.response := by
  have hmessage := hbegun.message_eq
  rw [hheader, o.ofHeaderMessage_header hmem] at hmessage
  have hparams : t.params = o.params := by rw [Turn.params, hmessage, Option.getD_some]
  have hblock : memcpy (malloc env.heap o.message.dataLength.toNat) 0 o.data = o.data := by
    apply memcpy_zero_of_length_eq
    rw [o.data_length, length_malloc]
  refine ⟨?_, ?_⟩
  · rw [Turn.frame, Outgoing.image, hparams, hdata, hmessage, Option.getD_some, hblock]
  · rw [Turn.response, Outgoing.response, hmessage]

/-- Reads that cut at the frames show all images and acknowledge them. -/
lemma shown_all (hmem : NeverInvalid memory) (hpos : ∀ o ∈ sent, 0 < o.data.length)
    (hbodies : ∀ body ∈ bodies, ∀ result ∈ body, 1 ≤ result ∧ result ≤ transferMax)
    (hsums : bodies.map List.sum = sent.map fun o => (o.data.length : Int)) :
    let trace := (machine memory).output (start (Outgoing.stream sent))
      (bodies.flatMap fun body => (tcpHeaderLength : Int) :: body)
    displayed trace = sent.map Outgoing.image ∧ responses trace = sent.map Outgoing.response := by
  intro trace
  obtain ⟨hstate, hprocessed⟩ := run_frames hmem hpos 0 hbodies hsums
  obtain ⟨q, hrun, hfollows⟩ := machine_follows memory (Outgoing.stream sent)
    (bodies.flatMap fun body => (tcpHeaderLength : Int) :: body)
  obtain ⟨hevents, hvalid⟩ := run_spec hrun
  obtain ⟨more, hmore⟩ : consumed q.events <+: Outgoing.stream sent := by
    rw [hevents]
    exact ⟨_, (machine memory).conserves consumed_step _ _⟩
  change processed trace = _ at hprocessed
  rw [show trace = q.events from hevents.symm] at hprocessed ⊢
  rw [Ledger.events, Turn.processed_flatMap, processed_stage, List.append_nil, map_eq_map_iff]
    at hprocessed
  -- the closed turns read the frames, neither less nor more
  have hheaders := hprocessed.imp fun t o hto => congrArg Prod.fst hto
  have hlengths := length_data_of_headers hvalid hmem ⟨more, hmore⟩ hheaders
  have hframes : List.Forall₂ (fun (t : Turn) (o : Outgoing) =>
      t.header = o.header ∧ t.data = o.data) q.closed sent := by
    rw [Ledger.events, Turn.consumed_flatMap, List.append_assoc,
      ← List.append_nil (Outgoing.stream sent)] at hmore
    exact (frames_of_lengths hvalid.length_header hlengths hmore).1
  have hshown : List.Forall₂ (fun (t : Turn) (o : Outgoing) =>
      t.frame = o.image ∧ t.response = o.response) q.closed sent := by
    refine ((List.forall₂_and_left _ _).mpr ⟨fun t => hvalid.of_mem, hframes⟩).imp ?_
    rintro t o ⟨⟨k, hbegun, -⟩, hheader, hdata⟩
    exact shown_of_frame hbegun (hmem k) hheader hdata
  obtain ⟨hnone, hnone'⟩ := displayed_of_atRest hfollows.2.1
  rw [Ledger.events, Turn.displayed_flatMap, Turn.responses_flatMap, hnone, hnone',
    List.append_nil, List.append_nil, map_eq_map_iff, map_eq_map_iff]
  exact ⟨hshown.imp fun t o hto => hto.1, hshown.imp fun t o hto => hto.2⟩

/-- Reads that cut at the frames leave what comes behind them. -/
lemma shown_before (hmem : NeverInvalid memory) (hpos : ∀ o ∈ sent, 0 < o.data.length)
    (hbodies : ∀ body ∈ bodies, ∀ result ∈ body, 1 ≤ result ∧ result ≤ transferMax)
    (hsums : bodies.map List.sum = sent.map fun o => (o.data.length : Int)) (more : Bytes) :
    let schedule := bodies.flatMap fun body => (tcpHeaderLength : Int) :: body
    let trace := (machine memory).output (start (Outgoing.stream sent ++ more)) schedule
    (machine memory).state (start (Outgoing.stream sent ++ more)) schedule
        = ⟨.idle, more, sent.length⟩ ∧
      displayed trace = sent.map Outgoing.image ∧ responses trace = sent.map Outgoing.response := by
  intro schedule trace
  have hstate : (machine memory).state (start (Outgoing.stream sent)) schedule
      = ⟨.idle, [], 0 + sent.length⟩ := (run_frames hmem hpos 0 hbodies hsums).1
  have halong := along_admits_of_idle (congrArg State.phase hstate)
  obtain ⟨hstate', htrace⟩ := (serverFeed memory).run_feed halong more
  have hfed : start (Outgoing.stream sent ++ more)
      = (serverFeed memory).feed (start (Outgoing.stream sent)) more := rfl
  simp only [trace, hfed]
  rw [hstate', htrace, hstate, Nat.zero_add]
  exact ⟨rfl, shown_all hmem hpos hbodies hsums⟩

/-- How the server leaves when a message has no data. -/
def withoutData : Stop := .exit "ERROR waiting for data but expecting data of length <1 !"

/-- The header of a message without data makes the server leave. -/
lemma step_empty {turns : Nat} {o : Outgoing} (more : Bytes)
    (hmem : (memory turns).object.state ≠ MessageStateDef.invalid.toUInt32)
    (hempty : o.data.length = 0) :
    ∃ message, step memory ⟨.idle, o.header ++ more, turns⟩ tcpHeaderLength
      = (⟨.stopped withoutData, more, turns⟩,
        [.readHeader tcpHeaderLength o.header, .constructed message]) := by
  obtain ⟨message, hmessage⟩ : ∃ message, message = MessageClass.ofHeaderMessage
    (memory turns).object (memory turns).heap o.header := ⟨_, rfl⟩
  have hbegun : Turn.Begun (memory turns) ⟨o.header, message, []⟩ := ⟨o.length_header, hmessage⟩
  obtain ⟨hlength, hparams⟩ := turn_of_sent hbegun hmem rfl
  have hgranted : Granted tcpHeaderLength (o.header ++ more).length tcpHeaderLength := by
    refine ⟨by decide, le_rfl, ?_, by decide⟩
    rw [List.length_append, o.length_header]
    exact Int.ofNat_le.mpr (Nat.le_add_right _ _)
  have henter : enter ⟨o.header, message, []⟩ = .stopped withoutData := by
    simp only [enter, hparams, hlength, hempty, Nat.lt_one_iff, if_true, if_false, withoutData]
  refine ⟨message, ?_⟩
  rw [← henter, step_idle hgranted, Int.toNat_natCast, List.take_left' o.length_header,
    List.drop_left' o.length_header]
  exact headerRead_full hmessage

/-- Behind the frames that come before it, a message without data ends the connection. -/
lemma serve_empty (hmem : NeverInvalid memory) (hpos : ∀ o ∈ sent, 0 < o.data.length)
    (hbodies : ∀ body ∈ bodies, ∀ result ∈ body, 1 ≤ result ∧ result ≤ transferMax)
    (hsums : bodies.map List.sum = sent.map fun o => (o.data.length : Int)) {o : Outgoing}
    (hempty : o.data.length = 0) (unread : Bytes) (rest : List Int) :
    let run := serve memory (Outgoing.stream sent ++ (o.header ++ unread))
      ((bodies.flatMap fun body => (tcpHeaderLength : Int) :: body)
        ++ (tcpHeaderLength : Int) :: rest)
    run.stop = withoutData ∧ run.input = unread ∧ displayed run.trace = sent.map Outgoing.image ∧
      responses run.trace = sent.map Outgoing.response := by
  intro run
  obtain ⟨hstate, hdisplayed, hresponses⟩ :=
    shown_before hmem hpos hbodies hsums (o.header ++ unread)
  obtain ⟨message, hstep⟩ := @step_empty memory sent.length o unread (hmem sent.length) hempty
  have hfixed := (machine memory).state_of_fixed (s := ⟨.stopped withoutData, unread, sent.length⟩)
    (fun _ => rfl) rest
  simp only [run, serve_eq, Machine.state_append, Machine.output_append, hstate,
    Machine.state_cons, Machine.output_cons, hstep, hfixed]
  refine ⟨rfl, trivial, ?_, ?_⟩
  · rw [displayed, List.filterMap_append, ← displayed, hdisplayed]
    exact List.append_nil _
  · rw [responses, List.filterMap_append, ← responses, hresponses]
    exact List.append_nil _

end Shown

/-! ### A frame without pixels -/

/-- A camera that has no image hands out an empty frame. Its message has no data, and the server
shows the images that were delivered before it and none behind it, whatever the camera goes on
to send and however it is read. -/
theorem empty_frame_ends {memory : Nat → Environment} {client client' : TcpClient}
    {first later : List Shot} {shot : Shot} {wire : Bytes}
    (hready : client.tcpState = .connectionReady) (hclean : ∀ shot ∈ first, shot.Clean)
    (hkeys : ∀ shot ∈ first, shot.capture.keyPressed = false) (hcount : first.length ≤ 1000)
    (hheader : shot.writes.header = tcpHeaderLength) (hempty : shot.length = 0)
    (hcamera : cameraMain client 0 (first ++ shot :: later) = some (client', wire))
    (hmem : NeverInvalid memory)
    (hpixels : ∀ image ∈ deliveredImages 0 first, 0 < image.2.length)
    {bodies : List (List Int)}
    (hbodies : ∀ body ∈ bodies, ∀ result ∈ body, 1 ≤ result ∧ result ≤ transferMax)
    (hsums : bodies.map List.sum
      = (deliveredImages 0 first).map fun image => (image.2.length : Int))
    (rest : List Int) :
    let run := serve memory wire
      ((bodies.flatMap fun body => (tcpHeaderLength : Int) :: body)
        ++ (tcpHeaderLength : Int) :: rest)
    run.stop = withoutData ∧
      displayed run.trace = (deliveredImages 0 first).map (fun image => image.2.image) ∧
      responses run.trace = (deliveredImages 0 first).map fun image => okokok ++ bytes image.1 := by
  intro run
  have hbegin : (0 : UInt32).toNat + first.length ≤ 1000 := (Nat.zero_add _).trans_le hcount
  obtain ⟨sent, n, unread, himages, hshot, rfl⟩ :=
    wire_cameraMain_append hready hclean hkeys hbegin hcamera
  obtain ⟨o, hnone, more, rfl⟩ := exists_header_of_empty hready hheader hempty hshot
  obtain ⟨hpos, hcut⟩ := cut_of_images himages hpixels hsums
  obtain ⟨-, hdisplayed, hresponses⟩ := map_of_images himages
  obtain ⟨hstop, -, hshown, hanswered⟩ := serve_empty hmem hpos hbodies hcut hnone more rest
  rw [← hdisplayed, ← hresponses]
  exact ⟨hstop, hshown, hanswered⟩

/-- A shot of a single pixel. -/
def pixelShot (writes : Writes) : Shot where
  capture := ⟨⟨1, 1, 3, [1, 2, 3]⟩, ⟨1541893258, 0, by decide⟩, fun _ => 0, false⟩
  heap := fun _ => 0
  writes := writes

/-- A shot of a camera that has no image. -/
def emptyShot : Shot := { pixelShot ⟨37, 0⟩ with capture.frame := ⟨0, 0, 3, []⟩ }

/-- No image between two pixels, of the second of which the writes take only a part. -/
def interruptedShots : List Shot := [pixelShot ⟨37, 3⟩, emptyShot, pixelShot ⟨37, 1⟩]

def interruptedWire : Bytes := ((cameraMain .connected 0 interruptedShots).getD (.connected, [])).2

/-- The theorem at this camera. -/
theorem empty_frame_ends_pixel :
    displayed (serve (fun _ => .cleared) interruptedWire [37, 3, 37, 37, 1]).trace
      = [(pixelShot ⟨37, 3⟩).image] := by
  have hcamera : cameraMain .connected 0 interruptedShots
      = some (.connected, interruptedWire) := by decide +kernel
  have hpixels : ∀ image ∈ deliveredImages 0 [pixelShot ⟨37, 3⟩], 0 < image.2.length := by
    decide +kernel
  have hends := @empty_frame_ends (fun _ => .cleared) .connected .connected [pixelShot ⟨37, 3⟩]
    [pixelShot ⟨37, 1⟩] emptyShot interruptedWire rfl (by decide +kernel) (by decide) (by decide)
    rfl (by decide +kernel) hcamera neverInvalid_cleared hpixels [[3]] (by decide)
    (by decide +kernel) [37, 1]
  exact hends.2.1

/-! ### Among other connections -/

section Cockpit

variable {memory : Nat → Nat → Environment} {portnumber socket bind listen : Int}
  {server : TcpServer} {inputs : List (Scheduled Answers (Fed UInt8 Int))} {k : Nat}
  {child : Child} {client client' : TcpClient} {shots : List Shot} {wire : Bytes}

/-- The header of the first pixel is not taken, the second pixel is. -/
def pixelShots : List Shot := [pixelShot ⟨-1, 0⟩, pixelShot ⟨37, 3⟩]

/-- The bytes that the second pixel leaves on the connection. -/
def pixelWire : Bytes := ((cameraMain .connected 0 pixelShots).getD (.connected, [])).2

/-- The second pixel on the only connection. -/
def pixelInputs : List (Scheduled Answers (Fed UInt8 Int)) :=
  [.parent ⟨4, 100⟩, .child 0 (.arrive pixelWire), .child 0 (.input 37), .child 0 (.input 3)]

end Cockpit

end Server
end Seifenkiste
