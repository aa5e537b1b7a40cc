import Luagent.Receive
import Luagent.Proofs.FrameCodec

/-! `read_cb` refines the reference reading of the byte stream: the receive
buffer holds the unparsed rest and the frames are handed on as they complete,
however the stream was cut. The buffer's capacity is the only thing that can
come between the two. -/

namespace Luagent.Proofs.Framing
open Foundation Stream

def actionsOf (parse : Parse UInt8 Frame) : List Action :=
  parse.items.map (fun frame => .dispatch frame.message) ++ if parse.rejected then [.badHeader] else []

def stopOf (used : Nat) (parse : Parse UInt8 Frame) : Option Nat :=
  if parse.rejected then none else some (used - parse.rest.length)

def window (buf : Bytes) (used offset : Nat) : Bytes := (buf.drop offset).take (used - offset)

private theorem length_window {buf : Bytes} {used : Nat} (within : used ≤ buf.length) (offset : Nat) :
    (window buf used offset).length = used - offset := by
  simp only [window, List.length_take, List.length_drop]
  omega

private theorem drop_window (buf : Bytes) (used offset size : Nat) :
    (window buf used offset).drop size = window buf used (offset + size) := by
  simp only [window, List.drop_take, List.drop_drop]
  congr 1
  omega

private theorem frameLoop_parse (buf : Bytes) (used offset : Nat) (within : used ≤ buf.length) (inside : offset ≤ used) :
    frameLoop buf used offset =
      (actionsOf (frameCodec.parse (window buf used offset)),
        stopOf used (frameCodec.parse (window buf used offset))) := by
  induction remaining : used - offset using Nat.strongRecOn generalizing offset with
  | ind count ih =>
    have length := length_window within offset
    have waiting (seen : frameFront (window buf used offset) = .incomplete) :
        (([], some offset) : List Action × Option Nat) =
          (actionsOf (frameCodec.parse (window buf used offset)),
            stopOf used (frameCodec.parse (window buf used offset))) := by
      rw [frameCodec.parse_incomplete seen]
      simp only [actionsOf, stopOf, length, List.map_nil, List.append_nil, Bool.false_eq_true, ↓reduceIte,
        Prod.mk.injEq, Option.some.injEq, true_and]
      omega
    rw [frameLoop]
    split
    next long =>
      split
      next decoded => exact waiting (by rw [window, frameFront, decoded])
      next decoded =>
        have seen : frameFront (window buf used offset) = .rejected := by rw [window, frameFront, decoded]
        rw [frameCodec.parse_rejected seen]
        rfl
      next header decoded =>
        by_cases short : used - offset < frameHeaderSize + header.val.length.toNat
        · rw [if_pos short]
          apply waiting
          have missing : ¬ frameHeaderSize + header.val.length.toNat ≤ (window buf used offset).length := by omega
          change frameDecodeHeader (window buf used offset) = .ok header at decoded
          simp only [frameFront, decoded, missing, ↓reduceDIte]
        · have enough : frameHeaderSize + header.val.length.toNat ≤ (window buf used offset).length := by omega
          have payload : ((window buf used offset).drop frameHeaderSize).take header.val.length.toNat =
              (buf.drop (offset + frameHeaderSize)).take header.val.length.toNat := by
            rw [drop_window, window, List.take_take, Nat.min_eq_left (by omega)]
          have seen : ∃ announced, frameFront (window buf used offset) =
              .item ⟨header, (buf.drop (offset + frameHeaderSize)).take header.val.length.toNat, announced⟩
                (frameHeaderSize + header.val.length.toNat) := by
            change frameDecodeHeader (window buf used offset) = .ok header at decoded
            refine ⟨by rw [← payload]; simp; omega, ?_⟩
            simp only [frameFront, decoded, enough, ↓reduceDIte, payload]
          obtain ⟨announced, seen⟩ := seen
          have next := ih (used - (offset + (frameHeaderSize + header.val.length.toNat)))
            (by unfold frameHeaderSize at *; omega) (offset + (frameHeaderSize + header.val.length.toNat)) (by omega) rfl
          rw [if_neg short]
          simp only [next]
          rw [frameCodec.parse_item seen, drop_window]
          rfl
    next short =>
      apply waiting
      rw [frameFront, frameDecodeHeader_needMore (by omega)]

theorem readCb_overflow (rx : Receive) (bytes : Bytes) (some : bytes ≠ [])
    (full : rx.cap < rx.used + bytes.length) : readCb rx (.data bytes) = (rx, [.received, .overflow]) := by
  have positive : bytes.length ≠ 0 := by simpa using some
  simp [readCb, positive, full]

/-- A read that fits is parsed together with what the buffer held. -/
theorem readCb_parse (rx : Receive) (bytes : Bytes) (some : bytes ≠ [])
    (fits : rx.used + bytes.length ≤ rx.cap) :
    (readCb rx (.data bytes)).2 = .received :: actionsOf (frameCodec.parse (rx.content ++ bytes)) ∧
    (readCb rx (.data bytes)).1.cap = rx.cap ∧
    ((frameCodec.parse (rx.content ++ bytes)).rejected = false →
      (readCb rx (.data bytes)).1.content = (frameCodec.parse (rx.content ++ bytes)).rest) := by
  have positive : bytes.length ≠ 0 := by simpa using some
  have room : ¬ rx.cap < rx.used + bytes.length := by omega
  have allocated := rx.allocated
  have inside : rx.used + bytes.length ≤ rx.buf.length := by omega
  have within : rx.used + bytes.length ≤ (overwrite rx.buf rx.used bytes).length := by
    rw [length_overwrite inside]
    exact inside
  have held : window (overwrite rx.buf rx.used bytes) (rx.used + bytes.length) 0 = rx.content ++ bytes := by
    rw [window, List.drop_zero, Nat.sub_zero, take_overwrite inside, Receive.content]
  have loop := frameLoop_parse (overwrite rx.buf rx.used bytes) (rx.used + bytes.length) 0 within (Nat.zero_le _)
  rw [held] at loop
  have suffix (offset : Nat) (last : offset = rx.used + bytes.length - (frameCodec.parse (rx.content ++ bytes)).rest.length) :
      window (overwrite rx.buf rx.used bytes) (rx.used + bytes.length) offset =
        (frameCodec.parse (rx.content ++ bytes)).rest := by
    have shifted := drop_window (overwrite rx.buf rx.used bytes) (rx.used + bytes.length) 0 offset
    rw [Nat.zero_add, held] at shifted
    rw [← shifted, List.suffix_iff_eq_drop.mp (frameCodec.rest_suffix (rx.content ++ bytes)), last]
    simp
  unfold readCb
  simp only [positive, room, ↓reduceIte, ↓reduceDIte, loop]
  cases refused : (frameCodec.parse (rx.content ++ bytes)).rejected with
  | true => simp [stopOf, refused]
  | false =>
    simp only [stopOf, refused, Bool.false_eq_true, ↓reduceIte]
    split
    next impossible => cases impossible
    next actions same =>
      obtain ⟨rfl, zero⟩ := Prod.mk.inj same
      refine ⟨rfl, rfl, fun _ => ?_⟩
      have all := suffix 0 (Option.some.inj zero).symm
      simpa [Receive.content, window] using all
    next actions offset _ same =>
      obtain ⟨rfl, stop⟩ := Prod.mk.inj same
      refine ⟨rfl, rfl, fun _ => ?_⟩
      have last := suffix offset (Option.some.inj stop).symm
      have length := length_window within offset
      have moved := @take_overwrite (overwrite rx.buf rx.used bytes)
        (window (overwrite rx.buf rx.used bytes) (rx.used + bytes.length) offset) 0 (by omega)
      rw [Nat.zero_add, length, List.take_zero, List.nil_append] at moved
      exact moved.trans last

@[simp] theorem closes_actionsOf (parse : Parse UInt8 Frame) : (actionsOf parse).any Action.closes = parse.rejected := by
  cases seen : parse.rejected <;> simp [actionsOf, Action.closes, seen]

@[simp] theorem dispatched_received (actions : List Action) : dispatched (.received :: actions) = dispatched actions := rfl

@[simp] theorem dispatched_append (first later : List Action) :
    dispatched (first ++ later) = dispatched first ++ dispatched later := List.filterMap_append

@[simp] theorem dispatched_actionsOf (parse : Parse UInt8 Frame) :
    dispatched (actionsOf parse) = parse.items.map Frame.message := by
  cases parse.rejected <;> simp [actionsOf, dispatched, Action.message?, List.filterMap_map, Function.comp_def]

@[simp] theorem overflow_actionsOf (parse : Parse UInt8 Frame) : .overflow ∉ actionsOf parse := by
  cases parse.rejected <;> simp [actionsOf]

/-- Delivering one more read first, when that read fits. -/
theorem deliver_cons (rx : Receive) (read : Bytes) (reads : List Bytes) (some : read ≠ [])
    (room : rx.used + read.length ≤ rx.cap) :
    deliver rx ((read :: reads).map .data) =
      let now := frameCodec.parse (rx.content ++ read)
      if now.rejected then readCb rx (.data read)
      else ((deliver (readCb rx (.data read)).1 (reads.map .data)).1,
        .received :: actionsOf now ++ (deliver (readCb rx (.data read)).1 (reads.map .data)).2) := by
  obtain ⟨actions, -, -⟩ := readCb_parse rx read some room
  simp only [List.map_cons, deliver]
  rw [actions, List.any_cons, closes_actionsOf]
  cases refused : (frameCodec.parse (rx.content ++ read)).rejected with
  | true => simp [← actions]
  | false => simp [Action.closes]

/-- While every read fits, the frames handed on, the close and the buffered rest
are those of the reference reading. -/
theorem deliver_feed (rx : Receive) (reads : List Bytes) (sized : ∀ read ∈ reads, read ≠ [])
    (fits : frameCodec.Fits rx.cap rx.content reads) :
    dispatched (deliver rx (reads.map .data)).2 = (frameCodec.feed rx.content reads).items.map Frame.message ∧
    .overflow ∉ (deliver rx (reads.map .data)).2 ∧
    (deliver rx (reads.map .data)).2.any Action.closes = (frameCodec.feed rx.content reads).rejected ∧
    ((frameCodec.feed rx.content reads).rejected = false →
      (deliver rx (reads.map .data)).1.content = (frameCodec.feed rx.content reads).rest) := by
  induction reads generalizing rx with
  | nil => simp [deliver, dispatched, Format.feed]
  | cons read reads ih =>
    have some : read ≠ [] := sized read (by simp)
    obtain ⟨room, later⟩ := fits
    rw [Receive.length_content] at room
    obtain ⟨actions, cap, rest⟩ := readCb_parse rx read some room
    rw [deliver_cons rx read reads some room]
    simp only [Format.feed]
    cases refused : (frameCodec.parse (rx.content ++ read)).rejected with
    | true =>
      simp only [↓reduceIte, actions]
      refine ⟨?_, ?_, ?_, ?_⟩
      · exact dispatched_actionsOf _
      · simp
      · simp [Action.closes, refused]
      · simp [refused]
    | false =>
      obtain ⟨frames, guarded, closed, left⟩ := ih (readCb rx (.data read)).1
        (fun item member => sized item (by simp [member])) (by rw [cap, rest refused]; exact later refused)
      rw [rest refused] at frames closed left
      simp only [Bool.false_eq_true, ↓reduceIte, Parse.after_items, Parse.after_rest, Parse.after_rejected]
      refine ⟨?_, ?_, ?_, left⟩
      · rw [List.cons_append, dispatched_received, dispatched_append, dispatched_actionsOf, frames, List.map_append]
      · simp [guarded]
      · simp [Action.closes, refused, closed]

private theorem deliver_overflow (rx : Receive) (reads : List Bytes) (sized : ∀ read ∈ reads, read ≠ [])
    (large : ¬ frameCodec.Fits rx.cap rx.content reads) :
    .overflow ∈ (deliver rx (reads.map .data)).2 := by
  induction reads generalizing rx with
  | nil => exact absurd trivial large
  | cons read reads ih =>
    have some : read ≠ [] := sized read (by simp)
    by_cases room : rx.used + read.length ≤ rx.cap
    · obtain ⟨actions, cap, rest⟩ := readCb_parse rx read some room
      have later : ¬ ((frameCodec.parse (rx.content ++ read)).rejected = false →
          frameCodec.Fits rx.cap (frameCodec.parse (rx.content ++ read)).rest reads) := by
        intro continued
        exact large ⟨by simpa using room, continued⟩
      obtain ⟨accepted, tooLarge⟩ := Classical.not_imp.mp later
      rw [deliver_cons rx read reads some room]
      simp only [accepted, Bool.false_eq_true, ↓reduceIte]
      have deeper := ih (readCb rx (.data read)).1 (fun item member => sized item (by simp [member]))
        (by rw [cap, rest accepted]; exact tooLarge)
      simp [deeper]
    · simp [deliver, readCb_overflow rx read some (by omega), Action.closes]

private theorem overflow_iff (rx : Receive) (reads : List Bytes) (sized : ∀ read ∈ reads, read ≠ []) :
    .overflow ∉ (deliver rx (reads.map .data)).2 ↔ frameCodec.Fits rx.cap rx.content reads := by
  constructor
  · intro guarded
    by_contra large
    exact guarded (deliver_overflow rx reads sized large)
  · exact fun fits => (deliver_feed rx reads sized fits).2.1

/-- Every frame the stream announces up to where its reading ends, an incomplete
last one included, occupies at most `limit` bytes. -/
def AnnouncedWithin (limit : Nat) (stream : Bytes) : Prop :=
  (∀ frame ∈ (frameCodec.parse stream).items, frame.encode.length ≤ limit) ∧
  ∀ header, frameDecodeHeader (frameCodec.parse stream).rest = .ok header →
    frameHeaderSize + header.val.length.toNat ≤ limit

theorem announced_encodeAll {limit : Nat} {frames : List Frame} (short : ∀ frame ∈ frames, frame.encode.length ≤ limit) :
    AnnouncedWithin limit (frameCodec.encodeAll frames) := by
  unfold AnnouncedWithin
  rw [frameCodec.parse_encodeAll]
  exact ⟨short, fun header decoded => by cases decoded⟩

private theorem rest_short {limit : Nat} {rest more : Bytes} (header : frameHeaderSize ≤ limit)
    (waiting : frameFront rest = .incomplete) (announced : AnnouncedWithin limit (rest ++ more)) :
    rest.length < limit := by
  by_cases short : rest.length < frameHeaderSize
  · omega
  · have long : frameHeaderSize ≤ rest.length := by omega
    cases decoded : frameDecodeHeader rest with
    | needMore =>
      unfold frameDecodeHeader at decoded
      rw [if_neg short] at decoded
      split at decoded
      · cases decoded
      · split at decoded <;> cases decoded
    | error => simp [frameFront, decoded] at waiting
    | ok header =>
      have missing : ¬ frameHeaderSize + header.val.length.toNat ≤ rest.length := by
        intro enough
        simp [frameFront, decoded, enough] at waiting
      -- The announced frame either completes later or is the incomplete end of the stream.
      suffices bounded : frameHeaderSize + header.val.length.toNat ≤ limit by omega
      have decodedMore := (frameDecodeHeader_append long more).trans decoded
      by_cases enough : frameHeaderSize + header.val.length.toNat ≤ (rest ++ more).length
      · have seen : ∃ frame : Frame, frame.header = header ∧ frameFront (rest ++ more) =
            .item frame (frameHeaderSize + header.val.length.toNat) := by
          simp only [frameFront, decodedMore, enough, ↓reduceDIte]
          exact ⟨_, rfl, rfl⟩
        obtain ⟨frame, rfl, seen⟩ := seen
        have member : frame ∈ (frameCodec.parse (rest ++ more)).items := by
          rw [frameCodec.parse_item seen]
          simp
        have size := announced.1 frame member
        simpa [Frame.encode, frame.announced] using size
      · have seen : frameFront (rest ++ more) = .incomplete := by
          simp only [frameFront, decodedMore, enough, ↓reduceDIte]
        apply announced.2 header
        rw [frameCodec.parse_incomplete seen]
        exact decodedMore

theorem AnnouncedWithin.resume {limit : Nat} {input more : Bytes} (announced : AnnouncedWithin limit (input ++ more))
    (accepted : (frameCodec.parse input).rejected = false) :
    AnnouncedWithin limit ((frameCodec.parse input).rest ++ more) := by
  unfold AnnouncedWithin at announced
  rw [frameCodec.parse_append more accepted] at announced
  exact ⟨fun frame member => announced.1 frame (by simp [member]), announced.2⟩

/-- When no frame is longer than the capacity less one read, a rest and one more
read always fit. -/
theorem announced_fits (cap chunk : Nat) (roomy : frameHeaderSize + chunk ≤ cap + 1) (rest : Bytes) (reads : List Bytes)
    (sized : ∀ read ∈ reads, read.length ≤ chunk) (waiting : frameFront rest = .incomplete)
    (announced : AnnouncedWithin (cap - chunk + 1) (rest ++ reads.flatten)) :
    frameCodec.Fits cap rest reads := by
  induction reads generalizing rest with
  | nil => trivial
  | cons read reads ih =>
    have header : frameHeaderSize = 14 := rfl
    have short := rest_short (by omega) waiting announced
    have chunked := sized read (by simp)
    refine ⟨by omega, fun accepted => ?_⟩
    apply ih _ (fun item member => sized item (by simp [member])) (frameCodec.rest_incomplete accepted)
    apply AnnouncedWithin.resume _ accepted
    simpa using announced

private theorem sized_some {reads : List Bytes} (sized : ∀ read ∈ reads, 1 ≤ read.length ∧ read.length ≤ readChunk) :
    ∀ read ∈ reads, read ≠ [] := by
  intro read member empty
  have positive := (sized read member).1
  simp [empty] at positive

@[simp] theorem fresh_content (memory : Bytes) (allocated : memory.length = readChunk * 4) :
    (Receive.fresh memory allocated).content = [] := rfl

/-- Segmentation independence of `read_cb`. Whatever the bytes and however they
are cut into reads, as long as the overflow guard stays quiet the callback hands
on the frames of the reference reading, closes exactly when that meets a rejected
header, and keeps exactly its unparsed rest. The guard stays quiet when no
announced frame exceeds the capacity less one read. -/
theorem reads_follow_reference (memory : Bytes) (allocated : memory.length = readChunk * 4) (reads : List Bytes)
    (sized : ∀ read ∈ reads, 1 ≤ read.length ∧ read.length ≤ readChunk) :
    let parse := frameCodec.parse reads.flatten
    let outcome := deliver (.fresh memory allocated) (reads.map .data)
    (.overflow ∉ outcome.2 →
      dispatched outcome.2 = parse.items.map Frame.message ∧
      (outcome.2.any Action.closes = true ↔ parse.rejected = true) ∧
      (outcome.2.any Action.closes = false → outcome.1.buf.take outcome.1.used = parse.rest)) ∧
    (AnnouncedWithin (readChunk * 4 - readChunk + 1) reads.flatten → .overflow ∉ outcome.2) := by
  intro parse outcome
  have some := sized_some sized
  obtain ⟨items, rejected, rest⟩ := frameCodec.feed_parse [] reads frameCodec.empty
  rw [List.nil_append] at items rejected rest
  refine ⟨fun guarded => ?_, fun announced => ?_⟩
  · have fits := (overflow_iff _ reads some).mp guarded
    obtain ⟨frames, -, closed, left⟩ := deliver_feed _ reads some fits
    rw [fresh_content] at frames closed left
    refine ⟨frames.trans (congrArg _ items), by rw [closed, rejected], fun still => ?_⟩
    have accepted := closed.symm.trans still
    exact (left accepted).trans (rest accepted)
  · apply (overflow_iff _ reads some).mpr
    exact announced_fits (readChunk * 4) readChunk (by decide) [] reads
      (fun read member => (sized read member).2) frameCodec.empty announced

/-- A PING with a payload of one byte. -/
def bytePing : Frame := ⟨⟨⟨FrameType.ping.code, 0, 3, 1⟩, by decide⟩, [46], rfl⟩

theorem reads_follow_reference_cut :
    let reads := [bytePing.encode.take 5, bytePing.encode.drop 5]
    let outcome := deliver (.fresh (List.replicate (readChunk * 4) 0) List.length_replicate) (reads.map .data)
    .overflow ∉ outcome.2 ∧ dispatched outcome.2 = [bytePing.message] := by
  intro reads outcome
  have whole : reads.flatten = frameCodec.encodeAll [bytePing] := by decide
  obtain ⟨follows, guarded⟩ := reads_follow_reference (List.replicate (readChunk * 4) 0) List.length_replicate reads (by decide)
  have announced : AnnouncedWithin (readChunk * 4 - readChunk + 1) reads.flatten := by
    rw [whole]
    exact announced_encodeAll (by decide)
  refine ⟨guarded announced, ?_⟩
  rw [(follows (guarded announced)).1, whole, frameCodec.parse_encodeAll]
  rfl

private theorem delivered_iff_fits (memory : Bytes) (allocated : memory.length = readChunk * 4) (frames : List Frame)
    (reads : List Bytes) (cut : reads.flatten = (frames.map Frame.encode).flatten)
    (some : ∀ read ∈ reads, read ≠ []) :
    (dispatched (deliver (.fresh memory allocated) (reads.map .data)).2 = frames.map Frame.message ∧
      .overflow ∉ (deliver (.fresh memory allocated) (reads.map .data)).2) ↔
    ∀ before read after, reads = before ++ read :: after →
      pending (frames.map fun frame => frame.encode.length) before.flatten.length + read.length ≤ readChunk * 4 := by
  have shape := frameCodec.fits_iff (readChunk * 4) frames reads cut
  rw [show (frames.map fun frame => frame.encode.length) =
    frames.map (fun frame => (frameCodec.encode frame).length) from rfl, ← shape]
  constructor
  · exact fun delivered => (overflow_iff _ reads some).mp delivered.2
  · intro fits
    obtain ⟨handed, guarded, -, -⟩ := deliver_feed (.fresh memory allocated) reads some fits
    have items := (frameCodec.feed_parse [] reads frameCodec.empty).1
    have whole : frameCodec.parse ([] ++ reads.flatten) = ⟨frames, [], false⟩ := by
      rw [List.nil_append, cut]
      exact frameCodec.parse_encodeAll frames
    rw [whole] at items
    rw [fresh_content, items] at handed
    exact ⟨handed, guarded⟩

/-- Well-formed frames are all handed on, and the overflow guard stays quiet,
exactly when before every read the bytes of the frame still incomplete and the
read together fit the receive buffer. -/
theorem frames_delivered_iff (memory : Bytes) (allocated : memory.length = readChunk * 4) (frames : List Frame)
    (reads : List Bytes) (cut : reads.flatten = (frames.map Frame.encode).flatten)
    (sized : ∀ read ∈ reads, 1 ≤ read.length ∧ read.length ≤ readChunk) :
    (dispatched (deliver (.fresh memory allocated) (reads.map .data)).2 = frames.map Frame.message ∧
      .overflow ∉ (deliver (.fresh memory allocated) (reads.map .data)).2) ↔
    ∀ before read after, reads = before ++ read :: after →
      pending (frames.map fun frame => frameHeaderSize + frame.payload.length) before.flatten.length + read.length
        ≤ readChunk * 4 := by
  have sizes : (frames.map fun frame => frameHeaderSize + frame.payload.length) =
      frames.map fun frame => frame.encode.length := by simp [Frame.encode]
  rw [sizes]
  exact delivered_iff_fits memory allocated frames reads cut (sized_some sized)

/-- An upload chunk within the payload limit, one byte longer with its header
than the receive buffer. -/
def largeFrame : Frame := ⟨⟨⟨21, 0, 7, 16371⟩, by decide⟩, List.replicate 16371 0, List.length_replicate⟩

def largeReads : List Bytes :=
  [largeFrame.encode.take 4096, (largeFrame.encode.drop 4096).take 4096, (largeFrame.encode.drop 8192).take 4096,
    (largeFrame.encode.drop 12288).take 4096, largeFrame.encode.drop 16384]

private theorem largeReads_flatten : largeReads.flatten = ([largeFrame].map Frame.encode).flatten := by
  have joined (start : Nat) : (largeFrame.encode.drop start).take 4096 ++ largeFrame.encode.drop (start + 4096) =
      largeFrame.encode.drop start := by
    rw [← List.drop_drop, List.take_append_drop]
  simp only [largeReads, List.flatten_cons, List.flatten_nil, List.append_nil, List.map_cons, List.map_nil,
    joined 12288, joined 8192, joined 4096, List.take_append_drop]

private theorem length_largeFrame : largeFrame.encode.length = 16385 := by
  rw [Frame.encode, List.length_append, length_headerBytes, largeFrame.announced]
  rfl

private theorem largeReads_sized : ∀ read ∈ largeReads, 1 ≤ read.length ∧ read.length ≤ readChunk := by
  simp [largeReads, length_largeFrame, readChunk]

/-- A frame the header check accepts never reaches its handler: its last byte
does not fit the buffer any more and the session is closed. -/
theorem large_frame_overflows :
    largeReads.flatten = ([largeFrame].map Frame.encode).flatten ∧
    (∀ read ∈ largeReads, 1 ≤ read.length ∧ read.length ≤ readChunk) ∧
    ¬ (dispatched (deliver (.fresh (List.replicate (readChunk * 4) 0) List.length_replicate) (largeReads.map .data)).2 =
        [largeFrame].map Frame.message ∧
      .overflow ∉ (deliver (.fresh (List.replicate (readChunk * 4) 0) List.length_replicate) (largeReads.map .data)).2) := by
  refine ⟨largeReads_flatten, largeReads_sized, ?_⟩
  rw [delivered_iff_fits _ _ _ _ largeReads_flatten (sized_some largeReads_sized)]
  intro fits
  have last := fits (largeReads.take 4) (largeFrame.encode.drop 16384) [] rfl
  simp [largeReads, pending, length_largeFrame, readChunk] at last

theorem frames_delivered_iff_ping :
    let ping : Frame := ⟨⟨⟨50, 0, 2, 0⟩, by decide⟩, [], rfl⟩
    let reads : List Bytes := [ping.encode.take 5, ping.encode.drop 5]
    reads.flatten = ([ping].map Frame.encode).flatten ∧
    (∀ read ∈ reads, 1 ≤ read.length ∧ read.length ≤ readChunk) ∧
    dispatched (deliver (.fresh (List.replicate (readChunk * 4) 0) List.length_replicate) (reads.map .data)).2 =
      [ping].map Frame.message := by
  intro ping reads
  have cut : reads.flatten = ([ping].map Frame.encode).flatten := by decide
  have sized : ∀ read ∈ reads, 1 ≤ read.length ∧ read.length ≤ readChunk := by decide
  refine ⟨cut, sized, ?_⟩
  refine ((frames_delivered_iff (List.replicate (readChunk * 4) 0) List.length_replicate [ping] reads cut sized).mpr ?_).1
  intro before read after split
  have few : (before.flatten ++ read).length ≤ reads.flatten.length := by rw [split]; simp
  have bound (count : Nat) : pending [14] count ≤ count := by
    simp only [pending]
    split <;> omega
  have small := bound before.flatten.length
  simp only [List.length_append] at few
  change before.flatten.length + read.length ≤ 14 at few
  change pending [14] before.flatten.length + read.length ≤ 16384
  omega

end Luagent.Proofs.Framing
