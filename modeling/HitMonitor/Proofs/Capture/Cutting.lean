import HitMonitor.Proofs.Capture.Framing

/-!
# Captures that are cut or go on

A capture that was cut off is the front of what it should have been, and one that is still being
written is the front of what it will be.  In both cases the frames that are found in the front are
found again in the whole, at the same places, and every further frame ends behind the front: where a
scan of the front has stopped, no complete frame can end before more bytes are there.
-/

namespace HitMonitor

namespace Frame

/-- Where the payload of a frame ends. -/
def stop (frame : Frame) : Nat := frame.offset + frame.length

/-- The frame as it is found when `distance` bytes are put in front of its capture. -/
def shift (distance : Nat) (frame : Frame) : Frame :=
  { frame with offset := distance + frame.offset }

theorem stop_shift (distance : Nat) (frame : Frame) :
    (frame.shift distance).stop = distance + frame.stop := Nat.add_assoc ..

/-- Where the last of some frames ends; without a frame, the start of the capture. -/
def lastStop (frames : List Frame) : Nat := (frames.getLast?.map stop).getD 0

end Frame

/-! ## Frames of written payloads -/

theorem framesAt_append (offset : Nat) (first second : List (List UInt8)) :
    framesAt offset (first ++ second) =
      framesAt offset first ++ framesAt (offset + (encodeFrames first).length) second := by
  induction first generalizing offset with
  | nil => rfl
  | cons payload first ih =>
      rw [List.cons_append, framesAt, ih, framesAt, encodeFrames_cons, List.length_append,
        length_encodeFrame, List.cons_append]
      simp only [Nat.add_assoc]

theorem map_shift_framesAt (distance offset : Nat) (payloads : List (List UInt8)) :
    (framesAt offset payloads).map (Frame.shift distance) =
      framesAt (distance + offset) payloads := by
  induction payloads generalizing offset with
  | nil => rfl
  | cons payload payloads ih =>
      rw [framesAt, List.map_cons, ih, framesAt, Frame.shift]
      simp only [Nat.add_assoc]

/-- The last frame ends where the writing ends. -/
theorem lastStop_framesAt (payloads : List (List UInt8)) :
    Frame.lastStop (framesAt 0 payloads) = (encodeFrames payloads).length := by
  rcases List.eq_nil_or_concat payloads with rfl | ⟨front, payload, rfl⟩
  · rfl
  · rw [List.concat_eq_append, framesAt_append, encodeFrames_append, List.length_append]
    simp [Frame.lastStop, framesAt, Frame.stop, Frame.length, Nat.add_assoc]

/-- No frame ends in front of the end of the first one. -/
theorem stop_first_le {offset : Nat} {payload : List UInt8} {payloads : List (List UInt8)}
    {frame : Frame} (member : frame ∈ framesAt offset (payload :: payloads)) :
    offset + (encodeFrame payload).length ≤ frame.stop := by
  induction payloads generalizing offset payload with
  | nil =>
      rw [framesAt, framesAt, List.mem_singleton] at member
      subst member
      simp only [Frame.stop, Frame.length, length_encodeFrame]
      omega
  | cons next payloads ih =>
      rw [framesAt, List.mem_cons] at member
      rcases member with rfl | later
      · simp only [Frame.stop, Frame.length, length_encodeFrame]
        omega
      · have further := ih later
        rw [length_encodeFrame] at further ⊢
        omega

namespace CaptureFrames

/-- Frames in front of other bytes are found as they are alone, and what is found in the other bytes
is found behind them. -/
theorem ofBytes_encodeFrames_append {payloads : List (List UInt8)}
    (short : ∀ payload ∈ payloads, payload.length ≤ word32Max) (bytes : List UInt8) :
    ofBytes (encodeFrames payloads ++ bytes) =
      ⟨framesAt 0 payloads ++
          (ofBytes bytes).frames.map (Frame.shift (encodeFrames payloads).length),
        (ofBytes bytes).trailing⟩ := by
  obtain ⟨more, tail, rfl, moreShort, cutOff⟩ := exists_encodeFrames bytes
  have allShort : ∀ payload ∈ payloads ++ more, payload.length ≤ word32Max :=
    List.forall_mem_append.mpr ⟨short, moreShort⟩
  rw [← List.append_assoc, ← encodeFrames_append, ofBytes_encodeFrames allShort cutOff,
    ofBytes_encodeFrames moreShort cutOff, framesAt_append, map_shift_framesAt, Nat.add_zero,
    Nat.zero_add]

/-- What is written behind complete frames is found as if it were alone. -/
theorem ofBytes_append_of_whole {bytes : List UInt8} (whole : (ofBytes bytes).trailing = 0)
    (more : List UInt8) :
    ofBytes (bytes ++ more) =
      ⟨(ofBytes bytes).frames ++ (ofBytes more).frames.map (Frame.shift bytes.length),
        (ofBytes more).trailing⟩ := by
  obtain ⟨payloads, tail, rfl, short, cutOff⟩ := exists_encodeFrames bytes
  rw [ofBytes_encodeFrames short cutOff] at whole ⊢
  obtain rfl : tail = [] := List.eq_nil_of_length_eq_zero whole
  rw [List.append_nil, ofBytes_encodeFrames_append short]

/-- Bytes that do not begin with a complete frame do not hold the end of one either, whatever
follows them. -/
theorem length_lt_stop {tail : List UInt8} (cutOff : CutOff tail) (more : List UInt8)
    {frame : Frame} (member : frame ∈ (ofBytes (tail ++ more)).frames) :
    tail.length < frame.stop := by
  obtain ⟨payloads, rest, bytes_eq, short, restCutOff⟩ := exists_encodeFrames (tail ++ more)
  rw [bytes_eq, ofBytes_encodeFrames short restCutOff] at member
  cases payloads with
  | nil => cases member
  | cons payload payloads =>
      refine Nat.lt_of_not_le fun ended => ?_
      have first := stop_first_le member
      have begins : encodeFrame payload <+: tail := by
        apply List.prefix_of_prefix_length_le _ (List.prefix_append tail more) (by omega)
        rw [bytes_eq, encodeFrames_cons, List.append_assoc]
        exact List.prefix_append ..
      obtain ⟨behind, rfl⟩ := begins
      have complete := splitFrame?_encodeFrame (short payload List.mem_cons_self) behind
      rw [splitFrame?_eq_none_iff.mpr cutOff] at complete
      cases complete

/-- The frames that are found in the front of some bytes, and those that are found behind them. -/
theorem exists_frames_append (bytes more : List UInt8) :
    ∃ later, (ofBytes (bytes ++ more)).frames = (ofBytes bytes).frames ++ later ∧
      (∀ frame ∈ (ofBytes bytes).frames, frame.stop ≤ bytes.length) ∧
      ∀ frame ∈ later, bytes.length < frame.stop := by
  have inside := (describes_ofBytes bytes).inside
  obtain ⟨payloads, tail, rfl, short, cutOff⟩ := exists_encodeFrames bytes
  rw [ofBytes_encodeFrames short cutOff] at inside ⊢
  rw [List.append_assoc, ofBytes_encodeFrames_append short]
  refine ⟨_, rfl, inside, fun frame member => ?_⟩
  obtain ⟨found, foundMember, rfl⟩ := List.mem_map.mp member
  have further := length_lt_stop cutOff more foundMember
  rw [Frame.stop_shift, List.length_append]
  omega

/-- The last frame and the trailing bytes end where the capture ends. -/
theorem lastStop_add_trailing (bytes : List UInt8) :
    Frame.lastStop (ofBytes bytes).frames + (ofBytes bytes).trailing = bytes.length := by
  obtain ⟨payloads, tail, rfl, short, cutOff⟩ := exists_encodeFrames bytes
  rw [ofBytes_encodeFrames short cutOff, lastStop_framesAt, List.length_append]

/-- A capture that is cut at any byte keeps the frames that end in front of the cut, in their places
and with their payloads, loses the others and has the bytes behind the last of them left over.  What
is written behind a capture that ends with a frame is found there as in a capture of its own.  In no
case do more bytes change a frame that could be read before. -/
theorem cuts_lose_later_frames_only :
    (∀ (bytes : List UInt8) (length : Nat), length ≤ bytes.length →
      let cut := ofBytes (bytes.take length)
      let whole := ofBytes bytes
      cut.frames = whole.frames.filter (fun frame => frame.offset + frame.length ≤ length) ∧
        cut.frames <+: whole.frames ∧
        (∀ frame ∈ cut.frames, frame.slice (bytes.take length) = frame.payload ∧
          frame.slice bytes = frame.payload) ∧
        cut.trailing + Frame.lastStop cut.frames = length) ∧
    (∀ bytes, (ofBytes bytes).trailing = 0 → ∀ more,
      (ofBytes (bytes ++ more)).frames =
          (ofBytes bytes).frames ++ (ofBytes more).frames.map (Frame.shift bytes.length) ∧
        (ofBytes (bytes ++ more)).trailing = (ofBytes more).trailing) ∧
    ∀ bytes more, (ofBytes bytes).frames <+: (ofBytes (bytes ++ more)).frames := by
  refine ⟨fun bytes length inside => ?_, fun bytes whole more => ?_, fun bytes more => ?_⟩
  · intro cut whole
    have length_eq : (bytes.take length).length = length := List.length_take_of_le inside
    have stop_eq := lastStop_add_trailing (bytes.take length)
    obtain ⟨later, frames_eq, kept, lost⟩ :=
      exists_frames_append (bytes.take length) (bytes.drop length)
    rw [List.take_append_drop] at frames_eq
    rw [length_eq] at stop_eq kept lost
    have extends_cut : cut.frames <+: whole.frames := ⟨later, frames_eq.symm⟩
    refine ⟨?_, extends_cut, fun frame member => ⟨?_, ?_⟩, ?_⟩
    · have all : cut.frames.filter (fun frame => frame.stop ≤ length) = cut.frames :=
        List.filter_eq_self.mpr fun frame member => decide_eq_true (kept frame member)
      have none : later.filter (fun frame => frame.stop ≤ length) = [] :=
        List.filter_eq_nil_iff.mpr fun frame member => by simpa using lost frame member
      change cut.frames = whole.frames.filter (fun frame => frame.stop ≤ length)
      rw [frames_eq, List.filter_append, all, none, List.append_nil]
    · exact (describes_ofBytes _).slices frame member
    · exact (describes_ofBytes _).slices frame (extends_cut.subset member)
    · rw [Nat.add_comm]
      exact stop_eq
  · rw [ofBytes_append_of_whole whole more]
    exact ⟨rfl, rfl⟩
  · obtain ⟨later, frames_eq, _⟩ := exists_frames_append bytes more
    exact ⟨later, frames_eq.symm⟩

/-- Three messages, the second of them empty, cut inside the third, and two messages behind which a
third one and half a length field are written. -/
theorem cuts_lose_later_frames_only_inside :
    let two := encodeFrames [[7], []]
    let three := encodeFrames [[7], [], [8, 9]]
    let more := encodeFrames [[8]] ++ [2, 0]
    14 ≤ three.length ∧ (ofBytes (three.take 14)).frames = [⟨4, [7]⟩, ⟨9, []⟩] ∧
      (ofBytes (three.take 14)).trailing = 5 ∧ (ofBytes two).trailing = 0 ∧
      (ofBytes (two ++ more)).frames = [⟨4, [7]⟩, ⟨9, []⟩, ⟨13, [8]⟩] ∧
      (ofBytes (two ++ more)).trailing = 2 := by
  intro two three more
  obtain ⟨cuts, goesOn, _⟩ := cuts_lose_later_frames_only
  have scannedTwo : ofBytes two = ⟨[⟨4, [7]⟩, ⟨9, []⟩], 0⟩ :=
    @ofBytes_encodeFrames [[7], []] [] (by decide) (by decide)
  have scannedThree : ofBytes three = ⟨[⟨4, [7]⟩, ⟨9, []⟩, ⟨13, [8, 9]⟩], 0⟩ :=
    @ofBytes_encodeFrames [[7], [], [8, 9]] [] (by decide) (by decide)
  have scannedMore : ofBytes more = ⟨[⟨4, [8]⟩], 2⟩ :=
    @ofBytes_encodeFrames [[8]] [2, 0] (by decide) (by decide)
  have inside : 14 ≤ three.length := by decide
  obtain ⟨frames_eq, _, _, trailing_eq⟩ := cuts three 14 inside
  have kept : (ofBytes (three.take 14)).frames = [⟨4, [7]⟩, ⟨9, []⟩] := by
    rw [frames_eq, scannedThree]
    decide
  have whole : (ofBytes two).trailing = 0 := by rw [scannedTwo]
  obtain ⟨framesBehind, trailingBehind⟩ := goesOn two whole more
  refine ⟨inside, kept, ?_, whole, ?_, ?_⟩
  · rw [kept] at trailing_eq
    exact Nat.add_right_cancel trailing_eq
  · rw [framesBehind, scannedTwo, scannedMore]
    decide
  · rw [trailingBehind, scannedMore]

end CaptureFrames

end HitMonitor
