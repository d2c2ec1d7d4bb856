import HitMonitor.Capture.File
import Mathlib.Algebra.Group.Nat.Defs

/-!
# Captures as frames and a tail

Every string of bytes is the frames of some payloads followed by a tail that does not begin with a
complete frame, and in one way only.  Scanning finds that decomposition and writing a capture builds
it, so each undoes the other.
-/

namespace HitMonitor

/-! ## Numbers as bytes -/

@[simp] theorem length_littleEndian (width number : Nat) :
    (littleEndian width number).length = width := by
  induction width generalizing number with
  | zero => rfl
  | succ width ih => simp [littleEndian, ih]

theorem ofLittleEndian_littleEndian {width number : Nat} (fits : number < 256 ^ width) :
    ofLittleEndian (littleEndian width number) = number := by
  induction width generalizing number with
  | zero =>
      rw [Nat.pow_zero] at fits
      simp only [littleEndian, ofLittleEndian]
      omega
  | succ width ih =>
      have rest : number / 256 < 256 ^ width := by
        apply Nat.div_lt_of_lt_mul
        rwa [Nat.pow_succ, Nat.mul_comm] at fits
      have low : number.toUInt8.toNat = number % 256 := UInt8.toNat_ofNat'
      rw [littleEndian, ofLittleEndian, ih rest, low]
      exact Nat.mod_add_div number 256

theorem littleEndian_ofLittleEndian (bytes : List UInt8) :
    littleEndian bytes.length (ofLittleEndian bytes) = bytes := by
  induction bytes with
  | nil => rfl
  | cons byte rest ih =>
      have low : (byte.toNat + 256 * ofLittleEndian rest).toUInt8 = byte := by
        apply UInt8.toNat_inj.mp
        have bound := byte.toNat_lt
        change (UInt8.ofNat (byte.toNat + 256 * ofLittleEndian rest)).toNat = byte.toNat
        rw [UInt8.toNat_ofNat']
        omega
      have high : (byte.toNat + 256 * ofLittleEndian rest) / 256 = ofLittleEndian rest := by
        have bound := byte.toNat_lt
        omega
      rw [ofLittleEndian, List.length_cons, littleEndian, low, high, ih]

theorem ofLittleEndian_lt (bytes : List UInt8) : ofLittleEndian bytes < 256 ^ bytes.length := by
  induction bytes with
  | nil => exact Nat.one_pos
  | cons byte rest ih =>
      have bound := byte.toNat_lt
      rw [ofLittleEndian, List.length_cons, Nat.pow_succ]
      omega

/-! ## The first frame -/

/-- Bytes that do not begin with a complete frame: the length field is cut off, or it asks for more
bytes than follow. -/
def CutOff (bytes : List UInt8) : Prop :=
  bytes.length < frameHeaderBytes ∨
    bytes.length - frameHeaderBytes < ofLittleEndian (bytes.take frameHeaderBytes)

instance (bytes : List UInt8) : Decidable (CutOff bytes) := by
  unfold CutOff; infer_instance

theorem splitFrame?_encodeFrame {payload : List UInt8} (short : payload.length ≤ word32Max)
    (rest : List UInt8) : splitFrame? (encodeFrame payload ++ rest) = some (payload, rest) := by
  have fits : payload.length < 256 ^ frameHeaderBytes := Nat.lt_succ_of_le short
  have header := ofLittleEndian_littleEndian fits
  have header_length := length_littleEndian frameHeaderBytes payload.length
  unfold encodeFrame
  match bytes : littleEndian frameHeaderBytes payload.length, header_length with
  | [byte0, byte1, byte2, byte3], _ =>
      rw [bytes] at header
      simp [splitFrame?, header]

/-- The first frame that is split off is what writing its payload puts there. -/
theorem splitFrame?_eq_some_iff {bytes payload rest : List UInt8} :
    splitFrame? bytes = some (payload, rest) ↔
      bytes = encodeFrame payload ++ rest ∧ payload.length ≤ word32Max := by
  constructor
  · intro split
    unfold splitFrame? at split
    split at split
    next byte0 byte1 byte2 byte3 behind =>
      simp only [Option.ite_none_right_eq_some, Option.some.injEq, Prod.mk.injEq] at split
      obtain ⟨complete, rfl, rfl⟩ := split
      have header := littleEndian_ofLittleEndian [byte0, byte1, byte2, byte3]
      have bound : ofLittleEndian [byte0, byte1, byte2, byte3] < 256 ^ frameHeaderBytes :=
        ofLittleEndian_lt [byte0, byte1, byte2, byte3]
      constructor
      · rw [encodeFrame, complete]
        change _ = littleEndian [byte0, byte1, byte2, byte3].length _ ++ _ ++ _
        rw [header]
        simp
      · rw [complete]
        exact Nat.le_of_lt_succ bound
    next => cases split
  · rintro ⟨rfl, short⟩
    exact splitFrame?_encodeFrame short rest

theorem splitFrame?_eq_none_iff {bytes : List UInt8} : splitFrame? bytes = none ↔ CutOff bytes := by
  unfold splitFrame? CutOff
  split
  next byte0 byte1 byte2 byte3 rest =>
    simp only [ite_eq_right_iff, reduceCtorEq, imp_false, List.length_take, frameHeaderBytes,
      List.length_cons, List.take_succ_cons, List.take_zero]
    omega
  next short =>
    simp only [true_iff, frameHeaderBytes]
    left
    rcases bytes with _ | ⟨byte0, _ | ⟨byte1, _ | ⟨byte2, _ | ⟨byte3, rest⟩⟩⟩⟩
    · simp
    · simp
    · simp
    · simp
    · exact (short byte0 byte1 byte2 byte3 rest rfl).elim

/-! ## All frames -/

/-- The bytes a capture holds where a frame says its payload is. -/
def Frame.slice (frame : Frame) (bytes : List UInt8) : List UInt8 :=
  (bytes.drop frame.offset).take frame.length

/-- Payloads written one behind the other. -/
def encodeFrames (payloads : List (List UInt8)) : List UInt8 := payloads.flatMap encodeFrame

@[simp] theorem length_encodeFrame (payload : List UInt8) :
    (encodeFrame payload).length = frameHeaderBytes + payload.length := by
  rw [encodeFrame, List.length_append, length_littleEndian]

@[simp] theorem encodeFrames_nil : encodeFrames [] = [] := rfl

@[simp] theorem encodeFrames_cons (payload : List UInt8) (payloads : List (List UInt8)) :
    encodeFrames (payload :: payloads) = encodeFrame payload ++ encodeFrames payloads := rfl

/-- Each payload takes its own bytes and those of its length. -/
theorem length_encodeFrames (payloads : List (List UInt8)) :
    (encodeFrames payloads).length =
      frameHeaderBytes * payloads.length + payloads.flatten.length := by
  induction payloads with
  | nil => rfl
  | cons payload payloads ih =>
      rw [encodeFrames_cons, List.length_append, length_encodeFrame, ih, List.length_cons,
        List.flatten_cons, List.length_append, Nat.mul_succ]
      omega

theorem encodeFrames_append (first second : List (List UInt8)) :
    encodeFrames (first ++ second) = encodeFrames first ++ encodeFrames second :=
  List.flatMap_append ..

/-- Every string of bytes is some frames and a tail. -/
theorem exists_encodeFrames (bytes : List UInt8) :
    ∃ payloads tail, bytes = encodeFrames payloads ++ tail ∧
      (∀ payload ∈ payloads, payload.length ≤ word32Max) ∧ CutOff tail := by
  cases split : splitFrame? bytes with
  | none => exact ⟨[], bytes, rfl, by simp, splitFrame?_eq_none_iff.mp split⟩
  | some found =>
      obtain ⟨payload, rest⟩ := found
      obtain ⟨bytes_eq, short⟩ := splitFrame?_eq_some_iff.mp split
      have shorter : rest.length < bytes.length := by
        rw [bytes_eq, List.length_append, length_encodeFrame, frameHeaderBytes]
        omega
      obtain ⟨payloads, tail, rest_eq, allShort, cutOff⟩ := exists_encodeFrames rest
      refine ⟨payload :: payloads, tail, ?_, ?_, cutOff⟩
      · rw [bytes_eq, rest_eq, encodeFrames_cons, List.append_assoc]
      · exact List.forall_mem_cons.mpr ⟨short, allShort⟩
termination_by bytes.length

/-- The frames of payloads that are written one behind the other from `offset` on. -/
def framesAt (offset : Nat) : (payloads : List (List UInt8)) → List Frame
  | [] => []
  | payload :: payloads =>
      ⟨offset + frameHeaderBytes, payload⟩ ::
        framesAt (offset + frameHeaderBytes + payload.length) payloads

@[simp] theorem map_payload_framesAt (offset : Nat) (payloads : List (List UInt8)) :
    (framesAt offset payloads).map Frame.payload = payloads := by
  induction payloads generalizing offset with
  | nil => rfl
  | cons payload payloads ih => rw [framesAt, List.map_cons, ih]

@[simp] theorem length_framesAt (offset : Nat) (payloads : List (List UInt8)) :
    (framesAt offset payloads).length = payloads.length := by
  rw [← List.length_map Frame.payload, map_payload_framesAt]

/-- A frame lies inside the bytes that were written, and its payload is found at its offset. -/
theorem slice_of_mem_framesAt {payloads : List (List UInt8)} (before tail : List UInt8)
    {frame : Frame} (member : frame ∈ framesAt before.length payloads) :
    frame.offset + frame.length ≤ (before ++ encodeFrames payloads).length ∧
      frame.slice (before ++ encodeFrames payloads ++ tail) = frame.payload := by
  induction payloads generalizing before with
  | nil => cases member
  | cons payload payloads ih =>
      rw [framesAt, List.mem_cons] at member
      rcases member with rfl | later
      · constructor
        · simp only [Frame.length, encodeFrames_cons, List.length_append, length_encodeFrame]
          omega
        · have start : before.length + frameHeaderBytes =
              (before ++ littleEndian frameHeaderBytes payload.length).length := by
            rw [List.length_append, length_littleEndian]
          have bytes_eq : before ++ encodeFrames (payload :: payloads) ++ tail =
              (before ++ littleEndian frameHeaderBytes payload.length) ++
                (payload ++ (encodeFrames payloads ++ tail)) := by
            simp only [encodeFrames_cons, encodeFrame, List.append_assoc]
          rw [Frame.slice, Frame.length, bytes_eq, start, List.drop_left, List.take_left]
      · have moved : before.length + frameHeaderBytes + payload.length =
            (before ++ encodeFrame payload).length := by
          rw [List.length_append, length_encodeFrame, Nat.add_assoc]
        rw [moved] at later
        have found := ih (before ++ encodeFrame payload) later
        rwa [List.append_assoc before] at found

namespace CaptureFrames

theorem ofBytesFrom_encodeFrames {payloads : List (List UInt8)} {tail : List UInt8}
    (short : ∀ payload ∈ payloads, payload.length ≤ word32Max) (cutOff : CutOff tail)
    (offset : Nat) (found : Array Frame) :
    ofBytesFrom offset found (encodeFrames payloads ++ tail) =
      ⟨found.toList ++ framesAt offset payloads, tail.length⟩ := by
  induction payloads generalizing offset found with
  | nil =>
      have stop : splitFrame? tail = none := splitFrame?_eq_none_iff.mpr cutOff
      rw [ofBytesFrom]
      split
      next => simp [framesAt]
      next next_eq =>
        rw [encodeFrames_nil, List.nil_append, stop] at next_eq
        cases next_eq
  | cons payload payloads ih =>
      rw [List.forall_mem_cons] at short
      have next_eq := splitFrame?_encodeFrame short.1 (encodeFrames payloads ++ tail)
      rw [encodeFrames_cons, List.append_assoc, ofBytesFrom]
      split
      next stop =>
        rw [next_eq] at stop
        cases stop
      next split =>
        rw [next_eq] at split
        cases split
        rw [ih short.2]
        simp [framesAt]

/-- Scanning finds the payloads that were written and stops at the tail. -/
theorem ofBytes_encodeFrames {payloads : List (List UInt8)} {tail : List UInt8}
    (short : ∀ payload ∈ payloads, payload.length ≤ word32Max) (cutOff : CutOff tail) :
    ofBytes (encodeFrames payloads ++ tail) = ⟨framesAt 0 payloads, tail.length⟩ :=
  ofBytesFrom_encodeFrames short cutOff 0 #[]

/-- What a scan says of the bytes it was made from. -/
structure Describes (content : CaptureFrames) (bytes : List UInt8) : Prop where
  reencoded : encodeFrames (content.frames.map Frame.payload) ++
    bytes.drop (bytes.length - content.trailing) = bytes
  trailing_le : content.trailing ≤ bytes.length
  cutOff : CutOff (bytes.drop (bytes.length - content.trailing))
  inside : ∀ frame ∈ content.frames, frame.offset + frame.length ≤ bytes.length
  slices : ∀ frame ∈ content.frames, frame.slice bytes = frame.payload
  /-- Each frame takes a length field, so even empty frames use the bytes up. -/
  frames_le : frameHeaderBytes * content.frames.length ≤ bytes.length

theorem describes_ofBytes (bytes : List UInt8) : (ofBytes bytes).Describes bytes := by
  obtain ⟨payloads, tail, rfl, short, cutOff⟩ := exists_encodeFrames bytes
  have behind : (encodeFrames payloads ++ tail).drop
      ((encodeFrames payloads ++ tail).length - tail.length) = tail := by
    rw [List.length_append, Nat.add_sub_cancel, List.drop_left]
  rw [ofBytes_encodeFrames short cutOff]
  exact
    { reencoded := by simp only [map_payload_framesAt, behind]
      trailing_le := by
        rw [List.length_append]
        exact Nat.le_add_left ..
      cutOff := by simpa only [behind] using cutOff
      inside := by
        intro frame member
        have inside := (slice_of_mem_framesAt [] tail member).1
        rw [List.nil_append] at inside
        rw [List.length_append]
        omega
      slices := fun frame member => (slice_of_mem_framesAt [] tail member).2
      frames_le := by
        rw [length_framesAt, List.length_append, length_encodeFrames, Nat.add_assoc]
        exact Nat.le_add_right .. }

end CaptureFrames

/-- Exactly the captures without trailing bytes are accepted as complete. -/
theorem Capture.completeFrames_eq_ok_iff {capture : Capture} {content : CaptureFrames} :
    capture.completeFrames = .ok content ↔
      content = capture.content ∧ capture.content.trailing = 0 := by
  simp only [completeFrames, CaptureFrames.endsInsideFrame, decide_eq_true_eq]
  split
  next trailing =>
    constructor
    · intro accepted
      cases accepted
    · rintro ⟨_, none⟩
      omega
  next complete =>
    constructor
    · intro accepted
      cases accepted
      exact ⟨rfl, by omega⟩
    · rintro ⟨rfl, _⟩
      rfl

/-! ## Writing -/

namespace CaptureBuilder

/-- A capture to which messages are added one after the other. -/
def ofMessages (payloads : List (List UInt8)) : Except StorageError CaptureBuilder :=
  payloads.foldlM append empty

theorem foldlM_append_of_short {payloads : List (List UInt8)}
    (short : ∀ payload ∈ payloads, payload.length ≤ word32Max) (start : CaptureBuilder) :
    payloads.foldlM append start =
      .ok ⟨(payloads.map encodeFrame).reverse ++ start.frames,
        start.messages + payloads.length⟩ := by
  induction payloads generalizing start with
  | nil => rfl
  | cons payload payloads ih =>
      rw [List.forall_mem_cons] at short
      simp only [List.foldlM_cons, append, short.1, if_true, bind, Except.bind, ih short.2,
        List.map_cons, List.reverse_cons, List.append_assoc, List.singleton_append,
        List.length_cons, Nat.add_assoc, Nat.add_comm 1]

theorem short_of_foldlM_append {payloads : List (List UInt8)} {start builder : CaptureBuilder}
    (written : payloads.foldlM append start = .ok builder) :
    ∀ payload ∈ payloads, payload.length ≤ word32Max := by
  induction payloads generalizing start with
  | nil => simp
  | cons payload payloads ih =>
      by_cases short : payload.length ≤ word32Max
      · simp only [List.foldlM_cons, append, short, if_true, bind, Except.bind] at written
        exact List.forall_mem_cons.mpr ⟨short, ih written⟩
      · simp [List.foldlM_cons, append, short, bind, Except.bind] at written

/-- Messages are refused only for their length, and what is written is their frames. -/
theorem exists_ofMessages {payloads : List (List UInt8)}
    (short : ∀ payload ∈ payloads, payload.length ≤ word32Max) :
    ∃ builder, ofMessages payloads = .ok builder ∧ builder.bytes = encodeFrames payloads := by
  refine ⟨_, foldlM_append_of_short short empty, ?_⟩
  simp [bytes, empty, encodeFrames, List.flatMap_def]

theorem bytes_of_ofMessages {payloads : List (List UInt8)} {builder : CaptureBuilder}
    (written : ofMessages payloads = .ok builder) :
    builder.bytes = encodeFrames payloads ∧ ∀ payload ∈ payloads, payload.length ≤ word32Max := by
  have short := short_of_foldlM_append written
  obtain ⟨same, rewritten, bytes_eq⟩ := exists_ofMessages short
  rw [written] at rewritten
  cases rewritten
  exact ⟨bytes_eq, short⟩

end CaptureBuilder

/-- Scanning and writing undo each other: written messages followed by a cut-off tail are found
again, any bytes are the frames that are found in them and a cut-off tail, and bytes without a tail
are exactly those that can be written. -/
theorem scan_inverts_writing :
    (∀ (payloads : List (List UInt8)) (tail : List UInt8),
      (∀ payload ∈ payloads, payload.length < 2 ^ 32) → CutOff tail →
        ∃ builder, CaptureBuilder.ofMessages payloads = .ok builder ∧
          let bytes := builder.bytes ++ tail
          let content := CaptureFrames.ofBytes bytes
          content.frames.map Frame.payload = payloads ∧
            content.frames.map (Frame.slice · bytes) = payloads ∧
            content.trailing = tail.length) ∧
    (∀ bytes, (CaptureFrames.ofBytes bytes).Describes bytes) ∧
    ∀ capture : Capture, (∃ content, capture.completeFrames = .ok content) ↔
      ∃ payloads builder, CaptureBuilder.ofMessages payloads = .ok builder ∧
        capture.bytes = builder.bytes := by
  refine ⟨?_, CaptureFrames.describes_ofBytes, ?_⟩
  · intro payloads tail short cutOff
    have fits : ∀ payload ∈ payloads, payload.length ≤ word32Max := fun payload member =>
      Nat.le_of_lt_succ (short payload member)
    obtain ⟨builder, written, bytes_eq⟩ := CaptureBuilder.exists_ofMessages fits
    have describes := CaptureFrames.describes_ofBytes (encodeFrames payloads ++ tail)
    have scanned := CaptureFrames.ofBytes_encodeFrames fits cutOff
    refine ⟨builder, written, ?_⟩
    rw [bytes_eq]
    refine ⟨by rw [scanned, map_payload_framesAt], ?_, by rw [scanned]⟩
    rw [List.map_congr_left describes.slices, scanned, map_payload_framesAt]
  · intro capture
    constructor
    · rintro ⟨content, accepted⟩
      obtain ⟨_, complete⟩ := Capture.completeFrames_eq_ok_iff.mp accepted
      obtain ⟨payloads, tail, bytes_eq, short, cutOff⟩ := exists_encodeFrames capture.bytes
      rw [Capture.content, bytes_eq, CaptureFrames.ofBytes_encodeFrames short cutOff] at complete
      obtain ⟨builder, written, written_eq⟩ := CaptureBuilder.exists_ofMessages short
      refine ⟨payloads, builder, written, ?_⟩
      rw [written_eq, bytes_eq, List.eq_nil_of_length_eq_zero complete, List.append_nil]
    · rintro ⟨payloads, builder, written, bytes_eq⟩
      obtain ⟨written_eq, short⟩ := CaptureBuilder.bytes_of_ofMessages written
      have empty_cutOff : CutOff [] := by decide
      have scanned := CaptureFrames.ofBytes_encodeFrames short empty_cutOff
      rw [List.append_nil, ← written_eq, ← bytes_eq] at scanned
      refine ⟨capture.content, Capture.completeFrames_eq_ok_iff.mpr ⟨rfl, ?_⟩⟩
      rw [Capture.content, scanned]
      rfl

/-- Two messages, the second of them empty, and a length field that asks for more than there is. -/
theorem scan_inverts_writing_cut :
    ∃ builder, CaptureBuilder.ofMessages [[7], []] = .ok builder ∧
      let bytes := builder.bytes ++ [2, 0, 0, 0, 9]
      let content := CaptureFrames.ofBytes bytes
      content.frames.map Frame.payload = [[7], []] ∧
        content.frames.map (Frame.slice · bytes) = [[7], []] ∧ content.trailing = 5 :=
  scan_inverts_writing.1 [[7], []] [2, 0, 0, 0, 9] (by decide) (by decide)

end HitMonitor
