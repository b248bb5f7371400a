import Multiplayer.Proofs.Message.UserMessage
import Multiplayer.Proofs.Stream.Registers

/-!
# Places in the buffers

The registers hand parts of their buffers to the source, look into them and hand them on.  Here each
of these is done with a look at the bounds, and there is no result if it goes beyond them.  That
never happens, whatever bytes come and however the source cuts them or fails.

* `Bytes.slice?`, `Bytes.overwrite?` and `Bytes.code?`: a buffer is only used within its bounds.
* `Registers.poll?` is reassembly with these.
* `Registers.InBounds` is the invariant, kept by each turn of a poll and by resets.
* `Registers.Visited`: the states within polls and between them.
* `Frame.Within`: a payload that has all the parts of a frame.
* `never_out_of_bounds` is the result.
-/

namespace Multiplayer

/-! ## Buffers with bounds -/

namespace Bytes

/-- What stands in a buffer from a certain place on. -/
def slice? (buffer : Bytes) (start : Nat) : Option Bytes :=
  if start ≤ buffer.length then some (buffer.drop start) else none

/-- Writes bytes over those of a buffer, from a certain place on. -/
def overwrite? (buffer : Bytes) (start : Nat) (bytes : Bytes) : Option Bytes :=
  if start + bytes.length ≤ buffer.length then some (buffer.overwrite start bytes) else none

/-- The number in the first two places. -/
def code? (payload : Bytes) : Option UInt16 := do
  let high ← payload[0]?
  let low ← payload[1]?
  return UInt16.ofNat (toNat [high, low])

theorem slice?_of_le {buffer : Bytes} {start : Nat} (h : start ≤ buffer.length) :
    buffer.slice? start = some (buffer.drop start) := if_pos h

theorem overwrite?_of_le {buffer bytes : Bytes} {start : Nat}
    (h : start + bytes.length ≤ buffer.length) :
    buffer.overwrite? start bytes = some (buffer.overwrite start bytes) := if_pos h

end Bytes

namespace Registers

/-! ## Reassembly within bounds -/

/-- How many bytes are asked for next: all that go into the part of the buffer that is handed to the
source. -/
def wanted? (r : Registers) : Option Nat :=
  match r.awaited with
  | .clock => (r.clock.slice? r.filled).map List.length
  | .payload => (r.payload.slice? r.filled).map List.length
  | _ => some 1

/-- Writes the next bytes where they belong. -/
def accept? (r : Registers) (b : UInt8) (more : Bytes) : Option (Option StreamEvent × Registers) :=
  match r.awaited with
  | .clock => do
    let clock ← r.clock.overwrite? r.filled (b :: more)
    let r := r.fillClock (b :: more)
    if r.filled < Stage.clockLength then return (none, r)
    else
      let ticks ← clock.slice? (Stage.clockLength - 8)
      return (some (.clock (Timestamp.ofTicks (UInt64.ofNat (Bytes.toNat ticks)).toInt64)),
        { r with filled := 0, awaited := .header })
  | .lengthLow => do
    let high ← r.payload[0]?
    let length := Bytes.toNat [high, b]
    return (none, { r with
      payload := List.replicate length 0, filled := 0, awaited := .payload })
  | .payload => do
    let payload ← r.payload.overwrite? r.filled (b :: more)
    return (none, { r with payload := payload, filled := r.filled + (b :: more).length })
  | _ => some (r.accept b more)

/-- Hands the payload on: as a frame with its code and its body, if it has room for a code. -/
def finish? (r : Registers) : Option (Option StreamEvent × Registers) :=
  let next := { r with awaited := .header, filled := 0, payload := [] }
  if r.payload.length < 2 then some (none, next)
  else do
    let code ← r.payload.code?
    let body ← r.payload.slice? 2
    return (some (.frame ⟨r.header, code, body⟩), next)

theorem finish?_eq (r : Registers) : r.finish? = some r.finish := by
  obtain ⟨awaited, header, keepAlive, sessionHigh, clock, payload, filled, discarded, hclock⟩ := r
  match payload with
  | [] => rfl
  | [_] => rfl
  | high :: low :: body => rfl

variable {σ ε : Type} [ByteSource σ ε]

/-- Reads until one event is complete, nothing is there, or the source fails. -/
def poll? (r : Registers) (source : σ) :
    Option (Except ε (Option StreamEvent) × Registers × σ) :=
  if _hfull : r.isFull then
    match _h : r.finish? with
    | none => none
    | some (some event, r') => some (.ok (some event), r', source)
    | some (none, r') => poll? r' source
  else
    match r.wanted? with
    | none => none
    | some wanted =>
      match _h : ByteSource.read wanted source with
      | (.error e, source') => some (.error e, r, source')
      | (.ok [], source') => some (.ok none, r, source')
      | (.ok (b :: more), source') =>
        match r.accept? b more with
        | none => none
        | some (some event, r') => some (.ok (some event), r', source')
        | some (none, r') => poll? r' source'
termination_by 2 * ByteSource.pending source + r.isFull.toNat
decreasing_by
  · have hnext := r.isFull_finish
    rw [r.finish?_eq, Option.some.injEq] at _h
    rw [_h] at hnext
    rw [hnext, _hfull]
    exact Nat.lt_add_one _
  · have hless := ByteSource.pending_read_lt (congrArg Prod.fst _h) (by simp)
    rw [_h] at hless
    have hnext : r'.isFull.toNat ≤ 1 := Bool.toNat_le _
    dsimp only at hless
    omega

/-! ## The invariant -/

/-- Where the registers stand in their buffers. -/
structure InBounds (r : Registers) : Prop where
  clock : r.awaited = .clock → r.filled < Stage.clockLength
  lengthLow : r.awaited = .lengthLow → r.payload.length = 1
  payload : r.awaited = .payload → r.filled ≤ r.payload.length ∧ r.payload.length ≤ 65535

theorem inBounds_of_header {r : Registers} (h : r.awaited = .header) : r.InBounds := by
  constructor <;> (rw [h]; rintro ⟨⟩)

theorem inBounds_new : new.InBounds := inBounds_of_header rfl

theorem inBounds_reset (r : Registers) : r.reset.InBounds := inBounds_of_header rfl

theorem inBounds_finish (r : Registers) : r.finish.2.InBounds := inBounds_of_header rfl

/-- Byte by byte there is no place in a buffer but the one for the high byte of a length. -/
theorem inBounds_of_single {r : Registers} (h : r.awaited.inPortions = false)
    (hlow : r.awaited ≠ .lengthLow) : r.InBounds := by
  constructor
  · intro hawaited
    simp [hawaited, Awaited.inPortions] at h
  · intro hawaited
    exact absurd hawaited hlow
  · intro hawaited
    simp [hawaited, Awaited.inPortions] at h

theorem inBounds_acceptHeader {r : Registers} (h : r.awaited = .header) (b : UInt8) :
    (r.acceptHeader b).2.InBounds := by
  unfold acceptHeader
  cases FrameKind.ofHeader? b with
  | none => exact inBounds_of_header h
  | some kind =>
    cases kind with
    | ntp => exact ⟨fun _ => Nat.zero_lt_succ 15, by rintro ⟨⟩, by rintro ⟨⟩⟩
    | established | builtin | application => exact inBounds_of_single rfl (by rintro ⟨⟩)
    | _ => exact inBounds_of_header h

-- By the part that comes next: the bounds of a part are set up by the one before it.
theorem InBounds.accept {r : Registers} (h : r.InBounds) {b : UInt8} {more : Bytes}
    (hlength : more.length < r.wanted) : (r.accept b more).2.InBounds := by
  cases hawaited : r.awaited with
  | header =>
    have haccept : r.accept b more = r.acceptHeader b := by simp only [Registers.accept, hawaited]
    rw [haccept]
    exact inBounds_acceptHeader hawaited b
  | keepAlive | sessionHigh | sessionLow =>
    simp only [Registers.accept, hawaited]
    exact inBounds_of_single rfl (by rintro ⟨⟩)
  | clock =>
    simp only [Registers.accept, hawaited]
    split
    · rename_i hmissing
      exact ⟨fun _ => hmissing, by simp [fillClock, hawaited], by simp [fillClock, hawaited]⟩
    · exact inBounds_of_header rfl
  | lengthHigh =>
    simp only [Registers.accept, hawaited]
    exact ⟨by rintro ⟨⟩, fun _ => rfl, by rintro ⟨⟩⟩
  | lengthLow =>
    simp only [Registers.accept, hawaited]
    refine ⟨by rintro ⟨⟩, by rintro ⟨⟩, fun _ => ⟨Nat.zero_le _, ?_⟩⟩
    rw [List.length_replicate]
    exact Nat.le_of_lt_succ (Bytes.toNat_pair_lt _ b)
  | payload =>
    obtain ⟨hfilled, hsize⟩ := h.payload hawaited
    simp only [wanted, hawaited] at hlength
    simp only [Registers.accept, hawaited]
    refine ⟨by simp [fillPayload, hawaited], by simp [fillPayload, hawaited], fun _ => ?_⟩
    simp only [fillPayload, Bytes.length_overwrite, List.length_cons]
    omega

/-! ## Nothing goes beyond the bounds -/

theorem InBounds.wanted?_eq {r : Registers} (h : r.InBounds) : r.wanted? = some r.wanted := by
  cases hawaited : r.awaited with
  | clock =>
    have hfilled : r.filled ≤ r.clock.length := by
      rw [r.clock_length]
      exact Nat.le_of_lt (h.clock hawaited)
    simp only [wanted?, wanted, hawaited, Bytes.slice?_of_le hfilled, Option.map_some,
      List.length_drop, r.clock_length]
  | payload =>
    simp only [wanted?, wanted, hawaited, Bytes.slice?_of_le (h.payload hawaited).1,
      Option.map_some, List.length_drop]
  | _ => simp only [wanted?, wanted, hawaited]

theorem InBounds.accept?_eq {r : Registers} (h : r.InBounds) {b : UInt8} {more : Bytes}
    (hlength : more.length < r.wanted) : r.accept? b more = some (r.accept b more) := by
  cases hawaited : r.awaited with
  | clock =>
    simp only [wanted, hawaited] at hlength
    have hroom : r.filled + (b :: more).length ≤ r.clock.length := by
      rw [r.clock_length, List.length_cons]
      omega
    have hticks : Stage.clockLength - 8 ≤ (r.clock.overwrite r.filled (b :: more)).length := by
      rw [Bytes.length_overwrite, r.clock_length]
      exact Nat.sub_le ..
    simp only [accept?, Registers.accept, hawaited, Bytes.overwrite?_of_le hroom,
      Bytes.slice?_of_le hticks, Option.bind_eq_bind, Option.bind_some]
    split <;> rfl
  | lengthLow =>
    obtain ⟨high, hpayload⟩ := List.length_eq_one_iff.1 (h.lengthLow hawaited)
    simp only [accept?, Registers.accept, hawaited, hpayload]
    rfl
  | payload =>
    simp only [wanted, hawaited] at hlength
    have hroom : r.filled + (b :: more).length ≤ r.payload.length := by
      rw [List.length_cons]
      omega
    simp only [accept?, Registers.accept, fillPayload, hawaited, Bytes.overwrite?_of_le hroom]
    rfl
  | _ => simp only [accept?, hawaited]

theorem poll?_of_isFull {r : Registers} (h : r.isFull) (s : σ) :
    r.poll? s = match r.finish with
      | (some event, r') => some (.ok (some event), r', s)
      | (none, r') => r'.poll? s := by
  rw [poll?, dif_pos h]
  split
  · rename_i heq
    rw [finish?_eq] at heq
    cases heq
  · rename_i heq
    rw [finish?_eq, Option.some.injEq] at heq
    rw [heq]
  · rename_i heq
    rw [finish?_eq, Option.some.injEq] at heq
    rw [heq]

theorem InBounds.poll?_of_missing {r : Registers} (h : r.InBounds) (hmissing : r.isFull = false)
    (s : σ) :
    r.poll? s = match ByteSource.read r.wanted s with
      | (.error e, s') => some (.error e, r, s')
      | (.ok [], s') => some (.ok none, r, s')
      | (.ok (b :: more), s') =>
        match r.accept b more with
        | (some event, r') => some (.ok (some event), r', s')
        | (none, r') => r'.poll? s' := by
  rw [poll?, dif_neg (by simp [hmissing]), h.wanted?_eq]
  dsimp only
  have hlength {bytes : Bytes} : (ByteSource.read r.wanted s).1 = .ok bytes →
      bytes.length ≤ r.wanted := ByteSource.length_read_le
  generalize ByteSource.read r.wanted s = result at hlength ⊢
  rcases result with ⟨_ | _ | ⟨b, more⟩, s'⟩
  · rfl
  · rfl
  · dsimp only
    rw [h.accept?_eq (hlength rfl)]
    rcases r.accept b more with ⟨_ | event, r'⟩
    · rfl
    · rfl

-- By induction on the poll: each turn keeps the invariant, so that the next one stays in bounds.
/-- A poll that looks at the bounds is a poll. -/
theorem InBounds.poll?_eq {r : Registers} (h : r.InBounds) (s : σ) :
    r.poll? s = some (r.poll s) := by
  fun_induction Registers.poll r s with
  | case1 r s hfull event r' hfinish => rw [poll?_of_isFull hfull, hfinish]
  | case2 r s hfull r' hfinish ih =>
    rw [poll?_of_isFull hfull, hfinish]
    exact ih (by have := inBounds_finish r; rwa [hfinish] at this)
  | case3 r s hfull e s' hread => rw [h.poll?_of_missing (by simpa using hfull), hread]
  | case4 r s hfull s' hread => rw [h.poll?_of_missing (by simpa using hfull), hread]
  | case5 r s hfull b more s' hread event r' haccept =>
    rw [h.poll?_of_missing (by simpa using hfull), hread]
    simp only [haccept]
  | case6 r s hfull b more s' hread r' haccept ih =>
    have hlength := ByteSource.length_read_le (congrArg Prod.fst hread)
    have hnext := h.accept (b := b) hlength
    rw [haccept] at hnext
    rw [h.poll?_of_missing (by simpa using hfull), hread]
    simp only [haccept]
    exact ih hnext

/-! ## States within polls and between them -/

/-- The states that turns of polls and resets lead to from the start.  A source may give any bytes,
at most as many as were asked for.  Where it gives none or fails, the state stays as it is. -/
inductive Visited : Registers → Prop where
  | new : Visited new
  | reset {r : Registers} (h : Visited r) : Visited r.reset
  | accept {r : Registers} (h : Visited r) (b : UInt8) {more : Bytes}
    (hlength : more.length < r.wanted) : Visited (r.accept b more).2
  | finish {r : Registers} (h : Visited r) (hfull : r.isFull) : Visited r.finish.2

theorem Visited.inBounds {r : Registers} (h : r.Visited) : r.InBounds := by
  induction h with
  | new => exact inBounds_new
  | reset => exact inBounds_reset _
  | accept _ b hlength ih => exact ih.accept hlength
  | finish => exact inBounds_finish _

/-- Frames come from the buffer for payloads. -/
theorem accept_ne_frame (r : Registers) (b : UInt8) (more : Bytes) (frame : Frame) :
    (r.accept b more).1 ≠ some (.frame frame) := by
  cases hawaited : r.awaited with
  | header =>
    simp only [Registers.accept, hawaited, acceptHeader]
    rcases FrameKind.ofHeader? b with _ | _ | _ | _ | _ | _ | _ | _ | _ | _ <;> rintro ⟨⟩
  | clock =>
    simp only [Registers.accept, hawaited]
    split <;> rintro ⟨⟩
  | _ =>
    simp only [Registers.accept, hawaited]
    rintro ⟨⟩

/-- A poll visits what it leaves, and a frame is handed on from a full buffer. -/
theorem Visited.poll {r : Registers} (h : r.Visited) (s : σ) :
    (r.poll s).2.1.Visited ∧ ∀ frame, (r.poll s).1 = .ok (some (.frame frame)) →
      ∃ full : Registers, full.Visited ∧ full.isFull ∧ full.finish.1 = some (.frame frame) := by
  fun_induction Registers.poll r s with
  | case1 r s hfull event r' hfinish =>
    have hnext := h.finish hfull
    rw [hfinish] at hnext
    refine ⟨hnext, ?_⟩
    rintro frame ⟨⟩
    exact ⟨r, h, hfull, by rw [hfinish]⟩
  | case2 r s hfull r' hfinish ih =>
    have hnext := h.finish hfull
    rw [hfinish] at hnext
    exact ih hnext
  | case3 => exact ⟨h, by rintro _ ⟨⟩⟩
  | case4 => exact ⟨h, by rintro _ ⟨⟩⟩
  | case5 r s hfull b more s' hread event r' haccept =>
    have hnext := h.accept b (ByteSource.length_read_le (congrArg Prod.fst hread))
    rw [haccept] at hnext
    refine ⟨hnext, ?_⟩
    rintro frame ⟨⟩
    exact absurd (congrArg Prod.fst haccept) (accept_ne_frame r b more frame)
  | case6 r s hfull b more s' hread r' haccept ih =>
    have hnext := h.accept b (ByteSource.length_read_le (congrArg Prod.fst hread))
    rw [haccept] at hnext
    exact ih hnext

theorem InBounds.sound {r : Registers} (h : r.InBounds) (hmissing : r.isFull = false) :
    r.Sound where
  clock := h.clock
  payload hawaited := by
    have := of_decide_eq_false hmissing
    rw [not_and] at this
    exact Nat.lt_of_not_le (this hawaited)

end Registers

/-- The states of the assembler are what states between polls stand for. -/
theorem Assembler.Reachable.exists_view {a : Assembler} (h : a.Reachable) :
    ∃ r : Registers, r.Visited ∧ r.isFull = false ∧ r.view = a := by
  induction h with
  | empty => exact ⟨.new, .new, rfl, rfl⟩
  | poll _ s ih =>
    obtain ⟨r, hvisited, hmissing, rfl⟩ := ih
    obtain ⟨hpoll, hsound⟩ := (hvisited.inBounds.sound hmissing).poll_view s
    exact ⟨(r.poll s).2.1, (hvisited.poll s).1, hsound.isFull_eq, by rw [hpoll]⟩
  | reset _ ih =>
    obtain ⟨r, hvisited, hmissing, rfl⟩ := ih
    exact ⟨r.reset, hvisited.reset, rfl, rfl⟩

/-! ## Frames and what is read from them -/

/-- What is taken from a payload as the parts of a frame, and from the frame as those of a message
or report, is there. -/
structure Frame.Within (frame : Frame) (payload : Bytes) : Prop where
  whole : frame.payload = payload
  room : 2 ≤ payload.length
  code : payload.code? = some frame.code
  body : payload.slice? 2 = some frame.body
  message {message : UserMessage} (h : UserMessage.ofFrame frame = .ok message) :
    message.frame.body.slice? UserMessage.headLength = some message.body
  detail {source : ErrorSource} {report : ErrorReport}
    (h : ErrorReport.ofFrame source frame = .ok report) :
    report.frame.body.slice? ErrorReport.headLength = some report.detail

theorem UserMessage.slice?_of_ofFrame {frame : Frame} {message : UserMessage}
    (h : ofFrame frame = .ok message) :
    message.frame.body.slice? headLength = some message.body := by
  obtain ⟨rfl, -⟩ := ofFrame_eq_ok_iff.1 h
  exact Bytes.slice?_of_le ((exists_ofFrame_iff _).1 ⟨message, h⟩).1

theorem ErrorReport.slice?_of_ofFrame {source : ErrorSource} {frame : Frame} {report : ErrorReport}
    (h : ofFrame source frame = .ok report) :
    report.frame.body.slice? headLength = some report.detail := by
  unfold ofFrame Frame.read Decoder.decode at h
  obtain ⟨code, c, hcode, h⟩ := Attempt.run_bind_ok (Prod.ext h rfl)
  obtain rfl := Except.ok.inj (congrArg Prod.fst h)
  have hlength : c.rest.length + 2 = frame.body.length := Decoder.length_rest_of_uint16 hcode
  exact Bytes.slice?_of_le (hlength ▸ Nat.le_add_left ..)

theorem Frame.within_of_finish {r : Registers} {frame : Frame}
    (h : r.finish.1 = some (.frame frame)) : frame.Within r.payload := by
  rw [Registers.finish] at h
  rcases hpayload : r.payload with _ | ⟨high, _ | ⟨low, body⟩⟩
  · rw [hpayload] at h
    cases h
  · rw [hpayload] at h
    cases h
  · rw [hpayload] at h
    cases h
    exact ⟨Frame.payload_of_ofPayload? rfl, Nat.le_add_left .., rfl, rfl,
      UserMessage.slice?_of_ofFrame, ErrorReport.slice?_of_ofFrame⟩

/-- **Nothing is looked at or written outside of a buffer**, within polls and between them, whatever
comes and however the source cuts it or fails.  Each frame comes from a payload with all its parts.
The states of the assembler are what such states stand for. -/
theorem never_out_of_bounds :
    (∀ r : Registers, r.Visited →
      ((r.awaited = .clock → r.clock.length = 16 ∧ r.filled < 16) ∧
        (r.awaited = .lengthLow → r.payload.length = 1) ∧
        (r.awaited = .payload → r.filled ≤ r.payload.length ∧ r.payload.length ≤ 65535)) ∧
      (r.wanted? = some r.wanted ∧ r.finish? = some r.finish ∧
        ∀ (b : UInt8) (more : Bytes), more.length < r.wanted →
          r.accept? b more = some (r.accept b more)) ∧
      ∀ {σ ε : Type} [ByteSource σ ε] (s : σ),
        r.poll? s = some (r.poll s) ∧ (r.poll s).2.1.Visited ∧
          ∀ frame, (r.poll s).1 = .ok (some (.frame frame)) →
            ∃ full : Registers, full.Visited ∧ full.isFull ∧ frame.Within full.payload) ∧
    ∀ a : Assembler, a.Reachable → ∃ r : Registers, r.Visited ∧ r.view = a ∧
      ∀ {σ ε : Type} [ByteSource σ ε] (s : σ),
        a.poll s = ((r.poll s).1, (r.poll s).2.1.view, (r.poll s).2.2) := by
  refine ⟨fun r h => ⟨?_, ?_, ?_⟩, fun a h => ?_⟩
  · have hbounds := h.inBounds
    exact ⟨fun hawaited => ⟨r.clock_length, hbounds.clock hawaited⟩, hbounds.lengthLow,
      hbounds.payload⟩
  · exact ⟨h.inBounds.wanted?_eq, r.finish?_eq, fun _ _ hlength => h.inBounds.accept?_eq hlength⟩
  · intro σ ε _ s
    obtain ⟨hnext, hframe⟩ := h.poll s
    refine ⟨h.inBounds.poll?_eq s, hnext, fun frame hevent => ?_⟩
    obtain ⟨full, hvisited, hfull, hfinish⟩ := hframe frame hevent
    exact ⟨full, hvisited, hfull, Frame.within_of_finish hfinish⟩
  · obtain ⟨r, hvisited, hmissing, rfl⟩ := h.exists_view
    exact ⟨r, hvisited, rfl, fun s => ((hvisited.inBounds.sound hmissing).poll_view s).1⟩

/-- A message whose payload has begun to come after an abandoned clock sample, and the rest of it in
pieces with a failure between them. -/
theorem never_out_of_bounds_resumed :
    let begun := (Registers.new.poll ([0x05, 1, 2, 3] : Bytes)).2.1.reset
    let r := (begun.poll ([0x08, 0, 10, 0x80] : Bytes)).2.1
    let s : Trickle := ⟨[0xff, 0, 5, 2, 0xff, 0xff, 0, 42, 7], [some 3, none, some 5]⟩
    let failed := r.poll s
    let frame : Frame := ⟨0x08, 0x80ff, [0, 5, 2, 0xff, 0xff, 0, 42, 7]⟩
    r.Visited ∧ r.awaited = .payload ∧
      (r.filled ≤ r.payload.length ∧ r.payload.length ≤ 65535) ∧ r.poll? s = some failed ∧
      failed.1 = .error () ∧ failed.2.1.Visited ∧
      (failed.2.1.poll failed.2.2).1 = .ok (some (.frame frame)) ∧
      (∃ full : Registers, full.Visited ∧ full.isFull ∧ frame.Within full.payload) ∧
      (UserMessage.ofFrame frame).map UserMessage.body = .ok [7] := by
  intro begun r s failed frame
  have hstart := (never_out_of_bounds.1 .new .new).2.2 ([0x05, 1, 2, 3] : Bytes)
  have hbegun := (never_out_of_bounds.1 begun hstart.2.1.reset).2.2 ([0x08, 0, 10, 0x80] : Bytes)
  have hawaited : r.awaited = .payload := by decide +kernel
  obtain ⟨⟨-, -, hpayload⟩, -, hpoll⟩ := never_out_of_bounds.1 r hbegun.2.1
  have hfailed : failed.1 = .error () := by decide +kernel
  have hframe : (failed.2.1.poll failed.2.2).1 = .ok (some (.frame frame)) := by decide +kernel
  have hrest := (never_out_of_bounds.1 failed.2.1 (hpoll s).2.1).2.2 failed.2.2
  exact ⟨hbegun.2.1, hawaited, hpayload hawaited, (hpoll s).1, hfailed, (hpoll s).2.1, hframe,
    hrest.2.2 frame hframe, by decide +kernel⟩

end Multiplayer
