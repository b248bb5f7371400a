import Mathlib.Data.List.Basic
import Multiplayer.Proofs.Stream.Fragmentation

/-!
# Reassembly in registers

The unit in progress can be kept in a fixed set of registers that are written over and not cleared.
Most of them then hold bytes of units that are long complete or were abandoned.  What a register
holds matters only after it has been written in the course of the unit in progress, so a reset need
not touch it.

* `Registers`, with `Registers.poll` and `Registers.reset`: reassembly on registers.
* `Registers.view` is the assembler that they stand for, and `Sound.poll_view` says that they do
  what it does.
* `Assembler.poll_recounted`: what was dropped before does not matter to what comes.
* `Alike.pollTimes`: registers that stand for the same unit go on standing for the same one.
* `Registers.reset_like_new` is the result.
-/

namespace Multiplayer

/-! ## Writing over a part of a byte string -/

/-- Writes bytes over those of a buffer, from a certain place on and as far as the buffer goes. -/
def Bytes.overwrite (buffer : Bytes) (start : Nat) (bytes : Bytes) : Bytes :=
  buffer.mapIdx fun i old => if start ≤ i then bytes[i - start]?.getD old else old

namespace Bytes

@[simp] theorem length_overwrite (buffer : Bytes) (start : Nat) (bytes : Bytes) :
    (buffer.overwrite start bytes).length = buffer.length := by
  simp [overwrite]

/-- What has been written and what stands in front of it does not depend on the rest. -/
theorem take_overwrite {buffer bytes : Bytes} {start : Nat}
    (h : start + bytes.length ≤ buffer.length) :
    (buffer.overwrite start bytes).take (start + bytes.length) = buffer.take start ++ bytes := by
  have hstart : min start buffer.length = start := by omega
  refine List.ext_getElem (by simp; omega) fun i hi hi' => ?_
  simp only [List.length_take, length_overwrite] at hi
  simp only [overwrite, List.getElem_take, List.getElem_mapIdx]
  by_cases hbefore : i < start
  · rw [if_neg (by omega), List.getElem_append_left (by simp; omega), List.getElem_take]
  · have hin : i - start < bytes.length := by omega
    rw [if_pos (by omega), List.getElem?_eq_getElem hin, Option.getD_some,
      List.getElem_append_right (by simp; omega)]
    simp only [List.length_take, hstart]

end Bytes

/-! ## Registers -/

/-- Which part of a unit comes next. -/
inductive Awaited where
  | header
  | keepAlive
  | sessionHigh
  | sessionLow
  | clock
  | lengthHigh
  | lengthLow
  | payload
deriving DecidableEq, Repr

/-- Clock samples and payloads come in portions, and all else byte by byte. -/
def Awaited.inPortions : Awaited → Bool
  | .clock | .payload => true
  | _ => false

/-- Everything that is kept between polls, whether it is still of use or not. -/
structure Registers where
  awaited : Awaited
  /-- The latest header. -/
  header : UInt8
  /-- The latest keep-alive seconds. -/
  keepAlive : UInt8
  /-- The latest high byte of a session number. -/
  sessionHigh : UInt8
  /-- The latest clock sample, written over from the front by the next one. -/
  clock : Bytes
  /-- The high byte of a length, and then a payload of that length. -/
  payload : Bytes
  /-- How much of the clock sample or the payload in progress has arrived. -/
  filled : Nat
  /-- How many header bytes were dropped. -/
  discarded : Nat
  clock_length : clock.length = Stage.clockLength

namespace Registers

/-- The registers before anything has arrived. -/
def new : Registers where
  awaited := .header
  header := 0
  keepAlive := 0
  sessionHigh := 0
  clock := List.replicate Stage.clockLength 0
  payload := []
  filled := 0
  discarded := 0
  clock_length := List.length_replicate

def isIdle (r : Registers) : Bool := r.awaited = .header

/-- Forgets the unit in progress.  Its header, keep-alive seconds, session byte and clock sample
stay where they are. -/
def reset (r : Registers) : Registers := { r with awaited := .header, payload := [], filled := 0 }

/-- How many bytes are asked for next. -/
def wanted (r : Registers) : Nat :=
  match r.awaited with
  | .clock => Stage.clockLength - r.filled
  | .payload => r.payload.length - r.filled
  | _ => 1

def acceptHeader (r : Registers) (b : UInt8) : Option StreamEvent × Registers :=
  let r := { r with header := b }
  match FrameKind.ofHeader? b with
  | some .hello => (none, r)
  | some .closing => (some (.teardown .closing), r)
  | some .closed => (some (.teardown .closed), r)
  | some .established => (none, { r with awaited := .keepAlive })
  | some .ntp => (none, { r with filled := 0, awaited := .clock })
  | some .builtin | some .application => (none, { r with awaited := .lengthHigh })
  | some .authenticate | some .proxy | none => (none, { r with discarded := r.discarded + 1 })

/-- Writes bytes behind those that have arrived of a clock sample. -/
def fillClock (r : Registers) (bytes : Bytes) : Registers :=
  { r with
    clock := r.clock.overwrite r.filled bytes
    clock_length := (Bytes.length_overwrite ..).trans r.clock_length
    filled := r.filled + bytes.length }

/-- Writes bytes behind those that have arrived of a payload. -/
def fillPayload (r : Registers) (bytes : Bytes) : Registers :=
  { r with payload := r.payload.overwrite r.filled bytes, filled := r.filled + bytes.length }

/-- Writes the next bytes where they belong. -/
def accept (r : Registers) (b : UInt8) (more : Bytes) : Option StreamEvent × Registers :=
  match r.awaited with
  | .header => r.acceptHeader b
  | .keepAlive => (none, { r with keepAlive := b, awaited := .sessionHigh })
  | .sessionHigh => (none, { r with sessionHigh := b, awaited := .sessionLow })
  | .sessionLow =>
    (some (.established r.keepAlive ⟨UInt16.ofNat (Bytes.toNat [r.sessionHigh, b])⟩),
      { r with awaited := .header })
  | .clock =>
    let r := r.fillClock (b :: more)
    if r.filled < Stage.clockLength then (none, r)
    else (some (.clock (Assembler.clockTime r.clock)), { r with filled := 0, awaited := .header })
  | .lengthHigh => (none, { r with payload := [b], awaited := .lengthLow })
  | .lengthLow =>
    let length := Bytes.toNat [r.payload.headD 0, b]
    (none, { r with payload := List.replicate length 0, filled := 0, awaited := .payload })
  | .payload => (none, r.fillPayload (b :: more))

/-- Nothing is missing of the payload in progress. -/
def isFull (r : Registers) : Bool := r.awaited = .payload ∧ r.payload.length ≤ r.filled

/-- Hands the payload on. -/
def finish (r : Registers) : Option StreamEvent × Registers :=
  (Assembler.frameEvent? r.header r.payload,
    { r with awaited := .header, filled := 0, payload := [] })

theorem isFull_finish (r : Registers) : r.finish.2.isFull = false := rfl

variable {σ ε : Type} [ByteSource σ ε]

/-- Reads until one event is complete, nothing is there, or the source fails.  A payload of which
nothing is missing is handed on without a read. -/
def poll (r : Registers) (source : σ) : Except ε (Option StreamEvent) × Registers × σ :=
  if _hfull : r.isFull then
    match _h : r.finish with
    | (some event, r') => (.ok (some event), r', source)
    | (none, r') => poll r' source
  else
    match _h : ByteSource.read r.wanted source with
    | (.error e, source') => (.error e, r, source')
    | (.ok [], source') => (.ok none, r, source')
    | (.ok (b :: more), source') =>
      match r.accept b more with
      | (some event, r') => (.ok (some event), r', source')
      | (none, r') => poll r' source'
termination_by 2 * ByteSource.pending source + r.isFull.toNat
decreasing_by
  · have hnext := r.isFull_finish
    rw [_h] at hnext
    rw [hnext, _hfull]
    exact Nat.lt_add_one _
  · have hless := ByteSource.pending_read_lt (congrArg Prod.fst _h) (by simp)
    rw [_h] at hless
    have hnext : r'.isFull.toNat ≤ 1 := Bool.toNat_le _
    dsimp only at hless
    omega

/-! ## What the registers stand for -/

/-- The unit in progress.  A register is looked at only where the unit has already filled it. -/
def stage (r : Registers) : Stage :=
  match r.awaited with
  | .header => .header
  | .keepAlive => .keepAlive
  | .sessionHigh => .sessionHigh r.keepAlive
  | .sessionLow => .sessionLow r.keepAlive r.sessionHigh
  | .clock => .clock (r.clock.take r.filled).toArray
  | .lengthHigh => .lengthHigh r.header
  | .lengthLow => .lengthLow r.header (r.payload.headD 0)
  | .payload => .payload r.header r.payload.length (r.payload.take r.filled).toArray

/-- The assembler that the registers stand for. -/
def view (r : Registers) : Assembler := ⟨r.stage, r.discarded⟩

/-- Something is missing of the unit in progress. -/
structure Sound (r : Registers) : Prop where
  clock : r.awaited = .clock → r.filled < Stage.clockLength
  payload : r.awaited = .payload → r.filled < r.payload.length

theorem isIdle_view (r : Registers) : r.view.isIdle = r.isIdle := by
  obtain ⟨awaited, header, keepAlive, sessionHigh, clock, payload, filled, discarded, hclock⟩ := r
  cases awaited <;> rfl

theorem Sound.wanted_view {r : Registers} (h : r.Sound) : r.view.stage.wanted = r.wanted := by
  obtain ⟨awaited, header, keepAlive, sessionHigh, clock, payload, filled, discarded, hclock⟩ := r
  cases awaited with
  | clock =>
    have hfilled : filled < Stage.clockLength := h.clock rfl
    change Stage.clockLength - (clock.take filled).toArray.size = Stage.clockLength - filled
    rw [List.size_toArray, List.length_take, hclock, Nat.min_eq_left (Nat.le_of_lt hfilled)]
  | payload =>
    have hfilled : filled < payload.length := h.payload rfl
    change payload.length - (payload.take filled).toArray.size = payload.length - filled
    rw [List.size_toArray, List.length_take, Nat.min_eq_left (Nat.le_of_lt hfilled)]
  | _ => rfl

theorem Sound.isFull_eq {r : Registers} (h : r.Sound) : r.isFull = false := by
  refine decide_eq_false ?_
  rintro ⟨hawaited, hfilled⟩
  have := h.payload hawaited
  omega

/-- Byte by byte there is always the next one missing. -/
theorem sound_of_single {r : Registers} (h : r.awaited.inPortions = false) : r.Sound := by
  constructor
  · intro hawaited
    simp [hawaited, Awaited.inPortions] at h
  · intro hawaited
    simp [hawaited, Awaited.inPortions] at h

/-! ## Taking bytes -/

theorem view_acceptHeader {r : Registers} (h : r.awaited = .header) (b : UInt8) :
    ((r.acceptHeader b).1, (r.acceptHeader b).2.view) = Assembler.acceptHeader r.discarded b ∧
      (r.acceptHeader b).2.Sound := by
  have hidle {r' : Registers} (h' : r'.awaited = .header) : r'.view = ⟨.header, r'.discarded⟩ := by
    simp only [view, stage, h']
  have hsound {r' : Registers} (h' : r'.awaited = .header) : r'.Sound :=
    sound_of_single (by rw [h']; rfl)
  unfold acceptHeader Assembler.acceptHeader
  cases FrameKind.ofHeader? b with
  | none => exact ⟨congrArg (Prod.mk none) (hidle h), hsound h⟩
  | some kind =>
    cases kind with
    | ntp => exact ⟨rfl, fun _ => Nat.zero_lt_succ 15, by rintro ⟨⟩⟩
    | closing | closed => exact ⟨congrArg (Prod.mk _) (hidle h), hsound h⟩
    | hello | authenticate | proxy => exact ⟨congrArg (Prod.mk none) (hidle h), hsound h⟩
    | _ => exact ⟨rfl, sound_of_single rfl⟩

/-- Takes the next bytes, and hands the payload on if that was all of it. -/
def pass (r : Registers) (b : UInt8) (more : Bytes) : Option StreamEvent × Registers :=
  if (r.accept b more).2.isFull then (r.accept b more).2.finish else r.accept b more

theorem pass_of_sound {r : Registers} {b : UInt8} {more : Bytes} (h : (r.accept b more).2.Sound) :
    r.pass b more = r.accept b more := by
  rw [pass, h.isFull_eq]
  rfl

section Portion

variable {buffer : Bytes} {filled : Nat} {b : UInt8} {more : Bytes}

/-- A portion that fits into a buffer stands behind what the buffer was filled with before. -/
theorem toArray_take_overwrite (h : more.length < buffer.length - filled) :
    ((buffer.overwrite filled (b :: more)).take (filled + (b :: more).length)).toArray =
      (buffer.take filled).toArray.push b ++ more := by
  have hfits : filled + (b :: more).length ≤ buffer.length := by
    rw [List.length_cons]
    omega
  rw [Bytes.take_overwrite hfits]
  simp

theorem size_push_append (h : more.length < buffer.length - filled) :
    ((buffer.take filled).toArray.push b ++ more).size = filled + (b :: more).length := by
  simp
  omega

/-- Once a buffer is full, all of it has been written. -/
theorem overwrite_of_full (h : more.length < buffer.length - filled)
    (hfull : buffer.length ≤ filled + (b :: more).length) :
    buffer.overwrite filled (b :: more) =
      ((buffer.take filled).toArray.push b ++ more).toList := by
  rw [← toArray_take_overwrite h, List.take_of_length_le]
  rwa [Bytes.length_overwrite]

end Portion

theorem view_pass_clock {r : Registers} (hawaited : r.awaited = .clock) {b : UInt8} {more : Bytes}
    (hlength : more.length < r.wanted) :
    ((r.pass b more).1, (r.pass b more).2.view) = r.view.accept b more ∧
      (r.pass b more).2.Sound := by
  have hroom : more.length < r.clock.length - r.filled := by
    rw [r.clock_length]
    simpa only [wanted, hawaited] using hlength
  have hview : r.view = ⟨.clock (r.clock.take r.filled).toArray, r.discarded⟩ := by
    simp only [view, stage, hawaited]
  have hfilled : (r.fillClock (b :: more)).view =
      ⟨.clock ((r.clock.take r.filled).toArray.push b ++ more), r.discarded⟩ := by
    rw [← toArray_take_overwrite hroom]
    simp only [view, stage, fillClock, hawaited]
  by_cases hmissing : r.filled + (b :: more).length < Stage.clockLength
  · have haccept : r.accept b more = (none, r.fillClock (b :: more)) := by
      simp only [accept, hawaited]
      exact if_pos hmissing
    have hsound : (r.accept b more).2.Sound := by
      rw [haccept]
      exact ⟨fun _ => hmissing, by simp [fillClock, hawaited]⟩
    refine ⟨?_, pass_of_sound hsound ▸ hsound⟩
    rw [pass_of_sound hsound, haccept, hfilled, hview]
    simp only [Assembler.accept, size_push_append hroom, if_pos hmissing]
  · have haccept : r.accept b more =
        (some (.clock (Assembler.clockTime (r.clock.overwrite r.filled (b :: more)))),
          { r.fillClock (b :: more) with filled := 0, awaited := .header }) := by
      simp only [accept, hawaited]
      exact if_neg hmissing
    have hsound : (r.accept b more).2.Sound := by
      rw [haccept]
      exact sound_of_single rfl
    have hfull : r.clock.length ≤ r.filled + (b :: more).length := by
      rw [r.clock_length]
      exact Nat.le_of_not_lt hmissing
    refine ⟨?_, pass_of_sound hsound ▸ hsound⟩
    rw [pass_of_sound hsound, haccept, overwrite_of_full hroom hfull, hview]
    simp only [Assembler.accept, size_push_append hroom, if_neg hmissing]
    rfl

theorem view_pass_payload {r : Registers} (hawaited : r.awaited = .payload) {b : UInt8}
    {more : Bytes} (hlength : more.length < r.wanted) :
    ((r.pass b more).1, (r.pass b more).2.view) = r.view.accept b more ∧
      (r.pass b more).2.Sound := by
  have hroom : more.length < r.payload.length - r.filled := by
    simpa only [wanted, hawaited] using hlength
  have hview : r.view =
      ⟨.payload r.header r.payload.length (r.payload.take r.filled).toArray, r.discarded⟩ := by
    simp only [view, stage, hawaited]
  have haccept : r.accept b more = (none, r.fillPayload (b :: more)) := by
    simp only [accept, hawaited]
  by_cases hmissing : r.filled + (b :: more).length < r.payload.length
  · have hsound : (r.accept b more).2.Sound := by
      rw [haccept]
      refine ⟨by simp [fillPayload, hawaited], fun _ => ?_⟩
      rwa [fillPayload, Bytes.length_overwrite]
    refine ⟨?_, pass_of_sound hsound ▸ hsound⟩
    rw [pass_of_sound hsound, haccept, hview]
    simp only [Assembler.accept, size_push_append hroom, if_pos hmissing]
    simp only [view, stage, fillPayload, hawaited, Bytes.length_overwrite,
      toArray_take_overwrite hroom]
  · have hfull : r.payload.length ≤ r.filled + (b :: more).length := Nat.le_of_not_lt hmissing
    have hpass : r.pass b more = (r.fillPayload (b :: more)).finish := by
      rw [pass, haccept, if_pos]
      refine decide_eq_true ⟨hawaited, ?_⟩
      rwa [fillPayload, Bytes.length_overwrite]
    rw [hpass, hview]
    refine ⟨?_, sound_of_single rfl⟩
    simp only [Assembler.accept, size_push_append hroom, if_neg hmissing, finish, fillPayload,
      overwrite_of_full hroom hfull]
    rfl

theorem view_pass_lengthLow {r : Registers} (hawaited : r.awaited = .lengthLow) (b : UInt8)
    (more : Bytes) :
    ((r.pass b more).1, (r.pass b more).2.view) = r.view.accept b more ∧
      (r.pass b more).2.Sound := by
  have hview : r.view = ⟨.lengthLow r.header (r.payload.headD 0), r.discarded⟩ := by
    simp only [view, stage, hawaited]
  obtain ⟨length, hlength⟩ : ∃ length, length = Bytes.toNat [r.payload.headD 0, b] := ⟨_, rfl⟩
  have haccept : r.accept b more = (none,
      { r with payload := List.replicate length 0, filled := 0, awaited := .payload }) := by
    simp only [accept, hawaited, hlength]
  rw [hview]
  simp only [Assembler.accept, ← hlength]
  by_cases hzero : length = 0
  · subst hzero
    rw [pass, haccept]
    exact ⟨rfl, sound_of_single rfl⟩
  · have hsound : (r.accept b more).2.Sound := by
      rw [haccept]
      refine ⟨by rintro ⟨⟩, fun _ => ?_⟩
      rw [List.length_replicate]
      exact Nat.pos_of_ne_zero hzero
    rw [pass_of_sound hsound, if_neg hzero, haccept]
    refine ⟨?_, haccept ▸ hsound⟩
    simp [view, stage]

/-- A pass does what the assembler does. -/
theorem view_pass {r : Registers} {b : UInt8} {more : Bytes} (hlength : more.length < r.wanted) :
    ((r.pass b more).1, (r.pass b more).2.view) = r.view.accept b more ∧
      (r.pass b more).2.Sound := by
  cases hawaited : r.awaited with
  | header =>
    obtain ⟨hview, hsound⟩ := view_acceptHeader hawaited b
    have haccept : r.accept b more = r.acceptHeader b := by simp only [accept, hawaited]
    rw [pass_of_sound (haccept ▸ hsound), haccept]
    refine ⟨hview.trans ?_, hsound⟩
    simp only [view, stage, hawaited, Assembler.accept]
  | clock => exact view_pass_clock hawaited hlength
  | lengthLow => exact view_pass_lengthLow hawaited b more
  | payload => exact view_pass_payload hawaited hlength
  | keepAlive | sessionHigh | sessionLow | lengthHigh =>
    have hsound : (r.accept b more).2.Sound := by
      simp only [accept, hawaited]
      exact sound_of_single rfl
    rw [pass_of_sound hsound]
    refine ⟨?_, hsound⟩
    simp only [accept, view, stage, hawaited, Assembler.accept, List.headD_cons]

theorem exists_pass {r : Registers} {b : UInt8} {more : Bytes} (hlength : more.length < r.wanted) :
    ∃ r', r.pass b more = ((r.view.accept b more).1, r') ∧
      r'.view = (r.view.accept b more).2 ∧ r'.Sound := by
  obtain ⟨hview, hsound⟩ := view_pass (b := b) hlength
  exact ⟨_, by rw [← hview], by rw [← hview], hsound⟩

/-- A payload that has become full is still to be handed on. -/
theorem accept_of_isFull {r : Registers} {b : UInt8} {more : Bytes}
    (h : (r.accept b more).2.isFull) : (r.accept b more).1 = none := by
  cases hawaited : r.awaited with
  | header =>
    have haccept : r.accept b more = r.acceptHeader b := by simp only [accept, hawaited]
    rw [haccept, (view_acceptHeader hawaited b).2.isFull_eq] at h
    cases h
  | sessionLow =>
    simp [accept, hawaited, isFull] at h
  | clock =>
    simp only [accept, hawaited] at h ⊢
    split at h
    · rw [if_pos ‹_›]
    · cases h
  | _ => simp only [accept, hawaited]

theorem poll_of_isFull {r : Registers} (h : r.isFull) (s : σ) :
    r.poll s = match r.finish with
      | (some event, r') => (.ok (some event), r', s)
      | (none, r') => r'.poll s := by
  rw [poll, dif_pos h]
  rcases r.finish with ⟨_ | event, r'⟩
  · rfl
  · rfl

/-- A poll is a read and a pass, and goes on if there is no event yet. -/
theorem poll_of_sound {r : Registers} (h : r.Sound) (s : σ) :
    r.poll s = match ByteSource.read r.wanted s with
      | (.error e, s') => (.error e, r, s')
      | (.ok [], s') => (.ok none, r, s')
      | (.ok (b :: more), s') =>
        match r.pass b more with
        | (some event, r') => (.ok (some event), r', s')
        | (none, r') => r'.poll s' := by
  rw [poll, dif_neg (by simp [h.isFull_eq])]
  rcases ByteSource.read r.wanted s with ⟨_ | _ | ⟨b, more⟩, s'⟩
  · rfl
  · rfl
  · dsimp only
    rw [pass]
    by_cases hfull : (r.accept b more).2.isFull
    · have hnone := accept_of_isFull hfull
      rw [if_pos hfull, ← poll_of_isFull hfull]
      rcases haccept : r.accept b more with ⟨event?, r'⟩
      rw [haccept] at hnone
      subst hnone
      rfl
    · rw [if_neg hfull]

-- By induction on the poll of the assembler: each of its reads is one read and one pass here.
/-- Registers do what the assembler does that they stand for. -/
theorem Sound.poll_view {r : Registers} (h : r.Sound) (s : σ) :
    r.view.poll s = ((r.poll s).1, (r.poll s).2.1.view, (r.poll s).2.2) ∧
      (r.poll s).2.1.Sound := by
  generalize hview : r.view = a
  have hwanted : a.stage.wanted = r.wanted := hview ▸ h.wanted_view
  fun_induction Assembler.poll a s generalizing r with
  | case1 a s e s' hread =>
    rw [poll_of_sound h, ← hwanted, hread]
    exact ⟨by rw [hview], h⟩
  | case2 a s s' hread =>
    rw [poll_of_sound h, ← hwanted, hread]
    exact ⟨by rw [hview], h⟩
  | case3 a s b more s' hread event a' haccept =>
    have hlength : more.length < r.wanted :=
      hwanted ▸ ByteSource.length_read_le (congrArg Prod.fst hread)
    obtain ⟨r', hpass, hview', hsound⟩ := exists_pass (b := b) hlength
    rw [hview, haccept] at hpass hview'
    rw [poll_of_sound h, ← hwanted, hread]
    simp only [hpass]
    exact ⟨by rw [hview'], hsound⟩
  | case4 a s b more s' hread a' haccept ih =>
    have hlength : more.length < r.wanted :=
      hwanted ▸ ByteSource.length_read_le (congrArg Prod.fst hread)
    obtain ⟨r', hpass, hview', hsound⟩ := exists_pass (b := b) hlength
    rw [hview, haccept] at hpass hview'
    rw [poll_of_sound h, ← hwanted, hread]
    simp only [hpass]
    have hview' : r'.view = a' := hview'
    exact ih hsound hview' (hview' ▸ hsound.wanted_view)

end Registers

/-! ## What was dropped before -/

namespace Assembler

variable {σ ε : Type} [ByteSource σ ε]

/-- The same unit in progress, with so many more header bytes dropped before. -/
def recounted (a : Assembler) (earlier : Nat) : Assembler :=
  { a with discarded := earlier + a.discarded }

theorem accept_recounted (a : Assembler) (earlier : Nat) (b : UInt8) (more : Bytes) :
    (a.recounted earlier).accept b more =
      ((a.accept b more).1, (a.accept b more).2.recounted earlier) := by
  obtain ⟨stage, discarded⟩ := a
  cases stage with
  | header =>
    simp only [recounted, accept, acceptHeader]
    split <;> rfl
  | clock filled =>
    simp only [recounted, accept]
    split <;> rfl
  | lengthLow header high =>
    simp only [recounted, accept]
    split <;> rfl
  | payload header length filled =>
    simp only [recounted, accept]
    split <;> rfl
  | _ => rfl

/-- What was dropped before has no part in what comes. -/
theorem poll_recounted (a : Assembler) (earlier : Nat) (s : σ) :
    (a.recounted earlier).poll s =
      ((a.poll s).1, (a.poll s).2.1.recounted earlier, (a.poll s).2.2) := by
  have hstage (a : Assembler) : (a.recounted earlier).stage = a.stage := rfl
  fun_induction poll a s with
  | case1 a s e s' hread => rw [poll, hstage, hread]
  | case2 a s s' hread => rw [poll, hstage, hread]
  | case3 a s b more s' hread event a' haccept =>
    rw [poll, hstage, hread]
    dsimp only
    rw [accept_recounted, haccept]
  | case4 a s b more s' hread a' haccept ih =>
    rw [poll, hstage, hread]
    dsimp only
    rw [accept_recounted, haccept]
    exact ih

theorem pollTimes_recounted (n : Nat) (a : Assembler) (earlier : Nat) (s : σ) :
    (a.recounted earlier).pollTimes n s =
      ((a.pollTimes n s).1, (a.pollTimes n s).2.1.recounted earlier, (a.pollTimes n s).2.2) := by
  induction n generalizing a s with
  | zero => rfl
  | succ n ih => rw [pollTimes_succ, pollTimes_succ, poll_recounted, ih]

end Assembler

/-! ## Runs -/

namespace Registers

variable {σ ε : Type} [ByteSource σ ε]

/-- Polls a number of times, and goes on after polls that found nothing or failed: what each of them
gave, and what is left of registers and source. -/
def pollTimes : Nat → Registers → σ → List (Except ε (Option StreamEvent)) × Registers × σ
  | 0, r, s => ([], r, s)
  | n + 1, r, s =>
    let (result, r', s') := r.poll s
    let (results, r'', s'') := pollTimes n r' s'
    (result :: results, r'', s'')

theorem pollTimes_succ (n : Nat) (r : Registers) (s : σ) :
    r.pollTimes (n + 1) s =
      ((r.poll s).1 :: ((r.poll s).2.1.pollTimes n (r.poll s).2.2).1,
        ((r.poll s).2.1.pollTimes n (r.poll s).2.2).2) := rfl

theorem Sound.pollTimes_view {r : Registers} (h : r.Sound) (n : Nat) (s : σ) :
    r.view.pollTimes n s =
      ((r.pollTimes n s).1.flatMap Assembler.polledEvents, (r.pollTimes n s).2.1.view,
        (r.pollTimes n s).2.2) := by
  induction n generalizing r s with
  | zero => rfl
  | succ n ih =>
    obtain ⟨hpoll, hsound⟩ := h.poll_view s
    rw [Assembler.pollTimes_succ, hpoll, ih hsound, pollTimes_succ, List.flatMap_cons]

/-- Registers that stand for the same unit in progress, the first ones with so many more header
bytes dropped before. -/
structure Alike (earlier : Nat) (r r' : Registers) : Prop where
  sound : r.Sound
  sound' : r'.Sound
  view : r.view = r'.view.recounted earlier

namespace Alike

variable {earlier : Nat} {r r' : Registers}

theorem isIdle (h : Alike earlier r r') : r.isIdle = r'.isIdle := by
  rw [← r.isIdle_view, h.view, ← r'.isIdle_view]
  rfl

theorem discarded (h : Alike earlier r r') : r.discarded = earlier + r'.discarded :=
  congrArg Assembler.discarded h.view

theorem poll (h : Alike earlier r r') (s : σ) :
    ((r.poll s).1 = (r'.poll s).1 ∧ (r.poll s).2.2 = (r'.poll s).2.2) ∧
      Alike earlier (r.poll s).2.1 (r'.poll s).2.1 := by
  obtain ⟨hpoll, hsound⟩ := h.sound.poll_view s
  obtain ⟨hpoll', hsound'⟩ := h.sound'.poll_view s
  rw [h.view, Assembler.poll_recounted, hpoll'] at hpoll
  obtain ⟨hresult, hrest⟩ := Prod.mk.inj hpoll
  obtain ⟨hview, hsource⟩ := Prod.mk.inj hrest
  exact ⟨⟨hresult.symm, hsource.symm⟩, hsound, hsound', hview.symm⟩

theorem pollTimes (h : Alike earlier r r') (n : Nat) (s : σ) :
    ((r.pollTimes n s).1 = (r'.pollTimes n s).1 ∧
        (r.pollTimes n s).2.2 = (r'.pollTimes n s).2.2) ∧
      Alike earlier (r.pollTimes n s).2.1 (r'.pollTimes n s).2.1 := by
  induction n generalizing r r' s with
  | zero => exact ⟨⟨rfl, rfl⟩, h⟩
  | succ n ih =>
    obtain ⟨⟨hresult, hsource⟩, hnext⟩ := h.poll s
    obtain ⟨⟨hresults, hend⟩, hlast⟩ := ih hnext (r'.poll s).2.2
    rw [pollTimes_succ, pollTimes_succ, hresult, hsource]
    exact ⟨⟨congrArg (List.cons _) hresults, hend⟩, hlast⟩

end Alike

theorem sound_new : new.Sound := sound_of_single rfl

theorem alike_reset (r : Registers) : Alike r.discarded r.reset new :=
  ⟨sound_of_single rfl, sound_new, rfl⟩

/-- **A reset is a new start.**  Whatever the registers hold of earlier units, after a reset each
poll gives what it would give with new registers, and dropped header bytes are counted on from those
before.  So it is with the assembler. -/
theorem reset_like_new (r : Registers) (s : σ) (n : Nat) :
    let later := r.reset.pollTimes n s
    let fresh := new.pollTimes n s
    (later.1 = fresh.1 ∧ later.2.2 = fresh.2.2 ∧ later.2.1.isIdle = fresh.2.1.isIdle ∧
      later.2.1.discarded = r.discarded + fresh.2.1.discarded) ∧
    (∀ a : Assembler,
      let run := a.reset.pollTimes n s
      let first := Assembler.empty.pollTimes n s
      run.1 = first.1 ∧ run.2.2 = first.2.2 ∧ run.2.1.isIdle = first.2.1.isIdle ∧
        run.2.1.discarded = a.discarded + first.2.1.discarded) ∧
    Assembler.empty.pollTimes n s =
      (fresh.1.flatMap Assembler.polledEvents, fresh.2.1.view, fresh.2.2) := by
  obtain ⟨⟨hresults, hsource⟩, hlast⟩ := r.alike_reset.pollTimes n s
  refine ⟨⟨hresults, hsource, hlast.isIdle, hlast.discarded⟩, fun a => ?_,
    sound_new.pollTimes_view n s⟩
  have hreset : a.reset = Assembler.empty.recounted a.discarded := rfl
  rw [hreset, Assembler.pollTimes_recounted]
  exact ⟨rfl, rfl, rfl, rfl⟩

/-- The bytes of an abandoned clock sample are still there after a reset. -/
example : (new.poll ([0x05, 1, 2, 3] : Bytes)).2.1.reset.clock.take 3 = [1, 2, 3] := by
  decide +kernel

end Registers

end Multiplayer
