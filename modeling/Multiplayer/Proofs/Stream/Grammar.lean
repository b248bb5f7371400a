import Multiplayer.Proofs.Stream.Feed

/-!
# The grammar of the stream

A stream is a sequence of units.  The low four bits of the first byte of a unit say which kind it
is, and so how long it is.

* `StreamUnit` is the format: the units with their bytes, the events that they stand for, and
  whether they are dropped.
* `exists_parse`, `parse_unique`: every byte string is in exactly one way a sequence of units and
  a part of one more.
* `feed_units`, `feed_unfinished`: what the assembler makes of units and of a part of one.
* `drain_parse`: draining a byte string gives the events of its units.
-/

namespace Multiplayer

/-- A header byte with the given low four bits. -/
abbrev Header (bits : Nat) := { header : UInt8 // header.toNat % 16 = bits }

/-- A complete unit of the stream. -/
inductive StreamUnit where
  | hello (header : Header 0)
  | closing (header : Header 1)
  | closed (header : Header 2)
  | established (header : Header 3) (keepAlive high low : UInt8)
  | clock (header : Header 5) (sample : { sample : Bytes // sample.length = 16 })
  | data (header : UInt8) (hheader : header.toNat % 16 = 8 ∨ header.toNat % 16 = 9)
    (payload : Bytes) (hpayload : payload.length < UInt16.size)
  | other (header : UInt8) (hheader : header.toNat % 16 ∉ [0, 1, 2, 3, 5, 8, 9])

namespace StreamUnit

/-- The unit on the wire. -/
def bytes : StreamUnit → Bytes
  | .hello header | .closing header | .closed header => [header.1]
  | .established header keepAlive high low => [header.1, keepAlive, high, low]
  | .clock header sample => header.1 :: sample.1
  | .data header _ payload _ => header :: (Bytes.ofNat 2 payload.length ++ payload)
  | .other header _ => [header]

/-- What the unit tells: a data unit without room for an event code tells nothing. -/
def events : StreamUnit → List StreamEvent
  | .hello _ => []
  | .closing _ => [.teardown .closing]
  | .closed _ => [.teardown .closed]
  | .established _ keepAlive high low =>
    [.established keepAlive ⟨UInt16.ofNat (Bytes.toNat [high, low])⟩]
  | .clock _ sample =>
    [.clock (Timestamp.ofTicks (UInt64.ofNat (Bytes.toNat (sample.1.drop 8))).toInt64)]
  | .data header _ (high :: low :: body) _ =>
    [.frame ⟨header, UInt16.ofNat (Bytes.toNat [high, low]), body⟩]
  | .data .. => []
  | .other .. => []

/-- The unit is a header that starts nothing. -/
def isOther : StreamUnit → Bool
  | .other .. => true
  | _ => false

/-- The first unit of a byte string, if it is complete, and the bytes behind it. -/
def front? : Bytes → Option (StreamUnit × Bytes)
  | [] => none
  | header :: rest =>
    if h : header.toNat % 16 = 0 then some (.hello ⟨header, h⟩, rest)
    else if h : header.toNat % 16 = 1 then some (.closing ⟨header, h⟩, rest)
    else if h : header.toNat % 16 = 2 then some (.closed ⟨header, h⟩, rest)
    else if h : header.toNat % 16 = 3 then
      match rest with
      | keepAlive :: high :: low :: rest => some (.established ⟨header, h⟩ keepAlive high low, rest)
      | _ => none
    else if h : header.toNat % 16 = 5 then
      if hlength : (rest.take 16).length = 16 then
        some (.clock ⟨header, h⟩ ⟨rest.take 16, hlength⟩, rest.drop 16)
      else none
    else if h : header.toNat % 16 = 8 ∨ header.toNat % 16 = 9 then
      match rest with
      | high :: low :: rest =>
        let payload := rest.take (Bytes.toNat [high, low])
        if hlength : payload.length = Bytes.toNat [high, low] then
          some (.data header h payload (hlength ▸ by simpa using Bytes.toNat_lt [high, low]),
            rest.drop (Bytes.toNat [high, low]))
        else none
      | _ => none
    else some (.other header (by simp_all), rest)

/-- A proper beginning of a unit, which may be empty. -/
def Unfinished (tail : Bytes) : Prop :=
  ∃ (u : StreamUnit) (missing : Bytes), u.bytes = tail ++ missing ∧ missing ≠ []

/-! ## One way to read a byte string -/

theorem bytes_ne_nil (u : StreamUnit) : u.bytes ≠ [] := by
  cases u <;> simp [bytes]

theorem exists_lengthDigits {length : Nat} (h : length < UInt16.size) :
    ∃ high low, Bytes.ofNat 2 length = [high, low] ∧ Bytes.toNat [high, low] = length := by
  refine ⟨UInt8.ofNat (length / 256), UInt8.ofNat length, rfl, ?_⟩
  change Bytes.toNat (Bytes.ofNat 2 length) = length
  rw [Bytes.toNat_ofNat]
  exact Nat.mod_eq_of_lt h

theorem lengthDigits_append {payload : Bytes} {high low : UInt8}
    (h : payload.length = Bytes.toNat [high, low]) :
    Bytes.ofNat 2 payload.length ++ payload = high :: low :: payload := by
  have hdigits : Bytes.ofNat 2 (Bytes.toNat [high, low]) = [high, low] :=
    Bytes.ofNat_toNat [high, low]
  rw [h, hdigits]
  rfl

theorem front?_bytes_append (u : StreamUnit) (rest : Bytes) :
    front? (u.bytes ++ rest) = some (u, rest) := by
  cases u with
  | hello header | closing header | closed header | established header =>
    obtain ⟨header, h⟩ := header
    simp [bytes, front?, h]
  | clock header sample =>
    obtain ⟨header, h⟩ := header
    obtain ⟨sample, hsample⟩ := sample
    have htake : (sample ++ rest).take 16 = sample := by rw [← hsample, List.take_left]
    have hdrop : (sample ++ rest).drop 16 = rest := by rw [← hsample, List.drop_left]
    simp [bytes, front?, h, htake, hdrop, hsample]
  | data header hheader payload hpayload =>
    obtain ⟨high, low, hdigits, hlength⟩ := exists_lengthDigits hpayload
    have htake : (payload ++ rest).take payload.length = payload := List.take_left
    have hdrop : (payload ++ rest).drop payload.length = rest := List.drop_left
    rcases hheader with h | h <;> simp [bytes, front?, h, hdigits, hlength, htake, hdrop]
  | other header hheader =>
    simp only [List.mem_cons, List.not_mem_nil, or_false, not_or] at hheader
    simp [bytes, front?, hheader]

theorem bytes_append_of_front? {bytes rest : Bytes} {u : StreamUnit}
    (h : front? bytes = some (u, rest)) : bytes = u.bytes ++ rest := by
  cases bytes with
  | nil => cases h
  | cons header bytes =>
    simp only [front?] at h
    split at h
    · cases h
      rfl
    split at h
    · cases h
      rfl
    split at h
    · cases h
      rfl
    split at h
    · split at h
      · cases h
        rfl
      · cases h
    split at h
    · split at h
      · cases h
        simp [StreamUnit.bytes]
      · cases h
    split at h
    · split at h
      · split at h
        · rename_i high low bytes hlength
          cases h
          simp only [StreamUnit.bytes, lengthDigits_append hlength, List.cons_append,
            List.take_append_drop]
        · cases h
      · cases h
    · cases h
      rfl

/-- The bytes end before the first unit of them does. -/
inductive Short : Bytes → Prop where
  | header : Short []
  | established (header : Header 3) {rest : Bytes} (h : rest.length < 3) : Short (header.1 :: rest)
  | clock (header : Header 5) {rest : Bytes} (h : rest.length < 16) : Short (header.1 :: rest)
  | length (header : UInt8) (hheader : header.toNat % 16 = 8 ∨ header.toNat % 16 = 9)
      {rest : Bytes} (h : rest.length < 2) : Short (header :: rest)
  | payload (header : UInt8) (hheader : header.toNat % 16 = 8 ∨ header.toNat % 16 = 9)
      (high low : UInt8) {payload : Bytes} (h : payload.length < Bytes.toNat [high, low]) :
      Short (header :: high :: low :: payload)

theorem short_of_front? {bytes : Bytes} (h : front? bytes = none) : Short bytes := by
  cases bytes with
  | nil => exact .header
  | cons header bytes =>
    simp only [front?] at h
    split at h
    · cases h
    split at h
    · cases h
    split at h
    · cases h
    split at h
    · rename_i h3
      refine .established ⟨header, h3⟩ ?_
      rcases bytes with _ | ⟨_, _ | ⟨_, _ | ⟨_, _⟩⟩⟩
      · simp
      · simp
      · simp
      · cases h
    split at h
    · rename_i h5
      refine .clock ⟨header, h5⟩ ?_
      split at h
      · cases h
      · rename_i hlength
        rw [List.length_take] at hlength
        omega
    split at h
    · rename_i h89
      rcases bytes with _ | ⟨high, _ | ⟨low, payload⟩⟩
      · exact .length header h89 (by simp)
      · exact .length header h89 (by simp)
      · refine .payload header h89 high low ?_
        simp only [dite_eq_right_iff, reduceCtorEq, imp_false, List.length_take] at h
        omega
    · cases h

theorem exists_data {header high low : UInt8} {payload : Bytes}
    (hheader : header.toNat % 16 = 8 ∨ header.toNat % 16 = 9)
    (h : payload.length = Bytes.toNat [high, low]) :
    ∃ u : StreamUnit, u.bytes = header :: high :: low :: payload :=
  ⟨.data header hheader payload (h ▸ Bytes.toNat_pair_lt high low),
    congrArg (header :: ·) (lengthDigits_append h)⟩

/-- Bytes that end too early are the beginning of a unit: what is there fixes how many more are
needed, and any will do. -/
theorem Short.unfinished {bytes : Bytes} (h : Short bytes) : Unfinished bytes := by
  cases h with
  | header => exact ⟨.hello ⟨0, rfl⟩, [0], rfl, by simp⟩
  | @established header rest h =>
    rcases rest with _ | ⟨keepAlive, _ | ⟨high, _ | ⟨low, rest⟩⟩⟩
    · exact ⟨.established header 0 0 0, [0, 0, 0], rfl, by simp⟩
    · exact ⟨.established header keepAlive 0 0, [0, 0], rfl, by simp⟩
    · exact ⟨.established header keepAlive high 0, [0], rfl, by simp⟩
    · exact absurd h (by simp)
  | @clock header rest h =>
    have hsample : (rest ++ List.replicate (16 - rest.length) 0).length = 16 := by
      rw [List.length_append, List.length_replicate]
      omega
    refine ⟨.clock header ⟨_, hsample⟩, _, rfl, ?_⟩
    simp only [ne_eq, List.replicate_eq_nil_iff]
    omega
  | @length header hheader rest h =>
    rcases rest with _ | ⟨high, _ | ⟨low, rest⟩⟩
    · have hpayload : ([] : Bytes).length = Bytes.toNat [0, 0] := rfl
      obtain ⟨u, hu⟩ := exists_data hheader hpayload
      exact ⟨u, [0, 0], hu, by simp⟩
    · have hpayload := List.length_replicate (n := Bytes.toNat [high, 0]) (a := (0 : UInt8))
      obtain ⟨u, hu⟩ := exists_data hheader hpayload
      exact ⟨u, 0 :: List.replicate (Bytes.toNat [high, 0]) 0, hu, by simp⟩
    · exact absurd h (by simp)
  | @payload header hheader high low payload h =>
    have hpayload : (payload ++ List.replicate (Bytes.toNat [high, low] - payload.length)
        0).length = Bytes.toNat [high, low] := by
      rw [List.length_append, List.length_replicate]
      omega
    obtain ⟨u, hu⟩ := exists_data hheader hpayload
    refine ⟨u, _, hu, ?_⟩
    simp only [ne_eq, List.replicate_eq_nil_iff]
    omega

theorem front?_of_unfinished {bytes : Bytes} (h : Unfinished bytes) : front? bytes = none := by
  obtain ⟨u, missing, hu, hmissing⟩ := h
  cases hfront : front? bytes with
  | none => rfl
  | some parts =>
    obtain ⟨v, rest⟩ := parts
    have hv : u.bytes ++ [] = v.bytes ++ (rest ++ missing) := by
      rw [List.append_nil, hu, bytes_append_of_front? hfront, List.append_assoc]
    have hsame := (front?_bytes_append u []).symm.trans (hv ▸ front?_bytes_append v _)
    simp only [Option.some.injEq, Prod.mk.injEq, List.nil_eq, List.append_eq_nil_iff] at hsame
    exact absurd hsame.2.2 hmissing

/-- The stream is some units, one after another, and then a part of one more. -/
def IsParse (stream : Bytes) (units : List StreamUnit) (tail : Bytes) : Prop :=
  stream = units.flatMap bytes ++ tail ∧ Unfinished tail

theorem exists_parse (stream : Bytes) : ∃ units tail, IsParse stream units tail := by
  induction hlength : stream.length using Nat.strongRecOn generalizing stream with
  | ind length ih =>
    cases hfront : front? stream with
    | none => exact ⟨[], stream, rfl, (short_of_front? hfront).unfinished⟩
    | some parts =>
      obtain ⟨u, rest⟩ := parts
      have hstream := bytes_append_of_front? hfront
      have hshorter : rest.length < length := by
        have := List.length_pos_iff.2 u.bytes_ne_nil
        rw [← hlength, hstream, List.length_append]
        omega
      obtain ⟨units, tail, hrest, htail⟩ := ih rest.length hshorter rest rfl
      refine ⟨u :: units, tail, ?_, htail⟩
      rw [hstream, hrest, List.flatMap_cons, List.append_assoc]

theorem parse_unique {stream : Bytes} {units units' : List StreamUnit} {tail tail' : Bytes}
    (h : IsParse stream units tail) (h' : IsParse stream units' tail') :
    units' = units ∧ tail' = tail := by
  obtain ⟨hstream, htail⟩ := h
  obtain ⟨hstream', htail'⟩ := h'
  induction units generalizing stream units' with
  | nil =>
    have hnone := front?_of_unfinished htail
    cases units' with
    | nil => exact ⟨rfl, hstream'.symm.trans hstream⟩
    | cons v units' =>
      rw [← List.nil_append tail, ← List.flatMap_nil (f := bytes), ← hstream, hstream',
        List.flatMap_cons, List.append_assoc, front?_bytes_append] at hnone
      cases hnone
  | cons u units ih =>
    rw [List.flatMap_cons, List.append_assoc] at hstream
    have hfront : front? stream = some (u, units.flatMap bytes ++ tail) :=
      hstream ▸ front?_bytes_append u _
    cases units' with
    | nil =>
      have hnone := front?_of_unfinished htail'
      rw [List.flatMap_nil, List.nil_append] at hstream'
      rw [← hstream', hfront] at hnone
      cases hnone
    | cons v units' =>
      rw [List.flatMap_cons, List.append_assoc] at hstream'
      have hfront' := hstream' ▸ front?_bytes_append v _
      rw [hfront] at hfront'
      simp only [Option.some.injEq, Prod.mk.injEq] at hfront'
      obtain ⟨rfl, hrest⟩ := hfront'
      obtain ⟨rfl, rfl⟩ := ih rfl hrest
      exact ⟨rfl, rfl⟩

end StreamUnit

/-! ## What the assembler makes of it -/

namespace Assembler

theorem ofHeader?_eq_find? (header : UInt8) :
    FrameKind.ofHeader? header =
      FrameKind.all.find? fun kind => kind.toByte.toNat = header.toNat % 16 := by
  have hbits : (header &&& 0x0f).toNat = header.toNat % 16 := by
    rw [UInt8.toNat_and]
    exact Nat.and_two_pow_sub_one_eq_mod header.toNat 4
  simp only [FrameKind.ofHeader?, ← UInt8.toNat_inj, hbits]

theorem acceptHeader_eq (discarded : Nat) (header : UInt8) :
    acceptHeader discarded header =
      match header.toNat % 16 with
      | 0 => (none, ⟨.header, discarded⟩)
      | 1 => (some (.teardown .closing), ⟨.header, discarded⟩)
      | 2 => (some (.teardown .closed), ⟨.header, discarded⟩)
      | 3 => (none, ⟨.keepAlive, discarded⟩)
      | 5 => (none, ⟨.clock #[], discarded⟩)
      | 8 | 9 => (none, ⟨.lengthHigh header, discarded⟩)
      | _ => (none, ⟨.header, discarded + 1⟩) := by
  have hbits : header.toNat % 16 < 16 := Nat.mod_lt _ (by omega)
  rw [acceptHeader, ofHeader?_eq_find?]
  generalize header.toNat % 16 = bits at hbits ⊢
  match bits, hbits with
  | 0, _ | 1, _ | 2, _ | 3, _ | 4, _ | 5, _ | 6, _ | 7, _ => rfl
  | 8, _ | 9, _ | 10, _ | 11, _ | 12, _ | 13, _ | 14, _ | 15, _ => rfl
  | _ + 16, hbits => omega

theorem acceptHeader_data (discarded : Nat) {header : UInt8}
    (h : header.toNat % 16 = 8 ∨ header.toNat % 16 = 9) :
    acceptHeader discarded header = (none, ⟨.lengthHigh header, discarded⟩) := by
  rcases h with h | h
  · simp [acceptHeader_eq, h]
  · simp [acceptHeader_eq, h]

theorem feed_header (discarded : Nat) (header : UInt8) (rest : Bytes) :
    feed ⟨.header, discarded⟩ (header :: rest) =
      ((acceptHeader discarded header).1.toList ++ ((acceptHeader discarded header).2.feed rest).1,
        ((acceptHeader discarded header).2.feed rest).2) := rfl

theorem push_append_eq (b : UInt8) (more : Bytes) :
    (#[] : Array UInt8).push b ++ more = (b :: more).toArray := by simp

/-- A clock sample is complete with its sixteenth byte. -/
theorem feed_clock (discarded : Nat) {sample : Bytes} (h : sample.length ≤ 16) :
    feed ⟨.clock #[], discarded⟩ sample =
      if sample.length < 16 then ([], ⟨.clock sample.toArray, discarded⟩)
      else ([.clock (clockTime sample)], ⟨.header, discarded⟩) := by
  cases sample with
  | nil => rfl
  | cons b more =>
    have hwanted : more.length < (⟨.clock #[], discarded⟩ : Assembler).stage.wanted := h
    rw [feed_eq_accept hwanted]
    simp only [accept, push_append_eq, List.size_toArray, Stage.clockLength]
    split <;> rfl

/-- A payload is complete with its last byte; one without bytes was complete with its length. -/
theorem feed_payload (discarded : Nat) (header : UInt8) {length : Nat} {payload : Bytes}
    (hpos : 0 < length) (h : payload.length ≤ length) :
    feed ⟨.payload header length #[], discarded⟩ payload =
      if payload.length < length then ([], ⟨.payload header length payload.toArray, discarded⟩)
      else ((frameEvent? header payload).toList, ⟨.header, discarded⟩) := by
  cases payload with
  | nil =>
    rw [if_pos (by simpa using hpos)]
    rfl
  | cons b more =>
    have hwanted : more.length <
        (⟨.payload header length #[], discarded⟩ : Assembler).stage.wanted := h
    rw [feed_eq_accept hwanted]
    simp only [accept, push_append_eq, List.size_toArray]
    split <;> rfl

theorem feed_length (discarded : Nat) (header high low : UInt8) {payload : Bytes}
    (h : payload.length ≤ Bytes.toNat [high, low]) :
    feed ⟨.lengthHigh header, discarded⟩ (high :: low :: payload) =
      if payload.length < Bytes.toNat [high, low] then
        ([], ⟨.payload header (Bytes.toNat [high, low]) payload.toArray, discarded⟩)
      else ((frameEvent? header payload).toList, ⟨.header, discarded⟩) := by
  by_cases hzero : Bytes.toNat [high, low] = 0
  · have hnil : payload = [] := List.length_eq_zero_iff.1 (by omega)
    subst hnil
    simp [feed_cons, accept, hzero, frameEvent?, Frame.ofPayload?, Except.toOption]
  · rw [← feed_payload discarded header (Nat.pos_of_ne_zero hzero) h]
    simp [feed_cons, accept, hzero]

open StreamUnit

/-- A unit gives its events and leaves nothing behind. -/
theorem feed_unit (discarded : Nat) (u : StreamUnit) :
    feed ⟨.header, discarded⟩ u.bytes =
      (u.events, ⟨.header, discarded + if u.isOther then 1 else 0⟩) := by
  cases u with
  | hello header | closing header | closed header | established header =>
    obtain ⟨header, h⟩ := header
    simp [bytes, events, isOther, acceptHeader_eq, h, feed_cons, accept]
  | clock header sample =>
    obtain ⟨header, h⟩ := header
    obtain ⟨sample, hsample⟩ := sample
    simp only [bytes, events, isOther, feed_header, acceptHeader_eq, h,
      feed_clock discarded (Nat.le_of_eq hsample), hsample]
    rfl
  | data header hheader payload hpayload =>
    obtain ⟨high, low, hdigits, hlength⟩ := exists_lengthDigits hpayload
    have hfeed := feed_length discarded header high low (Nat.le_of_eq hlength.symm)
    rw [hlength, if_neg (Nat.lt_irrefl _)] at hfeed
    have hevents : (frameEvent? header payload).toList =
        events (.data header hheader payload hpayload) := by
      rcases payload with _ | ⟨_, _ | ⟨_, _⟩⟩
      · rfl
      · rfl
      · rfl
    have haccept := acceptHeader_data discarded hheader
    simp [bytes, isOther, feed_header, haccept, hdigits, hfeed, hevents]
  | other header hheader =>
    have haccept : acceptHeader discarded header = (none, ⟨.header, discarded + 1⟩) := by
      rw [acceptHeader_eq]
      split <;> simp_all
    simp [bytes, events, isOther, feed_header, haccept]

theorem feed_units (discarded : Nat) (units : List StreamUnit) :
    feed ⟨.header, discarded⟩ (units.flatMap bytes) =
      (units.flatMap events, ⟨.header, discarded + units.countP isOther⟩) := by
  induction units generalizing discarded with
  | nil => rfl
  | cons u units ih =>
    simp only [List.flatMap_cons, feed_append, feed_unit, ih, List.countP_cons, Prod.mk.injEq,
      mk.injEq, true_and]
    omega

/-- A part of a unit gives nothing and is kept. -/
theorem feed_unfinished (discarded : Nat) {tail : Bytes} (htail : Unfinished tail) :
    ∃ stage, feed ⟨.header, discarded⟩ tail = ([], ⟨stage, discarded⟩) ∧
      (stage = .header ↔ tail = []) := by
  cases StreamUnit.short_of_front? (front?_of_unfinished htail) with
  | header => exact ⟨.header, rfl, by simp⟩
  | @established header rest h =>
    obtain ⟨header, h3⟩ := header
    rcases rest with _ | ⟨keepAlive, _ | ⟨high, _ | ⟨low, rest⟩⟩⟩
    · exact ⟨.keepAlive, by simp [feed_header, acceptHeader_eq, h3], by simp⟩
    · exact ⟨.sessionHigh keepAlive, by simp [acceptHeader_eq, h3, feed_cons, accept], by simp⟩
    · refine ⟨.sessionLow keepAlive high, ?_, by simp⟩
      simp [acceptHeader_eq, h3, feed_cons, accept]
    · exact absurd h (by simp)
  | @clock header rest h =>
    obtain ⟨header, h5⟩ := header
    refine ⟨.clock rest.toArray, ?_, by simp⟩
    simp [feed_header, acceptHeader_eq, h5, feed_clock discarded (Nat.le_of_lt h), h]
  | @length header hheader rest h =>
    have haccept := acceptHeader_data discarded hheader
    rcases rest with _ | ⟨high, _ | ⟨low, rest⟩⟩
    · exact ⟨.lengthHigh header, by simp [feed_header, haccept], by simp⟩
    · exact ⟨.lengthLow header high, by simp [haccept, feed_cons, accept], by simp⟩
    · exact absurd h (by simp)
  | @payload header hheader high low payload h =>
    have haccept := acceptHeader_data discarded hheader
    refine ⟨.payload header (Bytes.toNat [high, low]) payload.toArray, ?_, by simp⟩
    simp [feed_header, haccept, feed_length discarded header high low (Nat.le_of_lt h), h]

/-- **Draining follows the grammar.**  Every byte string is in exactly one way a sequence of units
and a part of one more.  Draining it gives the events of the units in their order, counts those that
start nothing and takes every byte. -/
theorem drain_parse (stream : Bytes) (discarded : Nat) :
    ∃ units tail, IsParse stream units tail ∧
      (∀ units' tail', IsParse stream units' tail' → units' = units ∧ tail' = tail) ∧
      let (events, failure, a, rest) := drain ⟨.header, discarded⟩ stream
      events = units.flatMap StreamUnit.events ∧
        a.discarded = discarded + units.countP StreamUnit.isOther ∧
        failure = none ∧ rest = [] ∧ (a.isIdle ↔ tail = []) := by
  obtain ⟨units, tail, hparse⟩ := exists_parse stream
  refine ⟨units, tail, hparse, fun _ _ h => parse_unique hparse h, ?_⟩
  obtain ⟨rfl, htail⟩ := hparse
  obtain ⟨stage, hfeed, hstage⟩ := feed_unfinished (discarded + units.countP isOther) htail
  have hpartial : (⟨.header, discarded⟩ : Assembler).stage.Partial := trivial
  rw [drain_bytes hpartial, feed_append, feed_units, hfeed]
  exact ⟨List.append_nil _, rfl, rfl, rfl, by simpa [isIdle] using hstage⟩

end Assembler

end Multiplayer
