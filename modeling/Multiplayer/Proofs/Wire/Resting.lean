import Multiplayer.Proofs.Wire.Advancing
import Multiplayer.Proofs.Wire.Canonical

/-!
# Where a read leaves the cursor

Reading goes on after an error from where the cursor stands then.  So it matters of every read,
whether it succeeds or fails, how far it has gone.

* `Shape.eq_advance_of_read`: a value that is read has the width in which it is written.
* `Shape.FailsAt`: the ways in which the read of a value fails, each with its error and with the
  place where it leaves the cursor.
* `Shape.run_read_error_iff`: a read fails in exactly these ways.
* `Fetch.leaves_cursor` is the result, for any reads one after another.
-/

namespace Multiplayer

/-! ## Values -/

namespace Shape

variable {c c' : Cursor}

/-- The bytes of every value of the shape, if that is a fixed number; otherwise a count comes
first. -/
def width? : Shape → Option Nat
  | .bool | .uint8 | .int8 => some 1
  | .uint16 | .int16 => some 2
  | .uint32 | .int32 | .float32 => some 4
  | .uint64 | .int64 | .float64 | .time | .duration => some 8
  | .text | .bytes | .list _ => none

theorem length_written_of_width? {shape : Shape} {width : Nat} (h : shape.width? = some width)
    (v : shape.Carrier) : (shape.written v).length = width := by
  cases shape with
  | text | bytes | list => cases h
  | _ =>
    cases h
    simp [written, primitives, Primitive.toBytes]

/-- Only a duration may be refused after its bytes are taken. -/
theorem fixed_read {shape : Shape} {width : Nat} (h : shape.width? = some width)
    (hduration : shape ≠ .duration) : Decoder.Fixed shape.read width := by
  have hword (width : Nat) := Decoder.fixed_word width
  cases shape with
  | text | bytes | list => cases h
  | duration => exact absurd rfl hduration
  | uint8 | uint16 | uint32 | uint64 | float32 | float64 =>
    cases h
    exact (hword _).map _
  | bool | int8 | int16 | int32 | int64 | time =>
    cases h
    exact ((hword _).map _).map _

/-- How the read of a value fails at a cursor: the error, and the cursor that is left. -/
inductive FailsAt : Shape → Cursor → WireError → Cursor → Prop
  /-- A value of a fixed width is not all there; nothing is taken of it. -/
  | fixed {shape : Shape} {width : Nat} {c : Cursor} : shape.width? = some width →
      c.remaining < width → FailsAt shape c (.truncated c.position width c.length) c
  /-- A count is not all there; nothing is taken of it. -/
  | count {shape : Shape} {c : Cursor} : shape.width? = none → c.remaining < 2 →
      FailsAt shape c (.truncated c.position 2 c.length) c
  /-- A string is shorter than its count says; the count is taken. -/
  | string {shape : Shape} {c : Cursor} : shape = .text ∨ shape = .bytes → 2 ≤ c.remaining →
      c.remaining < 2 + c.count →
      FailsAt shape c (.truncated (c.position + 2) c.count c.length) (c.advance 2)
  /-- A text is not UTF-8; all its bytes are taken. -/
  | utf8 {c : Cursor} {fault : Utf8.Fault} : 2 + c.count ≤ c.remaining →
      Utf8.decode ((c.advance 2).rest.take c.count) = .error fault →
      FailsAt .text c (.invalidUtf8 fault) (c.advance (2 + c.count))
  /-- A number of seconds is not a duration; its bytes are taken. -/
  | duration {c : Cursor} {seconds : UInt64} {fault : Duration.Fault} :
      Decoder.uint64.run.run c = (.ok seconds, c.advance 8) →
      Duration.ofSeconds seconds = .error fault →
      FailsAt .duration c (.invalidDuration seconds fault) (c.advance 8)
  /-- An element of a list fails; the count and the elements before it are taken, and what it has
  taken itself. -/
  | element {element : Shape} {c c' : Cursor} {e : WireError} (earlier : List element.Carrier) :
      2 ≤ c.remaining → earlier.length < c.count →
      (Decoder.replicate element.read earlier.length).run.run (c.advance 2) =
        (.ok earlier, c.advance (2 + (earlier.flatMap element.written).length)) →
      FailsAt element (c.advance (2 + (earlier.flatMap element.written).length)) e c' →
      FailsAt (.list element) c e c'

/-! ## Values that are read -/

theorem eq_advance_of_fixed {shape : Shape} {width : Nat} (hwidth : shape.width? = some width)
    (hduration : shape ≠ .duration) {v : shape.Carrier}
    (h : shape.read.run.run c = (.ok v, c')) :
    c' = c.advance (shape.written v).length ∧ (shape.written v).length ≤ c.remaining := by
  rw [length_written_of_width? hwidth]
  exact (fixed_read hwidth hduration).eq_advance h

theorem eq_advance_of_replicate {element : Shape} {count : Nat} {elements : List element.Carrier}
    (helement : ∀ {c c' : Cursor} {v : element.Carrier}, element.read.run.run c = (.ok v, c') →
      c' = c.advance (element.written v).length ∧ (element.written v).length ≤ c.remaining)
    (h : (Decoder.replicate element.read count).run.run c = (.ok elements, c')) :
    c' = c.advance (elements.flatMap element.written).length ∧
      (elements.flatMap element.written).length ≤ c.remaining := by
  induction count generalizing c elements with
  | zero =>
    cases h
    exact ⟨rfl, Nat.zero_le _⟩
  | succ count ih =>
    obtain ⟨v, c₁, hv, h⟩ := Attempt.run_bind_ok h
    obtain ⟨others, c₂, hothers, h⟩ := Attempt.run_bind_ok h
    cases h
    obtain ⟨rfl, hfirst⟩ := helement hv
    obtain ⟨rfl, hrest⟩ := ih hothers
    rw [Cursor.remaining_advance] at hrest
    rw [List.flatMap_cons, List.length_append, Cursor.advance_advance]
    exact ⟨rfl, by omega⟩

/-- A value that is read has the width in which it is written. -/
theorem eq_advance_of_read {shape : Shape} {v : shape.Carrier}
    (h : shape.read.run.run c = (.ok v, c')) :
    c' = c.advance (shape.written v).length ∧ (shape.written v).length ≤ c.remaining := by
  induction shape generalizing c c' with
  | text => exact (Decoder.passes_text h).eq_advance
  | bytes => exact (Decoder.passes_sized h).eq_advance
  | duration =>
    obtain ⟨seconds, c₁, hseconds, hv⟩ := Attempt.run_bind_ok h
    obtain ⟨rfl, hroom⟩ := Decoder.fixed_uint64.eq_advance hseconds
    rw [length_written_of_width? rfl]
    cases hduration : Duration.ofSeconds seconds with
    | error fault =>
      rw [hduration] at hv
      cases hv
    | ok duration =>
      rw [hduration] at hv
      cases hv
      exact ⟨rfl, hroom⟩
  | list element ih =>
    obtain ⟨hcount, helements⟩ := Decoder.run_counted_ok h
    obtain ⟨rfl, hroom⟩ := eq_advance_of_replicate ih helements
    rw [Cursor.remaining_advance] at hroom
    rw [written_list, List.length_append, Bytes.length_ofNat, Cursor.advance_advance]
    exact ⟨rfl, by omega⟩
  | _ => exact eq_advance_of_fixed rfl (by simp) h

/-! ## Values that cannot be read -/

theorem failsAt_of_fixed {shape : Shape} {width : Nat} {e : WireError}
    (hwidth : shape.width? = some width) (hduration : shape ≠ .duration)
    (h : shape.read.run.run c = (.error e, c')) : shape.FailsAt c e c' := by
  obtain ⟨hshort, rfl, rfl⟩ := (fixed_read hwidth hduration).run_error_iff.1 h
  exact .fixed hwidth hshort

theorem failsAt_of_sized {shape : Shape} {e : WireError} (hshape : shape = .text ∨ shape = .bytes)
    (h : Decoder.sized.run.run c = (.error e, c')) : shape.FailsAt c e c' := by
  have hcounted : shape.width? = none := by
    rcases hshape with rfl | rfl
    · rfl
    · rfl
  rcases Decoder.run_sized_error_iff.1 h with ⟨hcount, rfl, rfl⟩ | ⟨hcount, hshort, rfl, rfl⟩
  · exact .count hcounted hcount
  · exact .string hshape hcount hshort

theorem failsAt_of_read {shape : Shape} {e : WireError}
    (h : shape.read.run.run c = (.error e, c')) : shape.FailsAt c e c' := by
  induction shape generalizing c c' with
  | text =>
    rcases Attempt.run_bind_error_iff.1 h with hbytes | ⟨bytes, c₁, hbytes, htext⟩
    · exact failsAt_of_sized (.inl rfl) hbytes
    · obtain ⟨hroom, rfl, rfl⟩ := Decoder.run_sized_ok hbytes
      cases hdecode : Utf8.decode ((c.advance 2).rest.take c.count) with
      | ok text =>
        rw [hdecode] at htext
        cases htext
      | error fault =>
        rw [hdecode] at htext
        cases htext
        exact .utf8 hroom hdecode
  | bytes => exact failsAt_of_sized (.inr rfl) h
  | duration =>
    rcases Attempt.run_bind_error_iff.1 h with hnumber | ⟨seconds, c₁, hseconds, hduration⟩
    · obtain ⟨hshort, rfl, rfl⟩ := Decoder.fixed_uint64.run_error_iff.1 hnumber
      exact .fixed rfl hshort
    · obtain ⟨rfl, -⟩ := Decoder.fixed_uint64.eq_advance hseconds
      cases hofSeconds : Duration.ofSeconds seconds with
      | ok duration =>
        rw [hofSeconds] at hduration
        cases hduration
      | error fault =>
        rw [hofSeconds] at hduration
        cases hduration
        exact .duration hseconds hofSeconds
  | list element ih =>
    rcases Decoder.run_counted_error_iff.1 h with ⟨hcount, rfl, rfl⟩ | ⟨hcount, helements⟩
    · exact .count rfl hcount
    · rw [Decoder.toNat_count] at helements
      obtain ⟨earlier, c₁, hlength, hearlier, hfails⟩ :=
        Decoder.run_replicate_error_iff.1 helements
      obtain ⟨rfl, -⟩ := eq_advance_of_replicate eq_advance_of_read hearlier
      rw [Cursor.advance_advance] at hearlier hfails
      exact .element earlier hcount hlength hearlier (ih hfails)
  | _ => exact failsAt_of_fixed rfl (by simp) h

theorem run_read_of_failsAt {shape : Shape} {e : WireError} (h : shape.FailsAt c e c') :
    shape.read.run.run c = (.error e, c') := by
  induction h with
  | @fixed shape width c hwidth hshort =>
    by_cases hduration : shape = .duration
    · subst hduration
      cases hwidth
      have hnumber := Decoder.fixed_uint64.run_error_iff.2 ⟨hshort, rfl, rfl⟩
      exact Attempt.run_bind_error_iff.2 (.inl hnumber)
    · exact (fixed_read hwidth hduration).run_error_iff.2 ⟨hshort, rfl, rfl⟩
  | @count shape c hcounted hshort =>
    have hsized := Decoder.run_sized_error_iff.2 (.inl ⟨hshort, rfl, rfl⟩)
    cases shape with
    | text => exact Attempt.run_bind_error_iff.2 (.inl hsized)
    | bytes => exact hsized
    | list element => exact Decoder.run_counted_error_iff.2 (.inl ⟨hshort, rfl, rfl⟩)
    | _ => cases hcounted
  | string hshape hcount hshort =>
    have hsized := Decoder.run_sized_error_iff.2 (.inr ⟨hcount, hshort, rfl, rfl⟩)
    rcases hshape with rfl | rfl
    · exact Attempt.run_bind_error_iff.2 (.inl hsized)
    · exact hsized
  | utf8 hroom hdecode =>
    refine Attempt.run_bind_error_iff.2 (.inr ⟨_, _, Decoder.run_sized_of_le hroom, ?_⟩)
    rw [hdecode]
    rfl
  | duration hseconds hofSeconds =>
    refine Attempt.run_bind_error_iff.2 (.inr ⟨_, _, hseconds, ?_⟩)
    rw [hofSeconds]
    rfl
  | element earlier hcount hlength hearlier _ ih =>
    refine Decoder.run_counted_error_iff.2 (.inr ⟨hcount, ?_⟩)
    rw [Decoder.toNat_count]
    exact Decoder.run_replicate_error_iff.2 ⟨earlier, _, hlength, hearlier, ih⟩

/-- The read of a value fails in exactly these ways. -/
theorem run_read_error_iff {shape : Shape} {e : WireError} :
    shape.read.run.run c = (.error e, c') ↔ shape.FailsAt c e c' :=
  ⟨failsAt_of_read, run_read_of_failsAt⟩

namespace FailsAt

variable {shape : Shape} {e : WireError}

theorem exists_advance (h : shape.FailsAt c e c') : ∃ n ≤ c.remaining, c' = c.advance n := by
  induction h with
  | fixed | count => exact ⟨0, Nat.zero_le _, rfl⟩
  | string _ hcount _ => exact ⟨2, hcount, rfl⟩
  | utf8 hroom _ => exact ⟨_, hroom, rfl⟩
  | duration hseconds _ => exact ⟨8, (Decoder.fixed_uint64.eq_advance hseconds).2, rfl⟩
  | element earlier hcount _ hearlier _ ih =>
    obtain ⟨-, hroom⟩ := eq_advance_of_replicate eq_advance_of_read hearlier
    obtain ⟨n, hn, rfl⟩ := ih
    rw [Cursor.remaining_advance] at hroom hn
    rw [Cursor.advance_advance]
    exact ⟨_, by omega, rfl⟩

/-- A read that runs past the end says where it stands and how long the payload is, and it asks
for more than is left there. -/
theorem eq_of_truncated {offset needed length : Nat}
    (h : shape.FailsAt c (.truncated offset needed length) c') :
    offset = c'.position ∧ length = c.length ∧ c'.remaining < needed := by
  generalize he : WireError.truncated offset needed length = e at h
  induction h with
  | fixed _ hshort | count _ hshort =>
    cases he
    exact ⟨rfl, rfl, hshort⟩
  | @string shape c _ hcount hshort =>
    cases he
    refine ⟨rfl, rfl, ?_⟩
    rw [Cursor.remaining_advance]
    omega
  | utf8 | duration => cases he
  | element earlier hcount _ hearlier _ ih =>
    obtain ⟨-, hroom⟩ := eq_advance_of_replicate eq_advance_of_read hearlier
    obtain ⟨hoffset, hlength, hneeded⟩ := ih he
    rw [Cursor.remaining_advance] at hroom
    rw [Cursor.length_advance (by omega)] at hlength
    exact ⟨hoffset, hlength, hneeded⟩

end FailsAt

end Shape

/-! ## Reads one after another -/

/-- One read: a value of some shape, or some bytes as they are. -/
inductive Fetch where
  | value (shape : Shape)
  | take (n : Nat)

namespace Fetch

variable {c c' : Cursor}

abbrev Result : Fetch → Type
  | .value shape => shape.Carrier
  | .take _ => Bytes

def decoder : (fetch : Fetch) → Decoder fetch.Result
  | .value shape => shape.read
  | .take n => Decoder.take n

/-- The bytes in which the result is written. -/
def bytes : (fetch : Fetch) → fetch.Result → Bytes
  | .value shape, v => shape.written v
  | .take _, taken => taken

/-- How the read fails at a cursor: the error, and the cursor that is left. -/
def FailsAt : Fetch → Cursor → WireError → Cursor → Prop
  | .value shape, c, e, c' => shape.FailsAt c e c'
  | .take n, c, e, c' => c.remaining < n ∧ e = .truncated c.position n c.length ∧ c' = c

/-- The cursor after some reads, each from where the one before it has left the cursor. -/
def after (fetches : List Fetch) (c : Cursor) : Cursor :=
  fetches.foldl (fun c fetch => (fetch.decoder.run.run c).2) c

theorem run_error_iff {fetch : Fetch} {e : WireError} :
    fetch.decoder.run.run c = (.error e, c') ↔ fetch.FailsAt c e c' := by
  cases fetch with
  | value shape => exact Shape.run_read_error_iff
  | take n => exact (Decoder.fixed_take n).run_error_iff

theorem eq_advance_of_ok {fetch : Fetch} {v : fetch.Result}
    (h : fetch.decoder.run.run c = (.ok v, c')) :
    c' = c.advance (fetch.bytes v).length ∧ (fetch.bytes v).length ≤ c.remaining := by
  cases fetch with
  | value shape => exact Shape.eq_advance_of_read h
  | take n =>
    obtain ⟨-, hlength, -⟩ := Decoder.take_run_ok h
    show c' = c.advance v.length ∧ v.length ≤ c.remaining
    rw [hlength]
    exact (Decoder.fixed_take n).eq_advance h

theorem exists_advance (fetch : Fetch) (c : Cursor) :
    ∃ n ≤ c.remaining, (fetch.decoder.run.run c).2 = c.advance n := by
  rcases hrun : fetch.decoder.run.run c with ⟨e | v, c'⟩
  · have hfails := run_error_iff.1 hrun
    cases fetch with
    | value shape => exact hfails.exists_advance
    | take n => exact ⟨0, Nat.zero_le _, hfails.2.2⟩
  · obtain ⟨hadvance, hroom⟩ := eq_advance_of_ok hrun
    exact ⟨_, hroom, hadvance⟩

theorem eq_of_truncated {fetch : Fetch} {offset needed length : Nat}
    (h : fetch.FailsAt c (.truncated offset needed length) c') :
    offset = c'.position ∧ length = c.length ∧ c'.remaining < needed := by
  cases fetch with
  | value shape => exact Shape.FailsAt.eq_of_truncated h
  | take n =>
    obtain ⟨hshort, he, rfl⟩ := h
    cases he
    exact ⟨rfl, rfl, hshort⟩

end Fetch

/-- The cursor stands in the payload, in front of the rest of it. -/
structure Cursor.StandsIn (c : Cursor) (payload : Bytes) : Prop where
  position_le : c.position ≤ payload.length
  rest : c.rest = payload.drop c.position

namespace Cursor.StandsIn

variable {c : Cursor} {payload : Bytes}

theorem ofBytes (payload : Bytes) : (Cursor.ofBytes payload).StandsIn payload :=
  ⟨Nat.zero_le _, rfl⟩

theorem remaining (h : c.StandsIn payload) : c.remaining = payload.length - c.position := by
  rw [Cursor.remaining, h.rest, List.length_drop]

theorem length (h : c.StandsIn payload) : c.length = payload.length := by
  rw [Cursor.length, h.remaining]
  exact Nat.add_sub_cancel' h.position_le

theorem advance (h : c.StandsIn payload) {n : Nat} (hn : n ≤ c.remaining) :
    (c.advance n).StandsIn payload := by
  constructor
  · have hposition := h.position_le
    rw [h.remaining] at hn
    rw [position_advance]
    omega
  · show c.rest.drop n = payload.drop (c.position + n)
    rw [h.rest, List.drop_drop]

theorem fetch (h : c.StandsIn payload) (fetch : Fetch) :
    (fetch.decoder.run.run c).2.StandsIn payload := by
  obtain ⟨n, hn, hadvance⟩ := fetch.exists_advance c
  rw [hadvance]
  exact h.advance hn

theorem after (h : c.StandsIn payload) (fetches : List Fetch) :
    (Fetch.after fetches c).StandsIn payload := by
  induction fetches generalizing c with
  | nil => exact h
  | cons fetch fetches ih => exact ih (h.fetch fetch)

end Cursor.StandsIn

/-- **Every read leaves the cursor where it says.**  After any reads, one more moves the cursor
forward within the payload or not at all.  If it succeeds, it has moved by the bytes of its result.
It fails in the ways of `Fetch.FailsAt` and in no other. -/
theorem Fetch.leaves_cursor (payload : Bytes) (earlier : List Fetch) (fetch : Fetch) :
    let c := after earlier (.ofBytes payload)
    let result := (fetch.decoder.run.run c).1
    let c' := (fetch.decoder.run.run c).2
    (c.position ≤ c'.position ∧ c'.position ≤ payload.length ∧
      c'.rest = payload.drop c'.position) ∧
    (∀ v, result = .ok v → c'.position = c.position + (fetch.bytes v).length) ∧
    (∀ e c₁, fetch.decoder.run.run c = (.error e, c₁) ↔ fetch.FailsAt c e c₁) ∧
    ∀ offset needed length, result = .error (.truncated offset needed length) →
      offset = c'.position ∧ length = payload.length ∧ length - offset < needed := by
  intro c result c'
  have hstands : c.StandsIn payload := (Cursor.StandsIn.ofBytes payload).after earlier
  have hafter : c'.StandsIn payload := hstands.fetch fetch
  refine ⟨⟨?_, hafter.position_le, hafter.rest⟩, ?_, fun e c₁ => run_error_iff, ?_⟩
  · obtain ⟨n, -, hadvance⟩ := fetch.exists_advance c
    show c.position ≤ (fetch.decoder.run.run c).2.position
    rw [hadvance]
    exact Nat.le_add_right _ _
  · intro v hv
    have hrun : fetch.decoder.run.run c = (.ok v, c') := Prod.ext hv rfl
    obtain ⟨hadvance, -⟩ := eq_advance_of_ok hrun
    exact congrArg Cursor.position hadvance
  · intro offset needed length herror
    have hrun : fetch.decoder.run.run c = (.error (.truncated offset needed length), c') :=
      Prod.ext herror rfl
    obtain ⟨rfl, rfl, hneeded⟩ := eq_of_truncated (run_error_iff.1 hrun)
    refine ⟨rfl, hstands.length, ?_⟩
    rw [hstands.length, ← hafter.remaining]
    exact hneeded

/-- The second string of a list is shorter than it says: the count of the list, the first string
and the count of the second are taken.  Then a number does not find its bytes and takes none. -/
example : Fetch.after [.value (.list .bytes), .value .uint32]
    (.ofBytes [0, 2, 0, 1, 97, 0, 3, 7]) = ⟨7, [7]⟩ := by
  decide

end Multiplayer
