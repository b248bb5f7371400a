import Multiplayer.Proofs.Wire.Passing

/-!
# How far a read goes

A read moves the cursor forward by some bytes and does nothing else to it.

* `Cursor.advance`: the cursor some bytes further on.
* `Decoder.Fixed`: reads that take a fixed number of bytes, or none if these are not all there.
* `Decoder.run_sized_error_iff`: a counted string may fail in its count or behind it.
* `Decoder.run_replicate_error_iff`: a list fails with the first of its elements that does.
-/

namespace Multiplayer

namespace Cursor

variable {c c' : Cursor} {m n : Nat}

/-- The cursor some bytes further on. -/
def advance (c : Cursor) (n : Nat) : Cursor := ⟨c.position + n, c.rest.drop n⟩

@[simp] theorem position_advance (c : Cursor) (n : Nat) :
    (c.advance n).position = c.position + n := rfl

theorem advance_advance (c : Cursor) (m n : Nat) :
    (c.advance m).advance n = c.advance (m + n) := by
  simp only [advance, List.drop_drop, Nat.add_assoc]

@[simp] theorem remaining_advance (c : Cursor) (n : Nat) :
    (c.advance n).remaining = c.remaining - n := by
  simp only [remaining, advance, List.length_drop]

theorem length_advance (h : n ≤ c.remaining) : (c.advance n).length = c.length := by
  simp only [length, remaining_advance, position_advance]
  omega

/-- The number that the next two bytes denote. -/
def count (c : Cursor) : Nat := Bytes.toNat (c.rest.take 2)

/-- Going over the bytes of some writes is going as far as they are long. -/
theorem Passes.eq_advance {ws : List Primitive} (h : c.Passes ws c') :
    c' = c.advance (ws.flatMap Primitive.toBytes).length ∧
      (ws.flatMap Primitive.toBytes).length ≤ c.remaining := by
  obtain ⟨hrest, hposition, -⟩ := h
  constructor
  · rw [advance, ← hposition, hrest, List.drop_left]
  · rw [remaining, hrest, List.length_append]
    exact Nat.le_add_right _ _

end Cursor

namespace Decoder

variable {α β : Type} {c c' : Cursor}

/-! ## Fixed widths -/

/-- The decoder takes a fixed number of bytes and makes a value of them, or takes none if they
are not all there. -/
def Fixed (decoder : Decoder α) (width : Nat) : Prop :=
  ∃ value : Bytes → α, ∀ c : Cursor,
    decoder.run.run c =
      if width ≤ c.remaining then (.ok (value (c.rest.take width)), c.advance width)
      else (.error (.truncated c.position width c.length), c)

theorem fixed_take (n : Nat) : Fixed (take n) n := by
  refine ⟨id, fun c => ?_⟩
  split
  · rename_i h
    exact take_run_of_le h
  · rename_i h
    exact take_run_of_lt (Nat.lt_of_not_le h)

/-- A value that is computed from what was read takes no further bytes. -/
theorem Fixed.map {x : Decoder α} {width : Nat} (hx : Fixed x width) (f : α → β) :
    Fixed (do return f (← x)) width := by
  obtain ⟨value, hrun⟩ := hx
  refine ⟨fun bytes => f (value bytes), fun c => ?_⟩
  rw [Attempt.run_bind, hrun]
  by_cases hroom : width ≤ c.remaining
  · simp only [if_pos hroom]
    rfl
  · simp only [if_neg hroom]

theorem fixed_word (width : Nat) : Fixed (word width) width := (fixed_take width).map _

theorem fixed_uint16 : Fixed uint16 2 := (fixed_word 2).map _

theorem fixed_uint64 : Fixed uint64 8 := (fixed_word 8).map _

namespace Fixed

variable {decoder : Decoder α} {width : Nat} {a : α} {e : WireError}

theorem eq_advance (h : Fixed decoder width) (hrun : decoder.run.run c = (.ok a, c')) :
    c' = c.advance width ∧ width ≤ c.remaining := by
  obtain ⟨value, hvalue⟩ := h
  rw [hvalue] at hrun
  split at hrun
  · rename_i hroom
    cases hrun
    exact ⟨rfl, hroom⟩
  · cases hrun

theorem run_error_iff (h : Fixed decoder width) :
    decoder.run.run c = (.error e, c') ↔
      c.remaining < width ∧ e = .truncated c.position width c.length ∧ c' = c := by
  obtain ⟨value, hvalue⟩ := h
  rw [hvalue]
  constructor
  · intro hrun
    split at hrun
    · cases hrun
    · rename_i hshort
      cases hrun
      exact ⟨Nat.lt_of_not_le hshort, rfl, rfl⟩
  · rintro ⟨hshort, rfl, rfl⟩
    rw [if_neg (Nat.not_le_of_lt hshort)]

end Fixed

/-! ## Counted strings and lists -/

theorem count_lt (c : Cursor) : c.count < UInt16.size := by
  have hdigits : (c.rest.take 2).length ≤ 2 := List.length_take_le 2 c.rest
  exact Nat.lt_of_lt_of_le (Bytes.toNat_lt (c.rest.take 2))
    (Nat.pow_le_pow_right (by decide) hdigits)

theorem toNat_count (c : Cursor) : (UInt16.ofNat c.count).toNat = c.count :=
  UInt16.toNat_ofNat_of_lt' (count_lt c)

theorem run_uint16_of_le (h : 2 ≤ c.remaining) :
    uint16.run.run c = (.ok (UInt16.ofNat c.count), c.advance 2) := by
  rw [uint16, word, Attempt.run_bind, Attempt.run_bind, take_run_of_le h]
  rfl

/-- What stands behind a count is read only if the count is there. -/
theorem run_counted_error_iff {f : UInt16 → Decoder β} {e : WireError} :
    (uint16 >>= f).run.run c = (.error e, c') ↔
      (c.remaining < 2 ∧ e = .truncated c.position 2 c.length ∧ c' = c) ∨
        (2 ≤ c.remaining ∧ (f (UInt16.ofNat c.count)).run.run (c.advance 2) = (.error e, c')) := by
  rw [Attempt.run_bind_error_iff, fixed_uint16.run_error_iff]
  apply or_congr_right
  constructor
  · rintro ⟨n, c₁, hn, hf⟩
    obtain ⟨rfl, hroom⟩ := fixed_uint16.eq_advance hn
    rw [run_uint16_of_le hroom] at hn
    cases hn
    exact ⟨hroom, hf⟩
  · rintro ⟨hroom, hf⟩
    exact ⟨_, _, run_uint16_of_le hroom, hf⟩

theorem run_counted_ok {f : UInt16 → Decoder β} {b : β}
    (h : (uint16 >>= f).run.run c = (.ok b, c')) :
    2 ≤ c.remaining ∧ (f (UInt16.ofNat c.count)).run.run (c.advance 2) = (.ok b, c') := by
  obtain ⟨n, c₁, hn, hf⟩ := Attempt.run_bind_ok h
  obtain ⟨rfl, hroom⟩ := fixed_uint16.eq_advance hn
  rw [run_uint16_of_le hroom] at hn
  cases hn
  exact ⟨hroom, hf⟩

theorem run_sized_error_iff {e : WireError} :
    sized.run.run c = (.error e, c') ↔
      (c.remaining < 2 ∧ e = .truncated c.position 2 c.length ∧ c' = c) ∨
        (2 ≤ c.remaining ∧ c.remaining < 2 + c.count ∧
          e = .truncated (c.position + 2) c.count c.length ∧ c' = c.advance 2) := by
  rw [sized, run_counted_error_iff]
  apply or_congr_right
  apply and_congr_right
  intro hroom
  rw [toNat_count, (fixed_take c.count).run_error_iff, Cursor.length_advance hroom,
    Cursor.remaining_advance, Nat.sub_lt_iff_lt_add' hroom]
  rfl

theorem run_sized_of_le (h : 2 + c.count ≤ c.remaining) :
    sized.run.run c = (.ok ((c.advance 2).rest.take c.count), c.advance (2 + c.count)) := by
  have hroom : c.count ≤ (c.advance 2).remaining := by
    rw [Cursor.remaining_advance]
    omega
  rw [sized, Attempt.run_bind, run_uint16_of_le (by omega)]
  dsimp only
  rw [toNat_count, take_run_of_le hroom, ← Cursor.advance_advance]
  rfl

theorem run_sized_ok {bytes : Bytes} (h : sized.run.run c = (.ok bytes, c')) :
    2 + c.count ≤ c.remaining ∧ bytes = (c.advance 2).rest.take c.count ∧
      c' = c.advance (2 + c.count) := by
  obtain ⟨hcount, hbytes⟩ := run_counted_ok h
  rw [toNat_count] at hbytes
  obtain ⟨-, hroom⟩ := (fixed_take c.count).eq_advance hbytes
  rw [Cursor.remaining_advance] at hroom
  have hall : 2 + c.count ≤ c.remaining := by omega
  rw [run_sized_of_le hall] at h
  cases h
  exact ⟨hall, rfl, rfl⟩

theorem replicate_succ_run {element : Decoder α} {count : Nat} {a : α} {c₁ : Cursor}
    (h : element.run.run c = (.ok a, c₁)) (others : List α)
    (hothers : (replicate element count).run.run c₁ = (.ok others, c')) :
    (replicate element (count + 1)).run.run c = (.ok (a :: others), c') := by
  rw [replicate, Attempt.run_bind, h]
  dsimp only
  rw [Attempt.run_bind, hothers]
  rfl

-- By induction on the count; what stands before the element that fails grows at its front.
/-- A list fails with the first of its elements that does, behind those before it. -/
theorem run_replicate_error_iff {element : Decoder α} {count : Nat} {e : WireError} :
    (replicate element count).run.run c = (.error e, c') ↔
      ∃ earlier c₁, earlier.length < count ∧
        (replicate element earlier.length).run.run c = (.ok earlier, c₁) ∧
        element.run.run c₁ = (.error e, c') := by
  induction count generalizing c with
  | zero =>
    constructor
    · intro h
      cases h
    · rintro ⟨earlier, c₁, hcount, -⟩
      exact absurd hcount (Nat.not_lt_zero _)
  | succ count ih =>
    rw [replicate, Attempt.run_bind_error_iff]
    constructor
    · rintro (hfirst | ⟨a, c₁, ha, hothers⟩)
      · exact ⟨[], c, Nat.succ_pos count, rfl, hfirst⟩
      · rcases Attempt.run_bind_error_iff.1 hothers with hothers | ⟨_, _, _, hnone⟩
        · obtain ⟨earlier, c₂, hcount, hearlier, hfails⟩ := ih.1 hothers
          exact ⟨a :: earlier, c₂, Nat.succ_lt_succ hcount, replicate_succ_run ha earlier hearlier,
            hfails⟩
        · cases hnone
    · rintro ⟨_ | ⟨a, earlier⟩, c₁, hcount, hearlier, hfails⟩
      · cases hearlier
        exact .inl hfails
      · obtain ⟨first, c₂, hfirst, hothers⟩ := Attempt.run_bind_ok hearlier
        obtain ⟨others, c₃, hothers, hlist⟩ := Attempt.run_bind_ok hothers
        cases hlist
        refine .inr ⟨a, c₂, hfirst, Attempt.run_bind_error_iff.2 (.inl (ih.2 ?_))⟩
        exact ⟨earlier, c₁, Nat.lt_of_succ_lt_succ hcount, hothers, hfails⟩

end Decoder

end Multiplayer
