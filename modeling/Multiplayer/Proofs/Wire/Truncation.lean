import Multiplayer.Proofs.Wire.Filling
import Multiplayer.Proofs.Wire.RoundTrip

/-!
# Payloads that are cut short

Numbers have a fixed width, and strings and lists stand behind their count.  So a decoder knows
how far it has to go before it gives a value, and never takes the beginning of a value for the
whole of it.

* `Decoder.RunsOut`: a read that asks for more bytes than are left and fails for that.
* `Decoder.NeedsAll`: the read of every proper beginning of some bytes runs out.  Decoders that
  are made of others need all that those need.
* `Shape.needsAll`: a value needs all of its bytes, by induction on its shape.
* `WireValue.readAll_of_cut` is the result.
-/

namespace Multiplayer

/-- Bytes that are cut short are cut behind a part of them, or within that part. -/
theorem Bytes.cut_append {bytes more cut missing : Bytes} (h : bytes ++ more = cut ++ missing) :
    (∃ part, cut = bytes ++ part ∧ more = part ++ missing) ∨
      ∃ lacking, bytes = cut ++ lacking ∧ lacking ≠ [] := by
  rcases List.append_eq_append_iff.1 h with hbehind | ⟨lacking, hbytes, hlacking⟩
  · exact .inl hbehind
  · by_cases hnone : lacking = []
    · subst hnone
      rw [List.append_nil] at hbytes
      exact .inl ⟨[], by rw [hbytes, List.append_nil], hlacking.symm⟩
    · exact .inr ⟨lacking, hbytes, hnone⟩

namespace Decoder

variable {α β : Type} {c : Cursor}

/-- The read asks for more bytes than are left where it stops, and that is its error. -/
def RunsOut (decoder : Decoder α) (c : Cursor) : Prop :=
  ∃ needed c', decoder.run.run c = (.error (.truncated c'.position needed c'.length), c') ∧
    c'.length = c.length ∧ c'.remaining < needed

/-- The decoder runs out if the bytes end anywhere before their end. -/
def NeedsAll (decoder : Decoder α) (bytes : Bytes) : Prop :=
  ∀ (position : Nat) (cut missing : Bytes), bytes = cut ++ missing → missing ≠ [] →
    RunsOut decoder ⟨position, cut⟩

theorem RunsOut.bind {x : Decoder α} (hx : RunsOut x c) (f : α → Decoder β) :
    RunsOut (x >>= f) c := by
  obtain ⟨needed, c', hrun, hlength, hneeded⟩ := hx
  refine ⟨needed, c', ?_, hlength, hneeded⟩
  rw [Attempt.run_bind, hrun]

/-- What comes after a read that has succeeded runs out in the same payload. -/
theorem RunsOut.behind {x : Decoder α} {f : α → Decoder β} {bytes : Bytes} {a : α}
    (hx : Reads x bytes a) {position : Nat} {rest : Bytes}
    (hf : RunsOut (f a) ⟨position + bytes.length, rest⟩) :
    RunsOut (x >>= f) ⟨position, bytes ++ rest⟩ := by
  obtain ⟨needed, c', hrun, hlength, hneeded⟩ := hf
  refine ⟨needed, c', ?_, ?_, hneeded⟩
  · rw [hx.run_bind, hrun]
  · rw [hlength]
    simp only [Cursor.length, Cursor.remaining, List.length_append]
    omega

namespace NeedsAll

theorem nil (decoder : Decoder α) : NeedsAll decoder [] := by
  intro position cut missing h hmissing
  exact absurd (List.append_eq_nil_iff.1 h.symm).2 hmissing

theorem bind_left {x : Decoder α} {bytes : Bytes} (hx : NeedsAll x bytes) (f : α → Decoder β) :
    NeedsAll (x >>= f) bytes := by
  intro position cut missing h hmissing
  exact (hx position cut missing h hmissing).bind f

/-- Two reads need the bytes of both, one after the other. -/
theorem bind {x : Decoder α} {f : α → Decoder β} {bytes more : Bytes} {a : α}
    (hreads : Reads x bytes a) (hx : NeedsAll x bytes) (hf : NeedsAll (f a) more) :
    NeedsAll (x >>= f) (bytes ++ more) := by
  intro position cut missing h hmissing
  rcases Bytes.cut_append h with ⟨part, rfl, hpart⟩ | ⟨lacking, hbytes, hlacking⟩
  · exact .behind hreads (hf _ part missing hpart hmissing)
  · exact (hx position cut lacking hbytes hlacking).bind f

end NeedsAll

/-! ## Fixed widths -/

theorem needsAll_take (bytes : Bytes) : NeedsAll (take bytes.length) bytes := by
  intro position cut missing h hmissing
  have hshort : (⟨position, cut⟩ : Cursor).remaining < bytes.length := by
    have hpos := List.length_pos_iff.2 hmissing
    rw [h, List.length_append]
    show cut.length < _
    omega
  exact ⟨bytes.length, ⟨position, cut⟩, take_run_of_lt hshort, rfl, hshort⟩

theorem needsAll_word (width n : Nat) : NeedsAll (word width) (Bytes.ofNat width n) := by
  have hdigits := needsAll_take (Bytes.ofNat width n)
  rw [Bytes.length_ofNat] at hdigits
  exact hdigits.bind_left _

/-- A number that is computed from its digits needs them all. -/
theorem needsAll_number (width n : Nat) (ofNat : Nat → α) :
    NeedsAll (do return ofNat (← word width)) (Bytes.ofNat width n) :=
  (needsAll_word width n).bind_left _

/-! ## Counted strings and lists -/

/-- A count in front of what it counts. -/
theorem NeedsAll.counted {f : UInt16 → Decoder β} {n : Nat} {bytes : Bytes}
    (hn : n < UInt16.size) (hf : NeedsAll (f (UInt16.ofNat n)) bytes) :
    NeedsAll (uint16 >>= f) (Bytes.ofNat 2 n ++ bytes) := by
  have hreads := reads_uint16 (UInt16.ofNat n)
  rw [UInt16.toNat_ofNat_of_lt' hn] at hreads
  exact .bind hreads (needsAll_number 2 n UInt16.ofNat) hf

theorem needsAll_sized {bytes : Bytes} (h : bytes.length < UInt16.size) :
    NeedsAll sized (Bytes.ofNat 2 bytes.length ++ bytes) := by
  apply NeedsAll.counted h
  rw [UInt16.toNat_ofNat_of_lt' h]
  exact needsAll_take bytes

theorem needsAll_replicate {element : Decoder α} {encode : α → Bytes} {elements : List α}
    (hreads : ∀ a ∈ elements, Reads element (encode a) a)
    (hneeds : ∀ a ∈ elements, NeedsAll element (encode a)) :
    NeedsAll (replicate element elements.length) (elements.flatMap encode) := by
  induction elements with
  | nil => exact .nil _
  | cons a elements ih =>
    have hothers := ih (fun b hb => hreads b (List.mem_cons_of_mem a hb)) fun b hb =>
      hneeds b (List.mem_cons_of_mem a hb)
    exact .bind (hreads a List.mem_cons_self) (hneeds a List.mem_cons_self) (hothers.bind_left _)

theorem needsAll_list {element : Decoder α} {encode : α → Bytes} {elements : List α}
    (hcount : elements.length < UInt16.size)
    (hreads : ∀ a ∈ elements, Reads element (encode a) a)
    (hneeds : ∀ a ∈ elements, NeedsAll element (encode a)) :
    NeedsAll (list element) (Bytes.ofNat 2 elements.length ++ elements.flatMap encode) := by
  apply NeedsAll.counted hcount
  rw [UInt16.toNat_ofNat_of_lt' hcount]
  exact needsAll_replicate hreads hneeds

end Decoder

/-! ## One value -/

-- A text is taken as a byte string before it is looked at, so a cut inside a character is no
-- other error.
theorem Shape.needsAll {shape : Shape} {v : shape.Carrier} (hexact : shape.Exact v)
    (hcounts : ∀ n, .count n ∈ shape.primitives v → n < UInt16.size) :
    Decoder.NeedsAll shape.read ((shape.primitives v).flatMap Primitive.toBytes) := by
  induction shape with
  | uint8 | uint16 | uint32 | uint64 | float32 | float64 => exact Decoder.needsAll_number _ _ _
  | bool | int8 | int16 | int32 | int64 | time =>
    exact (Decoder.needsAll_number _ _ _).bind_left _
  | text =>
    have hlength := hcounts _ List.mem_cons_self
    have hsized := Decoder.needsAll_sized hlength
    rw [← Primitive.flatMap_counted] at hsized
    exact hsized.bind_left _
  | bytes =>
    have hlength := hcounts _ List.mem_cons_self
    have hsized := Decoder.needsAll_sized hlength
    rwa [← Primitive.flatMap_counted] at hsized
  | duration => exact hexact.elim
  | list element ih =>
    have hcount := hcounts _ List.mem_cons_self
    have hinner (e : element.Carrier) (he : e ∈ v) (n : Nat)
        (hn : .count n ∈ element.primitives e) : n < UInt16.size :=
      hcounts n (List.mem_cons_of_mem _ (List.mem_flatMap.2 ⟨e, he, hn⟩))
    have hlist := Decoder.needsAll_list hcount
      (fun e he => element.reads (hexact e he) (hinner e he)) fun e he =>
      ih (hexact e he) (hinner e he)
    rwa [← List.flatMap_assoc] at hlist

/-! ## Several values -/

namespace WireValue

/-- The read of several values fails with the first value that cannot be read. -/
theorem run_readAll_error {shapes more : List Shape} {shape : Shape} {c c₁ c' : Cursor}
    {values : List WireValue} {e : WireError}
    (hvalues : (readAll shapes).run.run c = (.ok values, c₁))
    (hfails : shape.read.run.run c₁ = (.error e, c')) :
    (readAll (shapes ++ shape :: more)).run.run c = (.error e, c') := by
  induction shapes generalizing c values with
  | nil =>
    cases hvalues
    rw [List.nil_append, readAll, Attempt.run_bind, hfails]
  | cons first shapes ih =>
    obtain ⟨v, c₂, hv, hvalues⟩ := Attempt.run_bind_ok hvalues
    obtain ⟨others, c₃, hothers, hvalues⟩ := Attempt.run_bind_ok hvalues
    cases hvalues
    rw [List.cons_append, readAll, Attempt.run_bind, hv]
    dsimp only
    rw [Attempt.run_bind, ih hothers]

/-- The values whose bytes are there whole are read, and the read of the next one runs out. -/
theorem exists_runsOut {values : List WireValue} (hexact : ∀ v ∈ values, v.Exact)
    (hcounts : ∀ n, .count n ∈ values.flatMap primitives → n < UInt16.size)
    {cut missing : Bytes} (hcut : (values.flatMap primitives).flatMap Primitive.toBytes =
      cut ++ missing) (hmissing : missing ≠ []) (position : Nat) :
    ∃ whole v others c, values = whole ++ v :: others ∧
      (readAll (whole.map shape)).run.run ⟨position, cut⟩ = (.ok whole, c) ∧
      c.length = position + cut.length ∧ Decoder.RunsOut v.shape.read c := by
  induction values generalizing cut position with
  | nil => exact absurd (List.append_eq_nil_iff.1 hcut.symm).2 hmissing
  | cons v values ih =>
    rw [List.flatMap_cons] at hcounts hcut
    rw [List.flatMap_append] at hcut
    have hfirst : ∀ n, .count n ∈ v.primitives → n < UInt16.size := fun n hn =>
      hcounts n (List.mem_append_left _ hn)
    have hreads : Decoder.Reads v.shape.read (v.primitives.flatMap Primitive.toBytes) v.value :=
      Shape.reads (hexact v List.mem_cons_self) hfirst
    have hneeds : Decoder.NeedsAll v.shape.read (v.primitives.flatMap Primitive.toBytes) :=
      Shape.needsAll (hexact v List.mem_cons_self) hfirst
    rcases Bytes.cut_append hcut with ⟨part, rfl, hpart⟩ | ⟨lacking, hlacking, hsome⟩
    · obtain ⟨whole, w, others, c, rfl, hwhole, hlength, hout⟩ :=
        ih (fun w hw => hexact w (List.mem_cons_of_mem v hw))
          (fun n hn => hcounts n (List.mem_append_right _ hn)) hpart
          (position + (v.primitives.flatMap Primitive.toBytes).length)
      refine ⟨v :: whole, w, others, c, rfl, ?_, ?_, hout⟩
      · rw [List.map_cons, readAll, hreads.run_bind, Attempt.run_bind, hwhole]
        rfl
      · rw [hlength, List.length_append]
        omega
    · exact ⟨[], v, values, ⟨position, cut⟩, rfl, rfl, rfl,
        hneeds position cut lacking hlacking hsome⟩

/-- **A payload that is cut short is noticed.**  Reading the shapes in order from a proper beginning
of the payload gives the first of the values, as they were written, and after them fails for want of
bytes. -/
theorem readAll_of_cut {values : List WireValue} {header : UInt8} {cut missing : Bytes}
    (hexact : ∀ v ∈ values, v.Exact)
    (hfault : (Item.writeAll (values.map item) (.empty header)).fault = none)
    (hcut : (Item.writeAll (values.map item) (.empty header)).payload = cut ++ missing)
    (hmissing : missing ≠ []) :
    ∃ whole v others c c' needed, values = whole ++ v :: others ∧
      (readAll (whole.map shape)).run.run (.ofBytes cut) = (.ok whole, c) ∧
      v.shape.read.run.run c = (.error (.truncated c'.position needed cut.length), c') ∧
      cut.length < c'.position + needed ∧
      (readAll (values.map shape)).run.run (.ofBytes cut) =
        (.error (.truncated c'.position needed cut.length), c') := by
  rw [Item.fault_writeAll] at hfault
  have hfit := Primitive.fit_iff.2 hfault
  rw [Item.writeAll_of_fit header hfit] at hcut
  rw [allPrimitives_map_item] at hfit hcut
  obtain ⟨whole, v, others, c, rfl, hwhole, hlength, needed, c', hrun, hsame, hneeded⟩ :=
    exists_runsOut hexact hfit.1 hcut hmissing 0
  have hpayload : c'.length = cut.length := by rw [hsame, hlength, Nat.zero_add]
  rw [hpayload] at hrun
  refine ⟨whole, v, others, c, c', needed, rfl, hwhole, hrun, ?_, ?_⟩
  · rw [← hpayload]
    exact Nat.add_lt_add_left hneeded _
  · rw [List.map_append, List.map_cons]
    exact run_readAll_error hwhole hrun

/-- The last value is lists of texts, and the payload ends inside the first character. -/
theorem readAll_of_cut_assorted :
    let payload := (Item.writeAll (assorted.reverse.map item) (.empty 0x39)).payload
    let cut := payload.take 32
    (∀ v ∈ assorted.reverse, v.Exact) ∧
      (Item.writeAll (assorted.reverse.map item) (.empty 0x39)).fault = none ∧
      payload = cut ++ payload.drop 32 ∧ payload.drop 32 ≠ [] ∧
      ∃ whole v others c c' needed, assorted.reverse = whole ++ v :: others ∧
        (readAll (whole.map shape)).run.run (.ofBytes cut) = (.ok whole, c) ∧
        v.shape.read.run.run c = (.error (.truncated c'.position needed cut.length), c') ∧
        cut.length < c'.position + needed ∧
        (readAll (assorted.reverse.map shape)).run.run (.ofBytes cut) =
          (.error (.truncated c'.position needed cut.length), c') := by
  intro payload cut
  have hexact : ∀ v ∈ assorted.reverse, v.Exact := by
    intro v hv
    exact exact_assorted v (List.mem_reverse.1 hv)
  have hfault : (Item.writeAll (assorted.reverse.map item) (.empty 0x39)).fault = none := by decide
  have hcut : payload = cut ++ payload.drop 32 := (List.take_append_drop 32 payload).symm
  have hmissing : payload.drop 32 ≠ [] := by decide
  exact ⟨hexact, hfault, hcut, hmissing, readAll_of_cut hexact hfault hcut hmissing⟩

end WireValue

end Multiplayer
