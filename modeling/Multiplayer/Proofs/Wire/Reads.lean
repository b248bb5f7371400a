import Multiplayer.Proofs.Text.Utf8
import Multiplayer.Wire.Cursor

/-!
# What a decoder reads in front of any bytes

`Reads` says of a decoder that some bytes make it give a value, wherever they stand and whatever
is behind them, and that it takes these bytes and no others.  Decoders that are made of others
read what those read, one after another.

* `Reads.bind`: the bytes of two reads, one after the other.
* `reads_word`, `reads_sized`, `reads_text`, `reads_list`: the digits of a number, a counted byte
  string, a text and a counted list are read as what they were made of.
-/

namespace Multiplayer.Decoder

variable {α β : Type}

/-- The decoder gives `a` and takes exactly `bytes`, in front of any other bytes. -/
def Reads (decoder : Decoder α) (bytes : Bytes) (a : α) : Prop :=
  ∀ (position : Nat) (rest : Bytes),
    decoder.run.run ⟨position, bytes ++ rest⟩ = (.ok a, ⟨position + bytes.length, rest⟩)

namespace Reads

theorem pure (a : α) : Reads (Pure.pure a) [] a := fun _ _ => rfl

/-- What comes after the bytes of a read stands right behind them. -/
theorem run_bind {x : Decoder α} {f : α → Decoder β} {bytes : Bytes} {a : α}
    (hx : Reads x bytes a) (position : Nat) (rest : Bytes) :
    (x >>= f).run.run ⟨position, bytes ++ rest⟩ =
      (f a).run.run ⟨position + bytes.length, rest⟩ := by
  rw [Attempt.run_bind, hx]

theorem bind {x : Decoder α} {f : α → Decoder β} {bytes more : Bytes} {a : α} {b : β}
    (hx : Reads x bytes a) (hf : Reads (f a) more b) : Reads (x >>= f) (bytes ++ more) b := by
  intro position rest
  rw [List.append_assoc, hx.run_bind, hf, List.length_append, Nat.add_assoc]

/-- A value that is computed from what was read takes no further bytes. -/
theorem bind_pure {x : Decoder α} {f : α → Decoder β} {bytes : Bytes} {a : α} {b : β}
    (hx : Reads x bytes a) (hf : f a = Pure.pure b) : Reads (x >>= f) bytes b := by
  have hmore : Reads (f a) [] b := hf ▸ Reads.pure b
  have hboth := hx.bind hmore
  rwa [List.append_nil] at hboth

theorem map {x : Decoder α} {bytes : Bytes} {a : α} (hx : Reads x bytes a) (f : α → β) :
    Reads (f <$> x) bytes (f a) :=
  hx.bind_pure (f := fun a => Pure.pure (f a)) rfl

end Reads

/-! ## Fixed widths -/

theorem reads_take (bytes : Bytes) : Reads (take bytes.length) bytes bytes := by
  intro position rest
  have hsplit : splitAt? bytes.length (bytes ++ rest) = some (bytes, rest) :=
    splitAt?_eq_some_iff.2 ⟨rfl, rfl⟩
  rw [take_run, hsplit]

theorem reads_word {width n : Nat} (h : n < Nat.pow 256 width) :
    Reads (word width) (Bytes.ofNat width n) n := by
  have hdigits : Reads (take width) (Bytes.ofNat width n) (Bytes.ofNat width n) := by
    have htake := reads_take (Bytes.ofNat width n)
    rwa [Bytes.length_ofNat] at htake
  refine hdigits.bind_pure ?_
  rw [Bytes.toNat_ofNat, Nat.mod_eq_of_lt h]

theorem reads_uint8 (n : UInt8) : Reads uint8 (Bytes.ofNat 1 n.toNat) n := by
  refine (reads_word n.toNat_lt).bind_pure ?_
  rw [UInt8.ofNat_toNat]

theorem reads_uint16 (n : UInt16) : Reads uint16 (Bytes.ofNat 2 n.toNat) n := by
  refine (reads_word n.toNat_lt).bind_pure ?_
  rw [UInt16.ofNat_toNat]

theorem reads_uint32 (n : UInt32) : Reads uint32 (Bytes.ofNat 4 n.toNat) n := by
  refine (reads_word n.toNat_lt).bind_pure ?_
  rw [UInt32.ofNat_toNat]

theorem reads_uint64 (n : UInt64) : Reads uint64 (Bytes.ofNat 8 n.toNat) n := by
  refine (reads_word n.toNat_lt).bind_pure ?_
  rw [UInt64.ofNat_toNat]

/-- A byte that is a value of an enumerated field. -/
theorem reads_enumerated {ofByte? : UInt8 → Except WireError α} {byte : UInt8} {a : α}
    (h : ofByte? byte = .ok a) : Reads (enumerated ofByte?) (Bytes.ofNat 1 byte.toNat) a := by
  refine (reads_uint8 byte).bind_pure ?_
  rw [h]
  rfl

/-! ## Counted strings and lists -/

/-- A count in front of what it counts. -/
theorem Reads.counted {f : UInt16 → Decoder β} {n : Nat} {bytes : Bytes} {b : β}
    (hn : n < UInt16.size) (hf : Reads (f (UInt16.ofNat n)) bytes b) :
    Reads (uint16 >>= f) (Bytes.ofNat 2 n ++ bytes) b := by
  have hcount := reads_uint16 (UInt16.ofNat n)
  rw [UInt16.toNat_ofNat_of_lt' hn] at hcount
  exact hcount.bind hf

theorem reads_sized {bytes : Bytes} (h : bytes.length < UInt16.size) :
    Reads sized (Bytes.ofNat 2 bytes.length ++ bytes) bytes := by
  refine Reads.counted h ?_
  rw [UInt16.toNat_ofNat_of_lt' h]
  exact reads_take bytes

theorem reads_text {string : String} (h : (Utf8.encode string.toList).length < UInt16.size) :
    Reads text (Bytes.ofNat 2 (Utf8.encode string.toList).length ++ Utf8.encode string.toList)
      string := by
  refine (reads_sized h).bind_pure ?_
  rw [Utf8.decode_encode]
  dsimp only
  rw [String.ofList_toList]

theorem reads_replicate {element : Decoder α} {encode : α → Bytes} {elements : List α}
    (h : ∀ a ∈ elements, Reads element (encode a) a) :
    Reads (replicate element elements.length) (elements.flatMap encode) elements := by
  induction elements with
  | nil => exact Reads.pure []
  | cons a elements ih =>
    have hfirst := h a List.mem_cons_self
    have hothers := ih fun b hb => h b (List.mem_cons_of_mem a hb)
    exact hfirst.bind (hothers.bind_pure rfl)

theorem reads_list {element : Decoder α} {encode : α → Bytes} {elements : List α}
    (hcount : elements.length < UInt16.size) (h : ∀ a ∈ elements, Reads element (encode a) a) :
    Reads (list element) (Bytes.ofNat 2 elements.length ++ elements.flatMap encode) elements := by
  refine Reads.counted hcount ?_
  rw [UInt16.toNat_ofNat_of_lt' hcount]
  exact reads_replicate h

/-! ## Whole payloads -/

/-- The decoder gives `a` if exactly `bytes` are left, which it need not all take. -/
def ReadsLast (decoder : Decoder α) (bytes : Bytes) (a : α) : Prop :=
  ∀ position, (decoder.run.run ⟨position, bytes⟩).1 = .ok a

theorem Reads.last {decoder : Decoder α} {bytes : Bytes} {a : α} (h : Reads decoder bytes a) :
    ReadsLast decoder bytes a := by
  intro position
  have hrun := h position []
  rw [List.append_nil] at hrun
  rw [hrun]

theorem ReadsLast.map {x : Decoder α} {bytes : Bytes} {a : α} (hx : ReadsLast x bytes a)
    (f : α → β) : ReadsLast (f <$> x) bytes (f a) := by
  intro position
  have hfirst := hx position
  change ((x >>= fun a => Pure.pure (f a)).run.run ⟨position, bytes⟩).1 = _
  rw [Attempt.run_bind]
  rcases hrun : x.run.run ⟨position, bytes⟩ with ⟨result, c⟩
  rw [hrun] at hfirst
  cases hfirst
  rfl

theorem ReadsLast.decode {decoder : Decoder α} {bytes : Bytes} {a : α}
    (h : ReadsLast decoder bytes a) : decoder.decode bytes = .ok a :=
  h 0

end Multiplayer.Decoder
