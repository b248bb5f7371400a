import Multiplayer.Proofs.Text.Utf8

/-!
# Lenient decoding

What lenient decoding gives was there: a character that is no replacement is spelled out in the
bytes, and a text without replacements is spelled by all of them.  So ASCII bytes and ASCII
characters, which nothing else is made of, come and go together.

* `infix_of_mem_decodeLossy`: a character of the text stands in the bytes.
* `decodeLossy_encode` and `encode_decodeLossy`: without replacements nothing is changed.
* `mem_encode_iff`: an ASCII byte is an ASCII character.
-/

namespace Multiplayer.Utf8

/-! ## Where a character comes from -/

theorem suffix_follow (count : Nat) (low high : UInt8) (bits taken : Nat) (rest : Bytes) :
    (follow count low high bits taken rest).2 <:+ rest := by
  fun_induction follow count low high bits taken rest with
  | case1 => exact List.suffix_refl _
  | case2 => exact List.suffix_refl _
  | case3 count low high bits taken b rest _ ih => exact ih.trans (List.suffix_cons b rest)
  | case4 => exact List.suffix_refl _

theorem suffix_front (b : UInt8) (rest : Bytes) : (front b rest).2 <:+ rest := by
  unfold front
  split
  · exact List.suffix_refl _
  · split
    · exact List.suffix_refl _
    · exact suffix_follow ..

theorem infix_of_mem_segments {bytes : Bytes} {c : Char} (h : .scalar c ∈ segments bytes) :
    String.utf8EncodeChar c <:+: bytes := by
  fun_induction segments bytes with
  | case1 => cases h
  | case2 b rest ih =>
    rcases List.mem_cons.1 h with hfirst | hlater
    · have hfront : front b rest = (.scalar c, (front b rest).2) := Prod.ext hfirst.symm rfl
      exact ⟨[], (front b rest).2, (eq_append_of_front hfront).symm⟩
    · have hsuffix := (suffix_front b rest).trans (List.suffix_cons b rest)
      exact (ih hlater).trans hsuffix.isInfix

/-- A character that is no replacement is spelled out in the bytes. -/
theorem infix_of_mem_decodeLossy {bytes : Bytes} {c : Char} (hc : c ≠ '\uFFFD')
    (h : c ∈ decodeLossy bytes) : String.utf8EncodeChar c <:+: bytes := by
  obtain ⟨segment, hsegment, rfl⟩ := List.mem_map.1 h
  cases segment with
  | scalar c => exact infix_of_mem_segments hsegment
  | malformed => exact absurd rfl hc
  | incomplete => exact absurd rfl hc

/-! ## Texts without replacements -/

theorem decodeLossy_encode (text : List Char) : decodeLossy (encode text) = text := by
  rw [decodeLossy, segments_encode_nil, List.map_map]
  exact List.map_id text

theorem eq_scalars_of_not_mem {segments : List Segment}
    (h : '\uFFFD' ∉ segments.map Segment.toChar) :
    segments = (segments.map Segment.toChar).map .scalar := by
  induction segments with
  | nil => rfl
  | cons segment segments ih =>
    obtain ⟨hfirst, hlater⟩ := List.ne_and_not_mem_of_not_mem_cons h
    cases segment with
    | scalar c => exact congrArg (.scalar c :: ·) (ih hlater)
    | malformed => exact absurd rfl hfirst
    | incomplete => exact absurd rfl hfirst

/-- Bytes in which nothing had to be replaced are the spelling of their text. -/
theorem encode_decodeLossy {bytes : Bytes} (h : '\uFFFD' ∉ decodeLossy bytes) :
    encode (decodeLossy bytes) = bytes :=
  encode_of_segments (eq_scalars_of_not_mem h)

/-! ## ASCII -/

theorem toNat_ofNat_of_isAscii {n : Nat} (h : n < 128) : (Char.ofNat n).toNat = n := by
  rw [Char.ofNat, dif_pos (.inl (by omega))]
  rfl

theorem encodeChar_of_isAscii {c : Char} (h : c.toNat < 128) :
    String.utf8EncodeChar c = [UInt8.ofNat c.toNat] := by
  have hchar := encodeChar_ofNat (v := c.toNat) (by omega)
  rwa [Char.ofNat_toNat, if_pos (by omega)] at hchar

theorem length_encode_of_isAscii {text : List Char} (h : ∀ c ∈ text, c.toNat < 128) :
    (encode text).length = text.length := by
  induction text with
  | nil => rfl
  | cons c text ih =>
    obtain ⟨hc, htext⟩ := List.forall_mem_cons.1 h
    have hencode : encode (c :: text) = String.utf8EncodeChar c ++ encode text := rfl
    rw [hencode, encodeChar_of_isAscii hc, List.singleton_append, List.length_cons, ih htext,
      List.length_cons]

/-- An ASCII byte stands for itself in whatever sequence it is. -/
theorem eq_of_mem_encodeChar {b : UInt8} {c : Char} (hb : b.toNat < 128)
    (h : b ∈ String.utf8EncodeChar c) : c = Char.ofNat b.toNat := by
  have hchar : Char.ofNat c.val.toNat = c := Char.ofNat_toNat c
  have hhigh {n : Nat} (hlow : 128 ≤ n) (hn : n < 256) : b ≠ UInt8.ofNat n := by
    rintro rfl
    rw [UInt8.toNat_ofNat_of_lt' hn] at hb
    omega
  simp only [String.utf8EncodeChar] at h
  generalize c.val.toNat = v at h hchar
  -- Only a sequence of one byte has a byte below 128.
  split at h
  · obtain rfl := List.mem_singleton.1 h
    rw [UInt8.toNat_ofNat_of_lt' (by change _ < 256; omega), hchar]
  split at h
  · simp only [List.mem_cons, List.not_mem_nil, or_false] at h
    rcases h with h | h <;> exact absurd h (hhigh (by omega) (by omega))
  split at h
  · simp only [List.mem_cons, List.not_mem_nil, or_false] at h
    rcases h with h | h | h <;> exact absurd h (hhigh (by omega) (by omega))
  · simp only [List.mem_cons, List.not_mem_nil, or_false] at h
    rcases h with h | h | h | h <;> exact absurd h (hhigh (by omega) (by omega))

theorem mem_encode_iff {b : UInt8} (hb : b.toNat < 128) {text : List Char} :
    b ∈ encode text ↔ Char.ofNat b.toNat ∈ text := by
  have hascii := toNat_ofNat_of_isAscii hb
  constructor
  · intro h
    obtain ⟨c, hc, hmem⟩ := List.mem_flatMap.1 h
    rwa [← eq_of_mem_encodeChar hb hmem]
  · intro h
    refine List.mem_flatMap.2 ⟨_, h, ?_⟩
    rw [encodeChar_of_isAscii (by omega), hascii, UInt8.ofNat_toNat]
    exact List.mem_singleton_self b

end Multiplayer.Utf8
