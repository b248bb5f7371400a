import Multiplayer.Text.Utf8

/-!
# Reading UTF-8 back

The sequence that spells a scalar value is the first segment of any byte string that begins with
it, so a text is cut into its scalar values again.  No other bytes are: a byte string that is
accepted is the sequence of its scalar values.

* `segments_encodeChar`: one scalar value in front of any bytes.
* `segments_encode`: a whole text in front of any bytes.
* `decode_encode`: strict decoding gives the text back.
* `eq_append_of_front`: what is taken for a scalar value is the sequence that spells it.
* `encode_of_decode`: an accepted byte string is the only spelling of its text.
-/

namespace Multiplayer.Utf8

/-! ## Lead bytes -/

theorem lead?_two : ∀ n < 32, 2 ≤ n →
    lead? (UInt8.ofNat (n + 192)) = some ⟨1, 0x80, 0xBF, n⟩ := by
  decide

/-- After the first lead byte of this kind overlong forms are excluded, and after the fourteenth
surrogates. -/
theorem lead?_three : ∀ n < 16, lead? (UInt8.ofNat (n + 224)) =
    some ⟨2, if n = 0 then 0xA0 else 0x80, if n = 13 then 0x9F else 0xBF, n⟩ := by
  decide

theorem lead?_four : ∀ n < 5, lead? (UInt8.ofNat (n + 240)) =
    some ⟨3, if n = 0 then 0x90 else 0x80, if n = 4 then 0x8F else 0xBF, n⟩ := by
  decide

theorem front_of_lead {n : Nat} {lead : Lead} (hlow : 128 ≤ n) (hhigh : n < 256)
    (h : lead? (UInt8.ofNat n) = some lead) (rest : Bytes) :
    front (UInt8.ofNat n) rest = follow lead.count lead.low lead.high lead.bits 1 rest := by
  have hbyte : ¬ UInt8.ofNat n < 0x80 := by
    rw [UInt8.lt_iff_toNat_lt, UInt8.toNat_ofNat_of_lt' hhigh]
    exact Nat.not_lt.2 hlow
  rw [front, if_neg hbyte, h]

/-! ## Continuation bytes -/

/-- A continuation byte within its bounds adds its six bits. -/
theorem follow_succ {low high : UInt8} {r : Nat} (hr : r < 64) (hlow : low.toNat ≤ r + 128)
    (hhigh : r + 128 ≤ high.toNat) (count bits taken : Nat) (rest : Bytes) :
    follow (count + 1) low high bits taken (UInt8.ofNat (r + 128) :: rest) =
      follow count 0x80 0xBF (64 * bits + r) (taken + 1) rest := by
  have hbyte : (UInt8.ofNat (r + 128)).toNat = r + 128 :=
    UInt8.toNat_ofNat_of_lt' (Nat.lt_trans (Nat.add_lt_add_right hr 128) (by decide))
  have hbounds : low ≤ UInt8.ofNat (r + 128) ∧ UInt8.ofNat (r + 128) ≤ high := by
    rw [UInt8.le_iff_toNat_le, UInt8.le_iff_toNat_le, hbyte]
    exact ⟨hlow, hhigh⟩
  rw [follow, if_pos hbounds, hbyte, Nat.add_sub_cancel]

/-- Any continuation byte is within the usual bounds. -/
theorem follow_succ_usual {r : Nat} (hr : r < 64) (count bits taken : Nat) (rest : Bytes) :
    follow (count + 1) 0x80 0xBF bits taken (UInt8.ofNat (r + 128) :: rest) =
      follow count 0x80 0xBF (64 * bits + r) (taken + 1) rest := by
  have hlow : (0x80 : UInt8).toNat ≤ r + 128 := Nat.le_add_left 128 r
  have hhigh : r + 128 ≤ (0xBF : UInt8).toNat := by
    change r + 128 ≤ 191
    omega
  exact follow_succ hr hlow hhigh count bits taken rest

/-! ## Scalar values -/

theorem segments_of_front {b : UInt8} {more rest : Bytes} {c : Char}
    (h : front b (more ++ rest) = (.scalar c, rest)) :
    segments (b :: more ++ rest) = .scalar c :: segments rest := by
  rw [List.cons_append, segments, h]

-- The cases are the lengths of the sequence.  Only the first continuation byte can be out of
-- bounds, and it is not because `c` is no surrogate and needs as many bytes as it has.
theorem segments_encodeChar (c : Char) (rest : Bytes) :
    segments (String.utf8EncodeChar c ++ rest) = .scalar c :: segments rest := by
  have hvalid : c.val.toNat < 0xD800 ∨ 0xDFFF < c.val.toNat ∧ c.val.toNat < 0x110000 := c.valid
  have hchar : Char.ofNat c.val.toNat = c := Char.ofNat_toNat c
  simp only [String.utf8EncodeChar]
  generalize c.val.toNat = v at hvalid hchar
  split
  · refine segments_of_front ?_
    have hv : v < 256 := by omega
    have hascii : UInt8.ofNat v < 0x80 := by
      rw [UInt8.lt_iff_toNat_lt, UInt8.toNat_ofNat_of_lt' hv]
      change v < 128
      omega
    rw [front, if_pos hascii, UInt8.toNat_ofNat_of_lt' hv, hchar]
    rfl
  split
  · refine segments_of_front ?_
    have hlead : v / 64 % 32 = v / 64 := by omega
    have hbits : 64 * (v / 64) + v % 64 = v := Nat.div_add_mod v 64
    rw [hlead, front_of_lead (by omega) (by omega) (lead?_two (v / 64) (by omega) (by omega))]
    simp only [List.cons_append, List.nil_append]
    rw [follow_succ_usual (by omega), hbits, follow, hchar]
  split
  · refine segments_of_front ?_
    have hlead : v / 4096 % 16 = v / 4096 := by omega
    have hbits : 64 * (64 * (v / 4096) + v / 64 % 64) + v % 64 = v := by omega
    rw [hlead, front_of_lead (by omega) (by omega) (lead?_three (v / 4096) (by omega))]
    simp only [List.cons_append, List.nil_append]
    rw [follow_succ (by omega), follow_succ_usual (by omega), hbits, follow, hchar]
    · split
      · change 160 ≤ _
        omega
      · exact Nat.le_add_left 128 _
    · split
      · change _ ≤ 159
        omega
      · change _ ≤ 191
        omega
  · refine segments_of_front ?_
    have hlead : v / 262144 % 8 = v / 262144 := by omega
    have hbits : 64 * (64 * (64 * (v / 262144) + v / 4096 % 64) + v / 64 % 64) + v % 64 = v := by
      omega
    rw [hlead, front_of_lead (by omega) (by omega) (lead?_four (v / 262144) (by omega))]
    simp only [List.cons_append, List.nil_append]
    rw [follow_succ (by omega), follow_succ_usual (by omega), follow_succ_usual (by omega), hbits,
      follow, hchar]
    · split
      · change 144 ≤ _
        omega
      · exact Nat.le_add_left 128 _
    · split
      · change _ ≤ 143
        omega
      · change _ ≤ 191
        omega

/-! ## Texts -/

theorem encode_append (text more : List Char) :
    encode (text ++ more) = encode text ++ encode more :=
  List.flatMap_append

theorem segments_encode (text : List Char) (rest : Bytes) :
    segments (encode text ++ rest) = text.map .scalar ++ segments rest := by
  induction text with
  | nil => rfl
  | cons c text ih =>
    have hencode : encode (c :: text) = String.utf8EncodeChar c ++ encode text := rfl
    rw [hencode, List.append_assoc, segments_encodeChar, ih]
    rfl

theorem join_scalars (index : Nat) (text : List Char) :
    join index (text.map .scalar) = .ok text := by
  induction text generalizing index with
  | nil => rfl
  | cons c text ih =>
    simp only [List.map_cons, join]
    rw [ih]
    rfl

theorem segments_encode_nil (text : List Char) : segments (encode text) = text.map .scalar := by
  have hsegments := segments_encode text []
  rwa [List.append_nil, segments, List.append_nil] at hsegments

theorem decode_encode (text : List Char) : decode (encode text) = .ok text := by
  rw [decode, segments_encode_nil]
  exact join_scalars 0 text

theorem encode_injective : Function.Injective encode := by
  intro text text' h
  have hdecode : (.ok text : Except Fault _) = .ok text' := by
    rw [← decode_encode, h, decode_encode]
  exact Except.ok.inj hdecode

/-! ## The only spelling -/

theorem exists_of_lead? {b : UInt8} {lead : Lead} (h : lead? b = some lead) :
    (∃ n < 32, 2 ≤ n ∧ b = UInt8.ofNat (n + 192)) ∨ (∃ n < 16, b = UInt8.ofNat (n + 224)) ∨
      ∃ n < 5, b = UInt8.ofNat (n + 240) := by
  have hbyte {base : Nat} (hbase : base ≤ b.toNat) : b = UInt8.ofNat (b.toNat - base + base) := by
    rw [Nat.sub_add_cancel hbase, UInt8.ofNat_toNat]
  simp only [lead?, UInt8.lt_iff_toNat_lt, UInt8.reduceToNat] at h
  split at h
  · cases h
  split at h
  · exact .inl ⟨b.toNat - 192, by omega, by omega, hbyte (by omega)⟩
  split at h
  · exact .inr (.inl ⟨b.toNat - 224, by omega, hbyte (by omega)⟩)
  split at h
  · exact .inr (.inr ⟨b.toNat - 240, by omega, hbyte (by omega)⟩)
  · cases h

/-- A sequence that is well formed goes on with a continuation byte within its bounds. -/
theorem exists_of_follow_succ {count bits taken : Nat} {low high : UInt8} {bytes rest : Bytes}
    {c : Char} (h : follow (count + 1) low high bits taken bytes = (.scalar c, rest))
    (hbounds : 128 ≤ low.toNat) :
    ∃ r more, bytes = UInt8.ofNat (r + 128) :: more ∧ low.toNat ≤ r + 128 ∧
      r + 128 ≤ high.toNat ∧
      follow count 0x80 0xBF (64 * bits + r) (taken + 1) more = (.scalar c, rest) := by
  cases bytes with
  | nil => cases h
  | cons b more =>
    rw [follow] at h
    split at h
    · rename_i hb
      rw [UInt8.le_iff_toNat_le, UInt8.le_iff_toNat_le] at hb
      have hsum : b.toNat - 128 + 128 = b.toNat := by omega
      refine ⟨b.toNat - 128, more, ?_, by omega, by omega, h⟩
      rw [hsum, UInt8.ofNat_toNat]
    · cases h

/-- Between the usual bounds there are 64 continuation bytes. -/
theorem exists_of_follow_succ_usual {count bits taken : Nat} {bytes rest : Bytes} {c : Char}
    (h : follow (count + 1) 0x80 0xBF bits taken bytes = (.scalar c, rest)) :
    ∃ r more, bytes = UInt8.ofNat (r + 128) :: more ∧ r < 64 ∧
      follow count 0x80 0xBF (64 * bits + r) (taken + 1) more = (.scalar c, rest) := by
  obtain ⟨r, more, hbytes, -, hr, hmore⟩ := exists_of_follow_succ h (Nat.le_refl 128)
  have hr : r + 128 ≤ 191 := hr
  exact ⟨r, more, hbytes, by omega, hmore⟩

/-- The bounds may be narrower, in some cases the lower and in others the upper. -/
theorem exists_of_follow_succ_narrow {p q : Prop} [Decidable p] [Decidable q]
    {count bits taken : Nat} {low high : UInt8} {bytes rest : Bytes} {c : Char}
    (hlow : 128 ≤ low.toNat) (hhigh : high.toNat ≤ 191)
    (h : follow (count + 1) (if p then low else 0x80) (if q then high else 0xBF) bits taken bytes =
      (.scalar c, rest)) :
    ∃ r more, bytes = UInt8.ofNat (r + 128) :: more ∧
      (r < 64 ∧ (p → low.toNat ≤ r + 128) ∧ (q → r + 128 ≤ high.toNat)) ∧
      follow count 0x80 0xBF (64 * bits + r) (taken + 1) more = (.scalar c, rest) := by
  have hbounds : 128 ≤ (if p then low else 0x80).toNat := by
    split
    · exact hlow
    · exact Nat.le_refl 128
  obtain ⟨r, more, hbytes, hleast, hmost, hmore⟩ := exists_of_follow_succ h hbounds
  refine ⟨r, more, hbytes, ⟨?_, fun hp => ?_, fun hq => ?_⟩, hmore⟩
  · have hmost : r + 128 ≤ 191 := by
      split at hmost
      · exact Nat.le_trans hmost hhigh
      · exact hmost
    omega
  · rwa [if_pos hp] at hleast
  · rwa [if_pos hq] at hmost

theorem encodeChar_ofNat {v : Nat} (h : v < 0xD800 ∨ 0xDFFF < v ∧ v < 0x110000) :
    String.utf8EncodeChar (Char.ofNat v) =
      if v ≤ 0x7F then [UInt8.ofNat v]
      else if v ≤ 0x7FF then [UInt8.ofNat (v / 64 % 32 + 192), UInt8.ofNat (v % 64 + 128)]
      else if v ≤ 0xFFFF then
        [UInt8.ofNat (v / 4096 % 16 + 224), UInt8.ofNat (v / 64 % 64 + 128),
          UInt8.ofNat (v % 64 + 128)]
      else
        [UInt8.ofNat (v / 262144 % 8 + 240), UInt8.ofNat (v / 4096 % 64 + 128),
          UInt8.ofNat (v / 64 % 64 + 128), UInt8.ofNat (v % 64 + 128)] := by
  have hvalue : (Char.ofNat v).val.toNat = v := by
    rw [Char.ofNat, dif_pos h]
    rfl
  simp only [String.utf8EncodeChar, hvalue]

theorem encodeChar_two {n r : Nat} (hn : n < 32) (htwo : 2 ≤ n) (hr : r < 64) :
    String.utf8EncodeChar (Char.ofNat (64 * n + r)) =
      [UInt8.ofNat (n + 192), UInt8.ofNat (r + 128)] := by
  have hlead : (64 * n + r) / 64 % 32 = n := by omega
  have hlast : (64 * n + r) % 64 = r := by omega
  rw [encodeChar_ofNat (by omega), if_neg (by omega), if_pos (by omega), hlead, hlast]

/-- The bounds on the first continuation byte exclude values that need fewer bytes, and
surrogates. -/
theorem encodeChar_three {n r q : Nat} (hn : n < 16) (hr : r < 64) (hq : q < 64)
    (hlow : n = 0 → 0xA0 ≤ r + 128) (hhigh : n = 13 → r + 128 ≤ 0x9F) :
    String.utf8EncodeChar (Char.ofNat (64 * (64 * n + r) + q)) =
      [UInt8.ofNat (n + 224), UInt8.ofNat (r + 128), UInt8.ofNat (q + 128)] := by
  have hlead : (64 * (64 * n + r) + q) / 4096 % 16 = n := by omega
  have hfirst : (64 * (64 * n + r) + q) / 64 % 64 = r := by omega
  have hlast : (64 * (64 * n + r) + q) % 64 = q := by omega
  rw [encodeChar_ofNat (by omega), if_neg (by omega), if_neg (by omega), if_pos (by omega), hlead,
    hfirst, hlast]

theorem encodeChar_four {n r q s : Nat} (hn : n < 5) (hr : r < 64) (hq : q < 64) (hs : s < 64)
    (hlow : n = 0 → 0x90 ≤ r + 128) (hhigh : n = 4 → r + 128 ≤ 0x8F) :
    String.utf8EncodeChar (Char.ofNat (64 * (64 * (64 * n + r) + q) + s)) =
      [UInt8.ofNat (n + 240), UInt8.ofNat (r + 128), UInt8.ofNat (q + 128),
        UInt8.ofNat (s + 128)] := by
  have hlead : (64 * (64 * (64 * n + r) + q) + s) / 262144 % 8 = n := by omega
  have hfirst : (64 * (64 * (64 * n + r) + q) + s) / 4096 % 64 = r := by omega
  have hsecond : (64 * (64 * (64 * n + r) + q) + s) / 64 % 64 = q := by omega
  have hlast : (64 * (64 * (64 * n + r) + q) + s) % 64 = s := by omega
  rw [encodeChar_ofNat (by omega), if_neg (by omega), if_neg (by omega), if_neg (by omega), hlead,
    hfirst, hsecond, hlast]

theorem eq_append_of_front {b : UInt8} {bytes rest : Bytes} {c : Char}
    (h : front b bytes = (.scalar c, rest)) : b :: bytes = String.utf8EncodeChar c ++ rest := by
  unfold front at h
  split at h
  · rename_i hascii
    have hascii : b.toNat < 128 := UInt8.lt_iff_toNat_lt.1 hascii
    cases h
    rw [encodeChar_ofNat (by omega), if_pos (by omega), UInt8.ofNat_toNat]
    rfl
  split at h
  · cases h
  rename_i lead hlead
  rcases exists_of_lead? hlead with ⟨n, hn, htwo, rfl⟩ | ⟨n, hn, rfl⟩ | ⟨n, hn, rfl⟩
  · rw [lead?_two n hn htwo] at hlead
    cases hlead
    obtain ⟨r, more, rfl, hr, h⟩ := exists_of_follow_succ_usual h
    cases h
    rw [encodeChar_two hn htwo hr]
    rfl
  · rw [lead?_three n hn] at hlead
    cases hlead
    obtain ⟨r, more, rfl, ⟨hr, hlow, hhigh⟩, h⟩ :=
      exists_of_follow_succ_narrow (by decide) (by decide) h
    obtain ⟨q, more, rfl, hq, h⟩ := exists_of_follow_succ_usual h
    cases h
    rw [encodeChar_three hn hr hq hlow hhigh]
    rfl
  · rw [lead?_four n hn] at hlead
    cases hlead
    obtain ⟨r, more, rfl, ⟨hr, hlow, hhigh⟩, h⟩ :=
      exists_of_follow_succ_narrow (by decide) (by decide) h
    obtain ⟨q, more, rfl, hq, h⟩ := exists_of_follow_succ_usual h
    obtain ⟨s, more, rfl, hs, h⟩ := exists_of_follow_succ_usual h
    cases h
    rw [encodeChar_four hn hr hq hs hlow hhigh]
    rfl

theorem encode_of_segments {bytes : Bytes} {text : List Char}
    (h : segments bytes = text.map .scalar) : encode text = bytes := by
  fun_induction segments bytes generalizing text with
  | case1 =>
    have hnone : text = [] := by simpa using h.symm
    rw [hnone]
    rfl
  | case2 b rest ih =>
    cases text with
    | nil => cases h
    | cons c text =>
      obtain ⟨hfirst, hothers⟩ := List.cons.inj h
      have hfront : front b rest = (.scalar c, (front b rest).2) := Prod.ext hfirst rfl
      rw [eq_append_of_front hfront, ← ih hothers]
      rfl

theorem eq_scalars_of_join {index : Nat} {segments : List Segment} {text : List Char}
    (h : join index segments = .ok text) : segments = text.map .scalar := by
  induction segments generalizing index text with
  | nil =>
    cases h
    rfl
  | cons segment segments ih =>
    cases segment with
    | scalar c =>
      simp only [join] at h
      cases hmore : join (index + c.utf8Size) segments with
      | error fault =>
        rw [hmore] at h
        cases h
      | ok others =>
        rw [hmore] at h
        cases h
        rw [ih hmore]
        rfl
    | malformed length => cases h
    | incomplete => cases h

/-- A byte string that is accepted is the only spelling of its text. -/
theorem encode_of_decode {bytes : Bytes} {text : List Char} (h : decode bytes = .ok text) :
    encode text = bytes :=
  encode_of_segments (eq_scalars_of_join h)

end Multiplayer.Utf8
