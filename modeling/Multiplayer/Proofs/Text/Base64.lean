import Multiplayer.Text.Base64

/-!
# Base64 both ways

What is decoded is what was encoded, and nothing else is accepted: the spare bits of a padded group
are zero, and a pad stands nowhere but at the end.

* `value?_digit` and `digit_of_value?`: the alphabet and the values of its characters.
* `oneByte?_iff`, `twoBytes?_iff`, `threeBytes?_iff`: what the three kinds of groups are made of.
* `decode?_eq_some_iff`: a text is decoded exactly if it is the written form of the bytes.
* `encode_injective`: different byte strings are written differently.
* `isAscii_of_mem_encode`: only ASCII characters are written.
-/

namespace Multiplayer.Base64

/-! ## The alphabet -/

theorem value?_digit : ∀ n < 64, value? (digit n) = some n := by decide

theorem digit_ne_pad : ∀ n < 64, digit n ≠ '=' := by decide

theorem isAscii_digit (n : Nat) : (digit n).toNat < 128 := by
  have hsmall : ∀ n < 63, (digit n).toNat < 128 := by decide
  by_cases hn : n < 63
  · exact hsmall n hn
  · rw [digit, if_neg (by omega), if_neg (by omega), if_neg (by omega), if_neg (by omega)]
    decide

theorem isAscii_of_value? {c : Char} {n : Nat} (h : value? c = some n) : c.toNat < 128 := by
  have hle {high : Char} (hc : c ≤ high) : c.toNat ≤ high.toNat := UInt32.le_iff_toNat_le.1 hc
  simp only [value?] at h
  split at h
  · rename_i hc
    exact Nat.lt_of_le_of_lt (hle hc.2) (by decide)
  split at h
  · rename_i hc
    exact Nat.lt_of_le_of_lt (hle hc.2) (by decide)
  split at h
  · rename_i hc
    exact Nat.lt_of_le_of_lt (hle hc.2) (by decide)
  split at h
  · rename_i hc
    rw [hc]
    decide
  split at h
  · rename_i hc
    rw [hc]
    decide
  · cases h

theorem digit_of_value?_ofNat :
    ∀ m < 128, ∀ n ∈ value? (Char.ofNat m), n < 64 ∧ digit n = Char.ofNat m := by
  decide

theorem digit_of_value? {c : Char} {n : Nat} (h : value? c = some n) : n < 64 ∧ digit n = c := by
  have hchar := digit_of_value?_ofNat c.toNat (isAscii_of_value? h) n
  rw [Char.ofNat_toNat] at hchar
  exact hchar h

/-- The character of a value below 64, and no other, has that value. -/
theorem value?_eq_some_iff {c : Char} {n : Nat} : value? c = some n ↔ n < 64 ∧ c = digit n := by
  constructor
  · intro h
    obtain ⟨hn, hc⟩ := digit_of_value? h
    exact ⟨hn, hc.symm⟩
  · rintro ⟨hn, rfl⟩
    exact value?_digit n hn

/-! ## Groups -/

/-- Six bits and the upper two of six. -/
theorem toNat_firstByte {x y : Nat} (hx : x < 64) (hy : y < 64) :
    (UInt8.ofNat (x * 4 + y / 16)).toNat = x * 4 + y / 16 :=
  UInt8.toNat_ofNat_of_lt' (by change _ < 256; omega)

/-- The lower four of six bits and the upper four of six. -/
theorem toNat_secondByte {y z : Nat} (hz : z < 64) :
    (UInt8.ofNat (y % 16 * 16 + z / 4)).toNat = y % 16 * 16 + z / 4 :=
  UInt8.toNat_ofNat_of_lt' (by change _ < 256; omega)

/-- The lower two of six bits and six bits. -/
theorem toNat_thirdByte {z w : Nat} (hw : w < 64) :
    (UInt8.ofNat (z % 4 * 64 + w)).toNat = z % 4 * 64 + w :=
  UInt8.toNat_ofNat_of_lt' (by change _ < 256; omega)

variable {p q r s : Char} {bytes : Bytes}

theorem oneByte?_iff :
    oneByte? p q = some bytes ↔
      ∃ a : UInt8, bytes = [a] ∧ p = digit (a.toNat / 4) ∧ q = digit (a.toNat % 4 * 16) := by
  constructor
  · intro h
    simp only [oneByte?, Option.bind_eq_bind, Option.bind_eq_some_iff,
      Option.ite_none_right_eq_some, Option.some.injEq, value?_eq_some_iff] at h
    obtain ⟨x, ⟨hx, rfl⟩, y, ⟨hy, rfl⟩, hspare, rfl⟩ := h
    have hbyte := toNat_firstByte hx hy
    refine ⟨_, rfl, ?_, ?_⟩
    · rw [hbyte, show (x * 4 + y / 16) / 4 = x by omega]
    · rw [hbyte, show (x * 4 + y / 16) % 4 * 16 = y by omega]
  · rintro ⟨a, rfl, rfl, rfl⟩
    have ha := a.toNat_lt
    have hspare : a.toNat % 4 * 16 % 16 = 0 := by omega
    have hbyte : a.toNat / 4 * 4 + a.toNat % 4 * 16 / 16 = a.toNat := by omega
    simp only [oneByte?, value?_digit _ (show a.toNat / 4 < 64 by omega),
      value?_digit _ (show a.toNat % 4 * 16 < 64 by omega), Option.bind_eq_bind, Option.bind_some,
      hspare, if_true, hbyte, UInt8.ofNat_toNat]

theorem twoBytes?_iff :
    twoBytes? p q r = some bytes ↔
      ∃ a b : UInt8, bytes = [a, b] ∧ p = digit (a.toNat / 4) ∧
        q = digit (a.toNat % 4 * 16 + b.toNat / 16) ∧ r = digit (b.toNat % 16 * 4) := by
  constructor
  · intro h
    simp only [twoBytes?, Option.bind_eq_bind, Option.bind_eq_some_iff,
      Option.ite_none_right_eq_some, Option.some.injEq, value?_eq_some_iff] at h
    obtain ⟨x, ⟨hx, rfl⟩, y, ⟨hy, rfl⟩, z, ⟨hz, rfl⟩, hspare, rfl⟩ := h
    have hfirst := toNat_firstByte hx hy
    have hsecond := toNat_secondByte (y := y) hz
    refine ⟨_, _, rfl, ?_, ?_, ?_⟩
    · rw [hfirst, show (x * 4 + y / 16) / 4 = x by omega]
    · rw [hfirst, hsecond,
        show (x * 4 + y / 16) % 4 * 16 + (y % 16 * 16 + z / 4) / 16 = y by omega]
    · rw [hsecond, show (y % 16 * 16 + z / 4) % 16 * 4 = z by omega]
  · rintro ⟨a, b, rfl, rfl, rfl, rfl⟩
    have ha := a.toNat_lt
    have hb := b.toNat_lt
    have hspare : b.toNat % 16 * 4 % 4 = 0 := by omega
    have hfirst : a.toNat / 4 * 4 + (a.toNat % 4 * 16 + b.toNat / 16) / 16 = a.toNat := by omega
    have hsecond : (a.toNat % 4 * 16 + b.toNat / 16) % 16 * 16 + b.toNat % 16 * 4 / 4 = b.toNat := by
      omega
    simp only [twoBytes?, value?_digit _ (show a.toNat / 4 < 64 by omega),
      value?_digit _ (show a.toNat % 4 * 16 + b.toNat / 16 < 64 by omega),
      value?_digit _ (show b.toNat % 16 * 4 < 64 by omega), Option.bind_eq_bind, Option.bind_some,
      hspare, if_true, hfirst, hsecond, UInt8.ofNat_toNat]

theorem threeBytes?_iff :
    threeBytes? p q r s = some bytes ↔
      ∃ a b c : UInt8, bytes = [a, b, c] ∧ p = digit (a.toNat / 4) ∧
        q = digit (a.toNat % 4 * 16 + b.toNat / 16) ∧
        r = digit (b.toNat % 16 * 4 + c.toNat / 64) ∧ s = digit (c.toNat % 64) := by
  constructor
  · intro h
    simp only [threeBytes?, Option.bind_eq_bind, Option.bind_eq_some_iff, Option.some.injEq,
      value?_eq_some_iff] at h
    obtain ⟨x, ⟨hx, rfl⟩, y, ⟨hy, rfl⟩, z, ⟨hz, rfl⟩, w, ⟨hw, rfl⟩, rfl⟩ := h
    have hfirst := toNat_firstByte hx hy
    have hsecond := toNat_secondByte (y := y) hz
    have hthird := toNat_thirdByte (z := z) hw
    refine ⟨_, _, _, rfl, ?_, ?_, ?_, ?_⟩
    · rw [hfirst, show (x * 4 + y / 16) / 4 = x by omega]
    · rw [hfirst, hsecond,
        show (x * 4 + y / 16) % 4 * 16 + (y % 16 * 16 + z / 4) / 16 = y by omega]
    · rw [hsecond, hthird,
        show (y % 16 * 16 + z / 4) % 16 * 4 + (z % 4 * 64 + w) / 64 = z by omega]
    · rw [hthird, show (z % 4 * 64 + w) % 64 = w by omega]
  · rintro ⟨a, b, c, rfl, rfl, rfl, rfl, rfl⟩
    have ha := a.toNat_lt
    have hb := b.toNat_lt
    have hc := c.toNat_lt
    have hfirst : a.toNat / 4 * 4 + (a.toNat % 4 * 16 + b.toNat / 16) / 16 = a.toNat := by omega
    have hsecond : (a.toNat % 4 * 16 + b.toNat / 16) % 16 * 16 +
        (b.toNat % 16 * 4 + c.toNat / 64) / 4 = b.toNat := by
      omega
    have hthird : (b.toNat % 16 * 4 + c.toNat / 64) % 4 * 64 + c.toNat % 64 = c.toNat := by omega
    simp only [threeBytes?, value?_digit _ (show a.toNat / 4 < 64 by omega),
      value?_digit _ (show a.toNat % 4 * 16 + b.toNat / 16 < 64 by omega),
      value?_digit _ (show b.toNat % 16 * 4 + c.toNat / 64 < 64 by omega),
      value?_digit _ (show c.toNat % 64 < 64 by omega), Option.bind_eq_bind, Option.bind_some,
      hfirst, hsecond, hthird, UInt8.ofNat_toNat]

/-! ## Whole texts -/

/-- A group that does not end with a pad has three bytes, also at the end of a text. -/
theorem decode?_group (hs : s ≠ '=') (rest : List Char) :
    decode? (p :: q :: r :: s :: rest) =
      (threeBytes? p q r s).bind fun group => (decode? rest).map (group ++ ·) := by
  rw [decode?]
  · cases threeBytes? p q r s <;> cases decode? rest <;> rfl
  · exact fun _ hs' _ => hs hs'
  · exact fun hs' _ => hs hs'

theorem decode?_encode (bytes : Bytes) : decode? (encode bytes) = some bytes := by
  fun_induction encode bytes with
  | case1 => rfl
  | case2 a => exact oneByte?_iff.2 ⟨a, rfl, rfl, rfl⟩
  | case3 a b =>
    have hb := b.toNat_lt
    have hpad := digit_ne_pad _ (show b.toNat % 16 * 4 < 64 by omega)
    rw [decode?]
    · exact twoBytes?_iff.2 ⟨a, b, rfl, rfl, rfl, rfl⟩
    · exact hpad
  | case4 a b c rest ih =>
    have hpad := digit_ne_pad _ (show c.toNat % 64 < 64 by omega)
    have hgroup := threeBytes?_iff.2 ⟨a, b, c, rfl, rfl, rfl, rfl, rfl⟩
    rw [decode?_group hpad, hgroup, ih]
    rfl

theorem encode_of_decode? {text : List Char} {bytes : Bytes} (h : decode? text = some bytes) :
    encode bytes = text := by
  fun_induction decode? text generalizing bytes with
  | case1 =>
    cases h
    rfl
  | case2 p q =>
    obtain ⟨a, rfl, rfl, rfl⟩ := oneByte?_iff.1 h
    rfl
  | case3 p q r =>
    obtain ⟨a, b, rfl, rfl, rfl, rfl⟩ := twoBytes?_iff.1 h
    rfl
  | case4 p q r s rest _ _ ih =>
    simp only [Option.bind_eq_bind, Option.bind_eq_some_iff, Option.some.injEq] at h
    obtain ⟨group, hgroup, more, hmore, rfl⟩ := h
    obtain ⟨a, b, c, rfl, rfl, rfl, rfl, rfl⟩ := threeBytes?_iff.1 hgroup
    rw [← ih hmore]
    rfl
  | case5 => cases h

/-- A text is decoded exactly if it is the written form of the bytes. -/
theorem decode?_eq_some_iff {text : List Char} {bytes : Bytes} :
    decode? text = some bytes ↔ text = encode bytes := by
  constructor
  · exact fun h => (encode_of_decode? h).symm
  · rintro rfl
    exact decode?_encode bytes

theorem encode_injective : Function.Injective encode := by
  intro bytes bytes' h
  have hdecode : some bytes = some bytes' := by rw [← decode?_encode, h, decode?_encode]
  exact Option.some.inj hdecode

/-- Only ASCII characters are written. -/
theorem isAscii_of_mem_encode {bytes : Bytes} {c : Char} (h : c ∈ encode bytes) :
    c.toNat < 128 := by
  fun_induction encode bytes with
  | case1 => cases h
  | case2 a =>
    simp only [List.mem_cons, List.not_mem_nil, or_false] at h
    rcases h with rfl | rfl | rfl | rfl
    · exact isAscii_digit _
    · exact isAscii_digit _
    · decide
    · decide
  | case3 a b =>
    simp only [List.mem_cons, List.not_mem_nil, or_false] at h
    rcases h with rfl | rfl | rfl | rfl
    · exact isAscii_digit _
    · exact isAscii_digit _
    · exact isAscii_digit _
    · decide
  | case4 a b c' rest ih =>
    simp only [List.mem_cons] at h
    rcases h with rfl | rfl | rfl | rfl | h
    · exact isAscii_digit _
    · exact isAscii_digit _
    · exact isAscii_digit _
    · exact isAscii_digit _
    · exact ih h

theorem encode_eq_nil_iff {bytes : Bytes} : encode bytes = [] ↔ bytes = [] :=
  ⟨fun h => encode_injective h, fun h => congrArg encode h⟩

end Multiplayer.Base64
