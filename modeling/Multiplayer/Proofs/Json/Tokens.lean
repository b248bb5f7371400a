import Multiplayer.Json.Document

/-!
# Strings and numbers as they are printed

A string is read as it was, whichever of its characters are escaped and how.  A number is read as
far as it goes, so what stands behind it does not matter if it does not go on with the number.

* `Hex.digits_succ`: the last digit of a hexadecimal number and the others.
* `Reader.printChar_cases`: the ways to print a character.
* `Reader.units_print`: a piece of a string is read as it was.
* `IsString`, with `Reader.pair_string`: the strings that come back.
* `Reader.numberParts_append`: a number in front of other text.
* `Value.nat?_ofNat`: a natural number is read from its digits.
-/

namespace Multiplayer

/-! ## Hexadecimal digits -/

namespace Hex

theorem digits_one {n : Nat} (h : n < 16) : digits 1 n = [n.digitChar] := by
  simp [digits, Nat.toDigits_of_lt_base h]

theorem digits_succ {width : Nat} (h : 0 < width) (n : Nat) :
    digits (width + 1) n = digits width (n / 16) ++ [(n % 16).digitChar] := by
  by_cases hn : n < 16
  · obtain ⟨width, rfl⟩ := Nat.exists_eq_add_one.2 h
    rw [Nat.div_eq_of_lt hn, Nat.mod_eq_of_lt hn, digits, digits, Nat.toDigits_of_lt_base hn,
      Nat.toDigits_zero]
    simp [List.replicate_succ']
  · rw [digits, digits, Nat.toDigits_of_base_le (by decide) (Nat.le_of_not_lt hn),
      List.length_append, List.length_singleton, Nat.add_sub_add_right, List.append_assoc]

end Hex

namespace Json

namespace Reader

theorem hexValue?_digitChar {n : Nat} (h : n < 16) : hexValue? n.digitChar = some n := by
  have hall : ∀ n < 16, hexValue? n.digitChar = some n := by decide
  exact hall n h

theorem exists_hexDigits {unit : Nat} (h : unit < 65536) :
    ∃ a b c d, Hex.digits 4 unit = [a, b, c, d] ∧ codeUnit? a b c d = some unit := by
  have hdigits : Hex.digits 4 unit =
      [(unit / 16 / 16 / 16).digitChar, (unit / 16 / 16 % 16).digitChar,
        (unit / 16 % 16).digitChar, (unit % 16).digitChar] := by
    rw [Hex.digits_succ (by decide), Hex.digits_succ (by decide), Hex.digits_succ (by decide),
      Hex.digits_one (by omega)]
    rfl
  have hvalue : ((unit / 16 / 16 / 16 * 16 + unit / 16 / 16 % 16) * 16 + unit / 16 % 16) * 16 +
      unit % 16 = unit := by omega
  refine ⟨_, _, _, _, hdigits, ?_⟩
  unfold codeUnit?
  rw [hexValue?_digitChar (by omega), hexValue?_digitChar (by omega),
    hexValue?_digitChar (by omega), hexValue?_digitChar (by omega)]
  exact congrArg some hvalue

/-! ## Strings -/

theorem units_unitEscape {unit : Nat} (h : unit < 65536) (input : List Char) :
    units (unitEscape unit ++ input) = (units input).map (Prod.map (pieceOf unit :: ·) id) := by
  obtain ⟨a, b, c, d, hdigits, hunit⟩ := exists_hexDigits h
  rw [unitEscape, hdigits]
  simp only [List.cons_append, List.nil_append, units, hunit]
  cases units input <;> rfl

theorem units_escape {letter c : Char} (h : escaped? letter = some c) (input : List Char) :
    units ('\\' :: letter :: input) = (units input).map (Prod.map (.scalar c :: ·) id) := by
  have hletter : letter ≠ 'u' := by
    rintro rfl
    cases h
  rw [units]
  · rw [h]
    cases units input <;> rfl
  · rintro _ _ _ _ _ heq
    exact absurd heq hletter

theorem units_plain {c : Char} (hquote : c ≠ '"') (hslash : c ≠ '\\') (hcontrol : ¬ c < ' ')
    (input : List Char) :
    units (c :: input) = (units input).map (Prod.map (.scalar c :: ·) id) := by
  rw [units]
  · rw [if_neg (not_or.2 ⟨hslash, hcontrol⟩)]
    cases units input <;> rfl
  · rintro rfl
    exact hquote rfl
  · rintro _ _ _ _ _ rfl
    exact absurd rfl hslash
  · rintro _ _ rfl
    exact absurd rfl hslash

/-- A character is escaped by a letter of its own, by its number, or not at all. -/
theorem printChar_cases (c : Char) :
    (∃ letter, escaped? letter = some c ∧ printChar c = ['\\', letter]) ∨
      (c < ' ' ∧ printChar c = unitEscape c.toNat) ∨
        (c ≠ '"' ∧ c ≠ '\\' ∧ ¬ c < ' ') ∧ printChar c = [c] := by
  unfold printChar
  iterate 7
    split
    · subst_vars
      exact .inl ⟨_, rfl, rfl⟩
  split
  · exact .inr (.inl ⟨‹_›, rfl⟩)
  · exact .inr (.inr ⟨⟨‹_›, ‹_›, ‹_›⟩, rfl⟩)

theorem units_printChar (c : Char) (input : List Char) :
    units (printChar c ++ input) = (units input).map (Prod.map (.scalar c :: ·) id) := by
  rcases printChar_cases c with ⟨letter, hletter, hprint⟩ | ⟨hcontrol, hprint⟩ |
    ⟨⟨hquote, hslash, hplain⟩, hprint⟩
  · rw [hprint]
    exact units_escape hletter input
  · have hlt : c.toNat < 32 := hcontrol
    rw [hprint, units_unitEscape (by omega), pieceOf, if_neg (by omega), Char.ofNat_toNat]
  · rw [hprint]
    exact units_plain hquote hslash hplain input

end Reader

/-- A surrogate has a number that no character has. -/
def Piece.IsValid : Piece → Prop
  | .scalar _ => True
  | .surrogate unit => 0xD800 ≤ unit ∧ unit < 0xE000

/-- A string as it is read: no two surrogates are left that make a character. -/
structure IsString (pieces : List Piece) : Prop where
  valid : ∀ piece ∈ pieces, piece.IsValid
  unpaired : Reader.pairSurrogates pieces = pieces

theorem isString_piecesOf (text : String) : IsString (piecesOf text) where
  valid := by
    intro piece hpiece
    obtain ⟨c, -, rfl⟩ := List.mem_map.1 hpiece
    trivial
  unpaired := by
    rw [piecesOf]
    induction text.toList with
    | nil => rfl
    | cons c cs ih =>
      rw [List.map_cons, Reader.pairSurrogates, ih]
      simp

namespace Reader

theorem units_print {piece : Piece} (h : piece.IsValid) (input : List Char) :
    units (piece.print ++ input) = (units input).map (Prod.map (piece :: ·) id) := by
  cases piece with
  | scalar c => exact units_printChar c input
  | surrogate unit =>
    obtain ⟨hlow, hhigh⟩ := h
    rw [Piece.print, units_unitEscape (by omega), pieceOf, if_pos ⟨hlow, hhigh⟩]

theorem units_of_pieces {pieces : List Piece} (h : ∀ piece ∈ pieces, piece.IsValid)
    (rest : List Char) :
    units (pieces.flatMap Piece.print ++ '"' :: rest) = some (pieces, rest) := by
  induction pieces with
  | nil => rfl
  | cons piece pieces ih =>
    obtain ⟨hpiece, hpieces⟩ := List.forall_mem_cons.1 h
    rw [List.flatMap_cons, List.append_assoc, units_print hpiece, ih hpieces]
    rfl

/-- What was read and what stands after it. -/
def Front.pair {α : Type} {input : List Char} (read : Front α input) : α × List Char :=
  (read.value, read.rest)

theorem pair_string {pieces : List Piece} (h : IsString pieces) (rest : List Char) :
    (string (pieces.flatMap Piece.print ++ '"' :: rest)).map Front.pair = some (pieces, rest) := by
  have hunits := units_of_pieces h.valid rest
  unfold string
  split
  · rename_i read after heq
    rw [hunits] at heq
    cases heq
    exact congrArg (fun pieces => some (pieces, rest)) h.unpaired
  · rename_i heq
    rw [hunits] at heq
    cases heq

/-! ## Numbers -/

/-- No number goes on here. -/
def Ends (rest : List Char) : Prop :=
  ∀ c ∈ rest.head?, c.isDigit = false ∧ c ∉ ['.', 'e', 'E', '+', '-']

theorem ends_nil : Ends [] := by
  intro c hc
  cases hc

theorem ends_cons {c : Char} (h : c.isDigit = false ∧ c ∉ ['.', 'e', 'E', '+', '-'])
    (rest : List Char) : Ends (c :: rest) := by
  intro d hd
  cases hd
  exact h

section Ends

variable {rest : List Char}

theorem digits_append (h : Ends rest) (input : List Char) :
    digits (input ++ rest) = Prod.map id (· ++ rest) (digits input) := by
  induction input with
  | nil =>
    rcases rest with _ | ⟨c, rest⟩
    · rfl
    · simp [digits, (h c rfl).1]
  | cons c input ih =>
    simp only [digits, Prod.map, Prod.mk.injEq] at ih
    by_cases hc : c.isDigit
    · simp [digits, hc, ih]
    · simp [digits, hc]

theorem fraction_append (h : Ends rest) (input : List Char) :
    fraction (input ++ rest) = (fraction input).map (Prod.map id (· ++ rest)) := by
  have hnone : fraction rest = some ([], rest) := by
    rw [fraction.eq_2]
    rintro _ rfl
    simpa using (h '.' rfl).2
  match input with
  | [] => exact hnone
  | c :: input =>
    by_cases hc : c = '.'
    · subst hc
      simp only [List.cons_append, fraction, digits_append h]
      rcases digits input with ⟨_ | ⟨d, shown⟩, after⟩ <;> rfl
    · rw [List.cons_append, fraction.eq_2, fraction.eq_2]
      · rfl
      all_goals
        rintro _ heq
        exact hc (List.cons.inj heq).1

theorem sign_append (h : Ends rest) (input : List Char) :
    sign (input ++ rest) = Prod.map id (· ++ rest) (sign input) := by
  have hnone : sign rest = ([], rest) := by
    rw [sign.eq_3]
    · rintro _ rfl
      simpa using (h '+' rfl).2
    · rintro _ rfl
      simpa using (h '-' rfl).2
  match input with
  | [] => exact hnone
  | c :: input =>
    by_cases hplus : c = '+'
    · subst hplus
      rfl
    by_cases hminus : c = '-'
    · subst hminus
      rfl
    have hother (input : List Char) : sign (c :: input) = ([], c :: input) := by
      rw [sign.eq_3]
      · rintro _ heq
        exact hplus (List.cons.inj heq).1
      · rintro _ heq
        exact hminus (List.cons.inj heq).1
    rw [List.cons_append, hother, hother]
    rfl

theorem exponent_append (h : Ends rest) (input : List Char) :
    exponent (input ++ rest) = (exponent input).map (Prod.map id (· ++ rest)) := by
  match input with
  | [] =>
    rcases rest with _ | ⟨c, rest⟩
    · rfl
    · have hc : ¬ (c = 'e' ∨ c = 'E') := by
        rintro (rfl | rfl)
        · simpa using (h _ rfl).2
        · simpa using (h _ rfl).2
      simp only [List.nil_append, exponent, if_neg hc]
      rfl
  | c :: input =>
    rw [List.cons_append, exponent, exponent]
    split
    · simp only [sign_append h, Prod.map_fst, Prod.map_snd, digits_append h]
      rcases digits (sign input).2 with ⟨_ | ⟨d, shown⟩, after⟩ <;> rfl
    · rfl

theorem whole_of_ne {input : List Char} (hzero : input.head? ≠ some '0') :
    whole input = if (digits input).1 = [] then none else some (digits input) := by
  rw [whole.eq_2]
  · rcases digits input with ⟨_ | ⟨d, shown⟩, after⟩ <;> rfl
  · rintro _ rfl
    exact hzero rfl

theorem whole_append (h : Ends rest) (input : List Char) :
    whole (input ++ rest) = (whole input).map (Prod.map id (· ++ rest)) := by
  match input with
  | [] =>
    have hzero : rest.head? ≠ some '0' := by
      intro hzero
      exact absurd (h '0' hzero).1 (by decide)
    have hdigits : digits rest = ([], rest) := digits_append h []
    rw [List.nil_append, whole_of_ne hzero, hdigits]
    rfl
  | c :: input =>
    by_cases hc : c = '0'
    · subst hc
      rfl
    · have hzero (input : List Char) : (c :: input).head? ≠ some '0' := by simpa using hc
      rw [List.cons_append, whole_of_ne (hzero _), whole_of_ne (hzero _), ← List.cons_append,
        digits_append h]
      rcases digits (c :: input) with ⟨_ | ⟨d, shown⟩, after⟩ <;> rfl

end Ends

/-- A number without its sign. -/
def magnitude (input : List Char) : Option (List Char × List Char) := do
  let (shownWhole, input) ← whole input
  let (shownFraction, input) ← fraction input
  let (shownExponent, input) ← exponent input
  some (shownWhole ++ shownFraction ++ shownExponent, input)

theorem numberParts_minus (input : List Char) :
    numberParts ('-' :: input) = (magnitude input).map (Prod.map ('-' :: ·) id) := by
  simp only [numberParts, magnitude]
  rcases whole input with _ | ⟨shownWhole, input⟩
  · rfl
  simp only [Option.bind_eq_bind, Option.bind_some]
  rcases fraction input with _ | ⟨shownFraction, input⟩
  · rfl
  simp only [Option.bind_some]
  rcases exponent input with _ | ⟨shownExponent, input⟩ <;> rfl

theorem numberParts_of_ne {input : List Char} (h : input.head? ≠ some '-') :
    numberParts input = magnitude input := by
  rw [numberParts]
  · rfl
  · rintro _ rfl
    exact h rfl

theorem magnitude_append {rest : List Char} (h : Ends rest) (input : List Char) :
    magnitude (input ++ rest) = (magnitude input).map (Prod.map id (· ++ rest)) := by
  simp only [magnitude, whole_append h]
  rcases whole input with _ | ⟨shownWhole, input⟩
  · rfl
  simp only [Option.map_some, Prod.map, id, Option.bind_eq_bind, Option.bind_some,
    fraction_append h]
  rcases fraction input with _ | ⟨shownFraction, input⟩
  · rfl
  simp only [Option.map_some, Prod.map, id, Option.bind_some, exponent_append h]
  rcases exponent input with _ | ⟨shownExponent, input⟩ <;> rfl

/-- A number in front of other text is read as it is when it stands alone. -/
theorem numberParts_append {rest : List Char} (h : Ends rest) (input : List Char) :
    numberParts (input ++ rest) = (numberParts input).map (Prod.map id (· ++ rest)) := by
  match input with
  | [] =>
    have hminus : rest.head? ≠ some '-' := by
      intro hminus
      simpa using (h '-' hminus).2
    rw [List.nil_append, numberParts_of_ne hminus, numberParts_of_ne (by simp)]
    exact magnitude_append h []
  | c :: input =>
    by_cases hc : c = '-'
    · subst hc
      rw [List.cons_append, numberParts_minus, numberParts_minus, magnitude_append h,
        Option.map_map, Option.map_map]
      rfl
    · have hminus (input : List Char) : (c :: input).head? ≠ some '-' := by simpa using hc
      rw [List.cons_append, numberParts_of_ne (hminus _), numberParts_of_ne (hminus _),
        ← List.cons_append, magnitude_append h]

/-- What no number starts with. -/
theorem not_mem_of_number {c : Char} (h : c = '-' ∨ c.isDigit) :
    c ∉ [' ', '\n', '\t', '\r', '"', '[', ']', '\x7b', 'n', 't', 'f'] := by
  have hall : [' ', '\n', '\t', '\r', '"', '[', ']', '\x7b', 'n', 't', 'f'].all
    fun c => ¬ (c = '-' ∨ c.isDigit) := by decide
  exact fun hmem => of_decide_eq_true (List.all_eq_true.1 hall c hmem) h

/-- A number starts with its sign or a digit. -/
theorem exists_cons_of_numberParts {input shown rest : List Char}
    (h : numberParts input = some (shown, rest)) :
    ∃ c tail, input = c :: tail ∧ (c = '-' ∨ c.isDigit) := by
  match input with
  | [] => cases h
  | c :: input =>
    refine ⟨c, input, rfl, Decidable.byContradiction fun hc => ?_⟩
    rw [not_or] at hc
    have hzero : (c :: input).head? ≠ some '0' := by
      rintro ⟨⟩
      exact hc.2 rfl
    have hwhole : whole (c :: input) = none := by
      rw [whole_of_ne hzero]
      simp [digits, hc.2]
    rw [numberParts_of_ne (by simpa using hc.1), magnitude, hwhole] at h
    cases h

theorem pair_number {literal rest : List Char}
    (hnumber : numberParts literal = some (literal, [])) (h : Ends rest) :
    (number (literal ++ rest)).map Front.pair = some (.number literal, rest) := by
  have hparts : numberParts (literal ++ rest) = some (literal, rest) := by
    rw [numberParts_append h, hnumber]
    rfl
  have hlength : rest.length < (literal ++ rest).length := by
    obtain ⟨c, tail, rfl, -⟩ := exists_cons_of_numberParts hnumber
    rw [List.length_append, List.length_cons]
    omega
  simp only [number, hparts, dif_pos hlength]
  rfl

theorem digits_of_isDigit {literal : List Char} (h : ∀ c ∈ literal, c.isDigit) :
    digits literal = (literal, []) := by
  have htake := @List.takeWhile_append_of_pos _ _ literal [] h
  have hdrop := @List.dropWhile_append_of_pos _ _ literal [] h
  rw [List.append_nil] at htake hdrop
  rw [digits, htake, hdrop]
  simp

theorem head?_toDigits {n : Nat} (h : 0 < n) : (Nat.toDigits 10 n).head? ≠ some '0' := by
  induction n using Nat.strongRecOn with
  | ind n ih =>
    by_cases hn : n < 10
    · have hall : ∀ n < 10, 0 < n → n.digitChar ≠ '0' := by decide
      rw [Nat.toDigits_of_lt_base hn]
      simpa using hall n hn h
    · have hfront := ih (n / 10) (by omega) (by omega)
      obtain ⟨d, ds, hdigits⟩ := List.exists_cons_of_ne_nil (Nat.toDigits_ne_nil (n := n / 10))
      rw [hdigits] at hfront
      rw [Nat.toDigits_of_base_le (by decide) (Nat.le_of_not_lt hn), hdigits]
      exact hfront

theorem numberParts_toDigits (n : Nat) :
    numberParts (Nat.toDigits 10 n) = some (Nat.toDigits 10 n, []) := by
  by_cases hn : n = 0
  · subst hn
    rfl
  · have hdigits : ∀ c ∈ Nat.toDigits 10 n, c.isDigit := fun c hc =>
      Nat.isDigit_of_mem_toDigits (by decide) (by decide) hc
    have hzero := head?_toDigits (Nat.pos_of_ne_zero hn)
    have hwhole : whole (Nat.toDigits 10 n) = some (Nat.toDigits 10 n, []) := by
      rw [whole_of_ne hzero, digits_of_isDigit hdigits, if_neg Nat.toDigits_ne_nil]
    have hminus : (Nat.toDigits 10 n).head? ≠ some '-' := by
      intro hminus
      have := hdigits '-' (List.mem_of_mem_head? hminus)
      exact absurd this (by decide)
    rw [numberParts_of_ne hminus, magnitude, hwhole]
    simp [fraction, exponent]

end Reader

namespace Value

theorem nat?_ofNat (n : Nat) : (ofNat n).nat? = some n := by
  have hdigits : (Nat.toDigits 10 n).all Char.isDigit := List.all_eq_true.2 fun c hc =>
    Nat.isDigit_of_mem_toDigits (by decide) (by decide) hc
  rw [ofNat, nat?, if_pos hdigits, ← Nat.ofDigitChars_eq_foldl, Nat.ofDigitChars_ten_toDigits]

end Value

end Json

end Multiplayer
