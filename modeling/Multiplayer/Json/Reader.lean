import Multiplayer.Json.Value

/-!
# Reading JSON

The reader follows the grammar: a value at the front of the input, with blanks between tokens
only.  Each reader says what it read and what stands after it, and the remainder is shorter, which
is why the nested readers end.

* `Reader.value` reads one value at the front.
* `parse?` reads an input that is one value and blanks.
-/

namespace Multiplayer.Json

namespace Reader

/-- Something read from the front of `input`, and the shorter remainder. -/
structure Front (α : Type) (input : List Char) where
  value : α
  rest : List Char
  shorter : rest.length < input.length

/-- The blanks that may stand between tokens. -/
def isBlank (c : Char) : Bool := c = ' ' || c = '\n' || c = '\t' || c = '\r'

/-- The input behind its leading blanks. -/
def skipBlank (input : List Char) : List Char := input.dropWhile isBlank

theorem length_skipBlank_le (input : List Char) : (skipBlank input).length ≤ input.length :=
  (List.dropWhile_suffix isBlank).length_le

theorem length_of_skipBlank_eq {input rest : List Char} {c : Char}
    (h : skipBlank input = c :: rest) : rest.length < input.length := by
  have := length_skipBlank_le input
  rw [h] at this
  exact this

theorem length_lt_of_skipBlank {input front rest : List Char} (h : skipBlank input = front)
    (hrest : rest.length < front.length) : rest.length < input.length := by
  have := length_skipBlank_le input
  rw [h] at this
  omega

def Front.map {α β : Type} {input : List Char} (f : α → β) (read : Front α input) : Front β input :=
  ⟨f read.value, read.rest, read.shorter⟩

/-- What was read from a shorter input is read from the whole. -/
def Front.within {α : Type} {inner input : List Char} (read : Front α inner)
    (h : inner.length < input.length) : Front α input :=
  ⟨read.value, read.rest, Nat.lt_trans read.shorter h⟩

/-- A result that stands before the first character that is no blank. -/
def Front.behind {α : Type} {input : List Char} {c : Char} (value : α) (rest : List Char)
    (h : skipBlank input = c :: rest) : Front α input :=
  ⟨value, rest, length_of_skipBlank_eq h⟩

/-! ## Strings -/

/-- The value of a hexadecimal digit of either case. -/
def hexValue? (c : Char) : Option Nat :=
  if '0' ≤ c ∧ c ≤ '9' then some (c.toNat - '0'.toNat)
  else if 'a' ≤ c ∧ c ≤ 'f' then some (c.toNat - 'a'.toNat + 10)
  else if 'A' ≤ c ∧ c ≤ 'F' then some (c.toNat - 'A'.toNat + 10)
  else none

/-- The code unit of four hexadecimal digits. -/
def codeUnit? (a b c d : Char) : Option Nat := do
  let a ← hexValue? a
  let b ← hexValue? b
  let c ← hexValue? c
  let d ← hexValue? d
  some (((a * 16 + b) * 16 + c) * 16 + d)

/-- The piece that a code unit stands for by itself. -/
def pieceOf (unit : Nat) : Piece :=
  if 0xD800 ≤ unit ∧ unit < 0xE000 then .surrogate unit else .scalar (Char.ofNat unit)

/-- The character of an escape of one letter. -/
def escaped? : Char → Option Char
  | '"' => some '"'
  | '\\' => some '\\'
  | '/' => some '/'
  | 'b' => some '\x08'
  | 'f' => some '\x0c'
  | 'n' => some '\n'
  | 'r' => some '\r'
  | 't' => some '\t'
  | _ => none

/-- The pieces up to the closing quote, surrogates not yet paired, and what stands after it.
Control characters must be escaped. -/
def units : List Char → Option (List Piece × List Char)
  | [] => none
  | '"' :: rest => some ([], rest)
  | '\\' :: 'u' :: a :: b :: c :: d :: rest => do
    let unit ← codeUnit? a b c d
    let (pieces, rest) ← units rest
    some (pieceOf unit :: pieces, rest)
  | '\\' :: letter :: rest => do
    let c ← escaped? letter
    let (pieces, rest) ← units rest
    some (.scalar c :: pieces, rest)
  | c :: rest =>
    if c = '\\' ∨ c < ' ' then none
    else do
      let (pieces, rest) ← units rest
      some (.scalar c :: pieces, rest)

/-- Joins each leading surrogate with a trailing one right after it. -/
def pairSurrogates : List Piece → List Piece
  | .surrogate high :: .surrogate low :: pieces =>
    if high < 0xDC00 ∧ 0xDC00 ≤ low then
      .scalar (Char.ofNat (0x10000 + (high - 0xD800) * 0x400 + (low - 0xDC00))) ::
        pairSurrogates pieces
    else .surrogate high :: pairSurrogates (.surrogate low :: pieces)
  | piece :: pieces => piece :: pairSurrogates pieces
  | [] => []

theorem length_of_units {input rest : List Char} {pieces : List Piece}
    (h : units input = some (pieces, rest)) : rest.length < input.length := by
  fun_induction units input generalizing pieces with
  | case1 => simp at h
  | case2 => simp_all
  | case3 a b c d input ih =>
    simp only [Option.bind_eq_bind, Option.bind_eq_some_iff, Option.some.injEq, Prod.mk.injEq,
      Prod.exists] at h
    obtain ⟨_, _, _, _, hu, _, rfl⟩ := h
    have := ih hu
    simp only [List.length_cons]
    omega
  | case4 letter input _ ih =>
    simp only [Option.bind_eq_bind, Option.bind_eq_some_iff, Option.some.injEq, Prod.mk.injEq,
      Prod.exists] at h
    obtain ⟨_, _, _, _, hu, _, rfl⟩ := h
    have := ih hu
    simp only [List.length_cons]
    omega
  | case5 => simp at h
  | case6 c input _ _ _ _ ih =>
    simp only [Option.bind_eq_bind, Option.bind_eq_some_iff, Option.some.injEq, Prod.mk.injEq,
      Prod.exists] at h
    obtain ⟨_, _, hu, _, rfl⟩ := h
    have := ih hu
    simp only [List.length_cons]
    omega

/-- The string whose opening quote was just read. -/
def string (input : List Char) : Option (Front (List Piece) input) :=
  match h : units input with
  | some (pieces, rest) => some ⟨pairSurrogates pieces, rest, length_of_units h⟩
  | none => none

/-! ## Numbers -/

/-- The digits at the front, and what stands after them. -/
def digits (input : List Char) : List Char × List Char :=
  (input.takeWhile Char.isDigit, input.dropWhile Char.isDigit)

/-- An optional fraction: a point and at least one digit. -/
def fraction : List Char → Option (List Char × List Char)
  | '.' :: input =>
    match digits input with
    | ([], _) => none
    | (shown, rest) => some ('.' :: shown, rest)
  | input => some ([], input)

def sign : List Char → List Char × List Char
  | '+' :: input => (['+'], input)
  | '-' :: input => (['-'], input)
  | input => ([], input)

/-- An optional exponent: a letter, an optional sign and at least one digit. -/
def exponent : List Char → Option (List Char × List Char)
  | [] => some ([], [])
  | c :: input =>
    if c = 'e' ∨ c = 'E' then
      let (shownSign, input) := sign input
      match digits input with
      | ([], _) => none
      | (shown, rest) => some (c :: shownSign ++ shown, rest)
    else some ([], c :: input)

/-- A whole number: a zero, or digits that start with none. -/
def whole : List Char → Option (List Char × List Char)
  | '0' :: input => some (['0'], input)
  | input =>
    match digits input with
    | ([], _) => none
    | (shown, rest) => some (shown, rest)

/-- A number: an optional minus sign, a whole number, a fraction and an exponent. -/
def numberParts (input : List Char) : Option (List Char × List Char) := do
  let (minus, input) := match input with
    | '-' :: input => (['-'], input)
    | input => ([], input)
  let (shownWhole, input) ← whole input
  let (shownFraction, input) ← fraction input
  let (shownExponent, input) ← exponent input
  some (minus ++ shownWhole ++ shownFraction ++ shownExponent, input)

def number (input : List Char) : Option (Front Value input) :=
  match numberParts input with
  | some (literal, rest) =>
    if h : rest.length < input.length then some ⟨.number literal, rest, h⟩ else none
  | none => none

/-! ## Values -/

mutual

/-- A value at the front, behind blanks. -/
def value (input : List Char) : Option (Front Value input) :=
  match h : skipBlank input with
  | '"' :: rest => (string rest).map fun read => (read.map .string).within (length_of_skipBlank_eq h)
  | '[' :: rest =>
    have := length_of_skipBlank_eq h
    match hend : skipBlank rest with
    | ']' :: rest' => some ((Front.behind (.array []) rest' hend).within this)
    | _ => (elements rest).map fun read => (read.map .array).within this
  | '{' :: rest =>
    have := length_of_skipBlank_eq h
    match hend : skipBlank rest with
    | '}' :: rest' => some ((Front.behind (.object []) rest' hend).within this)
    | _ => (members rest).map fun read => (read.map .object).within this
  | 'n' :: 'u' :: 'l' :: 'l' :: rest => some ⟨.null, rest, length_lt_of_skipBlank h (by grind)⟩
  | 't' :: 'r' :: 'u' :: 'e' :: rest => some ⟨.bool true, rest, length_lt_of_skipBlank h (by grind)⟩
  | 'f' :: 'a' :: 'l' :: 's' :: 'e' :: rest =>
    some ⟨.bool false, rest, length_lt_of_skipBlank h (by grind)⟩
  | other =>
    (number other).map fun read => ⟨read.value, read.rest, length_lt_of_skipBlank h read.shorter⟩
termination_by (input.length, 0)

/-- The elements of an array up to its closing bracket; there is at least one. -/
def elements (input : List Char) : Option (Front (List Value) input) :=
  match value input with
  | none => none
  | some first =>
    match h : skipBlank first.rest with
    | ',' :: rest =>
      have := Nat.lt_trans (length_of_skipBlank_eq h) first.shorter
      (elements rest).map fun read => (read.map (first.value :: ·)).within this
    | ']' :: rest => some ((Front.behind [first.value] rest h).within first.shorter)
    | _ => none
termination_by (input.length, 1)

/-- The members of an object up to its closing brace; there is at least one. -/
def members (input : List Char) : Option (Front (List (List Piece × Value)) input) :=
  match hquote : skipBlank input with
  | '"' :: afterQuote =>
    match string afterQuote with
    | none => none
    | some key =>
      have hkey := Nat.lt_trans key.shorter (length_of_skipBlank_eq hquote)
      match hcolon : skipBlank key.rest with
      | ':' :: afterColon =>
        have hcolon := Nat.lt_trans (length_of_skipBlank_eq hcolon) hkey
        match value afterColon with
        | none => none
        | some first =>
          have hfirst := Nat.lt_trans first.shorter hcolon
          match h : skipBlank first.rest with
          | ',' :: rest =>
            have := Nat.lt_trans (length_of_skipBlank_eq h) hfirst
            (members rest).map fun read =>
              (read.map ((key.value, first.value) :: ·)).within this
          | '}' :: rest => some ((Front.behind [(key.value, first.value)] rest h).within hfirst)
          | _ => none
      | _ => none
  | _ => none
termination_by (input.length, 0)

end

end Reader

/-- The value that a text spells. -/
def parse? (text : String) : Option Value := do
  let read ← Reader.value text.toList
  if Reader.skipBlank read.rest = [] then some read.value else none

end Multiplayer.Json
