import Mathlib.Data.List.TakeWhile
import Mathlib.Tactic.Linarith
import Multiplayer.Proofs.Text.Base64
import Multiplayer.Proofs.Text.Lossy
import Multiplayer.Session.Credential

/-!
# The layers of a credential

Lenient decoding may make a text of more bytes than it was given, a replacement being three bytes
long.  But no replacement is a character of base64, so such a text has no further layer.  Wherever
there is one, it has lost a quarter of its bytes.

* `splitLayer?_eq_some_iff` says what a layer is, and `length_lt_of_layers` how much it shrinks.
* `Unwrapping` is the loop that takes one layer off after another.
-/

namespace Multiplayer

/-! ## Cutting at the first separator -/

section

variable {α : Type} [DecidableEq α] {sep : α} {front rest : List α}

theorem decide_ne_of_mem (h : sep ∉ front) : ∀ a ∈ front, decide (a ≠ sep) = true := by
  intro a ha
  exact decide_eq_true (ne_of_mem_of_not_mem ha h)

theorem takeWhile_cut (h : sep ∉ front) :
    (front ++ sep :: rest).takeWhile (· ≠ sep) = front := by
  rw [List.takeWhile_append_of_pos (decide_ne_of_mem h), List.takeWhile_cons_of_neg (by simp),
    List.append_nil]

theorem dropWhile_cut (h : sep ∉ front) :
    (front ++ sep :: rest).dropWhile (· ≠ sep) = sep :: rest := by
  rw [List.dropWhile_append_of_pos (decide_ne_of_mem h), List.dropWhile_cons_of_neg (by simp)]

theorem not_mem_takeWhile_ne (list : List α) : sep ∉ list.takeWhile (· ≠ sep) := by
  intro h
  simpa using List.mem_takeWhile_imp h

/-- What is not before the first separator begins with it. -/
theorem eq_cut_of_dropWhile {list : List α} {a : α} (h : list.dropWhile (· ≠ sep) = a :: rest) :
    list = list.takeWhile (· ≠ sep) ++ sep :: rest := by
  have hne : list.dropWhile (· ≠ sep) ≠ [] := by
    rw [h]
    exact List.cons_ne_nil a rest
  have hhead := List.head_dropWhile_not _ hne
  simp only [h, List.head_cons, decide_eq_false_iff_not, not_not] at hhead
  rw [← hhead] at h ⊢
  rw [← h, List.takeWhile_append_dropWhile]

end

namespace Credential

/-! ## One layer -/

/-- A layer is the written form of the bytes of a key, the separator and some more bytes. -/
theorem splitLayer?_eq_some_iff {layer key inner : List Char} :
    splitLayer? layer = some (key, inner) ↔
      ∃ before after : Bytes, separator ∉ before ∧ after ≠ [] ∧
        layer = Base64.encode (before ++ separator :: after) ∧
        key = Utf8.decodeLossy before ∧ inner = Utf8.decodeLossy after := by
  constructor
  · intro h
    unfold splitLayer? at h
    rw [Option.bind_eq_bind, Option.bind_eq_some_iff] at h
    obtain ⟨bytes, hbytes, h⟩ := h
    split at h
    · cases h
    · cases h
    · rename_i first after hmore hdrop
      cases h
      have hcut := eq_cut_of_dropWhile hdrop
      refine ⟨_, after, not_mem_takeWhile_ne bytes, ?_, ?_, rfl, rfl⟩
      · exact hmore
      · rw [← hcut]
        exact Base64.decode?_eq_some_iff.1 hbytes
  · rintro ⟨before, after, hbefore, hafter, rfl, rfl, rfl⟩
    obtain ⟨b, more, rfl⟩ := List.exists_cons_of_ne_nil hafter
    rw [splitLayer?, Base64.decode?_encode, Option.bind_eq_bind, Option.bind_some,
      dropWhile_cut hbefore, takeWhile_cut hbefore]

/-- What a layer contains has at most three quarters of its bytes, if it is a layer itself. -/
theorem length_lt_of_layers {layer key inner key' inner' : List Char}
    (h : splitLayer? layer = some (key, inner)) (h' : splitLayer? inner = some (key', inner')) :
    4 * (Utf8.encode inner).length < 3 * (Utf8.encode layer).length := by
  obtain ⟨before, after, -, -, rfl, -, rfl⟩ := splitLayer?_eq_some_iff.1 h
  obtain ⟨_, _, -, -, hinner, -⟩ := splitLayer?_eq_some_iff.1 h'
  have hwhole : '\uFFFD' ∉ Utf8.decodeLossy after := by
    intro hreplaced
    rw [hinner] at hreplaced
    exact absurd (Base64.isAscii_of_mem_encode hreplaced) (by decide)
  have hlength := Base64.length_of_decode (Base64.decode?_encode (before ++ separator :: after))
  rw [List.length_append, List.length_cons] at hlength
  rw [Utf8.encode_decodeLossy hwhole,
    Utf8.length_encode_of_isAscii fun _ => Base64.isAscii_of_mem_encode]
  omega

/-! ## All layers -/

theorem keysOf_of_none {layer : List Char} (h : splitLayer? layer = none) :
    keysOf layer = [] := by
  rw [keysOf]
  split
  · rfl
  · rename_i hsome
    rw [h] at hsome
    cases hsome

theorem keysOf_of_some {layer key inner : List Char} (h : splitLayer? layer = some (key, inner)) :
    keysOf layer = String.ofList key :: keysOf inner := by
  rw [keysOf]
  split
  · rename_i hnone
    rw [h] at hnone
    cases hnone
  · rename_i hsome
    rw [h] at hsome
    cases hsome
    rfl

theorem ne_nil_of_splitLayer? {layer key inner : List Char}
    (h : splitLayer? layer = some (key, inner)) : layer ≠ [] := by
  rintro rfl
  cases h

theorem length_encode_pos {text : List Char} (h : text ≠ []) : 0 < (Utf8.encode text).length := by
  rw [List.length_pos_iff]
  intro hnil
  exact h (Utf8.encode_injective (hnil.trans rfl))

/-- A text with `k + 1` layers is at least `(4 / 3) ^ k` bytes long. -/
theorem pow_le_of_keysOf {layer : List Char} {k : Nat} (h : (keysOf layer).length = k + 1) :
    4 ^ k ≤ 3 ^ k * (Utf8.encode layer).length := by
  induction layer using keysOf.induct generalizing k with
  | case1 layer hnone =>
    rw [keysOf_of_none hnone] at h
    cases h
  | case2 layer key inner hsome ih =>
    rw [keysOf_of_some hsome, List.length_cons, Nat.add_right_cancel_iff] at h
    cases k with
    | zero =>
      have hpos := length_encode_pos (ne_nil_of_splitLayer? hsome)
      omega
    | succ k =>
      cases hinner : splitLayer? inner with
      | none =>
        rw [keysOf_of_none hinner] at h
        cases h
      | some parts =>
        have hshorter := length_lt_of_layers hsome hinner
        calc 4 ^ (k + 1)
          _ = 4 ^ k * 4 := pow_succ 4 k
          _ ≤ 3 ^ k * (Utf8.encode inner).length * 4 := Nat.mul_le_mul_right 4 (ih h)
          _ = 3 ^ k * (4 * (Utf8.encode inner).length) := by
            rw [Nat.mul_assoc, Nat.mul_comm _ 4]
          _ ≤ 3 ^ k * (3 * (Utf8.encode layer).length) :=
            Nat.mul_le_mul_left (3 ^ k) (Nat.le_of_lt hshorter)
          _ = 3 ^ (k + 1) * (Utf8.encode layer).length := by
            rw [pow_succ, Nat.mul_assoc]

theorem zpow_le_of_keysOf {text : List Char} (h : text ≠ []) :
    (4 / 3 : ℚ) ^ (((keysOf text).length : ℤ) - 1) ≤ (Utf8.encode text).length := by
  cases hkeys : (keysOf text).length with
  | zero =>
    have hpos : (1 : ℚ) ≤ (Utf8.encode text).length := by exact_mod_cast length_encode_pos h
    have hpow : (4 / 3 : ℚ) ^ (((0 : Nat) : ℤ) - 1) = 3 / 4 := by norm_num
    rw [hpow]
    linarith
  | succ k =>
    have hpow : (4 : ℚ) ^ k ≤ 3 ^ k * (Utf8.encode text).length := by
      exact_mod_cast pow_le_of_keysOf hkeys
    rw [Nat.cast_succ, add_sub_cancel_right, zpow_natCast, div_pow,
      div_le_iff₀ (by positivity), mul_comm]
    exact hpow

/-! ## The loop -/

/-- A credential that is being unwrapped: what is left of it, and the keys so far. -/
structure Unwrapping where
  rest : List Char
  keys : List String
deriving DecidableEq

namespace Unwrapping

def start (raw : String) : Unwrapping := ⟨raw.toList, []⟩

/-- One round takes off a layer.  The loop stops at an empty text, and at one that is no layer. -/
def next? (u : Unwrapping) : Option Unwrapping :=
  if u.rest = [] then none
  else (splitLayer? u.rest).map fun (key, inner) => ⟨inner, u.keys ++ [String.ofList key]⟩

/-- What there is after some rounds, if the loop goes on for so long. -/
def after? (u : Unwrapping) : Nat → Option Unwrapping
  | 0 => some u
  | n + 1 => u.next?.bind (·.after? n)

theorem next?_of_none {u : Unwrapping} (h : splitLayer? u.rest = none) : u.next? = none := by
  rw [next?, h]
  exact ite_self none

theorem next?_of_some {u : Unwrapping} {key inner : List Char}
    (h : splitLayer? u.rest = some (key, inner)) :
    u.next? = some ⟨inner, u.keys ++ [String.ofList key]⟩ := by
  rw [next?, if_neg (ne_nil_of_splitLayer? h), h]
  rfl

/-- The loop stops after one round for each key, and has collected the keys. -/
theorem after?_keysOf (rest : List Char) (keys : List String) :
    ∃ last, after? ⟨rest, keys⟩ (keysOf rest).length = some last ∧ last.next? = none ∧
      last.keys = keys ++ keysOf rest := by
  induction rest using keysOf.induct generalizing keys with
  | case1 rest hnone =>
    rw [keysOf_of_none hnone]
    exact ⟨_, rfl, next?_of_none hnone, (List.append_nil keys).symm⟩
  | case2 rest key inner hsome ih =>
    obtain ⟨last, hafter, hstops, hkeys⟩ := ih (keys ++ [String.ofList key])
    rw [keysOf_of_some hsome, List.length_cons, after?, next?_of_some hsome, Option.bind_some]
    refine ⟨last, hafter, hstops, ?_⟩
    rw [hkeys, List.append_assoc, List.singleton_append]

end Unwrapping

/-- **A credential has few layers.**  A layer in a layer has less than three quarters of its bytes.
The loop stops after as many rounds as there are keys, and there are `k` keys only in a text of at
least `(4 / 3) ^ (k - 1)` bytes; the empty text has none. -/
theorem few_layers :
    (∀ {layer key inner key' inner' : List Char}, splitLayer? layer = some (key, inner) →
      splitLayer? inner = some (key', inner') →
        4 * (Utf8.encode inner).length < 3 * (Utf8.encode layer).length) ∧
    ∀ raw : String,
      let keys := (parse raw).keys
      (∃ last, (Unwrapping.start raw).after? keys.length = some last ∧ last.next? = none ∧
        last.keys = keys) ∧
      (raw = "" ∧ keys = [] ∨
        (4 / 3 : ℚ) ^ ((keys.length : ℤ) - 1) ≤ (Utf8.encode raw.toList).length) := by
  refine ⟨length_lt_of_layers, fun raw => ⟨Unwrapping.after?_keysOf raw.toList [], ?_⟩⟩
  by_cases hraw : raw.toList = []
  · refine .inl ⟨String.toList_eq_nil_iff.1 hraw, ?_⟩
    change keysOf raw.toList = []
    rw [hraw]
    exact keysOf_of_none rfl
  · exact .inr (zpow_le_of_keysOf hraw)

/-- Two layers, of which the inner one has ill-formed bytes on both sides of the separator.  What it
contains takes twelve bytes, more than the eight of the layer. -/
theorem few_layers_replaced :
    let raw := "cDovenIvLy8vLw=="
    let inner := "/zr/////".toList
    let secret := List.replicate 4 '\uFFFD'
    splitLayer? raw.toList = some (['p'], inner) ∧
      splitLayer? inner = some (['\uFFFD'], secret) ∧ (Utf8.encode secret).length = 12 ∧
      4 * (Utf8.encode inner).length < 3 * (Utf8.encode raw.toList).length ∧
      (∃ last, (Unwrapping.start raw).after? 2 = some last ∧ last.next? = none ∧
        last.keys = ["p", "\uFFFD"]) ∧
      (4 / 3 : ℚ) ^ ((2 : ℤ) - 1) ≤ (Utf8.encode raw.toList).length := by
  intro raw inner secret
  have houter : splitLayer? raw.toList = some (['p'], inner) := by decide +kernel
  have hinner : splitLayer? inner = some (['\uFFFD'], secret) := by decide +kernel
  have hkeys : (parse raw).keys = ["p", "\uFFFD"] := by decide +kernel
  obtain ⟨hloop, hnone | hlong⟩ := few_layers.2 raw
  · exact absurd hnone.1 (by decide)
  · rw [hkeys] at hloop hlong
    exact ⟨houter, hinner, by decide +kernel, few_layers.1 houter hinner, hloop, hlong⟩

end Credential

end Multiplayer
