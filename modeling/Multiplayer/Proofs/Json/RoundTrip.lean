import Multiplayer.Proofs.Json.Tokens

/-!
# Reading what was printed

A value in its compact form is read as it was, whatever stands behind it.

* `Reader.pair_value`, `pair_elements` and `pair_members`: the readers without the bounds that let
  them end.
* `Value.Readable`: the values that reading can give.
* `Value.Readable.reads`: the printed form in front of other text.
* `Value.Readable.parse?_toText` is the round trip.
-/

namespace Multiplayer.Json

namespace Reader

/-! ## The readers by their branches -/

/-- A value at the front, without the bounds that let the readers end. -/
theorem pair_value (input : List Char) :
    (value input).map Front.pair = match skipBlank input with
      | '"' :: rest => ((string rest).map Front.pair).map (Prod.map .string id)
      | '[' :: rest => match skipBlank rest with
        | ']' :: rest' => some (.array [], rest')
        | _ => ((elements rest).map Front.pair).map (Prod.map .array id)
      | '{' :: rest => match skipBlank rest with
        | '}' :: rest' => some (.object [], rest')
        | _ => ((members rest).map Front.pair).map (Prod.map .object id)
      | 'n' :: 'u' :: 'l' :: 'l' :: rest => some (.null, rest)
      | 't' :: 'r' :: 'u' :: 'e' :: rest => some (.bool true, rest)
      | 'f' :: 'a' :: 'l' :: 's' :: 'e' :: rest => some (.bool false, rest)
      | other => (number other).map Front.pair := by
  rw [value]
  split
  case h_1 h =>
    simp only [h, Option.map_map]
    rfl
  case h_2 | h_3 =>
    rename_i h
    simp only [h]
    split
    · rename_i h'
      simp only [h']
      rfl
    · simp only [Option.map_map]
      rfl
  case h_4 | h_5 | h_6 =>
    rename_i h
    simp only [h]
    rfl
  case h_7 =>
    simp only [Option.map_map]
    rfl

theorem pair_elements (input : List Char) :
    (elements input).map Front.pair = match (value input).map Front.pair with
      | none => none
      | some (first, rest) => match skipBlank rest with
        | ',' :: rest' => ((elements rest').map Front.pair).map (Prod.map (first :: ·) id)
        | ']' :: rest' => some ([first], rest')
        | _ => none := by
  rw [elements]
  rcases value input with _ | first
  · rfl
  · simp only [Option.map_some, Front.pair]
    split
    · rename_i h
      simp only [h, Option.map_map]
      rfl
    · rename_i h
      simp only [h]
      rfl
    · simp only [Option.map_none]

theorem pair_members (input : List Char) :
    (members input).map Front.pair = match skipBlank input with
      | '"' :: afterQuote => match (string afterQuote).map Front.pair with
        | none => none
        | some (key, afterKey) => match skipBlank afterKey with
          | ':' :: afterColon => match (value afterColon).map Front.pair with
            | none => none
            | some (first, rest) => match skipBlank rest with
              | ',' :: rest' =>
                ((members rest').map Front.pair).map (Prod.map ((key, first) :: ·) id)
              | '}' :: rest' => some ([(key, first)], rest')
              | _ => none
          | _ => none
      | _ => none := by
  rw [members]
  split
  · rename_i afterQuote h
    simp only [h]
    rcases string afterQuote with _ | key
    · rfl
    simp only [Option.map_some, Front.pair]
    split
    · rename_i afterColon h
      simp only [h]
      rcases value afterColon with _ | first
      · rfl
      simp only [Option.map_some, Front.pair]
      split
      · rename_i h
        simp only [h, Option.map_map]
        rfl
      · rename_i h
        simp only [h]
        rfl
      · simp only [Option.map_none]
    · simp only [Option.map_none]
  · simp only [Option.map_none]

end Reader

/-- The values that reading can give. -/
inductive Value.Readable : Value → Prop where
  | null : Readable .null
  | bool (b : Bool) : Readable (.bool b)
  | number {literal : List Char} (h : Reader.numberParts literal = some (literal, [])) :
    Readable (.number literal)
  | string {pieces : List Piece} (h : IsString pieces) : Readable (.string pieces)
  | array {elements : List Value} (h : ∀ element ∈ elements, Readable element) :
    Readable (.array elements)
  | object {members : List (List Piece × Value)} (hkeys : ∀ member ∈ members, IsString member.1)
    (hvalues : ∀ member ∈ members, Readable member.2) : Readable (.object members)

/-! ## Printed forms in front of other text -/

namespace Reader

theorem skipBlank_cons {c : Char} (h : isBlank c = false) (input : List Char) :
    skipBlank (c :: input) = c :: input :=
  List.dropWhile_cons_of_neg (by simp [h])

theorem isBlank_of_number {c : Char} (h : c = '-' ∨ c.isDigit) : isBlank c = false := by
  have hother := not_mem_of_number h
  simp only [List.mem_cons, not_or] at hother
  simp [isBlank, hother]

/-- The printed form is read as the value, whatever stands behind it. -/
def Reads (v : Value) : Prop :=
  ∀ rest, Ends rest → (value (v.print ++ rest)).map Front.pair = some (v, rest)

theorem reads_number {literal : List Char} (h : numberParts literal = some (literal, [])) :
    Reads (.number literal) := by
  intro rest hrest
  rw [Value.print, ← pair_number h hrest]
  obtain ⟨c, tail, rfl, hc⟩ := exists_cons_of_numberParts h
  have hother := not_mem_of_number hc
  rw [pair_value, List.cons_append, skipBlank_cons (isBlank_of_number hc)]
  split
  case h_7 => rfl
  all_goals
    rename_i heq
    rw [(List.cons.inj heq).1] at hother
    exact absurd hother (by decide)

theorem pair_elements_of_reads {v : Value} (hv : Reads v) {rest : List Char} (hrest : Ends rest) :
    (elements (v.print ++ rest)).map Front.pair = match skipBlank rest with
      | ',' :: rest' => ((elements rest').map Front.pair).map (Prod.map (v :: ·) id)
      | ']' :: rest' => some ([v], rest')
      | _ => none := by
  rw [pair_elements, hv rest hrest]

theorem pair_elements_print {vs : List Value} (hne : vs ≠ []) (h : ∀ v ∈ vs, Reads v)
    (rest : List Char) :
    (elements (Value.printElements vs ++ ']' :: rest)).map Front.pair = some (vs, rest) := by
  induction vs with
  | nil => exact absurd rfl hne
  | cons v vs ih =>
    obtain ⟨hv, hvs⟩ := List.forall_mem_cons.1 h
    rcases vs with _ | ⟨w, vs⟩
    · rw [Value.printElements, pair_elements_of_reads hv (ends_cons (by decide) _)]
      rfl
    · have hothers := ih (List.cons_ne_nil w vs) hvs
      rw [Value.printElements, List.append_assoc, pair_elements_of_reads hv]
      · simp only [List.cons_append, skipBlank_cons (c := ',') rfl, hothers]
        rfl
      · exact ends_cons (by decide) _
      · exact List.cons_ne_nil w vs

theorem pair_members_of_reads {key : List Piece} (hkey : IsString key) {v : Value} (hv : Reads v)
    {rest : List Char} (hrest : Ends rest) :
    (members (printString key ++ ':' :: v.print ++ rest)).map Front.pair =
      match skipBlank rest with
      | ',' :: rest' => ((members rest').map Front.pair).map (Prod.map ((key, v) :: ·) id)
      | '}' :: rest' => some ([(key, v)], rest')
      | _ => none := by
  have hfront : printString key ++ ':' :: v.print ++ rest =
      '"' :: (key.flatMap Piece.print ++ '"' :: ':' :: (v.print ++ rest)) := by
    simp [printString]
  rw [hfront, pair_members, skipBlank_cons rfl]
  simp only [pair_string hkey, skipBlank_cons (c := ':') rfl, hv rest hrest]

theorem pair_members_print {ms : List (List Piece × Value)} (hne : ms ≠ [])
    (hkeys : ∀ m ∈ ms, IsString m.1) (hvalues : ∀ m ∈ ms, Reads m.2) (rest : List Char) :
    (members (Value.printMembers ms ++ '\x7d' :: rest)).map Front.pair = some (ms, rest) := by
  induction ms with
  | nil => exact absurd rfl hne
  | cons m ms ih =>
    obtain ⟨key, v⟩ := m
    rw [List.forall_mem_cons] at hkeys hvalues
    obtain ⟨hkey, hkeys⟩ := hkeys
    obtain ⟨hv, hvalues⟩ := hvalues
    rcases ms with _ | ⟨m, ms⟩
    · rw [Value.printMembers, pair_members_of_reads hkey hv (ends_cons (by decide) _)]
      rfl
    · have hothers := ih (List.cons_ne_nil m ms) hkeys hvalues
      rw [Value.printMembers, List.append_assoc, pair_members_of_reads hkey hv]
      · simp only [List.cons_append, skipBlank_cons (c := ',') rfl, hothers]
        rfl
      · exact ends_cons (by decide) _
      · exact List.cons_ne_nil m ms

end Reader

namespace Value.Readable

open Reader (Reads Ends)

/-- The printed form starts neither with a blank nor with the end of an array. -/
theorem exists_print_eq_cons {value : Value} (h : value.Readable) :
    ∃ c tail, value.print = c :: tail ∧ Reader.isBlank c = false ∧ c ≠ ']' := by
  cases h with
  | null => exact ⟨_, _, rfl, rfl, by decide⟩
  | bool b => cases b <;> exact ⟨_, _, rfl, rfl, by decide⟩
  | @number literal h =>
    obtain ⟨c, tail, rfl, hc⟩ := Reader.exists_cons_of_numberParts h
    refine ⟨c, tail, rfl, Reader.isBlank_of_number hc, ?_⟩
    rintro rfl
    exact Reader.not_mem_of_number hc (by decide)
  | string => exact ⟨_, _, rfl, rfl, by decide⟩
  | array => exact ⟨_, _, rfl, rfl, by decide⟩
  | object => exact ⟨_, _, rfl, rfl, by decide⟩

theorem exists_printElements_eq_cons {v : Value} (h : v.Readable) (vs : List Value) :
    ∃ c tail, printElements (v :: vs) = c :: tail ∧ Reader.isBlank c = false ∧ c ≠ ']' := by
  obtain ⟨c, tail, hprint, hblank, hend⟩ := h.exists_print_eq_cons
  rcases vs with _ | ⟨w, vs⟩
  · exact ⟨c, tail, hprint, hblank, hend⟩
  · refine ⟨c, tail ++ ',' :: printElements (w :: vs), ?_, hblank, hend⟩
    rw [printElements, hprint]
    · rfl
    · exact List.cons_ne_nil w vs

theorem reads {value : Value} (h : value.Readable) : Reads value := by
  induction h with
  | null =>
    intro rest _
    rw [Reader.pair_value]
    rfl
  | bool b =>
    intro rest _
    rw [Reader.pair_value]
    cases b <;> rfl
  | number h => exact Reader.reads_number h
  | @string pieces h =>
    intro rest _
    have hfront : (Value.string pieces).print ++ rest =
        '"' :: (pieces.flatMap Piece.print ++ '"' :: rest) := by
      simp [print, printString]
    rw [hfront, Reader.pair_value, Reader.skipBlank_cons rfl]
    simp only [Reader.pair_string h]
    rfl
  | @array elements h ih =>
    intro rest _
    rcases elements with _ | ⟨v, vs⟩
    · rw [Reader.pair_value]
      rfl
    · have hfront : (Value.array (v :: vs)).print ++ rest =
          '[' :: (printElements (v :: vs) ++ ']' :: rest) := by
        simp [print]
      obtain ⟨c, tail, hinner, hblank, hend⟩ :=
        exists_printElements_eq_cons (h v List.mem_cons_self) vs
      have helements := Reader.pair_elements_print (List.cons_ne_nil v vs) ih rest
      rw [hfront, Reader.pair_value, Reader.skipBlank_cons rfl]
      rw [hinner, List.cons_append] at helements ⊢
      simp only [Reader.skipBlank_cons hblank, helements]
      split
      · rename_i heq
        exact absurd (List.cons.inj heq).1 hend
      · rfl
  | @object members hkeys _ ih =>
    intro rest _
    rcases members with _ | ⟨m, ms⟩
    · rw [Reader.pair_value]
      rfl
    · have hfront : (Value.object (m :: ms)).print ++ rest =
          '\x7b' :: (printMembers (m :: ms) ++ '\x7d' :: rest) := by
        simp [print]
      have hmembers := Reader.pair_members_print (List.cons_ne_nil m ms) hkeys ih rest
      rw [hfront, Reader.pair_value, Reader.skipBlank_cons rfl]
      obtain ⟨tail, hinner⟩ : ∃ tail, printMembers (m :: ms) = '"' :: tail := by
        rcases ms with _ | ⟨_, _⟩ <;> exact ⟨_, rfl⟩
      rw [hinner, List.cons_append] at hmembers ⊢
      simp only [Reader.skipBlank_cons (c := '"') rfl, hmembers]
      rfl

end Value.Readable

/-- **What was printed is read as it was.** -/
theorem Value.Readable.parse?_toText {value : Value} (h : value.Readable) :
    parse? value.toText = some value := by
  have hread := h.reads [] Reader.ends_nil
  rw [List.append_nil, Option.map_eq_some_iff] at hread
  obtain ⟨read, hread, hpair⟩ := hread
  obtain ⟨hvalue, hrest⟩ := Prod.mk.inj hpair
  rw [parse?, toText, String.toList_ofList, hread]
  change (if Reader.skipBlank read.rest = [] then some read.value else none) = _
  rw [hvalue, hrest]
  rfl

end Multiplayer.Json
