import Multiplayer.Proofs.Json.RoundTrip

/-!
# Documents that are read as they were written

* `LawfulDocument`: a type whose values are read from the documents that are written for them, and
  `read?_render` says that of the texts.
* `Value.without` is a document from which some members are dropped.
* `Value.record?_without`: what a record has then for each of its members.
-/

namespace Multiplayer.Json

/-- A type whose values are read from the documents that are written for them. -/
class LawfulDocument (α : Type) [Document α] : Prop where
  readable (a : α) : (Document.toJson a).Readable
  ofJson?_toJson (a : α) : Document.ofJson? (Document.toJson a) = some a

theorem read?_toText {α : Type} [Document α] {value : Value} (h : value.Readable) :
    (read? value.toText : Option α) = Document.ofJson? value := by
  rw [read?, h.parse?_toText]
  rfl

theorem read?_render {α : Type} [Document α] [LawfulDocument α] (a : α) :
    read? (render a) = some a :=
  (read?_toText (LawfulDocument.readable a)).trans (LawfulDocument.ofJson?_toJson a)

/-! ## Texts, numbers and names -/

namespace Value

theorem readable_ofText (text : String) : (ofText text).Readable := .string (isString_piecesOf text)

theorem readable_ofNat (n : Nat) : (ofNat n).Readable := .number (Reader.numberParts_toDigits n)

theorem natBelow?_ofNat {bound n : Nat} (h : n < bound) : natBelow? bound (ofNat n) = some n := by
  rw [natBelow?, nat?_ofNat, Option.filter_some, if_pos (decide_eq_true h)]

theorem case?_ofText {α : Type} (cases : List (String × α)) (name : String) :
    case? cases (ofText name) = cases.lookup name := by
  rw [ofText, case?, textOf?_piecesOf]
  rfl

end Value

instance : LawfulDocument String where
  readable := Value.readable_ofText
  ofJson?_toJson := textOf?_piecesOf

instance : LawfulDocument UInt16 where
  readable n := Value.readable_ofNat n.toNat
  ofJson?_toJson n := by
    change ((Value.ofNat n.toNat).natBelow? UInt16.size).map UInt16.ofNat = some n
    rw [Value.natBelow?_ofNat n.toNat_lt, Option.map_some, UInt16.ofNat_toNat]

instance : LawfulDocument UInt64 where
  readable n := Value.readable_ofNat n.toNat
  ofJson?_toJson n := by
    change ((Value.ofNat n.toNat).natBelow? UInt64.size).map UInt64.ofNat = some n
    rw [Value.natBelow?_ofNat n.toNat_lt, Option.map_some, UInt64.ofNat_toNat]

theorem ofJson?_of_ne_null {α : Type} [Document α] {value : Value} (h : value ≠ .null) :
    (Document.ofJson? value : Option (Option α)) =
      (Document.ofJson? value : Option α).map some := by
  cases value with
  | null => exact absurd rfl h
  | _ => rfl

/-- Null can stand for no value if it stands for no other. -/
theorem lawfulDocument_option {α : Type} [Document α] [LawfulDocument α]
    (hnull : ∀ a : α, Document.toJson a ≠ .null) : LawfulDocument (Option α) where
  readable a := by
    cases a with
    | none => exact .null
    | some a => exact LawfulDocument.readable a
  ofJson?_toJson a := by
    cases a with
    | none => rfl
    | some a =>
      refine (ofJson?_of_ne_null (hnull a)).trans ?_
      rw [LawfulDocument.ofJson?_toJson, Option.map_some]

instance : LawfulDocument (Option String) := lawfulDocument_option fun _ => nofun

/-! ## Records -/

theorem piecesOf_injective {a b : String} (h : piecesOf a = piecesOf b) : a = b := by
  have htext := congrArg textOf? h
  rwa [textOf?_piecesOf, textOf?_piecesOf, Option.some.injEq] at htext

namespace Value

/-- The document without the members of some names. -/
def without (names : List String) : Value → Value
  | .object members => .object (members.filter fun member => member.1 ∉ names.map piecesOf)
  | value => value

theorem without_nil (value : Value) : value.without [] = value := by
  cases value with
  | object members =>
    rw [without]
    simp
  | _ => rfl

variable {members : List (String × Value)}

theorem readable_ofMembers (h : ∀ member ∈ members, member.2.Readable) :
    (ofMembers members).Readable := by
  refine .object ?_ ?_
  · intro member hmember
    obtain ⟨⟨name, value⟩, -, rfl⟩ := List.mem_map.1 hmember
    exact isString_piecesOf name
  · intro member hmember
    obtain ⟨⟨name, value⟩, hmem, rfl⟩ := List.mem_map.1 hmember
    exact h _ hmem

theorem without_ofMembers (names : List String) (members : List (String × Value)) :
    (ofMembers members).without names =
      ofMembers (members.filter fun member => member.1 ∉ names) := by
  have hname (name : String) : piecesOf name ∈ names.map piecesOf ↔ name ∈ names := by
    constructor
    · intro h
      obtain ⟨other, hother, heq⟩ := List.mem_map.1 h
      rwa [← piecesOf_injective heq]
    · exact List.mem_map_of_mem
  rw [ofMembers, without, ofMembers, List.filter_map]
  simp only [Function.comp_def, hname]

/-- The first member of a name has it, and the others do not matter. -/
theorem lookup_cons_ite (other : String) (value : Value) (members : List (String × Value))
    (name : String) : ((other, value) :: members).lookup name =
      if other = name then some value else members.lookup name := by
  by_cases h : other = name
  · simp [h]
  · have hname : (name == other) = false := beq_false_of_ne (Ne.symm h)
    rw [List.lookup_cons, hname, if_neg h]

theorem lookup_filter (names : List String) (members : List (String × Value)) (name : String) :
    (members.filter fun member => member.1 ∉ names).lookup name =
      if name ∈ names then none else members.lookup name := by
  induction members with
  | nil => simp
  | cons member members ih =>
    obtain ⟨other, value⟩ := member
    rw [lookup_cons_ite]
    by_cases hother : other ∈ names
    · rw [List.filter_cons_of_neg (by simpa using hother), ih]
      by_cases hname : other = name
      · subst hname
        rw [if_pos hother, if_pos hother]
      · rw [if_neg hname]
    · rw [List.filter_cons_of_pos (by simpa using hother), lookup_cons_ite, ih]
      by_cases hname : other = name
      · subst hname
        rw [if_pos rfl, if_neg hother, if_pos rfl]
      · rw [if_neg hname, if_neg hname]

theorem member?_eq_lookup (h : (members.map Prod.fst).Nodup) (name : String) :
    member? members name = some (members.lookup name) := by
  induction members with
  | nil => rfl
  | cons member members ih =>
    obtain ⟨other, value⟩ := member
    obtain ⟨hother, hothers⟩ := List.nodup_cons.1 h
    rw [lookup_cons_ite]
    by_cases hname : other = name
    · subst hname
      have hrest : members.filter (·.1 = other) = [] := by
        rw [List.filter_eq_nil_iff]
        rintro ⟨first, value⟩ hmember heq
        obtain rfl : first = other := of_decide_eq_true heq
        exact hother (List.mem_map.2 ⟨_, hmember, rfl⟩)
      have hfilter : ((other, value) :: members).filter (·.1 = other) = [(other, value)] := by
        rw [List.filter_cons_of_pos (by simp), hrest]
      rw [if_pos rfl, member?, hfilter]
    · rw [if_neg hname, ← ih hothers, member?, List.filter_cons_of_neg (by simpa using hname),
        member?]

theorem record?_ofMembers (h : (members.map Prod.fst).Nodup) (names : List String) :
    (ofMembers members).record? names = some (names.map (List.lookup · members)) := by
  have hkeys : (members.mapM fun member => (textOf? (piecesOf member.1)).map (·, member.2)) =
      some members := by
    simp only [textOf?_piecesOf, Option.map_some]
    exact List.mapM_pure.trans (congrArg some (List.map_id members))
  rw [ofMembers, record?, List.mapM_map]
  change (members.mapM fun member => (textOf? (piecesOf member.1)).map (·, member.2)) >>=
    (fun members => names.mapM (member? members)) = _
  rw [hkeys, Option.bind_eq_bind, Option.bind_some, funext (member?_eq_lookup h)]
  exact List.mapM_pure

theorem lookup_of_mem (h : (members.map Prod.fst).Nodup) {member : String × Value}
    (hmember : member ∈ members) : members.lookup member.1 = some member.2 := by
  induction members with
  | nil => cases hmember
  | cons first members ih =>
    obtain ⟨hfirst, hothers⟩ := List.nodup_cons.1 h
    rw [lookup_cons_ite]
    rcases List.mem_cons.1 hmember with rfl | hmember
    · rw [if_pos rfl]
    · have hne : first.1 ≠ member.1 := by
        intro heq
        exact hfirst (heq ▸ List.mem_map_of_mem hmember)
      rw [if_neg hne, ih hothers hmember]

/-- A record of which some members are dropped has the others. -/
theorem record?_without (h : (members.map Prod.fst).Nodup) (dropped : List String) :
    ((ofMembers members).without dropped).record? (members.map Prod.fst) =
      some (members.map fun member => if member.1 ∈ dropped then none else some member.2) := by
  have hnodup : ((members.filter fun member => member.1 ∉ dropped).map Prod.fst).Nodup :=
    h.sublist (List.filter_sublist.map _)
  rw [without_ofMembers, record?_ofMembers hnodup, List.map_map]
  refine congrArg some (List.map_congr_left fun member hmember => ?_)
  rw [Function.comp_apply, lookup_filter, lookup_of_mem h hmember]

end Value

/-- A member that may be absent has its default then. -/
theorem optional_ite {α : Type} [Document α] [LawfulDocument α] (absent a : α) (dropped : Prop)
    [Decidable dropped] :
    optional absent (if dropped then none else some (Document.toJson a)) =
      some (if dropped then absent else a) := by
  split
  · rfl
  · exact LawfulDocument.ofJson?_toJson a

end Multiplayer.Json
