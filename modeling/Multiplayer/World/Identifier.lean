import Multiplayer.Json.Document

/-!
# Identifiers

The server numbers the sessions that are connected to it and the rooms that it knows.  Both kinds
of number have 16 bits and an order, and are kept apart by their types.
-/

namespace Multiplayer

structure SessionId where
  value : UInt16
deriving DecidableEq, Repr, Inhabited

structure RoomId where
  value : UInt16
deriving DecidableEq, Repr, Inhabited

namespace SessionId

def label (id : SessionId) : String := s!"S-{id.value.toNat}"

instance : Ord SessionId := ⟨compareOn SessionId.value⟩

instance : Std.TransOrd SessionId := inferInstanceAs (Std.TransCmp (compareOn SessionId.value))

instance : Std.LawfulEqOrd SessionId where
  eq_of_compare {a b} h := by
    have h : compare a.value b.value = .eq := h
    exact congrArg SessionId.mk (Std.LawfulEqCmp.eq_of_compare h)

instance : Json.Document SessionId where
  toJson id := Json.Document.toJson id.value
  ofJson? value := (Json.Document.ofJson? value).map SessionId.mk

end SessionId

namespace RoomId

def label (id : RoomId) : String := s!"R-{id.value.toNat}"

instance : Ord RoomId := ⟨compareOn RoomId.value⟩

instance : Std.TransOrd RoomId := inferInstanceAs (Std.TransCmp (compareOn RoomId.value))

instance : Std.LawfulEqOrd RoomId where
  eq_of_compare {a b} h := by
    have h : compare a.value b.value = .eq := h
    exact congrArg RoomId.mk (Std.LawfulEqCmp.eq_of_compare h)

instance : Json.Document RoomId where
  toJson id := Json.Document.toJson id.value
  ofJson? value := (Json.Document.ofJson? value).map RoomId.mk

end RoomId

end Multiplayer
