import Multiplayer.Text.Base64
import Multiplayer.Text.Quoted
import Multiplayer.Text.Utf8

/-!
# Credentials

A credential is a text of nested layers.  Each layer is the base64 form of a key, a colon and the
next layer; the innermost one is a secret that is no layer itself.  The first three keys name
provider, developer and application.

* `splitLayer?_length_lt`: what a layer contains has fewer characters than the layer, which is why
  the layers come to an end.
* `Credential.parse` never fails: a text that is no layer has no keys.
-/

namespace Multiplayer

/-- What a client shows to be let in. -/
structure Credential where
  /-- The bytes that are sent for authentication. -/
  token : Bytes
  /-- The keys of the layers, from the outside. -/
  keys : List String
deriving DecidableEq, Repr

namespace Credential

/-- The byte between a key and the next layer. -/
def separator : UInt8 := 0x3a

/-- The key of a layer and what the layer contains, which must not be empty. -/
def splitLayer? (layer : List Char) : Option (List Char × List Char) := do
  let bytes ← Base64.decode? layer
  match bytes.dropWhile (· ≠ separator) with
  | [] | [_] => none
  | _ :: inner => some (Utf8.decodeLossy (bytes.takeWhile (· ≠ separator)), Utf8.decodeLossy inner)

theorem splitLayer?_length_lt {layer key inner : List Char}
    (h : splitLayer? layer = some (key, inner)) : inner.length < layer.length := by
  unfold splitLayer? at h
  cases hd : Base64.decode? layer with
  | none => simp [hd] at h
  | some bytes =>
    simp only [hd, Option.bind_eq_bind, Option.bind_some] at h
    split at h
    · cases h
    · cases h
    · rename_i first rest _ hdrop
      simp only [Option.some.injEq, Prod.mk.injEq] at h
      obtain ⟨_, rfl⟩ := h
      have hle := Utf8.length_decodeLossy_le rest
      have hsuffix := (List.dropWhile_suffix (· ≠ separator) (l := bytes)).length_le
      rw [hdrop] at hsuffix
      have := Base64.length_of_decode hd
      simp only [List.length_cons] at hsuffix
      omega

/-- The keys of all layers, from the outside. -/
def keysOf (layer : List Char) : List String :=
  match _h : splitLayer? layer with
  | none => []
  | some (key, inner) => String.ofList key :: keysOf inner
termination_by layer.length
decreasing_by exact splitLayer?_length_lt _h

def parse (raw : String) : Credential := ⟨Utf8.encode raw.toList, keysOf raw.toList⟩

/-- The key of a layer counted from the outside, empty if there is no such layer. -/
def key (c : Credential) (layer : Nat) : String := c.keys.getD layer ""

def provider (c : Credential) : String := c.key 0
def developer (c : Credential) : String := c.key 1
def appName (c : Credential) : String := c.key 2
def userId (c : Credential) : String := c.key 3

/-- What names the application in the directory: the first three keys in base64, or nothing if one
of them is missing. -/
def appId (c : Credential) : String :=
  if c.provider = "" || c.developer = "" || c.appName = "" then ""
  else
    let joined := ":".intercalate [c.provider, c.developer, c.appName]
    String.ofList (Base64.encode (Utf8.encode joined.toList))

/-- A credential on one line, without its token. -/
def summary (c : Credential) : String :=
  let keys := ", ".intercalate (c.keys.map Quoted.quote)
  "Credential \x7b token_len: " ++ toString c.token.length ++ ", access_keys: [" ++ keys ++ "] \x7d"

end Credential

end Multiplayer
