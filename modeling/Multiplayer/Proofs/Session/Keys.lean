import Multiplayer.Proofs.Session.Layers

/-!
# The keys of a credential

A key ends at the first separator of its layer, and lenient decoding puts no separator into it.  So
the keys that are read are those that were wrapped around a secret, and three of them joined by
separators can be taken apart again.

* `layerOf` is a layer as it is made, and `splitLayer?_layerOf` how it is read.
* `keys_of_layers`: the keys of a text that was made of layers.
* `separator_not_mem_key`: what no key contains.
* `appId_identifies`: what the name of an application in the directory stands for.
-/

namespace Multiplayer.Credential

/-! ## Made of layers -/

/-- A key and what is inside, as one layer. -/
def layerOf (key inner : String) : String :=
  String.ofList (Base64.encode (Utf8.encode (key ++ ":" ++ inner).toList))

/-- The text is a layer: the written form of some bytes with a separator that is not the last. -/
def IsLayer (text : String) : Prop :=
  ∃ before after : Bytes, after ≠ [] ∧
    text.toList = Base64.encode (before ++ separator :: after)

/-- It does not matter which separator it is, since the first one comes before the others. -/
theorem isLayer_iff {text : String} : IsLayer text ↔ (splitLayer? text.toList).isSome := by
  constructor
  · rintro ⟨before, after, hafter, htext⟩
    rw [Option.isSome_iff_exists, Prod.exists]
    by_cases hmem : separator ∈ before
    · obtain ⟨front, rest, rfl, hfront⟩ := List.eq_append_cons_of_mem hmem
      rw [List.append_assoc, List.cons_append] at htext
      exact ⟨_, _, splitLayer?_eq_some_iff.2
        ⟨front, rest ++ separator :: after, hfront, by simp, htext, rfl, rfl⟩⟩
    · exact ⟨_, _, splitLayer?_eq_some_iff.2 ⟨before, after, hmem, hafter, htext, rfl, rfl⟩⟩
  · intro h
    obtain ⟨⟨key, inner⟩, h⟩ := Option.isSome_iff_exists.1 h
    obtain ⟨before, after, -, hafter, htext, -, -⟩ := splitLayer?_eq_some_iff.1 h
    exact ⟨before, after, hafter, htext⟩

instance : DecidablePred IsLayer := fun _ => decidable_of_iff _ isLayer_iff.symm

theorem separator_mem_encode_iff {text : List Char} :
    separator ∈ Utf8.encode text ↔ ':' ∈ text :=
  Utf8.mem_encode_iff (b := separator) (by decide)

theorem splitLayer?_layerOf {key inner : String} (hkey : ':' ∉ key.toList) (hinner : inner ≠ "") :
    splitLayer? (layerOf key inner).toList = some (key.toList, inner.toList) := by
  refine splitLayer?_eq_some_iff.2 ⟨Utf8.encode key.toList, Utf8.encode inner.toList, ?_, ?_, ?_,
    (Utf8.decodeLossy_encode _).symm, (Utf8.decodeLossy_encode _).symm⟩
  · rwa [separator_mem_encode_iff]
  · exact List.length_pos_iff.1 (length_encode_pos (mt String.toList_eq_nil_iff.1 hinner))
  · rw [layerOf, String.toList_ofList, String.toList_append, String.toList_append,
      Utf8.encode_append, Utf8.encode_append, List.append_assoc]
    rfl

theorem layers_ne_empty {keys : List String} {secret : String}
    (hkeys : ∀ key ∈ keys, ':' ∉ key.toList) (hsecret : secret ≠ "") :
    keys.foldr layerOf secret ≠ "" := by
  induction keys with
  | nil => exact hsecret
  | cons key keys ih =>
    obtain ⟨hkey, hothers⟩ := List.forall_mem_cons.1 hkeys
    have hlayer := ne_nil_of_splitLayer? (splitLayer?_layerOf hkey (ih hothers))
    exact mt String.toList_eq_nil_iff.2 hlayer

theorem keysOf_layers {keys : List String} {secret : String}
    (hkeys : ∀ key ∈ keys, ':' ∉ key.toList) (hsecret : secret ≠ "") (hlast : ¬ IsLayer secret) :
    keysOf (keys.foldr layerOf secret).toList = keys := by
  induction keys with
  | nil =>
    rw [isLayer_iff, Option.not_isSome_iff_eq_none] at hlast
    exact keysOf_of_none hlast
  | cons key keys ih =>
    obtain ⟨hkey, hothers⟩ := List.forall_mem_cons.1 hkeys
    have hlayer := splitLayer?_layerOf hkey (layers_ne_empty hothers hsecret)
    rw [List.foldr_cons, keysOf_of_some hlayer, ih hothers, String.ofList_toList]

/-- **A credential has the keys that it was made with.**  Keys without a separator are wrapped
around a secret that is no layer itself.  Then exactly these keys are read, in their order, and the
token is the text as it is. -/
theorem keys_of_layers {keys : List String} {secret : String}
    (hkeys : ∀ key ∈ keys, ':' ∉ key.toList) (hsecret : secret ≠ "") (hlast : ¬ IsLayer secret) :
    let text := keys.foldr layerOf secret
    let c := parse text
    c.keys = keys ∧ c.token = Utf8.encode text.toList ∧
      c.provider = keys.getD 0 "" ∧ c.developer = keys.getD 1 "" ∧ c.appName = keys.getD 2 "" ∧
      c.userId = keys.getD 3 "" := by
  intro text c
  have hread : c.keys = keys := keysOf_layers hkeys hsecret hlast
  refine ⟨hread, rfl, ?_, ?_, ?_, ?_⟩
  · rw [provider, key, hread]
  · rw [developer, key, hread]
  · rw [appName, key, hread]
  · rw [userId, key, hread]

/-- Five keys, two of them empty, around a secret that is the written form of a key and a separator
with nothing behind it. -/
theorem keys_of_layers_lonely :
    let keys := ["", "stüdio", "😀", "u-100", ""]
    let secret := "bG9uZWx5Og=="
    let c := parse (keys.foldr layerOf secret)
    (∀ key ∈ keys, ':' ∉ key.toList) ∧ secret ≠ "" ∧ ¬ IsLayer secret ∧
      c.keys = keys ∧ c.provider = "" ∧ c.userId = "u-100" := by
  intro keys secret c
  have hkeys : ∀ key ∈ keys, ':' ∉ key.toList := by decide
  have hsecret : secret ≠ "" := by decide
  have hlast : ¬ IsLayer secret := by decide +kernel
  obtain ⟨hread, -, hprovider, -, -, huserId⟩ := keys_of_layers hkeys hsecret hlast
  exact ⟨hkeys, hsecret, hlast, hread, hprovider, huserId⟩

/-! ## No separators -/

theorem separator_not_mem_of_mem_keysOf {layer : List Char} {key : String}
    (h : key ∈ keysOf layer) : ':' ∉ key.toList := by
  induction layer using keysOf.induct with
  | case1 layer hnone =>
    rw [keysOf_of_none hnone] at h
    cases h
  | case2 layer first inner hsome ih =>
    rw [keysOf_of_some hsome, List.mem_cons] at h
    rcases h with rfl | h
    · obtain ⟨before, after, hbefore, -, -, rfl, -⟩ := splitLayer?_eq_some_iff.1 hsome
      rw [String.toList_ofList]
      intro hmem
      have hspelled := Utf8.infix_of_mem_decodeLossy (by decide) hmem
      exact hbefore (hspelled.mem (List.mem_singleton_self separator))
    · exact ih h

/-- Whatever the bytes of a layer are, no separator is read into a key. -/
theorem separator_not_mem_key (raw : String) (layer : Nat) :
    ':' ∉ ((parse raw).key layer).toList := by
  rw [key, List.getD_eq_getElem?_getD]
  cases hkey : (parse raw).keys[layer]? with
  | none => exact List.not_mem_nil
  | some key => exact separator_not_mem_of_mem_keysOf (List.mem_of_getElem? hkey)

/-! ## The name of an application -/

/-- The three keys joined as they are before they are encoded. -/
def joinedKeys (c : Credential) : List Char :=
  c.provider.toList ++ ':' :: (c.developer.toList ++ ':' :: c.appName.toList)

theorem toList_appId {c : Credential}
    (h : ¬ (c.provider = "" ∨ c.developer = "" ∨ c.appName = "")) :
    c.appId.toList = Base64.encode (Utf8.encode c.joinedKeys) := by
  have hjoined : (":".intercalate [c.provider, c.developer, c.appName]).toList = c.joinedKeys := by
    simp [joinedKeys]
  simp only [appId, Bool.or_eq_true, decide_eq_true_eq, or_assoc, if_neg h, String.toList_ofList,
    hjoined]

theorem appId_eq_empty_iff (c : Credential) :
    c.appId = "" ↔ c.provider = "" ∨ c.developer = "" ∨ c.appName = "" := by
  constructor
  · intro h
    by_contra hkeys
    have hnil := toList_appId hkeys
    rw [h, String.toList_empty, eq_comm, Base64.encode_eq_nil_iff] at hnil
    have hjoined : c.joinedKeys = [] := Utf8.encode_injective hnil
    simp [joinedKeys] at hjoined
  · intro h
    simp only [appId, Bool.or_eq_true, decide_eq_true_eq, or_assoc, if_pos h]

/-- What is before the first separator, and what is behind it, can be told from the whole. -/
theorem append_cut_inj {α : Type} [DecidableEq α] {sep : α} {front front' rest rest' : List α}
    (hfront : sep ∉ front) (hfront' : sep ∉ front')
    (h : front ++ sep :: rest = front' ++ sep :: rest') : front = front' ∧ rest = rest' := by
  constructor
  · calc front
      _ = (front ++ sep :: rest).takeWhile (· ≠ sep) := (takeWhile_cut hfront).symm
      _ = (front' ++ sep :: rest').takeWhile (· ≠ sep) := by rw [h]
      _ = front' := takeWhile_cut hfront'
  · have hdrop : sep :: rest = sep :: rest' := by
      rw [← dropWhile_cut hfront, h, dropWhile_cut hfront']
    exact (List.cons.inj hdrop).2

theorem joinedKeys_inj {raw raw' : String} (h : (parse raw).joinedKeys = (parse raw').joinedKeys) :
    (parse raw).provider = (parse raw').provider ∧
      (parse raw).developer = (parse raw').developer ∧
      (parse raw).appName = (parse raw').appName := by
  obtain ⟨hprovider, h⟩ :=
    append_cut_inj (separator_not_mem_key raw 0) (separator_not_mem_key raw' 0) h
  obtain ⟨hdeveloper, happ⟩ :=
    append_cut_inj (separator_not_mem_key raw 1) (separator_not_mem_key raw' 1) h
  exact ⟨String.toList_inj.1 hprovider, String.toList_inj.1 hdeveloper, String.toList_inj.1 happ⟩

/-- **The name of an application is its own.**  Two texts whatever name the same application only if
provider, developer and application name are the same, and a text names an application exactly if
it has all three of them. -/
theorem appId_identifies :
    (∀ {raw raw' : String}, (parse raw).appId ≠ "" → (parse raw).appId = (parse raw').appId →
      (parse raw).provider = (parse raw').provider ∧
        (parse raw).developer = (parse raw').developer ∧
        (parse raw).appName = (parse raw').appName) ∧
    ∀ raw : String, (parse raw).appId ≠ "" ↔
      (parse raw).provider ≠ "" ∧ (parse raw).developer ≠ "" ∧ (parse raw).appName ≠ "" := by
  refine ⟨fun {raw raw'} hnamed hsame => joinedKeys_inj ?_, fun raw => ?_⟩
  · have hkeys := mt (appId_eq_empty_iff (parse raw)).2 hnamed
    have hkeys' := mt (appId_eq_empty_iff (parse raw')).2 (hsame ▸ hnamed)
    have hencoded := congrArg String.toList hsame
    rw [toList_appId hkeys, toList_appId hkeys'] at hencoded
    exact Utf8.encode_injective (Base64.encode_injective hencoded)
  · rw [ne_eq, appId_eq_empty_iff, not_or, not_or]

/-- The provider of one text is an ill-formed byte, and that of the other the character that is read
in its place.  The second text has a fourth layer. -/
theorem appId_identifies_replaced :
    let c := parse "/zpjenBqUkhBMA=="
    let c' := parse "77+9OmN6cGpSSEJyVmtoQk1RPT0="
    c.appId = "77+9OnM6cA==" ∧ c.appId = c'.appId ∧ c ≠ c' ∧
      c.provider = c'.provider ∧ c.developer = c'.developer ∧ c.appName = c'.appName := by
  intro c c'
  have hnamed : c.appId = "77+9OnM6cA==" := by decide +kernel
  have hsame : c.appId = c'.appId := by decide +kernel
  have hne : c.appId ≠ "" := by
    rw [hnamed]
    decide
  exact ⟨hnamed, hsame, by decide +kernel, appId_identifies.1 hne hsame⟩

end Multiplayer.Credential
