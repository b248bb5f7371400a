import Multiplayer.Proofs.Json.Documents
import Multiplayer.Session.Directory

/-!
# Settings and endpoints as documents

Settings and endpoints are written as compact JSON and read back.  Reading mends settings, so those
come back that need no mending.

* `Settings.validated_eq_self_iff`: which settings need no mending.
* `Settings.defaulting`: settings with some members at their defaults, and `ofJson?_without` says
  that a document without these members is read as them.
* `documents_read_back` is the result.
-/

namespace Multiplayer

open Json (LawfulDocument Document)

instance : LawfulDocument Environment where
  readable environment := Json.Value.readable_ofText environment.name
  ofJson?_toJson environment := by
    refine (Json.Value.case?_ofText _ environment.name).trans ?_
    cases environment <;> rfl

instance : LawfulDocument Region where
  readable region := Json.Value.readable_ofText region.name
  ofJson?_toJson region := by
    refine (Json.Value.case?_ofText _ region.name).trans ?_
    cases region
    rfl

/-! ## Settings -/

namespace Settings

theorem orOne_eq_self_iff {n : UInt64} : orOne n = n ↔ 1 ≤ n := by
  constructor
  · intro h
    rw [← h]
    exact UInt64.lt_iff_toNat_lt.1 (orOne_pos n)
  · intro h
    refine if_neg ?_
    rintro rfl
    exact absurd h (by decide)

/-- Nothing is to be mended if there is a pause between heartbeats and something is read. -/
theorem validated_eq_self_iff {settings : Settings} :
    settings.validated = settings ↔ 1 ≤ settings.heartbeatSeconds ∧ 1 ≤ settings.receiveChunk := by
  rw [← orOne_eq_self_iff, ← orOne_eq_self_iff]
  obtain ⟨heartbeat, host, environment, region, chunk⟩ := settings
  simp [validated]

/-- The members of a document of settings. -/
def members (settings : Settings) : List (String × Json.Value) :=
  [("default_heartbeat_secs", Document.toJson settings.heartbeatSeconds),
    ("host_override", Document.toJson settings.hostOverride),
    ("environment", Document.toJson settings.environment),
    ("region", Document.toJson settings.region),
    ("receive_chunk", Document.toJson settings.receiveChunk)]

theorem toJson_eq (settings : Settings) :
    Document.toJson settings = Json.Value.ofMembers settings.members := rfl

/-- The settings with the members of some names at their defaults. -/
def defaulting (names : List String) (settings : Settings) : Settings :=
  let absent : Settings := {}
  { heartbeatSeconds :=
      if "default_heartbeat_secs" ∈ names then absent.heartbeatSeconds
      else settings.heartbeatSeconds
    hostOverride := if "host_override" ∈ names then absent.hostOverride else settings.hostOverride
    environment := if "environment" ∈ names then absent.environment else settings.environment
    region := if "region" ∈ names then absent.region else settings.region
    receiveChunk := if "receive_chunk" ∈ names then absent.receiveChunk else settings.receiveChunk }

theorem names_nodup (settings : Settings) : (settings.members.map Prod.fst).Nodup := by
  change ["default_heartbeat_secs", "host_override", "environment", "region", "receive_chunk"].Nodup
  decide

theorem defaulting_nil (settings : Settings) : settings.defaulting [] = settings := rfl

theorem readable_of_mem_members {settings : Settings} {member : String × Json.Value}
    (h : member ∈ settings.members) : member.2.Readable := by
  simp only [members, List.mem_cons, List.not_mem_nil, or_false] at h
  obtain rfl | rfl | rfl | rfl | rfl := h <;> exact LawfulDocument.readable _

theorem readable_without (names : List String) (settings : Settings) :
    ((Document.toJson settings).without names).Readable := by
  rw [toJson_eq, Json.Value.without_ofMembers]
  exact Json.Value.readable_ofMembers fun member hmember =>
    readable_of_mem_members (List.mem_filter.1 hmember).1

/-- Members that are not there have their defaults. -/
theorem ofJson?_without (names : List String) (settings : Settings) :
    Document.ofJson? ((Document.toJson settings).without names) =
      some (settings.defaulting names) := by
  have hrecord := Json.Value.record?_without settings.names_nodup names
  simp only [members, List.map_cons, List.map_nil] at hrecord
  rw [toJson_eq, members]
  unfold Document.ofJson? instDocument
  dsimp only
  rw [hrecord]
  simp only [Option.bind_eq_bind, Option.bind_some, Json.optional_ite]
  rfl

theorem parse_toText {value : Json.Value} {settings : Settings} (hreadable : value.Readable)
    (h : Document.ofJson? value = some settings) :
    parse value.toText = .ok settings.validated := by
  rw [parse, Json.read?_toText hreadable, h]

theorem parse_without (names : List String) (settings : Settings) :
    parse ((Document.toJson settings).without names).toText =
      .ok (settings.defaulting names).validated :=
  parse_toText (readable_without names settings) (ofJson?_without names settings)

/-- Members at their defaults need no mending. -/
theorem validated_defaulting {settings : Settings} (h : settings.validated = settings)
    (names : List String) : (settings.defaulting names).validated = settings.defaulting names := by
  rw [validated_eq_self_iff] at h ⊢
  constructor
  · unfold defaulting
    dsimp only
    split
    · decide
    · exact h.1
  · unfold defaulting
    dsimp only
    split
    · decide
    · exact h.2

end Settings

/-! ## Endpoints -/

namespace Endpoint

/-- The members of the description of an endpoint. -/
def members (endpoint : Endpoint) : List (String × Json.Value) :=
  [("scheme", Document.toJson endpoint.scheme), ("host", Document.toJson endpoint.host),
    ("port", Document.toJson endpoint.port), ("key", Document.toJson endpoint.key),
    ("options", Document.toJson endpoint.options)]

theorem toJson_eq (endpoint : Endpoint) :
    Document.toJson endpoint = Json.Value.ofMembers endpoint.members := rfl

instance : LawfulDocument Endpoint where
  readable endpoint := by
    refine @Json.Value.readable_ofMembers endpoint.members fun member h => ?_
    simp only [members, List.mem_cons, List.not_mem_nil, or_false] at h
    obtain rfl | rfl | rfl | rfl | rfl := h <;> exact LawfulDocument.readable _
  ofJson?_toJson endpoint := by
    have hnodup : (endpoint.members.map Prod.fst).Nodup := by
      change ["scheme", "host", "port", "key", "options"].Nodup
      decide
    have hrecord := Json.Value.record?_without hnodup []
    rw [Json.Value.without_nil] at hrecord
    simp only [members, List.map_cons, List.map_nil, List.not_mem_nil, if_false] at hrecord
    rw [toJson_eq, members]
    unfold Document.ofJson? instDocument
    dsimp only
    rw [hrecord]
    simp only [Option.bind_eq_bind, Option.bind_some, Json.optional, Json.required,
      LawfulDocument.ofJson?_toJson]
    rfl

theorem parse_render (endpoint : Endpoint) : parse (Json.render endpoint) = .ok endpoint := by
  rw [parse, Json.read?_render]

end Endpoint

/-- **Settings and endpoints are read from the documents that are written for them.**  The settings
are those that need no mending.  Without some members of the document, these are at their defaults
and all others as they were. -/
theorem documents_read_back :
    (∀ settings : Settings, settings.validated = settings ↔
      1 ≤ settings.heartbeatSeconds ∧ 1 ≤ settings.receiveChunk) ∧
    (∀ settings : Settings, settings.validated = settings →
      Settings.parse (Json.render settings) = .ok settings ∧
      ∀ dropped : List String,
        Settings.parse ((Document.toJson settings).without dropped).toText =
          .ok (settings.defaulting dropped)) ∧
    ∀ endpoint : Endpoint, Endpoint.parse (Json.render endpoint) = .ok endpoint := by
  refine ⟨fun settings => Settings.validated_eq_self_iff, fun settings hvalid => ⟨?_, ?_⟩,
    Endpoint.parse_render⟩
  · have hparse := Settings.parse_without [] settings
    rwa [Json.Value.without_nil, Settings.defaulting_nil, hvalid] at hparse
  · intro dropped
    rw [Settings.parse_without, Settings.validated_defaulting hvalid]

/-- Settings at the ends of their ranges, with a host that no text can hold as it is, and without
two of their members. -/
theorem documents_read_back_odd :
    let settings : Settings :=
      { heartbeatSeconds := 0xffffffffffffffff, hostOverride := some "a\"\\\n\x00\x7f😀",
        environment := .playground, receiveChunk := 1 }
    settings.validated = settings ∧ Settings.parse (Json.render settings) = .ok settings ∧
      let dropped := ["receive_chunk", "host_override"]
      Settings.parse ((Document.toJson settings).without dropped).toText =
        .ok { settings with hostOverride := none, receiveChunk := 1024 } := by
  intro settings
  have hvalid : settings.validated = settings := rfl
  obtain ⟨hwhole, hdropped⟩ := documents_read_back.2.1 settings hvalid
  exact ⟨hvalid, hwhole, hdropped _⟩

/-- A host that is not given stands as null in the document. -/
example : Json.render ({ environment := .playground } : Settings) =
    "\x7b\"default_heartbeat_secs\":1,\"host_override\":null,\"environment\":\"playground\"," ++
      "\"region\":\"jp\",\"receive_chunk\":1024\x7d" := by decide +kernel

end Multiplayer
