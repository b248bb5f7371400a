import Multiplayer.Proofs.Client.Wiring

/-!
# Frames that say nothing about the world

If the handlers of the application leave the lobby alone, then a frame leaves it alone unless the
session defines its data, its event is one of the notifications, and its body can be read.  What
the lobby has on record of earlier events never matters.

* `Client.SparesLobby`: nothing that the application has registered touches the lobby.
* `Frame.IsSilent` are the frames that say nothing.
* `leaves_of_mem_all`: a reaction is the one to a notification, or leaves the lobby alone.
* `Underway.silence` is the result.
-/

namespace Multiplayer

variable {σ τ δ α β : Type}

/-! ## Reactions -/

/-- No subscription touches what the view shows. -/
structure Subscriptions.LeavesAlone (view : HandlerState α → β) (s : Subscriptions α) : Prop where
  messages : s.messages.LeavesAlone view
  errors : ∀ source, (s.errors source).LeavesAlone view

namespace Reaction

variable {view : HandlerState α → β} {subscriptions : Subscriptions α}

theorem leaves_forward (h : subscriptions.LeavesAlone view) :
    Leaves view (forward subscriptions) := fun _ _ =>
  .bind (.ofExcept _) fun _ => h.messages.invoke _ _ _

theorem leaves_report (h : subscriptions.LeavesAlone view) (source : ErrorSource) :
    Leaves view (report subscriptions source) := fun _ _ =>
  .bind (.ofExcept _) fun _ => (h.errors source).invoke _ _ _

/-- What reacts to a notification, or leaves alone what the subscriptions leave alone. -/
theorem leaves_of_mem_all (h : subscriptions.LeavesAlone view)
    {entry : Event × Handler (HandlerState α)} (hmem : entry ∈ all subscriptions) :
    entry.1 ∈ Notification.events ∧ entry.2 = notify entry.1 ∨ Leaves view entry.2 := by
  rcases List.mem_append.1 hmem with hmem | hmem
  · obtain ⟨event, hevent, rfl⟩ := List.mem_map.1 hmem
    exact .inl ⟨hevent, rfl⟩
  · right
    simp only [List.mem_cons, List.not_mem_nil, or_false] at hmem
    rcases hmem with rfl | rfl | rfl | rfl
    · exact leaves_forward h
    · exact leaves_forward h
    · exact leaves_report h .client
    · exact leaves_report h .server

/-- A notification that cannot be read changes nothing. -/
theorem run_notify_of_error {event : Event} {frame : Frame} {s : HandlerState α}
    {decoder : Decoder Notification} {e : WireError}
    (hdecoder : Notification.decoder? s.now event = some decoder)
    (hread : frame.read decoder = .error e) :
    (notify event frame).run.run s = (.error (.wire e), s) := by
  unfold notify
  rw [Attempt.run_bind, Attempt.run_get]
  dsimp only
  rw [hdecoder]
  dsimp only
  rw [Attempt.run_bind, hread]
  rfl

end Reaction

/-- A frame that says nothing about the world to a client that gets it at a certain time: data of
the application, another event than the notifications, or a body that cannot be read. -/
inductive Frame.IsSilent (now : Instant) (frame : Frame) : Prop where
  | foreign (h : ¬ frame.isBuiltin)
  | other (h : ∀ event ∈ Notification.events, event.code ≠ frame.code)
  | malformed {event : Event} {decoder : Decoder Notification} {e : WireError}
    (hcode : event.code = frame.code) (hdecoder : Notification.decoder? now event = some decoder)
    (hread : frame.read decoder = .error e)

/-- A call that registers nothing that touches the lobby. -/
def Call.SparesLobby : Call α → Prop
  | .addHandler _ handler => Leaves HandlerState.lobby handler
  | .addMiddleware _ _ layer => LayerLeaves HandlerState.lobby layer
  | .onUserMessage _ callback => Leaves HandlerState.lobby callback
  | .onClientError _ callback => Leaves HandlerState.lobby callback
  | .onServerError _ callback => Leaves HandlerState.lobby callback
  | _ => True

namespace Client

open Attempt (Keeps)

/-! ## What the application has registered -/

/-- Nothing that the application has registered touches the lobby. -/
structure SparesLobby (c : Client τ δ α) : Prop where
  registry : c.registry.LeavesAlone HandlerState.lobby
  subscriptions : c.subscriptions.LeavesAlone HandlerState.lobby

theorem sparesLobby_build (b : Builder) (credential : Credential) (transport : τ) (directory : δ)
    (app : α) (now : Instant) : (b.build credential transport directory app now).SparesLobby where
  registry := .empty
  subscriptions := ⟨.empty, fun source => by cases source <;> exact .empty⟩

namespace SparesLobby

variable {c : Client τ δ α}

theorem onRegistry (h : c.SparesLobby)
    {change : Registry (HandlerState α) → Except RoutingError (Registry (HandlerState α))}
    (hchange : ∀ {registry}, change c.registry = .ok registry →
      registry.LeavesAlone HandlerState.lobby) :
    ((onRegistry change).run.run c).2.SparesLobby := by
  rw [run_onRegistry]
  split
  · rename_i registry hok
    exact ⟨hchange hok, h.subscriptions⟩
  · exact h

theorem subscribe (h : c.SparesLobby) {add : Subscriptions α → Subscriptions α}
    (hadd : (add c.subscriptions).LeavesAlone HandlerState.lobby) :
    ((subscribe add).run.run c).2.SparesLobby := by
  unfold Client.subscribe
  rw [Attempt.run_bind, Attempt.run_get]
  dsimp only
  split
  · exact h
  · exact ⟨h.registry, hadd⟩

/-- What calls register decides. -/
theorem perform [Transport τ] [Directory δ] (h : c.SparesLobby) (htabled : c.Registered Tabled)
    (made : Call α) (hmade : made.SparesLobby) : (made.perform.run.run c).2.SparesLobby := by
  by_cases hregistration : made.isRegistration
  · cases made with
    | addHandler code handler =>
      exact h.onRegistry fun hok => h.registry.addHandler hmade hok
    | addMiddleware code level layer =>
      exact h.onRegistry fun hok => h.registry.addMiddleware hmade hok
    | onUserMessage command callback =>
      exact h.subscribe ⟨h.subscriptions.messages.add hmade, h.subscriptions.errors⟩
    | onClientError code callback =>
      refine h.subscribe ⟨h.subscriptions.messages, fun source => ?_⟩
      cases source with
      | client => exact (h.subscriptions.errors .client).add hmade
      | server => exact h.subscriptions.errors .server
    | onServerError code callback =>
      refine h.subscribe ⟨h.subscriptions.messages, fun source => ?_⟩
      cases source with
      | client => exact h.subscriptions.errors .client
      | server => exact (h.subscriptions.errors .server).add hmade
    | start | tick | stop | sendRaw | send => cases hregistration
  · obtain ⟨hhandlers, hmiddleware, hsubscriptions⟩ :=
      kept_of_not_registration hregistration htabled
    refine ⟨⟨fun {code handlers} => ?_, ?_⟩, ?_⟩
    · rw [hhandlers]
      exact h.registry.handlers
    · rw [hmiddleware]
      exact h.registry.middleware
    · rw [hsubscriptions]
      exact h.subscriptions

theorem handle [Transport τ] (h : c.SparesLobby) (clock : Clock) (event : StreamEvent) :
    (c.handle clock event).SparesLobby := by
  let P : Registry (HandlerState α) → Subscriptions α → Option (Table (HandlerState α)) → Prop :=
    fun registry subscriptions _ => registry.LeavesAlone HandlerState.lobby ∧
      subscriptions.LeavesAlone HandlerState.lobby
  have hafter : (c.handle clock event).Registered P :=
    registered_handle P clock event ⟨h.registry, h.subscriptions⟩
  exact ⟨hafter.1, hafter.2⟩

end SparesLobby

theorem settle_leaves {view : HandlerState α → β} {action? : Option (Action (HandlerState α) Unit)}
    (h : ∀ action, action? = some action → ∀ shown, action.Keeps fun s => view s = shown)
    (s : HandlerState α) : view (settle action? s) = view s := by
  cases action? with
  | none => rfl
  | some action => exact h action rfl (view s) s rfl

/-! ## One frame -/

variable {registry : Registry (HandlerState α)} {subscriptions : Subscriptions α}
  {table : Table (HandlerState α)}

/-- The reaction to a silent frame leaves the lobby alone. -/
theorem lobby_settle_builtin (htabled : Tabled registry subscriptions (some table))
    (hspares : subscriptions.LeavesAlone HandlerState.lobby) {frame : Frame}
    (hbuiltin : frame.isBuiltin) {s : HandlerState α} (hsilent : frame.IsSilent s.now) :
    (settle (table.dispatchBuiltin? frame) s).lobby = s.lobby := by
  rw [Table.dispatchBuiltin?, htabled.builtin?]
  cases hfind : (Reaction.all subscriptions).find? (·.1.code = frame.code) with
  | none => rfl
  | some entry =>
    have hcode : entry.1.code = frame.code := by simpa using List.find?_some hfind
    change ((entry.2 frame).run.run s).2.lobby = s.lobby
    rcases Reaction.leaves_of_mem_all hspares (List.mem_of_find?_eq_some hfind) with
      ⟨hevent, hnotify⟩ | hleaves
    · cases hsilent with
      | foreign h => exact absurd hbuiltin h
      | other h => exact absurd hcode (h _ hevent)
      | malformed hsame hdecoder hread =>
        obtain rfl := Event.code_injective (hcode.trans hsame.symm)
        rw [hnotify, Reaction.run_notify_of_error hdecoder hread]
    · exact hleaves frame s.lobby s rfl

variable [Transport τ] [Directory δ]

/-- **A frame that says nothing leaves the world as it is.**  Data of the application, events that
are not notifications and bodies that cannot be read change nothing in the lobby but the record of
the event.  What the record had before matters for no frame. -/
theorem Underway.silence {c : Client τ δ α} (h : c.Underway) (now : Instant) (frame : Frame) :
    (c.SparesLobby → frame.IsSilent now →
      (c.dispatch now frame).state.lobby =
        { c.state.lobby with last := { code := some frame.code } }) ∧
    ∀ last, ({ c with state.lobby.last := last } : Client τ δ α).dispatch now frame =
      c.dispatch now frame := by
  obtain ⟨table, htable, htabled⟩ := h.wired
  refine ⟨fun hspares hsilent => ?_, fun last => ?_⟩
  · have hmain (s : HandlerState α) : (settle (table.dispatch? frame) s).lobby = s.lobby := by
      refine settle_leaves (fun action haction shown => ?_) s
      obtain ⟨handler, hlookup, rfl⟩ := Option.map_eq_some_iff.1 haction
      obtain ⟨-, rfl, -⟩ := htabled.built table rfl
      exact hspares.registry.table hlookup frame shown
    rw [dispatch_eq, htable]
    refine (hmain _).trans ?_
    by_cases hbuiltin : frame.isBuiltin
    · rw [if_pos hbuiltin]
      exact lobby_settle_builtin htabled hspares.subscriptions hbuiltin hsilent
    · rw [if_neg hbuiltin]
      rfl
  · rw [dispatch_eq, dispatch_eq]
    simp only [htable]
    rfl

/-- The application counts the updates of rooms. -/
def watching : Call Nat :=
  .addHandler Event.onRoomUpdated.code fun _ => modify fun s => { s with app := s.app + 1 }

/-- A client that has been started with that. -/
def watcher : Client Pipe FixedDirectory Nat :=
  ((default : Builder).build (Credential.parse "cDpaRHBaVkhCclZraENOZz09") Pipe.empty
    ⟨some (.ofAddress "localhost" 7000)⟩ 0 ⟨0⟩).after [.call watching, .call (.start ⟨1⟩)]

theorem watcher_spares : watcher.Reachable ∧ watcher.SparesLobby := by
  have hbuilt := Reachable.build (default : Builder) (Credential.parse "cDpaRHBaVkhCclZraENOZz09")
    Pipe.empty (⟨some (.ofAddress "localhost" 7000)⟩ : FixedDirectory) 0 ⟨0⟩
  have hwatching := hbuilt.call watching
  have hspares := sparesLobby_build (default : Builder)
    (Credential.parse "cDpaRHBaVkhCclZraENOZz09") Pipe.empty
    (⟨some (.ofAddress "localhost" 7000)⟩ : FixedDirectory) 0 ⟨0⟩
  have hspares := hspares.perform hbuilt.tabled watching fun _ _ => Keeps.modify fun _ h => h
  exact ⟨hwatching.call (.start ⟨1⟩), hspares.perform hwatching.tabled (.start ⟨1⟩) trivial⟩

/-- It has its session and has heard of a room with a member. -/
def informed : Client Pipe FixedDirectory Nat :=
  (watcher.handle ⟨⟨2⟩, default⟩ (.established 10 ⟨1⟩)).handle ⟨⟨2⟩, default⟩ (.frame
    ⟨8, Event.onRoomCreated.code, [0, 7, 0, 0, 4, 0, 1, 0, 9, 0, 0, 255, 255, 255, 255]⟩)

/-- A user without a seat, a user of no known status, half a pair of session and seat, and a room
of no known kind. -/
def garbled : List (Event × Bytes) :=
  [(.onUserEnteredRoom, [0, 9, 1, 0, 7]), (.onUserUpdated, [0, 9, 2]),
    (.onRoomUpdated, [0, 7, 0, 0, 4, 0, 1, 0, 5]), (.onRoomCreated, [0, 7, 2, 0, 4, 0, 1])]

theorem isSilent_garbled {event : Event} {body : Bytes} (h : (event, body) ∈ garbled) :
    (⟨8, event.code, body⟩ : Frame).IsSilent ⟨3⟩ := by
  have hfails {decoder : Decoder Notification}
      (hdecoder : Notification.decoder? ⟨3⟩ event = some decoder)
      (hread : (decoder.decode body).isOk = false) :
      (⟨8, event.code, body⟩ : Frame).IsSilent ⟨3⟩ := by
    cases hresult : decoder.decode body with
    | error e => exact .malformed rfl hdecoder hresult
    | ok => rw [hresult] at hread; cases hread
  simp only [garbled, List.mem_cons, Prod.mk.injEq, List.not_mem_nil, or_false] at h
  rcases h with ⟨rfl, rfl⟩ | ⟨rfl, rfl⟩ | ⟨rfl, rfl⟩ | ⟨rfl, rfl⟩
  · exact hfails rfl (by decide +kernel)
  · exact hfails rfl (by decide +kernel)
  · exact hfails rfl (by decide +kernel)
  · exact hfails rfl (by decide +kernel)

theorem silence_garbled :
    informed.Underway ∧ informed.SparesLobby ∧
      informed.state.lobby.user? ⟨9⟩ = some (.inRoom ⟨9⟩ ⟨7⟩ 0) ∧
      ∀ event body, (event, body) ∈ garbled →
        (⟨8, event.code, body⟩ : Frame).isBuiltin ∧
        (informed.dispatch ⟨3⟩ ⟨8, event.code, body⟩).state.lobby =
          { informed.state.lobby with last := { code := some event.code } } := by
  obtain ⟨hreachable, hspares⟩ := watcher_spares
  have hwatches : watcher.Underway := .connected hreachable (by decide +kernel)
  have hunderway : informed.Underway := (hwatches.handled _ _).handled _ _
  have hspares : informed.SparesLobby := (hspares.handle _ _).handle _ _
  refine ⟨hunderway, hspares, by decide +kernel, fun event body hmem =>
    ⟨isBuiltin_header ⟨8, rfl⟩ _ _, ?_⟩⟩
  exact (hunderway.silence ⟨3⟩ ⟨8, event.code, body⟩).1 hspares (isSilent_garbled hmem)

end Client

end Multiplayer
