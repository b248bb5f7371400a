import Multiplayer.Proofs.Client.Draining
import Multiplayer.Proofs.Routing.Leaving
import Multiplayer.Proofs.World.Announcement

/-!
# What a client makes of one announcement

A client that has been started without a handler that touches the lobby does to its lobby what an
announcement says, and nothing else.

* `Table.Tells`: what is needed of the table; `Client.Unheard` says that a client that has not been
  started yet will have such a table.
* `Client.Fresh` is a client that has just been started; `Fresh.unheard` is what holds of it.
* `Client.lobby_handle`: what handling the event of an announcement does to the lobby.
-/

namespace Multiplayer

variable {α : Type}

/-! ## The table of a client -/

/-- Handlers of the application leave the lobby alone, and notifications are handled as such. -/
structure Table.Tells (t : Table (HandlerState α)) : Prop where
  main : ∀ {code : UInt16} {handler}, t.main[code]? = some handler →
    Leaves HandlerState.lobby handler
  builtin : ∀ event ∈ Notification.events, t.builtin[event.code]? = some (Reaction.notify event)

namespace Reaction

open Registry

/-- Built-in handlers that are added one after another. -/
def addAll {σ : Type} (entries : List (Event × Handler σ)) (handlers : HandlerMap σ) :
    HandlerMap σ :=
  entries.foldl (fun handlers entry => addTo handlers entry.1.code entry.2) handlers

theorem foldlM_addBuiltin {σ : Type} (entries : List (Event × Handler σ)) {r : Registry σ}
    (hopen : r.isSealed = false) :
    entries.foldlM (fun r entry => r.addBuiltin entry.1.code entry.2) r =
      .ok { r with builtins := addAll entries r.builtins } := by
  induction entries generalizing r with
  | nil => rfl
  | cons entry entries ih =>
    have hadd : r.addBuiltin entry.1.code entry.2 =
        .ok { r with builtins := addTo r.builtins entry.1.code entry.2 } := by
      simp [addBuiltin, hopen]
    rw [List.foldlM_cons, hadd]
    exact ih (r := { r with builtins := addTo r.builtins entry.1.code entry.2 }) hopen

theorem getElem?_addAll_of_not_mem {σ : Type} {entries : List (Event × Handler σ)} {event : Event}
    (h : event ∉ entries.map Prod.fst) (handlers : HandlerMap σ) :
    (addAll entries handlers)[event.code]? = handlers[event.code]? := by
  induction entries generalizing handlers with
  | nil => rfl
  | cons entry entries ih =>
    rw [List.map_cons, List.mem_cons, not_or] at h
    have hcode : entry.1.code ≠ event.code := fun heq => h.1 (Event.code_injective heq).symm
    change (addAll entries (addTo handlers entry.1.code entry.2))[event.code]? = _
    rw [ih h.2, getElem?_addTo, if_neg hcode]

/-- An event that stands once among the entries has its one handler. -/
theorem getElem?_addAll {σ : Type} {entries : List (Event × Handler σ)}
    (hnodup : (entries.map Prod.fst).Nodup) {event : Event} {handler : Handler σ}
    (hmem : (event, handler) ∈ entries) {handlers : HandlerMap σ}
    (hnone : handlers[event.code]? = none) :
    (addAll entries handlers)[event.code]? = some [handler] := by
  induction entries generalizing handlers with
  | nil => simp at hmem
  | cons entry entries ih =>
    rw [List.map_cons, List.nodup_cons] at hnodup
    change (addAll entries (addTo handlers entry.1.code entry.2))[event.code]? = _
    rcases List.mem_cons.1 hmem with rfl | hmem
    · rw [getElem?_addAll_of_not_mem hnodup.1, getElem?_addTo, if_pos rfl, hnone]
      rfl
    · have hne : entry.1 ≠ event := by
        intro heq
        apply hnodup.1
        rw [heq]
        exact List.mem_map_of_mem (f := Prod.fst) hmem
      refine ih hnodup.2 hmem ?_
      rw [getElem?_addTo, if_neg fun heq => hne (Event.code_injective heq)]
      exact hnone

theorem nodup_all (subscriptions : Subscriptions α) : ((all subscriptions).map Prod.fst).Nodup := by
  have hevents : (all subscriptions).map Prod.fst = Notification.events ++
      [.onUserMessage, .onRoomUserMessage, .onErrorClient, .onErrorServer] := rfl
  rw [hevents]
  decide

/-- What becomes of a registry without built-in handlers when the reactions are installed. -/
theorem install_tells {r : Registry (HandlerState α)} (hopen : r.isSealed = false)
    (hnone : r.builtins = ∅) (hleaves : r.LeavesAlone HandlerState.lobby)
    (subscriptions : Subscriptions α) :
    ∃ r', install subscriptions r = .ok r' ∧ r'.table.Tells := by
  refine ⟨_, foldlM_addBuiltin (all subscriptions) hopen, ?_, ?_⟩
  · intro code handler hlookup
    exact hleaves.table hlookup
  · intro event hevent
    have hmem : (event, notify event) ∈ all subscriptions :=
      List.mem_append_left _ (List.mem_map.2 ⟨event, hevent, rfl⟩)
    have hbefore : r.builtins[event.code]? = none := by simp [hnone]
    have hlookup := getElem?_addAll (nodup_all subscriptions) hmem hbefore
    simp only [Registry.table, Std.ExtTreeMap.getElem?_map, hlookup]
    rfl

end Reaction

namespace Client

open Attempt (Keeps)

variable {τ δ : Type}

/-! ## One announcement -/

/-- Reading a notification does to the lobby what it says. -/
theorem run_notify {news : News} {frame : Frame} {s : HandlerState α}
    (hbody : frame.body = news.body) :
    ((Reaction.notify news.event frame).run.run s).2 =
      { s with lobby := (news.notification s.now).apply s.lobby } := by
  obtain ⟨decoder, hdecoder, hdecode⟩ := news.decode_body s.now
  unfold Reaction.notify
  rw [Attempt.run_bind, Attempt.run_get]
  dsimp only
  rw [hdecoder]
  dsimp only
  rw [Attempt.run_bind, Frame.read, hbody, hdecode]
  rfl

theorem isBuiltin_header (header : Header 8) (code : UInt16) (body : Bytes) :
    (⟨header.1, code, body⟩ : Frame).isBuiltin := by
  rw [Frame.isBuiltin, Frame.kind?, Assembler.ofHeader?_eq_find?, header.2]
  rfl

theorem lobby_settle {t : Table (HandlerState α)} (htells : t.Tells) (frame : Frame)
    (s : HandlerState α) : (settle (t.dispatch? frame) s).lobby = s.lobby := by
  unfold Table.dispatch?
  cases hlookup : t.main[frame.code]? with
  | none => rfl
  | some handler => exact htells.main hlookup frame s.lobby s rfl

/-- Handling the event of an announcement tells the lobby. -/
theorem lobby_handle [Transport τ] {c : Client τ δ α} {t : Table (HandlerState α)}
    (htable : c.table = some t) (htells : t.Tells) (clock : Clock) (a : Announcement) :
    (c.handle clock a.event).state.lobby = a.tell clock.monotonic c.state.lobby ∧
      (c.handle clock a.event).table = some t := by
  cases a with
  | established header keepAlive session => exact ⟨rfl, htable⟩
  | notification header news fits =>
    let frame : Frame := ⟨header.1, news.event.code, news.body⟩
    have hbuiltin : frame.isBuiltin := isBuiltin_header header _ _
    have hlookup : t.dispatchBuiltin? frame = some (Reaction.notify news.event frame) := by
      rw [Table.dispatchBuiltin?, htells.builtin news.event news.event_mem]
      rfl
    change (c.dispatch clock.monotonic frame).state.lobby = _ ∧
      (c.dispatch clock.monotonic frame).table = some t
    rw [dispatch_eq]
    refine ⟨?_, htable⟩
    simp only [htable, respond, hbuiltin, if_true, hlookup]
    rw [lobby_settle htells, settle, run_notify rfl]
    rfl

theorem lobby_handleAll [Transport τ] {t : Table (HandlerState α)} (htells : t.Tells)
    (clock : Clock) (announcements : List Announcement) {c : Client τ δ α}
    (htable : c.table = some t) :
    (handleAll clock (announcements.map Announcement.event) c).state.lobby =
        announcements.foldl (Announcement.tell clock.monotonic) c.state.lobby ∧
      (handleAll clock (announcements.map Announcement.event) c).table = some t := by
  induction announcements generalizing c with
  | nil => exact ⟨rfl, htable⟩
  | cons a announcements ih =>
    obtain ⟨hlobby, htable⟩ := lobby_handle htable htells clock a
    obtain ⟨hlobbies, htables⟩ := ih htable
    rw [hlobby] at hlobbies
    exact ⟨hlobbies, htables⟩

/-! ## Before the first announcement -/

/-- Nothing has been heard yet, and the table is or will be one that tells. -/
structure Unheard (c : Client τ δ α) : Prop where
  lobby : c.state.lobby = .empty
  assembler : c.assembler = .empty
  registry : c.table = none →
    c.registry.isSealed = false ∧ c.registry.builtins = ∅ ∧
      c.registry.LeavesAlone HandlerState.lobby
  table : ∀ t, c.table = some t → t.Tells

theorem unheard_build (b : Builder) (credential : Credential) (transport : τ) (directory : δ)
    (app : α) (now : Instant) : (b.build credential transport directory app now).Unheard where
  lobby := rfl
  assembler := rfl
  registry _ := ⟨rfl, rfl, .empty⟩
  table t h := by cases h

theorem steady_unheard : Steady (Unheard : Client τ δ α → Prop) where
  transport h _ := ⟨h.lobby, h.assembler, h.registry, h.table⟩
  directory h _ := ⟨h.lobby, h.assembler, h.registry, h.table⟩
  session h _ := ⟨h.lobby, h.assembler, h.registry, h.table⟩
  reset {c} h := by
    refine ⟨h.lobby, ?_, h.registry, h.table⟩
    change c.assembler.reset = .empty
    rw [h.assembler]
    rfl

/-- Registration may change the registry to another one without built-in handlers. -/
theorem unheard_onRegistry
    {change : Registry (HandlerState α) → Except RoutingError (Registry (HandlerState α))}
    (hchange : ∀ {r r'}, change r = .ok r' → r.LeavesAlone HandlerState.lobby →
      r'.isSealed = r.isSealed ∧ r'.builtins = r.builtins ∧ r'.LeavesAlone HandlerState.lobby) :
    Keeps Unheard (onRegistry change : Operation τ δ α Unit) := by
  intro c h
  rw [run_onRegistry]
  split
  · rename_i registry hok
    refine ⟨h.lobby, h.assembler, ?_, h.table⟩
    intro htable
    obtain ⟨hopen, hnone, hleaves⟩ := h.registry htable
    obtain ⟨hsealed, hbuiltins, hleaves⟩ := hchange hok hleaves
    exact ⟨hsealed.trans hopen, hbuiltins.trans hnone, hleaves⟩
  · exact h

theorem unheard_subscribe (add : Subscriptions α → Subscriptions α) :
    Keeps Unheard (subscribe add : Operation τ δ α Unit) := by
  refine Keeps.get_bind fun c h => ?_
  split
  · exact h
  · exact ⟨h.lobby, h.assembler, h.registry, h.table⟩

/-- Building the table leads to one that tells. -/
theorem unheard_buildTable : Keeps Unheard (buildTable : Operation τ δ α Unit) := by
  refine Keeps.get_bind fun c h => ?_
  cases htable : c.table with
  | some t => exact h
  | none =>
    obtain ⟨hopen, hnone, hleaves⟩ := h.registry htable
    obtain ⟨r, hinstall, htells⟩ := Reaction.install_tells hopen hnone hleaves c.subscriptions
    simp only [Option.isNone_none, if_true, Attempt.run_bind, run_onRegistry, hinstall,
      Attempt.run_modify]
    refine ⟨h.lobby, h.assembler, ?_, ?_⟩
    · intro hunbuilt
      cases hunbuilt
    · intro t ht
      cases ht
      exact htells

theorem table_of_buildTable {c c' : Client τ δ α}
    (hok : (buildTable : Operation τ δ α Unit).run.run c = (.ok (), c')) : c'.table.isSome := by
  obtain ⟨c₁, c₂, hget, hok⟩ := Attempt.run_bind_ok hok
  cases hget
  split at hok
  · obtain ⟨_, c₃, -, hok⟩ := Attempt.run_bind_ok hok
    cases hok
    rfl
  · rename_i hbuilt
    cases hok
    simpa [Option.isSome_iff_ne_none] using hbuilt

theorem isConnected_of_beginSession {c c' : Client τ δ α}
    (hok : (beginSession : Operation τ δ α Unit).run.run c = (.ok (), c')) :
    c'.session.isConnected := by
  obtain ⟨c₁, c₂, hget, hok⟩ := Attempt.run_bind_ok hok
  cases hget
  split at hok
  · rename_i session hbegin
    cases hok
    unfold Session.begin at hbegin
    split at hbegin
    · cases hbegin
      rfl
    · cases hbegin
  · cases hok

variable [Transport τ]

theorem unheard_tick_of_idle {c : Client τ δ α} (hidle : c.session.phase = .idle) (h : c.Unheard)
    (now : Instant) (clock : Clock) : ((tick now clock).run.run c).2.Unheard := by
  have hover : ¬ c.session.isConnected := by simp [Session.isConnected, hidle]
  unfold tick
  rw [Attempt.run_bind, Attempt.run_get]
  simp only [hover, Bool.false_eq_true, if_false]
  exact steady_unheard.session h _

variable [Directory δ]

theorem unheard_start (now : Instant) : Keeps Unheard (start now : Operation τ δ α Unit) :=
  keeps_start steady_unheard unheard_buildTable now

end Client

/-- A use of a client that registers nothing that touches the lobby. -/
def Call.Quiet : Call α → Prop
  | .addHandler _ handler => Leaves HandlerState.lobby handler
  | .addMiddleware _ _ layer => LayerLeaves HandlerState.lobby layer
  | _ => True

namespace Client

variable {τ δ : Type} [Transport τ] [Directory δ]

/-- A client that has not been started yet, after any quiet uses.  Between them, what is shared
with the peer may change. -/
inductive Prepared : Client τ δ α → Prop where
  | build (b : Builder) (credential : Credential) (transport : τ) (directory : δ) (app : α)
    (now : Instant) : Prepared (b.build credential transport directory app now)
  | call {c : Client τ δ α} (h : Prepared c) {call : Call α} (hquiet : call.Quiet)
    (hidle : (call.perform.run.run c).2.session.phase = .idle) :
    Prepared (call.perform.run.run c).2
  | shared {c : Client τ δ α} (h : Prepared c) (transport : τ) (directory : δ) :
    Prepared { c with transport, directory }

theorem Prepared.unheard {c : Client τ δ α} (h : c.Prepared) :
    c.Unheard ∧ c.session.phase = .idle := by
  induction h with
  | build => exact ⟨unheard_build .., rfl⟩
  | shared _ _ _ ih => exact ⟨⟨ih.1.lobby, ih.1.assembler, ih.1.registry, ih.1.table⟩, ih.2⟩
  | @call c _ call hquiet hidle ih =>
    obtain ⟨h, hbefore⟩ := ih
    refine ⟨?_, hidle⟩
    cases call with
    | addHandler code handler =>
      refine unheard_onRegistry (fun hok hleaves => ?_) c h
      have hadded := Registry.eq_of_addHandler hok
      exact ⟨by rw [hadded], by rw [hadded], hleaves.addHandler hquiet hok⟩
    | addMiddleware code level layer =>
      refine unheard_onRegistry (fun hok hleaves => ?_) c h
      have hadded := Registry.eq_of_addMiddleware hok
      exact ⟨by rw [hadded], by rw [hadded], hleaves.addMiddleware hquiet hok⟩
    | onUserMessage | onClientError | onServerError => exact unheard_subscribe _ c h
    | start now => exact unheard_start now c h
    | tick now clock => exact unheard_tick_of_idle hbefore h now clock
    | stop => exact keeps_stop steady_unheard c h
    | sendRaw bytes => exact keeps_sendRaw steady_unheard bytes c h
    | send packet => exact keeps_send steady_unheard packet c h

/-- A client that has just been started. -/
inductive Fresh : Client τ δ α → Prop where
  | start {c c' : Client τ δ α} {now : Instant} (h : Prepared c)
    (hok : (start now).run.run c = (.ok (), c')) : Fresh c'

/-- Once it has been started, a client is connected and has its table. -/
theorem connected_of_start {c c' : Client τ δ α} {now : Instant}
    (hok : (start now).run.run c = (.ok (), c')) :
    c'.session.isConnected ∧ c'.table.isSome := by
  have hsteady : Steady fun c : Client τ δ α => c.table.isSome = true :=
    ⟨fun h _ => h, fun h _ => h, fun h _ => h, fun h => h⟩
  obtain ⟨c₁, c₂, hget, hok⟩ := Attempt.run_bind_ok hok
  cases hget
  split at hok
  · cases hok
  obtain ⟨endpoint, c₃, -, hok⟩ := Attempt.run_bind_ok hok
  obtain ⟨_, c₄, -, hok⟩ := Attempt.run_bind_ok hok
  obtain ⟨_, c₅, hbuild, hok⟩ := Attempt.run_bind_ok hok
  obtain ⟨_, c₆, hshow, hok⟩ := Attempt.run_bind_ok hok
  obtain ⟨⟨⟩, c₇, hbegin, hok⟩ := Attempt.run_bind_ok hok
  cases hok
  have hconnected := isConnected_of_beginSession hbegin
  refine ⟨hconnected, ?_⟩
  have hshown :=
    keeps_orRelease hsteady (keeps_authenticate hsteady) c₅ (table_of_buildTable hbuild)
  rw [hshow] at hshown
  have hbegun := keeps_beginSession hsteady c₆ hshown
  rwa [hbegin] at hbegun

theorem Fresh.hears {c : Client τ δ α} (h : c.Fresh) :
    c.Unheard ∧ c.session.isConnected ∧ ∃ t, c.table = some t ∧ t.Tells := by
  obtain @⟨before, _, now, hprepared, hok⟩ := h
  obtain ⟨hconnected, htable⟩ := connected_of_start hok
  have hunheard := unheard_start now before hprepared.unheard.1
  rw [hok] at hunheard
  obtain ⟨t, ht⟩ := Option.isSome_iff_exists.1 htable
  exact ⟨hunheard, hconnected, t, ht, hunheard.table t ht⟩

end Client

end Multiplayer
