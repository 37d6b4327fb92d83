import GameModule.Host.Canned
import GameModule.Proofs.Activity
import Mathlib.Logic.Relation

/-!
# Playing a game

A game is made and then asked one thing after another. While a request calls the host, and between
requests, the host may write to the game's tables in any way. `effect` is what a request does once
its calls are taken out; `ends_perform` says that a request does this and nothing else, whatever
the host answers and writes. `Plays` collects the games that can come about, with the requests that
led to them.
-/
namespace GameModule

namespace Game

/-- The host writes to the tables, any number of times. -/
abbrev Written := Relation.ReflTransGen fun g g' : Game => ∃ w, g' = g.write w

/-- What a request does to a game, its calls apart. -/
def effect (g : Game) : GameRequest → Except SessionError Game
  | .spawnEntities .. => .ok { g.resetTables with numEdicts := g.config.maxClients + 1 }
  | .file .. => .ok g
  | .client ent call => g.applyClient ent call
  | .runFrame => .ok { g with frame := g.frame + 1 }
  | .serverCommand => .ok g

end Game

/-- The work can end with `g` and `a`, for some answers and writes of the host. -/
inductive Outcome.Ends {α : Type} : Outcome Game α → Game → α → Prop
  | done (g : Game) (a : α) : Ends (.done g a) g a
  | note (n : Notice) {rest : Outcome Game α} {g : Game} {a : α} (h : rest.Ends g a) :
      Ends (.note n rest) g a
  | call (c : HostCall String) (answer : c.Answer) {resume : c.Answer → Game → Outcome Game α}
      {g₀ g₁ g : Game} {a : α} (hw : g₀.Written g₁) (h : (resume answer g₁).Ends g a) :
      Ends (.call g₀ c resume) g a

/-- The same with a host that changes the game only as `W` allows. -/
inductive Outcome.EndsUnder {α : Type} (W : Game → Game → Prop) : Outcome Game α → Game → α → Prop
  | done (g : Game) (a : α) : EndsUnder W (.done g a) g a
  | note (n : Notice) {rest : Outcome Game α} {g : Game} {a : α} (h : rest.EndsUnder W g a) :
      EndsUnder W (.note n rest) g a
  | call (c : HostCall String) (answer : c.Answer) {resume : c.Answer → Game → Outcome Game α}
      {g₀ g₁ g : Game} {a : α} (hw : W g₀ g₁) (h : (resume answer g₁).EndsUnder W g a) :
      EndsUnder W (.call g₀ c resume) g a

namespace Outcome

variable {α : Type} {W : Game → Game → Prop} {o : Outcome Game α} {g : Game} {a : α}

theorem EndsUnder.ends (hW : ∀ g g', W g g' → g.Written g') (h : o.EndsUnder W g a) :
    o.Ends g a := by
  induction h with
  | done g a => exact .done g a
  | note n _ ih => exact .note n ih
  | call c answer hw _ ih => exact .call c answer (hW _ _ hw) ih

/-- Work comes to an end with every host, because a call takes it to a part of what is left. -/
theorem endsUnder_converse (hr : ∀ g, W g g) (reply : (c : HostCall Text.Bytes) → c.Reply)
    (o : Outcome Game α) : ∃ g, o.EndsUnder W g (o.converse reply).2 := by
  induction o with
  | done g a => exact ⟨g, .done g a⟩
  | note n rest ih =>
    obtain ⟨g, h⟩ := ih
    exact ⟨g, .note n h⟩
  | call g₀ c resume ih =>
    obtain ⟨g, h⟩ := ih (c.receive (reply c.send)) g₀
    exact ⟨g, .call c _ (hr g₀) h⟩

theorem ends_converse (reply : (c : HostCall Text.Bytes) → c.Reply) (o : Outcome Game α) :
    ∃ g, o.Ends g (o.converse reply).2 := by
  obtain ⟨g, h⟩ := endsUnder_converse (W := Game.Written) (fun _ => .refl) reply o
  exact ⟨g, h.ends fun _ _ hw => hw⟩

end Outcome

/-! ## What a request does -/

namespace Game

open Activity

theorem ends_trace {α : Type} {config : Config} {line : String} {f : Unit → Activity Game α}
    {g g' : Game} {a : α} (h : ((trace config line >>= f) g).Ends g' a) :
    ∃ g₁, g.Written g₁ ∧ (f () g₁).Ends g' a := by
  rw [trace_bind] at h
  split at h
  · cases h with
    | call _ _ hw he => exact ⟨_, hw, he⟩
  · exact ⟨g, .refl, h⟩

theorem ends_argv {α : Type} {n : Int32} {f : String → Activity Game α} {g g' : Game} {a : α}
    (h : ((argv n >>= f) g).Ends g' a) :
    ∃ (answer : String) (g₁ : Game), g.Written g₁ ∧ (f answer g₁).Ends g' a := by
  rw [argv_bind] at h
  cases h with
  | call _ answer hw he => exact ⟨answer, _, hw, he⟩

theorem ends_done {α : Type} {g g' : Game} {a a' : α} (h : (Outcome.done g a).Ends g' a') :
    g' = g ∧ a' = a := by
  cases h
  exact ⟨rfl, rfl⟩

theorem ends_reject {cause : SessionError} {g g' : Game} {ok : Bool}
    (h : ((reject cause >>= fun _ => pure false) g).Ends g' ok) : g.Written g' ∧ ok = false := by
  rw [reject_bind] at h
  cases h with
  | call _ _ hw he =>
    cases he with
    | note _ he =>
      obtain ⟨rfl, rfl⟩ := ends_done he
      exact ⟨hw, rfl⟩

/-- A request has its effect on the game as the host left it, or is refused and leaves the game to
the host. -/
theorem ends_perform {r : GameRequest} {g g' : Game} {ok : Bool} (h : (perform r g).Ends g' ok) :
    ∃ g₁, g.Written g₁ ∧
      (ok = true ∧ g₁.effect r = .ok g' ∨
        ok = false ∧ g₁.Written g' ∧ ∃ cause, g₁.effect r = .error cause) := by
  cases r with
  | spawnEntities map entities spawnPoint =>
    rw [perform, get_bind] at h
    obtain ⟨g₁, hw, he⟩ := ends_trace h
    rw [modify_bind] at he
    obtain ⟨rfl, rfl⟩ := ends_done he
    exact ⟨g₁, hw, Or.inl ⟨rfl, rfl⟩⟩
  | file call name =>
    rw [perform, get_bind] at h
    obtain ⟨g₁, hw, he⟩ := ends_trace h
    obtain ⟨rfl, rfl⟩ := ends_done he
    exact ⟨_, hw, Or.inl ⟨rfl, rfl⟩⟩
  | client ent call =>
    rw [perform, get_bind] at h
    obtain ⟨g₁, hw, he⟩ := ends_trace h
    rw [get_bind] at he
    refine ⟨g₁, hw, ?_⟩
    rw [effect]
    cases ha : g₁.applyClient ent call with
    | ok g₂ =>
      rw [ha] at he
      obtain ⟨rfl, rfl⟩ := ends_done he
      exact Or.inl ⟨rfl, rfl⟩
    | error cause =>
      rw [ha] at he
      obtain ⟨hw', rfl⟩ := ends_reject he
      exact Or.inr ⟨rfl, hw', cause, rfl⟩
  | runFrame =>
    rw [perform, get_bind] at h
    obtain ⟨g₁, hw, he⟩ := ends_trace h
    rw [modify_bind] at he
    obtain ⟨rfl, rfl⟩ := ends_done he
    exact ⟨g₁, hw, Or.inl ⟨rfl, rfl⟩⟩
  | serverCommand =>
    rw [perform] at h
    obtain ⟨command, g₁, hw, he⟩ := ends_argv h
    rw [get_bind] at he
    obtain ⟨g₂, hw', he⟩ := ends_trace he
    obtain ⟨rfl, rfl⟩ := ends_done he
    exact ⟨_, hw.trans hw', Or.inl ⟨rfl, rfl⟩⟩

/-! ## Client calls -/

/-- An accepted call says whether the edict of its slot is in use, or says nothing about it. -/
def markUse (g : Game) (slot : Nat) : Option Int32 → Game
  | some value => g.modifyEdict (slot + 1) ({ · with inUse := value })
  | none => g

section MarkUse

variable (g : Game) (slot : Nat) (value : Option Int32)

@[simp] theorem markUse_config : (g.markUse slot value).config = g.config := by cases value <;> rfl
@[simp] theorem markUse_place : (g.markUse slot value).place = g.place := by cases value <;> rfl
@[simp] theorem markUse_clients : (g.markUse slot value).clients = g.clients := by
  cases value <;> rfl
@[simp] theorem markUse_sessions : (g.markUse slot value).sessions = g.sessions := by
  cases value <;> rfl
@[simp] theorem markUse_edicts_length :
    (g.markUse slot value).edicts.length = g.edicts.length := by
  cases value with
  | none => rfl
  | some value => exact List.length_modify ..
@[simp] theorem markUse_numEdicts : (g.markUse slot value).numEdicts = g.numEdicts := by
  cases value <;> rfl
@[simp] theorem markUse_frame : (g.markUse slot value).frame = g.frame := by cases value <;> rfl

end MarkUse

theorem applyClient_unknown {g : Game} {ent : Address} {cause : SessionError}
    (call : ClientCall String UserCommand) (hc : g.clientSlot ent = .error cause) :
    g.applyClient ent call = .error cause := by
  rw [applyClient, hc]
  rfl

theorem applyClient_eq {g : Game} {ent : Address} {slot : Nat} {s : Session}
    (call : ClientCall String UserCommand) (hc : g.clientSlot ent = .ok slot)
    (hs : g.sessions[slot]? = some s) :
    g.applyClient ent call = (s.apply slot call).map fun s' =>
      { g with sessions := g.sessions.set slot s' }.markUse slot call.inUse? := by
  have ha : g.sessions.apply slot call =
      (s.apply slot call).map fun s => g.sessions.set slot s := by
    rw [Sessions.apply, hs]
  rw [applyClient, hc]
  change (g.sessions.apply slot call).bind _ = _
  rw [ha]
  cases s.apply slot call with
  | error cause => rfl
  | ok s' => cases call <;> rfl

theorem clientSlot_lt {g : Game} {ent : Address} {slot : Nat} (h : g.clientSlot ent = .ok slot) :
    slot < g.sessions.length := by
  unfold clientSlot at h
  split at h
  · rename_i slot' hb
    cases h
    obtain ⟨n, -, hn⟩ := Option.bind_eq_some_iff.mp hb
    cases n with
    | zero => cases hn
    | succ n =>
      rw [Sessions.slotOfEdict?] at hn
      split at hn
      · rename_i hl
        cases hn
        exact hl
      · cases hn
  · cases h

theorem exists_session {g : Game} {ent : Address} {slot : Nat} (h : g.clientSlot ent = .ok slot) :
    ∃ s, g.sessions[slot]? = some s :=
  ⟨_, List.getElem?_eq_getElem (clientSlot_lt h)⟩

/-- An accepted call goes to the session of its slot. -/
theorem applyClient_ok {g g' : Game} {ent : Address} {call : ClientCall String UserCommand}
    (h : g.applyClient ent call = .ok g') :
    ∃ slot s s', g.clientSlot ent = .ok slot ∧ g.sessions[slot]? = some s ∧
      s.apply slot call = .ok s' ∧
      g' = { g with sessions := g.sessions.set slot s' }.markUse slot call.inUse? := by
  cases hc : g.clientSlot ent with
  | error cause =>
    rw [applyClient_unknown call hc] at h
    cases h
  | ok slot =>
    obtain ⟨s, hs⟩ := exists_session hc
    rw [applyClient_eq call hc hs] at h
    cases ha : s.apply slot call with
    | error cause =>
      rw [ha] at h
      cases h
    | ok s' =>
      rw [ha] at h
      cases h
      exact ⟨slot, s, s', rfl, hs, ha, rfl⟩

/-- The settings are fixed. -/
theorem effect_config {g g' : Game} {r : GameRequest} (he : g.effect r = .ok g') :
    g'.config = g.config := by
  cases r with
  | client ent call =>
    obtain ⟨slot, s, s', -, -, -, rfl⟩ := applyClient_ok he
    rw [markUse_config]
  | _ =>
    cases he
    rfl

/-! ## What handles stand for -/

/-- Handles stand for the same in both games, and requests are echoed in both or in neither. -/
structure SameHandles (g g' : Game) : Prop where
  config : g'.config = g.config
  place : g'.place = g.place
  table : g'.edicts.length = g.edicts.length
  slots : g'.sessions.length = g.sessions.length

namespace SameHandles

variable {g g' : Game}

theorem index?_eq (h : g.SameHandles g') (ent : Address) : g'.index? ent = g.index? ent := by
  rw [index?, index?, h.place, h.table]

theorem clientSlot_eq (h : g.SameHandles g') (ent : Address) :
    g'.clientSlot ent = g.clientSlot ent := by
  have hs : g'.sessions.slotOfEdict? = g.sessions.slotOfEdict? := by
    funext n
    cases n with
    | zero => rfl
    | succ n => rw [Sessions.slotOfEdict?, Sessions.slotOfEdict?, h.slots]
  rw [clientSlot, clientSlot, h.index?_eq, hs]

end SameHandles

/-! ## The shape of the tables -/

/-- The tables are where they were put, and as long as the settings say. -/
structure Shaped (config : Config) (place : Placement) (g : Game) : Prop where
  config_eq : g.config = config
  place_eq : g.place = place
  edicts : g.edicts.length = config.maxEntities
  clients : g.clients.length = config.maxClients
  sessions : g.sessions.length = config.maxClients

/-- Edict `n` of a fresh table. -/
def freshEdict (config : Config) (place : Placement) (n : Nat) : Edict :=
  { Edict.blank with
    state := { EntityState.blank with number := Int32.ofNat n }
    client := if 1 ≤ n ∧ n ≤ config.maxClients then clientAddress place (n - 1) else .null
    inUse := if n = 0 then 1 else 0 }

def freshEdicts (config : Config) (place : Placement) : List Edict :=
  (List.range config.maxEntities).map (freshEdict config place)

def freshClients (config : Config) : List Client :=
  (List.range config.maxClients).map freshClient

section Shaped

variable {config : Config} {place : Placement} {g g' : Game}

/-- Overwriting the records of tables of the right lengths gives the fresh tables. -/
theorem Shaped.resetTables_eq (h : Shaped config place g) :
    g.resetTables = { g with edicts := freshEdicts config place, clients := freshClients config } := by
  have he : g.resetTables.edicts = freshEdicts config place := by
    refine List.ext_getElem (by simp [Game.resetTables, freshEdicts, h.edicts]) fun n _ _ => ?_
    simp only [Game.resetTables, freshEdicts, List.getElem_modify, List.getElem_mapIdx,
      List.getElem_map, List.getElem_range, h.clients, h.place_eq]
    -- The world is marked after the sweep, every other edict is as the sweep left it.
    cases n <;> rfl
  have hc : g.resetTables.clients = freshClients config :=
    List.ext_getElem (by simp [Game.resetTables, freshClients, h.clients])
      (by simp [Game.resetTables, freshClients])
  rw [← he, ← hc]
  rfl

theorem length_freshEdicts (config : Config) (place : Placement) :
    (freshEdicts config place).length = config.maxEntities := by
  rw [freshEdicts, List.length_map, List.length_range]

theorem length_freshClients (config : Config) : (freshClients config).length = config.maxClients := by
  rw [freshClients, List.length_map, List.length_range]

theorem Shaped.resetTables (h : Shaped config place g) : g.resetTables.Shaped config place := by
  rw [h.resetTables_eq]
  exact ⟨h.config_eq, h.place_eq, length_freshEdicts .., length_freshClients _, h.sessions⟩

theorem create_eq (config : Config) (place : Placement) : create config place =
    ⟨config, place, freshEdicts config place, freshClients config, 1,
      .ofSlots config.maxClients, 0⟩ :=
  Shaped.resetTables_eq
    ⟨rfl, rfl, List.length_replicate, List.length_replicate, List.length_replicate⟩

theorem shaped_create (config : Config) (place : Placement) :
    Shaped config place (create config place) := by
  rw [create_eq]
  exact ⟨rfl, rfl, length_freshEdicts .., length_freshClients _, List.length_replicate⟩

theorem Shaped.write (h : Shaped config place g) (w : HostWrite) :
    Shaped config place (g.write w) := by
  cases w with
  | edict n e =>
    exact ⟨h.config_eq, h.place_eq, List.length_set.trans h.edicts, h.clients, h.sessions⟩
  | client n c =>
    exact ⟨h.config_eq, h.place_eq, h.edicts, List.length_set.trans h.clients, h.sessions⟩

theorem Shaped.written (h : Shaped config place g) (hw : g.Written g') :
    Shaped config place g' := by
  induction hw with
  | refl => exact h
  | tail _ hs ih =>
    obtain ⟨w, rfl⟩ := hs
    exact ih.write w

theorem Shaped.applyClient (h : Shaped config place g) {ent : Address}
    {call : ClientCall String UserCommand} (ha : g.applyClient ent call = .ok g') :
    Shaped config place g' := by
  obtain ⟨slot, s, s', -, -, -, rfl⟩ := applyClient_ok ha
  constructor
  · rw [markUse_config]
    exact h.config_eq
  · rw [markUse_place]
    exact h.place_eq
  · rw [markUse_edicts_length]
    exact h.edicts
  · rw [markUse_clients]
    exact h.clients
  · rw [markUse_sessions, List.length_set]
    exact h.sessions

theorem Shaped.effect (h : Shaped config place g) {r : GameRequest} (he : g.effect r = .ok g') :
    Shaped config place g' := by
  cases r with
  | spawnEntities map entities spawnPoint =>
    cases he
    have hs := h.resetTables
    exact ⟨hs.config_eq, hs.place_eq, hs.edicts, hs.clients, hs.sessions⟩
  | file call name =>
    cases he
    exact h
  | client ent call => exact h.applyClient he
  | runFrame =>
    cases he
    exact ⟨h.config_eq, h.place_eq, h.edicts, h.clients, h.sessions⟩
  | serverCommand =>
    cases he
    exact h

/-- A handle stands for the same client slot for as long as the game lives. -/
theorem Shaped.clientSlot_eq (h : Shaped config place g) (ent : Address) :
    g.clientSlot ent = (create config place).clientSlot ent := by
  have hc := shaped_create config place
  have hsame : (create config place).SameHandles g :=
    ⟨h.config_eq, h.place_eq, h.edicts.trans hc.edicts.symm, h.sessions.trans hc.sessions.symm⟩
  exact hsame.clientSlot_eq ent

end Shaped

theorem written_sessions {g g' : Game} (hw : g.Written g') : g'.sessions = g.sessions := by
  induction hw with
  | refl => rfl
  | tail _ hs ih =>
    obtain ⟨w, rfl⟩ := hs
    cases w <;> exact ih

end Game

/-! ## Work that waits for its last answer -/

/-- At each call the game is handed over as it was last taken back, `g` at first, and what the work
makes of it after the last answer is as `E` says. -/
def Outcome.Defers {α : Type} (E : Game → Game → α → Prop) : Outcome Game α → Game → Prop
  | .done g' a, g => E g g' a
  | .note _ rest, g => rest.Defers E g
  | .call g' _ resume, g => g' = g ∧ ∀ a g₁, (resume a g₁).Defers E g₁

theorem Outcome.Defers.imp {α : Type} {E E' : Game → Game → α → Prop} {o : Outcome Game α}
    {g : Game} (h : o.Defers E g) (hE : ∀ g g' a, E g g' a → E' g g' a) : o.Defers E' g := by
  induction o generalizing g with
  | done g' a => exact hE g g' a h
  | note n rest ih => exact ih h
  | call g' c resume ih => exact ⟨h.1, fun a g₁ => ih a g₁ (h.2 a g₁)⟩

namespace Game

open Activity

/-- A request has its effect, or is refused and has none. -/
def Carries (r : GameRequest) (g g' : Game) (ok : Bool) : Prop :=
  ok = true ∧ g.effect r = .ok g' ∨ ok = false ∧ g' = g

/-- A shutdown leaves its game as it is. -/
def Stays (g g' : Game) (_ : Unit) : Prop := g' = g

theorem defers_trace {α : Type} {E : Game → Game → α → Prop} {f : Unit → Activity Game α}
    (config : Config) (line : String) (g : Game) (h : ∀ g, (f () g).Defers E g) :
    ((trace config line >>= f) g).Defers E g := by
  rw [trace_bind]
  split
  · exact ⟨rfl, fun _ => h⟩
  · exact h g

theorem defers_argv {α : Type} {E : Game → Game → α → Prop} {f : String → Activity Game α}
    (n : Int32) (g : Game) (h : ∀ command g, (f command g).Defers E g) :
    ((argv n >>= f) g).Defers E g := by
  rw [argv_bind]
  exact ⟨rfl, h⟩

theorem perform_defers (r : GameRequest) (g : Game) : (perform r g).Defers (Carries r) g := by
  cases r with
  | spawnEntities map entities spawnPoint =>
    rw [perform, get_bind]
    exact defers_trace _ _ _ fun g => Or.inl ⟨rfl, rfl⟩
  | file call name =>
    rw [perform, get_bind]
    exact defers_trace _ _ _ fun g => Or.inl ⟨rfl, rfl⟩
  | client ent call =>
    rw [perform, get_bind]
    refine defers_trace _ _ _ fun g => ?_
    rw [get_bind]
    cases ha : g.applyClient ent call with
    | ok g' => exact Or.inl ⟨rfl, ha⟩
    | error cause => exact ⟨rfl, fun _ g' => Or.inr ⟨rfl, rfl⟩⟩
  | runFrame =>
    rw [perform, get_bind]
    exact defers_trace _ _ _ fun g => Or.inl ⟨rfl, rfl⟩
  | serverCommand =>
    rw [perform]
    refine defers_argv _ _ fun command g => ?_
    rw [get_bind]
    exact defers_trace _ _ _ fun g => Or.inl ⟨rfl, rfl⟩

theorem closing_defers (g : Game) : (closing g).Defers Stays g := by
  rw [closing_eq]
  split
  · exact ⟨rfl, fun _ _ => rfl⟩
  · rfl

end Game

/-! ## Plays -/

/-- The games that can come about from a fresh one, each with the requests made of it, the latest
first, and whether they were accepted. -/
inductive Plays (config : Config) (place : Placement) : List (GameRequest × Bool) → Game → Prop
  | opened : Plays config place [] (Game.create config place)
  | wrote {log : List (GameRequest × Bool)} {g : Game} (w : Game.HostWrite)
      (h : Plays config place log g) : Plays config place log (g.write w)
  | performed {log : List (GameRequest × Bool)} {g g' : Game} {ok : Bool} (r : GameRequest)
      (h : Plays config place log g) (he : (Game.perform r g).Ends g' ok) :
      Plays config place ((r, ok) :: log) g'

theorem plays_shaped {config : Config} {place : Placement} {log : List (GameRequest × Bool)}
    {g : Game} (h : Plays config place log g) : g.Shaped config place := by
  induction h with
  | opened => exact Game.shaped_create config place
  | wrote w _ ih => exact ih.write w
  | performed r _ he ih =>
    obtain ⟨g₁, hw, ⟨-, hr⟩ | ⟨-, hw', -⟩⟩ := Game.ends_perform he
    · exact (ih.written hw).effect hr
    · exact (ih.written hw).written hw'

/-! ## Plays with a host that keeps to a rule -/

/-- The games that can come about if the host changes a game only as `W` allows. -/
inductive PlaysUnder (W : Game → Game → Prop) (config : Config) (place : Placement) :
    List (GameRequest × Bool) → Game → Prop
  | opened : PlaysUnder W config place [] (Game.create config place)
  | changed {log : List (GameRequest × Bool)} {g g' : Game} (h : PlaysUnder W config place log g)
      (hw : W g g') : PlaysUnder W config place log g'
  | performed {log : List (GameRequest × Bool)} {g g' : Game} {ok : Bool} (r : GameRequest)
      (h : PlaysUnder W config place log g) (he : (Game.perform r g).EndsUnder W g' ok) :
      PlaysUnder W config place ((r, ok) :: log) g'

section Under

variable {W : Game → Game → Prop} {config : Config} {place : Placement}
  {log : List (GameRequest × Bool)} {g g' : Game} {α : Type} {o : Outcome Game α} {a : α}

theorem Plays.written (h : Plays config place log g) (hw : g.Written g') :
    Plays config place log g' := by
  induction hw with
  | refl => exact h
  | tail _ hs ih =>
    obtain ⟨w, rfl⟩ := hs
    exact .wrote w ih

theorem PlaysUnder.plays (hW : ∀ g g', W g g' → g.Written g')
    (h : PlaysUnder W config place log g) : Plays config place log g := by
  induction h with
  | opened => exact .opened
  | changed _ hw ih => exact ih.written (hW _ _ hw)
  | performed r _ he ih => exact .performed r ih (he.ends hW)

/-- What deferred work comes to: the host has its way with the game, and then the effect follows. -/
theorem Outcome.Defers.endsUnder {E : Game → Game → α → Prop} (hr : ∀ g, W g g)
    (ht : ∀ g₁ g₂ g₃, W g₁ g₂ → W g₂ g₃ → W g₁ g₃) (hd : o.Defers E g)
    (he : o.EndsUnder W g' a) : ∃ g₁, W g g₁ ∧ E g₁ g' a := by
  induction he generalizing g with
  | done g' a => exact ⟨g, hr g, hd⟩
  | note n _ ih => exact ih hd
  | call c answer hw _ ih =>
    obtain ⟨rfl, hres⟩ := hd
    obtain ⟨g₂, hw', hE⟩ := ih (hres answer _)
    exact ⟨g₂, ht _ _ _ hw hw', hE⟩

end Under

end GameModule
