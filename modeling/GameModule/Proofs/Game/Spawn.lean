import GameModule.Proofs.Game.Handle

/-!
# Spawning a level

Spawning overwrites every record of both tables. What the host left in them, and what it writes
while the request is echoed, is gone: the tables are those of a new game with the same settings at
the same place. The sessions and the frames run go on, so clients stay connected through a change
of level.
-/
namespace GameModule

namespace Game

/-- A game at the start of a level, its sessions and frames carried over. -/
def atLevelStart (g : Game) : Game :=
  { create g.config g.place with
    numEdicts := g.config.maxClients + 1
    sessions := g.sessions
    frame := g.frame }

/-- Both tables as they are when a game is made. Each record is blank but for its number; the client
edicts, behind the world, lead to the clients in order; and only the world is in use. -/
structure Cleared (config : Config) (place : Placement) (g : Game) : Prop where
  edicts_length : g.edicts.length = config.maxEntities
  clients_length : g.clients.length = config.maxClients
  edict : ∀ n < config.maxEntities, ∃ number : Int32, number.toInt = n ∧
    g.edicts[n]? = some
      { Edict.blank with
        state := { EntityState.blank with number }
        client := if 1 ≤ n ∧ n ≤ config.maxClients then clientAddress place (n - 1) else .null
        inUse := if n = 0 then 1 else 0 }
  client : ∀ k < config.maxClients, ∃ number : Int32, number.toInt = k ∧
    g.clients[k]? = some { Client.blank with number }

variable {config : Config} {place : Placement} {g g' : Game} {map entities spawnPoint : String}

/-! ## What the host cannot write -/

theorem write_atLevelStart (g : Game) (w : HostWrite) :
    (g.write w).atLevelStart = g.atLevelStart := by
  cases w <;> rfl

theorem written_atLevelStart (hw : g.Written g') : g'.atLevelStart = g.atLevelStart := by
  induction hw with
  | refl => rfl
  | tail _ hs ih =>
    obtain ⟨w, rfl⟩ := hs
    rw [write_atLevelStart, ih]

/-! ## What spawning does -/

theorem Shaped.effect_spawn (hs : g.Shaped config place) :
    g.effect (.spawnEntities map entities spawnPoint) = .ok g.atLevelStart := by
  rw [Game.effect, hs.resetTables_eq, atLevelStart, create_eq, hs.config_eq, hs.place_eq]

/-- However the host answers the echo and whatever it writes to the tables meanwhile. -/
theorem Shaped.ends_spawn (hs : g.Shaped config place) {ok : Bool}
    (he : (perform (.spawnEntities map entities spawnPoint) g).Ends g' ok) :
    ok = true ∧ g' = g.atLevelStart := by
  obtain ⟨g₁, hw, ⟨hok, hg⟩ | ⟨-, -, cause, hg⟩⟩ := ends_perform he
  · rw [(hs.written hw).effect_spawn, written_atLevelStart hw] at hg
    exact ⟨hok, (Except.ok.inj hg).symm⟩
  · rw [(hs.written hw).effect_spawn] at hg
    cases hg

theorem Shaped.exists_ends_spawn (hs : g.Shaped config place)
    (reply : (c : HostCall Text.Bytes) → c.Reply) (map entities spawnPoint : String) :
    ∃ g', (perform (.spawnEntities map entities spawnPoint) g).Ends g' true := by
  obtain ⟨g', he⟩ := Outcome.ends_converse reply
    (perform (.spawnEntities map entities spawnPoint) g)
  obtain ⟨hok, -⟩ := hs.ends_spawn he
  exact ⟨g', hok ▸ he⟩

theorem shaped_atLevelStart (hs : g.Shaped config place) :
    g.atLevelStart.Shaped config place :=
  hs.effect (r := .spawnEntities "" "" "") hs.effect_spawn

theorem atLevelStart_self (g : Game) : g.atLevelStart.atLevelStart = g.atLevelStart := rfl

/-! ## The tables of a new game -/

theorem cleared_create (hf : config.Fits) (place : Placement) :
    (create config place).Cleared config place := by
  have hs := shaped_create config place
  refine ⟨hs.edicts, hs.clients, fun n hn => ⟨Int32.ofNat n, ?_, ?_⟩, fun k hk => ?_⟩
  · have hm := hf.entities
    have hl : Limits.edicts = 1024 := rfl
    exact Int32.toInt_ofNat_of_lt (by omega)
  · rw [create_eq]
    change (freshEdicts config place)[n]? = _
    rw [freshEdicts, List.getElem?_map, List.getElem?_range hn]
    rfl
  · refine ⟨(freshClient k).number, freshClient_number hf hk, ?_⟩
    rw [create_eq]
    change (freshClients config)[k]? = _
    rw [freshClients, List.getElem?_map, List.getElem?_range hk]
    rfl

theorem cleared_atLevelStart (hs : g.Shaped config place) (hf : config.Fits) :
    g.atLevelStart.Cleared config place := by
  have hc := cleared_create hf place
  rw [← hs.config_eq, ← hs.place_eq] at hc ⊢
  exact ⟨hc.edicts_length, hc.clients_length, hc.edict, hc.client⟩

/-- The address in the client edict of a slot resolves to the client of the slot. -/
theorem Cleared.linked (hc : g.Cleared config place) (hp : g.place = place) (hf : config.Fits)
    (ht : place.clients.Holds clientStride config.maxClients) {k : Nat}
    (hk : k < config.maxClients) :
    ∃ e c, g.edicts[k + 1]? = some e ∧ g.clients[k]? = some c ∧ g.clientOf? e = some c := by
  have hr := hf.room
  obtain ⟨number, -, he⟩ := hc.edict (k + 1) (by omega)
  obtain ⟨number', -, hcl⟩ := hc.client k hk
  refine ⟨_, _, he, hcl, ?_⟩
  have hi : place.clients.index? clientStride (clientAddress place k) = some k :=
    Address.index?_of_toNat ht.ne_null clientStride_pos (ht.toNat_entry clientStride_pos hk)
  rw [if_pos ⟨by omega, by omega⟩, clientOf?, hp]
  change (place.clients.index? clientStride (clientAddress place k)).bind _ = _
  rw [hi, Option.bind_some, hcl]

end Game

/-- Spawning a level erases the history of the tables. Take any game that can come about, let the
host write to its records as it likes, and spawn with any texts. The request is accepted, however
the host answers and whatever it writes meanwhile. Both tables are then those of a new game with
the same settings at the same place, record by record, and the address in a client edict resolves
to its client. There is one edict more than there are clients. The sessions, the frames run, the
settings and the place are as they were. Spawning again, with any texts and after any writes, gives
the same game. -/
theorem spawning_erases_tables (reply : (c : HostCall Text.Bytes) → c.Reply) (place : Placement)
    (log : List (GameRequest × Bool)) (g : Game)
    (h : Plays (Config.answered reply) place log g) (g₁ : Game) (hw : g.Written g₁)
    (map entities spawnPoint : String) :
    (∃ g', (Game.perform (.spawnEntities map entities spawnPoint) g₁).Ends g' true) ∧
    ∀ g' ok, (Game.perform (.spawnEntities map entities spawnPoint) g₁).Ends g' ok →
      ok = true ∧
      g'.edicts = (Game.create g.config g.place).edicts ∧
      g'.clients = (Game.create g.config g.place).clients ∧
      g'.Cleared g.config g.place ∧
      (g.place.clients.Holds Game.clientStride g.config.maxClients →
        ∀ k < g.config.maxClients, ∃ e c, g'.edicts[k + 1]? = some e ∧
          g'.clients[k]? = some c ∧ g'.clientOf? e = some c) ∧
      g'.numEdicts = g.config.maxClients + 1 ∧ g'.sessions = g.sessions ∧
      g'.frame = g.frame ∧ g'.config = g.config ∧ g'.place = g.place ∧
      ∀ g₂, g'.Written g₂ → ∀ map' entities' spawnPoint' g'' ok',
        (Game.perform (.spawnEntities map' entities' spawnPoint') g₂).Ends g'' ok' →
        g'' = g' := by
  have hsh := plays_shaped h
  have hs : g.Shaped g.config g.place := by rwa [hsh.config_eq, hsh.place_eq]
  have hf : g.config.Fits := by
    rw [hsh.config_eq, Config.answered_eq]
    exact Config.fits_clamped ..
  refine ⟨(hs.written hw).exists_ends_spawn reply map entities spawnPoint, fun g' ok he => ?_⟩
  obtain ⟨hok, hg⟩ := (hs.written hw).ends_spawn he
  rw [Game.written_atLevelStart hw] at hg
  subst hg
  have hc := Game.cleared_atLevelStart hs hf
  refine ⟨hok, rfl, rfl, hc, fun ht k hk => hc.linked rfl hf ht hk, rfl, rfl, rfl, rfl, rfl, ?_⟩
  intro g₂ hw₂ map' entities' spawnPoint' g'' ok' he'
  have h₂ := (Game.shaped_atLevelStart hs).written hw₂
  rw [(h₂.ends_spawn he').2, Game.written_atLevelStart hw₂, Game.atLevelStart_self]

/-- What a host may leave in the edict of the only client. -/
def scribbledEdict : Edict := { Edict.blank with inUse := 1, solid := 2, owner := ⟨1⟩ }

theorem spawning_erases_tables_scribbled :
    ∃ g g' : Game, Plays (Config.answered unreasonableHost) .standard [] g ∧
      (g.write (.edict 1 scribbledEdict)).edicts[1]? = some scribbledEdict ∧
      (Game.perform (.spawnEntities "base1" "" "") (g.write (.edict 1 scribbledEdict))).Ends
        g' true ∧
      g'.edicts = (Game.create ⟨1, 2, true⟩ .standard).edicts ∧ g'.numEdicts = 2 := by
  have hp : Plays (Config.answered unreasonableHost) .standard []
      (Game.create (Config.answered unreasonableHost) .standard) := .opened
  generalize Game.create (Config.answered unreasonableHost) .standard = g at hp
  have hs := plays_shaped hp
  rw [show Config.answered unreasonableHost = ⟨1, 2, true⟩ by decide +kernel] at hs
  have hw : g.Written (g.write (.edict 1 scribbledEdict)) := .single ⟨_, rfl⟩
  obtain ⟨⟨g', he⟩, hall⟩ :=
    spawning_erases_tables unreasonableHost .standard [] g hp _ hw "base1" "" ""
  obtain ⟨-, hed, -, -, -, hn, -⟩ := hall g' true he
  have hl : 1 < g.edicts.length := by
    rw [hs.edicts]
    decide
  rw [hs.config_eq] at hed hn
  rw [hs.place_eq] at hed
  exact ⟨g, g', hp, List.getElem?_set_self hl, he, hed, hn⟩

end GameModule
