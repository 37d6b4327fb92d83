import GameModule.Proofs.Game.Play

/-!
# The tables keep their shape

Whatever the host answers when a game is opened, the settings leave room for the world and for
every client (`fits_clamped`), and neither of the two cuts behind them is to an empty range. From
then on no request and no write of the host changes the settings, the place or the length of a
table, and only spawning changes the number of edicts. A handle is looked up in the table before it
is used, so an edict a client call writes to is there.
-/
namespace GameModule

open Text (Bytes)

/-! ## The settings -/

namespace Config

/-- At least one client, and room for the world and every client. -/
structure Fits (c : Config) : Prop where
  client : 1 ≤ c.maxClients
  clients : c.maxClients ≤ Limits.clients
  room : c.maxClients + 1 ≤ c.maxEntities
  entities : c.maxEntities ≤ Limits.edicts

/-- `n` cut to `lo .. hi`, which has to be a range. -/
def clamp? (lo hi n : Int) : Option Int := if lo ≤ hi then some (clamp lo hi n) else none

/-- The settings, nothing if a cut is to an empty range. -/
def clamped? (maxClients maxEntities : Int) (traceCalls : Bool) : Option Config := do
  let clients ← clamp? 1 Limits.clients maxClients
  let entities ← clamp? (clients + 1) Limits.edicts maxEntities
  return ⟨clients.toNat, entities.toNat, traceCalls⟩

theorem clamp_mem {lo hi : Int} (h : lo ≤ hi) (n : Int) :
    lo ≤ clamp lo hi n ∧ clamp lo hi n ≤ hi := by
  unfold clamp
  omega

/-- The first cut leaves room for the second one. -/
theorem clients_mem (n : Int) :
    1 ≤ clamp 1 Limits.clients n ∧ clamp 1 Limits.clients n + 1 ≤ Limits.edicts := by
  have hc : clamp 1 Limits.clients n ≤ Limits.clients := (clamp_mem (by decide) n).2
  have hl : (Limits.clients : Int) + 1 ≤ Limits.edicts := by decide
  exact ⟨(clamp_mem (by decide) n).1, by omega⟩

theorem clamped?_eq (maxClients maxEntities : Int) (traceCalls : Bool) :
    clamped? maxClients maxEntities traceCalls =
      some (clamped maxClients maxEntities traceCalls) := by
  have hc : clamp? 1 Limits.clients maxClients = some (clamp 1 Limits.clients maxClients) :=
    if_pos (by decide)
  have he : clamp? (clamp 1 Limits.clients maxClients + 1) Limits.edicts maxEntities =
      some (clamp (clamp 1 Limits.clients maxClients + 1) Limits.edicts maxEntities) :=
    if_pos (clients_mem maxClients).2
  rw [clamped?, hc, Option.bind_eq_bind, Option.bind_some, he]
  rfl

theorem fits_clamped (maxClients maxEntities : Int) (traceCalls : Bool) :
    (clamped maxClients maxEntities traceCalls).Fits := by
  have hc := clients_mem maxClients
  have hle : clamp 1 Limits.clients maxClients ≤ Limits.clients :=
    (clamp_mem (by decide) maxClients).2
  have he := clamp_mem hc.2 maxEntities
  constructor
  · change 1 ≤ (clamp 1 Limits.clients maxClients).toNat
    omega
  · change (clamp 1 Limits.clients maxClients).toNat ≤ Limits.clients
    omega
  · change (clamp 1 Limits.clients maxClients).toNat + 1 ≤ (clamp _ _ maxEntities).toNat
    omega
  · change (clamp _ _ maxEntities).toNat ≤ Limits.edicts
    omega

/-- The settings of a game whose opening is answered by `reply`. The three variables are asked for
by three different calls, each of them once, so their values are independent. -/
def answered (reply : (c : HostCall Bytes) → c.Reply) : Config :=
  ((Game.opening ()).converse reply).2

/-- The value a host gives to a variable, or the one its default spells. -/
def setting (reply : (c : HostCall Bytes) → c.Reply) (name default : String) (flags : Int32) :
    Single :=
  let call : HostCall String := .cvar name default flags
  Cvar.valueOr (call.receive (reply call.send)) (Single.ofText default)

theorem converse_echoed {σ α : Type} (reply : (c : HostCall Bytes) → c.Reply) (config : Config)
    (line : String) (a : α) (s : σ) :
    (((Game.trace config line >>= fun _ => pure a) s).converse reply).2 = a := by
  rw [Game.trace_bind]
  split <;> rfl

theorem answered_eq (reply : (c : HostCall Bytes) → c.Reply) :
    answered reply = clamped
      (setting reply "maxclients" "4" (Cvar.serverInfo ||| Cvar.latched)).toInt64
      (setting reply "maxentities" "1024" Cvar.latched).toInt64
      (setting reply "g_tracecalls" "1" 0 != 0) :=
  converse_echoed reply _ _ _ ()

end Config

/-! ## The number of edicts -/

def Request.isSpawn {ε τ κ : Type} : Request ε τ κ → Bool
  | .spawnEntities .. => true
  | _ => false

namespace Game

/-- Only spawning sets the number of edicts. -/
theorem effect_numEdicts {g g' : Game} {r : GameRequest} (he : g.effect r = .ok g') :
    g'.numEdicts = if r.isSpawn then g.config.maxClients + 1 else g.numEdicts := by
  cases r with
  | client ent call =>
    obtain ⟨slot, s, s', -, -, -, rfl⟩ := applyClient_ok he
    exact markUse_numEdicts ..
  | spawnEntities map entities spawnPoint =>
    cases he
    rfl
  | file call name =>
    cases he
    rfl
  | runFrame =>
    cases he
    rfl
  | serverCommand =>
    cases he
    rfl

theorem isSpawn_of_refused {g : Game} {r : GameRequest} {cause : SessionError}
    (he : g.effect r = .error cause) : r.isSpawn = false := by
  cases r with
  | client ent call => rfl
  | _ => cases he

theorem written_numEdicts {g g' : Game} (hw : g.Written g') : g'.numEdicts = g.numEdicts := by
  induction hw with
  | refl => rfl
  | tail _ hs ih =>
    obtain ⟨w, rfl⟩ := hs
    cases w <;> exact ih

/-! ## Handles -/

/-- A handle that stands for a client slot points at the edict behind the slot, inside the table. -/
theorem index?_of_clientSlot {g : Game} {ent : Address} {slot : Nat}
    (h : g.clientSlot ent = .ok slot) :
    g.index? ent = some (slot + 1) ∧ slot + 1 < g.edicts.length := by
  unfold clientSlot at h
  split at h
  · rename_i slot' hb
    cases h
    obtain ⟨n, hi, hn⟩ := Option.bind_eq_some_iff.mp hb
    have hl : n < g.edicts.length := of_decide_eq_true (Option.filter_eq_some_iff.mp hi).2
    cases n with
    | zero => cases hn
    | succ n =>
      rw [Sessions.slotOfEdict?] at hn
      split at hn
      · cases hn
        exact ⟨hi, hl⟩
      · cases hn
  · cases h

end Game

/-! ## Along a play -/

/-- Whether a level was spawned. -/
def spawned (log : List (GameRequest × Bool)) : Bool := log.any (·.1.isSpawn)

theorem spawned_cons (r : GameRequest) (ok : Bool) (log : List (GameRequest × Bool)) :
    spawned ((r, ok) :: log) = (r.isSpawn || spawned log) := rfl

theorem plays_numEdicts {config : Config} {place : Placement} {log : List (GameRequest × Bool)}
    {g : Game} (h : Plays config place log g) :
    g.numEdicts = if spawned log then config.maxClients + 1 else 1 := by
  induction h with
  | opened => rfl
  | wrote w _ ih => rw [Game.written_numEdicts (.single ⟨w, rfl⟩), ih]
  | @performed log g g' ok r hp he ih =>
    obtain ⟨g₁, hw, ⟨-, hr⟩ | ⟨-, hw', cause, hr⟩⟩ := Game.ends_perform he
    · have hc : g₁.config = config := ((plays_shaped hp).written hw).config_eq
      rw [Game.effect_numEdicts hr, Game.written_numEdicts hw, ih, hc, spawned_cons]
      cases r.isSpawn <;> rfl
    · rw [Game.written_numEdicts hw', Game.written_numEdicts hw, ih, spawned_cons,
        Game.isSpawn_of_refused hr]
      rfl

/-- The tables keep their shape. Take any host that answers the opening, with null variables or
numbers of any bits, and any play of the game it gets: any requests with any handles, and any
writes to the records between them and during their calls. The settings fit the limits, and no cut
of a setting is to an empty range. The settings and the place of the tables are those the game was
made with, and the tables have the lengths the settings say. There is one edict until a level is
spawned, and one more than there are clients ever after. A handle that a client call, at any point
of its calls, takes for a client slot has its edict inside the table. -/
theorem tables_keep_shape (reply : (c : HostCall Bytes) → c.Reply) (place : Placement)
    (log : List (GameRequest × Bool)) (g : Game)
    (h : Plays (Config.answered reply) place log g) :
    (1 ≤ g.config.maxClients ∧ g.config.maxClients ≤ 256) ∧
    (g.config.maxClients + 1 ≤ g.config.maxEntities ∧ g.config.maxEntities ≤ 1024) ∧
    (∀ maxClients maxEntities traceCalls,
      Config.clamped? maxClients maxEntities traceCalls =
        some (Config.clamped maxClients maxEntities traceCalls)) ∧
    g.config = Config.answered reply ∧ g.place = place ∧
    g.edicts.length = g.config.maxEntities ∧
    g.clients.length = g.config.maxClients ∧ g.sessions.length = g.config.maxClients ∧
    g.numEdicts = (if spawned log then g.config.maxClients + 1 else 1) ∧
    (1 ≤ g.numEdicts ∧ g.numEdicts ≤ g.exportInfo.maxEdicts) ∧
    ∀ g₁, g.Written g₁ → ∀ ent slot, g₁.clientSlot ent = .ok slot →
      slot + 1 < g₁.edicts.length := by
  have hs := plays_shaped h
  have hn := plays_numEdicts h
  have hf : g.config.Fits := by
    rw [hs.config_eq, Config.answered_eq]
    exact Config.fits_clamped ..
  rw [← hs.config_eq] at hn
  have he : g.edicts.length = g.config.maxEntities := by rw [hs.config_eq, hs.edicts]
  refine ⟨⟨hf.client, hf.clients⟩, ⟨hf.room, hf.entities⟩, Config.clamped?_eq, hs.config_eq,
    hs.place_eq, he, by rw [hs.config_eq, hs.clients], by rw [hs.config_eq, hs.sessions], hn, ?_,
    ?_⟩
  · change 1 ≤ g.numEdicts ∧ g.numEdicts ≤ g.edicts.length
    have hr := hf.room
    rw [hn, he]
    split <;> omega
  · intro g₁ _ ent slot hc
    exact (Game.index?_of_clientSlot hc).2

/-- A host whose number of clients is not a number and whose number of edicts is below all others,
and which does not have the third variable. -/
def unreasonableHost : (c : HostCall Bytes) → c.Reply
  | .cvar name _ _ =>
    if name = Text.toNarrow "maxclients" then some ⟨none, none, 0, 0, ⟨0x7fc00000⟩⟩
    else if name = Text.toNarrow "maxentities" then some ⟨none, none, 0, 0, ⟨0xff800000⟩⟩
    else none
  | c => CannedHost.reply ⟨0, 0, 0, .miss, [], 0, 0, [], 0, none, []⟩ c

theorem tables_keep_shape_unreasonable :
    ∃ (log : List (GameRequest × Bool)) (g : Game),
      Plays (Config.answered unreasonableHost) .standard log g ∧ spawned log = true ∧
      g.config = ⟨1, 2, true⟩ ∧ g.edicts.length = 2 ∧ g.sessions.length = 1 ∧ g.numEdicts = 2 := by
  have hc : Config.answered unreasonableHost = ⟨1, 2, true⟩ := by decide +kernel
  obtain ⟨g, he⟩ := Outcome.ends_converse unreasonableHost
    (Game.perform (.spawnEntities "" "" "")
      (Game.create (Config.answered unreasonableHost) .standard))
  have hp := Plays.performed _ .opened he
  obtain ⟨-, -, -, hcfg, -, hed, -, hse, hn, -⟩ :=
    tables_keep_shape unreasonableHost .standard _ g hp
  rw [hcfg, hc] at hed hse hn
  exact ⟨_, g, hp, rfl, hcfg.trans hc, hed, hse, hn⟩

end GameModule
