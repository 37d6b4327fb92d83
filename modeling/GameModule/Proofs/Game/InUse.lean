import GameModule.Proofs.Game.Shape
import GameModule.Proofs.Session.History

/-!
# Which edicts are in use

As long as the host leaves the field alone, the world is in use and no edict behind the clients is.
A client edict is in use if its client has begun since it last disconnected and since the last
level was spawned. The session of the client goes by other events: spawning does not touch it, and
connecting again takes it back to its first live state without touching the edict. So an edict in
use belongs to a live session, which need not be active, and an active session need not have its
edict in use.
-/
namespace GameModule

namespace Game

/-- Whether each edict is in use, as the table has it. -/
def uses (g : Game) : List Int32 := g.edicts.map (·.inUse)

/-- The host wrote to the tables, and each edict is as much in use as it was. -/
def Spared (g g' : Game) : Prop := g.Written g' ∧ g'.uses = g.uses

theorem Spared.refl (g : Game) : g.Spared g := ⟨.refl, rfl⟩

theorem Spared.trans (g₁ g₂ g₃ : Game) (h : g₁.Spared g₂) (h' : g₂.Spared g₃) : g₁.Spared g₃ :=
  ⟨h.1.trans h'.1, h'.2.trans h.2⟩

theorem uses_freshEdicts (config : Config) (place : Placement) {n : Nat}
    (hn : n < config.maxEntities) :
    ((freshEdicts config place).map (·.inUse))[n]? = some (if n = 0 then 1 else 0) := by
  rw [freshEdicts, List.map_map, List.getElem?_map, List.getElem?_range hn]
  rfl

/-- An accepted call writes one entry of the column, or none. -/
theorem uses_markUse (g : Game) (slot : Nat) (value : Option Int32) (n : Nat) :
    (g.markUse slot value).uses[n]? =
      if slot + 1 = n then g.uses[n]?.map fun old => value.getD old else g.uses[n]? := by
  cases value with
  | none =>
    change g.uses[n]? = _
    simp
  | some value =>
    change ((g.edicts.modify (slot + 1) _).map _)[n]? = _
    rw [uses, List.getElem?_map, List.getElem?_map, List.getElem?_modify]
    split <;> cases g.edicts[n]? <;> rfl

end Game

/-! ## What is read off the requests -/

/-- What decides whether the edict of a client is in use. -/
inductive UseEvent where
  | began | disconnected | spawned
deriving DecidableEq

def ClientCall.useEvent? {τ κ : Type} : ClientCall τ κ → Option UseEvent
  | .begin => some .began
  | .disconnect => some .disconnected
  | .connect _ | .userinfo _ | .command | .think _ => none

/-- What a request, with its verdict, is to client slot `k`. -/
def useEvent? (config : Config) (place : Placement) (k : Nat) :
    GameRequest × Bool → Option UseEvent
  | (.spawnEntities .., true) => some .spawned
  | e => (acceptedCall? config place k e).bind ClientCall.useEvent?

/-- The last such event. -/
def lastUse? (config : Config) (place : Placement) (k : Nat) (log : List (GameRequest × Bool)) :
    Option UseEvent :=
  log.findSome? (useEvent? config place k)

/-- What the use field of edict `n` is to be after these requests. -/
def useAfter (config : Config) (place : Placement) (log : List (GameRequest × Bool)) :
    Nat → Int32
  | 0 => 1
  | k + 1 => if k < config.maxClients ∧ lastUse? config place k log = some .began then 1 else 0

section Log

variable {config : Config} {place : Placement} {k : Nat} {e : GameRequest × Bool}
  {log : List (GameRequest × Bool)}

theorem lastUse?_cons_none (h : useEvent? config place k e = none) :
    lastUse? config place k (e :: log) = lastUse? config place k log := by
  rw [lastUse?, List.findSome?_cons, h]
  rfl

theorem lastUse?_cons_some {u : UseEvent} (h : useEvent? config place k e = some u) :
    lastUse? config place k (e :: log) = some u := by
  rw [lastUse?, List.findSome?_cons, h]

theorem useAfter_cons (h : ∀ k, useEvent? config place k e = none) (n : Nat) :
    useAfter config place (e :: log) n = useAfter config place log n := by
  cases n with
  | zero => rfl
  | succ k => rw [useAfter, useAfter, lastUse?_cons_none (h k)]

theorem useEvent?_refused (r : GameRequest) : useEvent? config place k (r, false) = none := by
  cases r <;> rfl

theorem useAfter_spawn (map entities spawnPoint : String) (n : Nat) :
    useAfter config place ((.spawnEntities map entities spawnPoint, true) :: log) n =
      if n = 0 then 1 else 0 := by
  cases n with
  | zero => rfl
  | succ k =>
    have hu : lastUse? config place k ((.spawnEntities map entities spawnPoint, true) :: log) =
        some .spawned := lastUse?_cons_some rfl
    simp [useAfter, hu]

/-- An accepted client call decides about its own slot, if it decides at all. -/
theorem useAfter_client {slot : Nat} {ent : Address} (call : ClientCall String UserCommand)
    (hc : (Game.create config place).clientSlot ent = .ok slot) (hs : slot < config.maxClients)
    (n : Nat) :
    useAfter config place ((.client ent call, true) :: log) n =
      if slot + 1 = n then call.inUse?.getD (useAfter config place log n)
      else useAfter config place log n := by
  have hu (k : Nat) : useEvent? config place k (.client ent call, true) =
      if slot = k then call.useEvent? else none := by
    change (acceptedCall? config place k (.client ent call, true)).bind _ = _
    rw [acceptedCall?, hc]
    change (if some slot = some k then some call else none).bind _ = _
    by_cases hk : slot = k <;> simp [hk]
  cases n with
  | zero => rfl
  | succ k =>
    by_cases hk : slot = k
    · subst hk
      have hself := hu slot
      rw [if_pos rfl] at hself
      rw [if_pos rfl]
      cases call with
      | begin => simp [useAfter, lastUse?_cons_some hself, hs, ClientCall.inUse?]
      | disconnect => simp [useAfter, lastUse?_cons_some hself, ClientCall.inUse?]
      | _ => rw [useAfter, lastUse?_cons_none hself]; rfl
    · rw [if_neg (by omega), useAfter, useAfter, lastUse?_cons_none ((hu k).trans (if_neg hk))]

/-- A client that has begun and not disconnected since is connected or active. -/
theorem isLive_of_began (h : lastUse? config place k log = some .began) :
    (acceptedFor config place k log).IsLive := by
  induction log with
  | nil => cases h
  | cons e log ih =>
    cases ha : acceptedCall? config place k e with
    | none =>
      have hn : useEvent? config place k e = none ∨ useEvent? config place k e = some .spawned := by
        unfold useEvent?
        split
        · exact Or.inr rfl
        · rw [ha]
          exact Or.inl rfl
      rw [acceptedFor, List.filterMap_cons_none ha]
      rcases hn with hn | hn
      · rw [lastUse?_cons_none hn] at h
        exact ih h
      · rw [lastUse?_cons_some hn] at h
        cases h
    | some call =>
      have hu : useEvent? config place k e = call.useEvent? := by
        unfold useEvent?
        split
        · cases ha
        · rw [ha]
          rfl
      rw [acceptedFor, List.filterMap_cons_some ha]
      cases call with
      | connect info => exact Or.inl ⟨info, rfl⟩
      | begin => exact Or.inr rfl
      | disconnect =>
        rw [lastUse?_cons_some hu] at h
        cases h
      | userinfo info => exact ih (lastUse?_cons_none hu ▸ h)
      | command => exact ih (lastUse?_cons_none hu ▸ h)
      | think input => exact ih (lastUse?_cons_none hu ▸ h)

end Log

/-! ## Along a play -/

section Play

variable {config : Config} {place : Placement} {log : List (GameRequest × Bool)} {g g' : Game}

/-- The whole column of use fields is as the requests say. -/
def Game.UsesFollow (config : Config) (place : Placement) (log : List (GameRequest × Bool))
    (g : Game) : Prop :=
  ∀ n < config.maxEntities, g.uses[n]? = some (useAfter config place log n)

theorem usesFollow_effect {r : GameRequest} (hg : g.Shaped config place)
    (h : g.UsesFollow config place log) (he : g.effect r = .ok g') :
    g'.UsesFollow config place ((r, true) :: log) := by
  intro n hn
  cases r with
  | spawnEntities map entities spawnPoint =>
    cases he
    rw [hg.resetTables_eq]
    change ((Game.freshEdicts config place).map _)[n]? = _
    rw [Game.uses_freshEdicts config place hn, useAfter_spawn]
  | file call name =>
    cases he
    rw [useAfter_cons fun _ => rfl]
    exact h n hn
  | runFrame =>
    cases he
    rw [useAfter_cons fun _ => rfl]
    exact h n hn
  | serverCommand =>
    cases he
    rw [useAfter_cons fun _ => rfl]
    exact h n hn
  | client ent call =>
    obtain ⟨slot, s, s', hc, -, -, rfl⟩ := Game.applyClient_ok he
    have hs : slot < config.maxClients := hg.sessions ▸ Game.clientSlot_lt hc
    rw [hg.clientSlot_eq ent] at hc
    have hu : { g with sessions := g.sessions.set slot s' }.uses = g.uses := rfl
    rw [Game.uses_markUse, hu, h n hn, useAfter_client call hc hs]
    split <;> rfl

theorem plays_usesFollow (h : PlaysUnder Game.Spared config place log g) :
    g.UsesFollow config place log := by
  induction h with
  | opened =>
    intro n hn
    rw [Game.create_eq]
    refine (Game.uses_freshEdicts config place hn).trans (congrArg some ?_)
    cases n <;> simp [useAfter, lastUse?]
  | changed _ hw ih =>
    intro n hn
    rw [hw.2]
    exact ih n hn
  | @performed log g g' ok r hp he ih =>
    obtain ⟨g₁, hw, hc⟩ :=
      (Game.perform_defers r g).endsUnder Game.Spared.refl Game.Spared.trans he
    have h₁ : g₁.UsesFollow config place log := by
      intro n hn
      rw [hw.2]
      exact ih n hn
    rcases hc with ⟨rfl, hok⟩ | ⟨rfl, rfl⟩
    · have hg := (plays_shaped (hp.plays fun _ _ hs => hs.1)).written hw.1
      exact usesFollow_effect hg h₁ hok
    · intro n hn
      rw [useAfter_cons fun k => useEvent?_refused r]
      exact h₁ n hn

theorem Game.UsesFollow.inUse (h : g.UsesFollow config place log) {n : Nat}
    (hn : n < config.maxEntities) :
    ∃ e, g.edicts[n]? = some e ∧ e.inUse = useAfter config place log n := by
  have hu := h n hn
  rw [Game.uses, List.getElem?_map] at hu
  exact Option.map_eq_some_iff.mp hu

/-- An allowed call can be made of such a play, and is accepted. -/
theorem exists_accepted_sparing (reply : (c : HostCall Text.Bytes) → c.Reply) {k : Nat}
    {ent : Address} (call : ClientCall String UserCommand)
    (h : PlaysUnder Game.Spared config place log g) (hk : k < config.maxClients)
    (hc : (Game.create config place).clientSlot ent = .ok k)
    (ha : (acceptedFor config place k log).Allows call) :
    ∃ g', PlaysUnder Game.Spared config place ((.client ent call, true) :: log) g' := by
  have hp := h.plays fun _ _ hs => hs.1
  have hg := plays_shaped hp
  obtain ⟨s, hs, hr⟩ := plays_records hp hk
  obtain ⟨g', he⟩ := Outcome.endsUnder_converse Game.Spared.refl reply
    (Game.perform (.client ent call) g)
  rw [← hg.clientSlot_eq ent] at hc
  rw [(ends_client_iff hg hs hr hc (he.ends fun _ _ hs => hs.1)).mpr ha] at he
  exact ⟨g', .performed _ h he⟩

end Play

/-- A client edict is in use if and only if its client has begun since the last reset. Take any
game that was opened, and any play of it in which the host does not change whether an edict is in
use. The edict of a client slot is in use if the last spawning, accepted begin or accepted
disconnect for the slot was a begin, and not in use otherwise; while it is in use, the session of
the slot is connected or active. The world is always in use, and no edict behind the clients
ever is. -/
theorem inUse_records_begin (reply : (c : HostCall Text.Bytes) → c.Reply) (place : Placement)
    (log : List (GameRequest × Bool)) (g : Game)
    (h : PlaysUnder Game.Spared (Config.answered reply) place log g) :
    (∀ k < g.config.maxClients, ∃ e s, g.edicts[k + 1]? = some e ∧ g.sessions[k]? = some s ∧
      e.inUse = (if lastUse? g.config place k log = some .began then 1 else 0) ∧
      (e.inUse = 1 → s.state = .connected ∨ s.state = .active)) ∧
    (∃ e, g.edicts[0]? = some e ∧ e.inUse = 1) ∧
    ∀ n e, g.config.maxClients < n → g.edicts[n]? = some e → e.inUse = 0 := by
  have hp := h.plays fun _ _ hs => hs.1
  have hg := plays_shaped hp
  have hf : (Config.answered reply).Fits := by
    rw [Config.answered_eq]
    exact Config.fits_clamped ..
  have hroom := hf.room
  have hu := plays_usesFollow h
  rw [hg.config_eq]
  refine ⟨fun k hk => ?_, hu.inUse (n := 0) (by omega), fun n e hn he => ?_⟩
  · obtain ⟨e, he, hi⟩ := hu.inUse (n := k + 1) (by omega)
    obtain ⟨s, hs, hr⟩ := plays_records hp hk
    simp only [useAfter, hk, true_and] at hi
    refine ⟨e, s, he, hs, hi, fun hone => ?_⟩
    by_cases hb : lastUse? (Config.answered reply) place k log = some .began
    · have hl := hr.isLive_iff.mpr (isLive_of_began hb)
      simpa [Session.isLive] using hl
    · rw [hi, if_neg hb] at hone
      exact absurd hone (by decide)
  · have hlt : n < (Config.answered reply).maxEntities :=
      hg.edicts ▸ (List.getElem?_eq_some_iff.mp he).1
    obtain ⟨e', he', hi⟩ := hu.inUse hlt
    obtain rfl : e' = e := Option.some.inj (he'.symm.trans he)
    obtain ⟨k, rfl⟩ : ∃ k, n = k + 1 := ⟨n - 1, by omega⟩
    rw [hi, useAfter, if_neg (by omega)]

theorem inUse_records_begin_reconnected :
    ∃ (log : List (GameRequest × Bool)) (g : Game) (e : Edict) (s : Session),
      PlaysUnder Game.Spared (Config.answered unreasonableHost) .standard log g ∧
      acceptedFor g.config .standard 0 log = [.connect "", .begin, .connect ""] ∧
      g.edicts[1]? = some e ∧ g.sessions[0]? = some s ∧ e.inUse = 1 ∧
      (s.state = .connected ∨ s.state = .active) := by
  have hcfg : Config.answered unreasonableHost = soloConfig := by decide +kernel
  have hi : ((Game.create soloConfig .standard).index? soloHandle).bind
      (Game.create soloConfig .standard).sessions.slotOfEdict? = some 0 := by decide +kernel
  have hc : (Game.create soloConfig .standard).clientSlot soloHandle = .ok 0 := by
    rw [Game.clientSlot, hi]
  have hk : 0 < soloConfig.maxClients := by decide
  have hv : Text.Info.isValid "" = true := by decide
  obtain ⟨g₁, h₁⟩ := exists_accepted_sparing unreasonableHost (.connect "") .opened hk hc hv
  obtain ⟨g₂, h₂⟩ := exists_accepted_sparing unreasonableHost .begin h₁ hk hc
    (Or.inl ⟨"", by decide +kernel⟩)
  obtain ⟨g₃, h₃⟩ := exists_accepted_sparing unreasonableHost (.connect "") h₂ hk hc hv
  have hg := (plays_shaped (h₃.plays fun _ _ hs => hs.1)).config_eq
  rw [← hcfg] at h₃
  obtain ⟨hclient, -, -⟩ := inUse_records_begin unreasonableHost .standard _ g₃ h₃
  rw [hg] at hclient
  obtain ⟨e, s, he, hs, huse, hlive⟩ := hclient 0 hk
  rw [if_pos (by decide +kernel)] at huse
  exact ⟨_, g₃, e, s, h₃, by rw [hg]; decide +kernel, he, hs, huse, hlive huse⟩

end GameModule
