import GameModule.Proofs.Game.Play
import Mathlib.Algebra.Group.Nat.Defs

/-!
# A session is what its accepted calls made it

The calls accepted for one client slot, the latest first, determine the state of its session, its
command count, its last input frame and which call is accepted next. The record of a session is
kept by every call it accepts (`records_apply`), and a play changes a session by accepted calls
only, so it holds along every play.
-/
namespace GameModule

/-! ## Reading the accepted calls -/

namespace ClientCall

variable {τ κ : Type}

/-- Whether the call takes a session to a state of its own. -/
def isTransition : ClientCall τ κ → Bool
  | .connect _ | .begin | .disconnect => true
  | _ => false

def isConnect : ClientCall τ κ → Bool
  | .connect _ => true
  | _ => false

/-- Whether commands are counted from the call on. -/
def isReset : ClientCall τ κ → Bool
  | .connect _ | .begin => true
  | _ => false

def isCommand : ClientCall τ κ → Bool
  | .command => true
  | _ => false

def input? : ClientCall τ κ → Option κ
  | .think input => some input
  | _ => none

end ClientCall

/-- Calls accepted for one slot, the latest first. -/
abbrev Accepted := List (ClientCall String UserCommand)

namespace Accepted

/-- The last call to connect, begin or disconnect. -/
def last? (calls : Accepted) : Option (ClientCall String UserCommand) :=
  calls.find? ClientCall.isTransition

/-- The state the last such call leads to. -/
def state (calls : Accepted) : ClientState :=
  match calls.last? with
  | some (.connect _) => .connected
  | some .begin => .active
  | some .disconnect => .disconnected
  | _ => .unconnected

/-- Commands since the client last connected or began. -/
def commands (calls : Accepted) : Nat :=
  (calls.takeWhile (!·.isReset)).countP ClientCall.isCommand

/-- The last input frame since the client connected, blank if there is none. -/
def input (calls : Accepted) : UserCommand :=
  ((calls.takeWhile (!·.isConnect)).findSome? ClientCall.input?).getD .blank

def IsLive (calls : Accepted) : Prop :=
  (∃ info, calls.last? = some (.connect info)) ∨ calls.last? = some .begin

/-- Whether a call is to be accepted after these. -/
def Allows (calls : Accepted) : ClientCall String UserCommand → Prop
  | .connect info => Text.Info.isValid info
  | .begin => calls.IsLive
  | .userinfo info => calls.IsLive ∧ Text.Info.isValid info
  | .disconnect => calls.IsLive
  | .command => calls.last? = some .begin
  | .think _ => calls.last? = some .begin

theorem state_eq_active_iff (calls : Accepted) :
    calls.state = .active ↔ calls.last? = some .begin := by
  rw [state]
  cases calls.last? with
  | none => simp
  | some call => cases call <;> simp

theorem state_eq_connected_iff (calls : Accepted) :
    calls.state = .connected ↔ ∃ info, calls.last? = some (.connect info) := by
  rw [state]
  cases calls.last? with
  | none => simp
  | some call => cases call <;> simp

theorem state_ne_unconnected {calls : Accepted} (h : ∃ info, .connect info ∈ calls) :
    calls.state ≠ .unconnected := by
  obtain ⟨info, hm⟩ := h
  have hs : (calls.find? ClientCall.isTransition).isSome := List.find?_isSome.mpr ⟨_, hm, rfl⟩
  obtain ⟨call, hf⟩ := Option.isSome_iff_exists.mp hs
  have ht : call.isTransition = true := List.find?_some hf
  rw [state, last?, hf]
  cases call with
  | connect info => nofun
  | begin => nofun
  | disconnect => nofun
  | userinfo info => cases ht
  | command => cases ht
  | think input => cases ht

end Accepted

/-! ## The record of a session -/

/-- The session is as its accepted calls say. Only a connected client can have left its first
state. -/
structure Session.Records (s : Session) (calls : Accepted) : Prop where
  state : s.state = calls.state
  unconnected : (∀ info, .connect info ∉ calls) → s.state = .unconnected
  commands : s.commands = min calls.commands Session.maxCommands
  input : s.lastInput = calls.input

section Records

variable {s s' : Session} {calls : Accepted} {slot : Nat}

theorem records_blank : Session.blank.Records [] where
  state := rfl
  unconnected _ := rfl
  commands := rfl
  input := rfl

theorem Session.Records.isLive_iff (h : s.Records calls) : s.isLive = true ↔ calls.IsLive := by
  rw [Session.isLive, Bool.or_eq_true, decide_eq_true_iff, decide_eq_true_iff, h.state,
    calls.state_eq_connected_iff, calls.state_eq_active_iff]
  rfl

theorem exists_ok_iff {p : Prop} [Decidable p] {ε α : Type} (e : ε) (a : α) :
    (∃ b, (if p then Except.ok a else Except.error e) = .ok b) ↔ p := by
  by_cases hp : p <;> simp [hp]

/-- A call is accepted if and only if the accepted calls before it allow it. -/
theorem Session.Records.accepts_iff (h : s.Records calls) (slot : Nat)
    (call : ClientCall String UserCommand) :
    (∃ s', s.apply slot call = .ok s') ↔ calls.Allows call := by
  have hl := h.isLive_iff
  have ha : s.state = .active ↔ calls.last? = some .begin := by
    rw [h.state, calls.state_eq_active_iff]
  cases call with
  | connect info => exact exists_ok_iff _ _
  | begin => exact (exists_ok_iff _ _).trans hl
  | userinfo info =>
    rw [Accepted.Allows, ← hl, Session.apply]
    by_cases hs : s.isLive = true
    · rw [hs]
      exact (exists_ok_iff _ _).trans ⟨fun hv => ⟨rfl, hv⟩, fun hv => hv.2⟩
    · rw [Bool.not_eq_true] at hs
      rw [hs]
      simp
  | disconnect => exact (exists_ok_iff _ _).trans hl
  | command => exact (exists_ok_iff _ _).trans ha
  | think input => exact (exists_ok_iff _ _).trans ha

/-- A session that is live has connected. -/
theorem Session.Records.connected_of_isLive (h : s.Records calls) (hl : s.isLive = true) :
    ¬ ∀ info, .connect info ∉ calls := by
  intro hn
  rw [Session.isLive, h.unconnected hn] at hl
  cases hl

/-- Every accepted call keeps the record. -/
theorem records_apply (h : s.Records calls) {call : ClientCall String UserCommand}
    (ha : s.apply slot call = .ok s') : s'.Records (call :: calls) := by
  have ht : (∀ info, .connect info ∉ call :: calls) → ∀ info, .connect info ∉ calls :=
    fun hn info hm => hn info (List.mem_cons_of_mem _ hm)
  cases call with
  | connect info =>
    rw [Session.apply] at ha
    split at ha
    · cases ha
      exact ⟨rfl, fun hn => absurd List.mem_cons_self (hn info), rfl, rfl⟩
    · cases ha
  | begin =>
    rw [Session.apply] at ha
    split at ha
    · rename_i hl
      cases ha
      exact ⟨rfl, fun hn => absurd (ht hn) (h.connected_of_isLive hl), rfl, h.input⟩
    · cases ha
  | userinfo info =>
    rw [Session.apply] at ha
    split at ha
    · cases ha
    · split at ha
      · cases ha
        exact ⟨h.state, fun hn => h.unconnected (ht hn), h.commands, h.input⟩
      · cases ha
  | disconnect =>
    rw [Session.apply] at ha
    split at ha
    · rename_i hl
      cases ha
      exact ⟨rfl, fun hn => absurd (ht hn) (h.connected_of_isLive hl), h.commands, h.input⟩
    · cases ha
  | command =>
    rw [Session.apply] at ha
    split at ha
    · cases ha
      refine ⟨h.state, fun hn => h.unconnected (ht hn), ?_, h.input⟩
      have hc : Accepted.commands (.command :: calls) = calls.commands + 1 :=
        List.countP_cons_of_pos rfl
      have hs := h.commands
      rw [hc]
      change min (s.commands + 1) Session.maxCommands = _
      omega
    · cases ha
  | think input =>
    rw [Session.apply] at ha
    split at ha
    · cases ha
      exact ⟨h.state, fun hn => h.unconnected (ht hn), h.commands, rfl⟩
    · cases ha

end Records

/-! ## Along a play -/

/-- The calls that were accepted for slot `k`, read off the requests of a play. A handle stands for
the same slot throughout, so it is looked up in the fresh game. -/
def acceptedCall? (config : Config) (place : Placement) (k : Nat) :
    GameRequest × Bool → Option (ClientCall String UserCommand)
  | (.client ent call, true) =>
    if ((Game.create config place).clientSlot ent).toOption = some k then some call else none
  | _ => none

def acceptedFor (config : Config) (place : Placement) (k : Nat)
    (log : List (GameRequest × Bool)) : Accepted :=
  log.filterMap (acceptedCall? config place k)

section Play

variable {config : Config} {place : Placement} {log : List (GameRequest × Bool)} {g : Game}

/-- What a request does to the session of slot `k`: nothing, or one accepted call. -/
theorem session_effect {g' : Game} {r : GameRequest} {k : Nat} {s : Session}
    (hg : g.Shaped config place) (he : g.effect r = .ok g') (hs : g.sessions[k]? = some s) :
    (g'.sessions[k]? = some s ∧ acceptedCall? config place k (r, true) = none) ∨
      ∃ call s', acceptedCall? config place k (r, true) = some call ∧ s.apply k call = .ok s' ∧
        g'.sessions[k]? = some s' := by
  cases r with
  | spawnEntities map entities spawnPoint =>
    cases he
    exact Or.inl ⟨hs, rfl⟩
  | file call name =>
    cases he
    exact Or.inl ⟨hs, rfl⟩
  | runFrame =>
    cases he
    exact Or.inl ⟨hs, rfl⟩
  | serverCommand =>
    cases he
    exact Or.inl ⟨hs, rfl⟩
  | client ent call =>
    obtain ⟨slot, s₀, s', hc, hs₀, ha, rfl⟩ := Game.applyClient_ok he
    have hslot : ((Game.create config place).clientSlot ent).toOption = some slot := by
      rw [← hg.clientSlot_eq ent, hc]
      rfl
    rw [Game.markUse_sessions, acceptedCall?, hslot]
    by_cases hk : slot = k
    · subst hk
      rw [hs] at hs₀
      cases hs₀
      have hl := (List.getElem?_eq_some_iff.mp hs).1
      exact Or.inr ⟨call, s', if_pos rfl, ha, List.getElem?_set_self hl⟩
    · refine Or.inl ⟨?_, if_neg fun he => hk (Option.some.inj he)⟩
      rw [List.getElem?_set_ne hk]
      exact hs

theorem plays_records (h : Plays config place log g) {k : Nat} (hk : k < config.maxClients) :
    ∃ s, g.sessions[k]? = some s ∧ s.Records (acceptedFor config place k log) := by
  induction h with
  | opened =>
    refine ⟨.blank, ?_, records_blank⟩
    exact (List.getElem?_replicate_of_lt hk)
  | wrote w _ ih =>
    obtain ⟨s, hs, hr⟩ := ih
    exact ⟨s, by rw [Game.written_sessions (.single ⟨w, rfl⟩)]; exact hs, hr⟩
  | @performed log g g' ok r hp he ih =>
    obtain ⟨s, hs, hr⟩ := ih
    obtain ⟨g₁, hw, ⟨rfl, hok⟩ | ⟨rfl, hw', -⟩⟩ := Game.ends_perform he
    · -- the host's writes before the effect leave the sessions alone
      have hg := (plays_shaped hp).written hw
      rw [← Game.written_sessions hw] at hs
      rcases session_effect hg hok hs with ⟨hs', hn⟩ | ⟨call, s', hc, ha, hs'⟩
      · rw [acceptedFor, List.filterMap_cons_none hn]
        exact ⟨s, hs', hr⟩
      · rw [acceptedFor, List.filterMap_cons_some hc]
        exact ⟨s', hs', records_apply hr ha⟩
    · refine ⟨s, ?_, ?_⟩
      · rw [Game.written_sessions hw', Game.written_sessions hw]
        exact hs
      · have hn : acceptedCall? config place k (r, false) = none := by cases r <;> rfl
        rw [acceptedFor, List.filterMap_cons_none hn]
        exact hr

/-- A client call made of a game ends with the verdict the accepted calls give. -/
theorem ends_client_iff {g' : Game} {ok : Bool} {k : Nat} {s : Session} {calls : Accepted}
    {ent : Address} {call : ClientCall String UserCommand} (hg : g.Shaped config place)
    (hs : g.sessions[k]? = some s) (hr : s.Records calls) (hc : g.clientSlot ent = .ok k)
    (he : (Game.perform (.client ent call) g).Ends g' ok) : ok = true ↔ calls.Allows call := by
  obtain ⟨g₁, hw, hend⟩ := Game.ends_perform he
  have hc₁ : g₁.clientSlot ent = .ok k := by
    rw [(hg.written hw).clientSlot_eq ent, ← hg.clientSlot_eq ent]
    exact hc
  rw [← Game.written_sessions hw] at hs
  rw [Game.effect, Game.applyClient_eq call hc₁ hs] at hend
  rw [← hr.accepts_iff k call]
  cases ha : s.apply k call with
  | ok s' =>
    rw [ha] at hend
    rcases hend with ⟨rfl, -⟩ | ⟨-, -, cause, hf⟩
    · exact ⟨fun _ => ⟨s', rfl⟩, fun _ => rfl⟩
    · cases hf
  | error cause =>
    rw [ha] at hend
    rcases hend with ⟨-, hf⟩ | ⟨rfl, -⟩
    · cases hf
    · constructor
      · intro hf
        cases hf
      · rintro ⟨s', hf⟩
        cases hf

/-- An allowed call can be made, and is accepted. -/
theorem exists_accepted (reply : (c : HostCall Text.Bytes) → c.Reply) {k : Nat} {ent : Address}
    {call : ClientCall String UserCommand} (h : Plays config place log g)
    (hk : k < config.maxClients) (hc : (Game.create config place).clientSlot ent = .ok k)
    (ha : (acceptedFor config place k log).Allows call) :
    ∃ g', Plays config place ((.client ent call, true) :: log) g' := by
  obtain ⟨s, hs, hr⟩ := plays_records h hk
  have hg := plays_shaped h
  obtain ⟨g', he⟩ := Outcome.ends_converse reply (Game.perform (.client ent call) g)
  rw [← hg.clientSlot_eq ent] at hc
  rw [(ends_client_iff hg hs hr hc he).mpr ha] at he
  exact ⟨g', .performed _ h he⟩

end Play

/-- The session of a client slot is determined by the calls accepted for it. After any play, with
any requests, answers and host writes, and for every slot: without an accepted connect the session
is unconnected, else its state is the one the last accepted connect, begin or disconnect leads to;
it has counted the accepted commands since the last connect or begin, as far as 32 bits go, and
keeps the input of the last accepted think since the last connect. A call for the slot comes to an
end with every host, and it is accepted if and only if the accepted calls allow it. -/
theorem session_of_accepted_calls (config : Config) (place : Placement)
    (log : List (GameRequest × Bool)) (g : Game) (k : Nat) (h : Plays config place log g)
    (hk : k < config.maxClients) :
    ∃ (s : Session) (calls : Accepted),
      g.sessions[k]? = some s ∧ calls = acceptedFor config place k log ∧
      ((∀ info, .connect info ∉ calls) → s.state = .unconnected) ∧
      ((∃ info, .connect info ∈ calls) → s.state = calls.state ∧ s.state ≠ .unconnected) ∧
      s.commands = min calls.commands (2 ^ 32 - 1) ∧
      s.lastInput = calls.input ∧
      ∀ ent call, g.clientSlot ent = .ok k →
        (∀ g' ok, (Game.perform (.client ent call) g).Ends g' ok →
          (ok = true ↔ calls.Allows call)) ∧
        ∀ reply, ∃ g', (Game.perform (.client ent call) g).Ends g'
          ((Game.perform (.client ent call) g).converse reply).2 := by
  obtain ⟨s, hs, hr⟩ := plays_records h hk
  refine ⟨s, _, hs, rfl, hr.unconnected, fun hm => ⟨hr.state, ?_⟩, hr.commands, hr.input, ?_⟩
  · rw [hr.state]
    exact Accepted.state_ne_unconnected hm
  · intro ent call hc
    refine ⟨fun g' ok he => ends_client_iff (plays_shaped h) hs hr hc he, fun reply => ?_⟩
    exact Outcome.ends_converse reply _

/-- Settings for one client. -/
def soloConfig : Config := ⟨1, 2, true⟩

def soloHandle : Address := (Game.create soloConfig .standard).handle 1

theorem session_of_accepted_calls_solo :
    ∃ (log : List (GameRequest × Bool)) (g : Game) (s : Session),
      Plays soloConfig .standard log g ∧
      acceptedFor soloConfig .standard 0 log = [.command, .begin, .connect ""] ∧
      g.sessions[0]? = some s ∧ s.state = .active ∧ s.commands = 1 := by
  let reply := CannedHost.reply ⟨0, 0, 0, .miss, [], 0, 0, [], 0, none, []⟩
  have hi : ((Game.create soloConfig .standard).index? soloHandle).bind
      (Game.create soloConfig .standard).sessions.slotOfEdict? = some 0 := by decide +kernel
  have hc : (Game.create soloConfig .standard).clientSlot soloHandle = .ok 0 := by
    rw [Game.clientSlot, hi]
  have hk : 0 < soloConfig.maxClients := by decide
  have ha₁ : (acceptedFor soloConfig .standard 0 []).Allows (.connect "") := by
    change Text.Info.isValid "" = true
    decide
  obtain ⟨g₁, h₁⟩ := exists_accepted reply .opened hk hc ha₁
  have ha₂ : (acceptedFor soloConfig .standard 0
      [(.client soloHandle (.connect ""), true)]).Allows .begin := by
    left
    exact ⟨"", by decide +kernel⟩
  obtain ⟨g₂, h₂⟩ := exists_accepted reply h₁ hk hc ha₂
  have ha₃ : (acceptedFor soloConfig .standard 0
      [(.client soloHandle .begin, true), (.client soloHandle (.connect ""), true)]).Allows
        .command := by
    change Accepted.last? _ = some .begin
    decide +kernel
  obtain ⟨g₃, h₃⟩ := exists_accepted reply h₂ hk hc ha₃
  obtain ⟨s, calls, hs, he, -, hst, hn, -⟩ := session_of_accepted_calls _ _ _ g₃ 0 h₃ hk
  have hl : acceptedFor soloConfig .standard 0 [(.client soloHandle .command, true),
      (.client soloHandle .begin, true), (.client soloHandle (.connect ""), true)] =
        [.command, .begin, .connect ""] := by decide +kernel
  rw [he, hl] at hst hn
  exact ⟨_, g₃, s, h₃, hl, hs, (hst ⟨"", by simp⟩).1, hn⟩

end GameModule
