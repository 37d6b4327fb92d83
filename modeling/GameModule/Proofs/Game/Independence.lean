import GameModule.Proofs.Game.ClientCall
import GameModule.Proofs.Game.InUse

/-!
# Clients do not interfere

A client call looks at the session of its own slot only and changes nothing but this session and
whether the edict behind it is in use. So two calls whose handles do not stand for the same slot
can be made in either order: the host hears the same about each of them, and the game comes out the
same. And what is left of a slot after a run of client calls is what the calls for this slot alone
leave of it.
-/
namespace GameModule

open Text (Bytes)

/-- What a host hears of a request: the calls it receives, and the verdict. -/
def Served.heard (s : Served) : List (HostCall Bytes) × Bool := (s.calls, s.accepted)

namespace Game

variable {g g' : Game} {ent : Address} {call : ClientCall String UserCommand}

/-- The handles do not stand for the same client slot; either may stand for none. -/
def Apart (g : Game) (ent ent' : Address) : Prop :=
  ∀ k, ¬ (g.clientSlot ent = .ok k ∧ g.clientSlot ent' = .ok k)

theorem Apart.symm {ent ent' : Address} (h : g.Apart ent ent') : g.Apart ent' ent :=
  fun k hk => h k hk.symm

/-! ## What handles stand for -/

namespace SameHandles

theorem refl (g : Game) : g.SameHandles g := ⟨rfl, rfl, rfl, rfl⟩

theorem symm (h : g.SameHandles g') : g'.SameHandles g :=
  ⟨h.config.symm, h.place.symm, h.table.symm, h.slots.symm⟩

theorem trans {g'' : Game} (h : g.SameHandles g') (h' : g'.SameHandles g'') : g.SameHandles g'' :=
  ⟨h'.config.trans h.config, h'.place.trans h.place, h'.table.trans h.table,
    h'.slots.trans h.slots⟩

theorem echo_eq (h : g.SameHandles g') (ent : Address) (call : ClientCall String UserCommand) :
    g'.echo ent call = g.echo ent call := by
  rw [echo, echo, entityNumber, entityNumber, h.config, h.index?_eq]

theorem apart (h : g.SameHandles g') {ent ent' : Address} (ha : g.Apart ent ent') :
    g'.Apart ent ent' := by
  intro k hk
  rw [h.clientSlot_eq, h.clientSlot_eq] at hk
  exact ha k hk

end SameHandles

theorem Confined.sameHandles {k : Nat} (h : Confined k call g g') : g.SameHandles g' :=
  ⟨h.config, h.place, h.table, h.slots⟩

theorem sameHandles_of_accepted (h : g.applyClient ent call = .ok g') : g.SameHandles g' := by
  obtain ⟨k, -, hc⟩ := confined_of_accepted h
  exact hc.sameHandles

/-! ## Two calls -/

/-- The game after a call that was accepted for slot `i`. -/
def settled (g : Game) (i : Nat) (s : Session) (value : Option Int32) : Game :=
  { g with sessions := g.sessions.set i s }.markUse i value

theorem settled_comm {i j : Nat} (hij : i ≠ j) (s t : Session) (value value' : Option Int32) :
    (g.settled i s value).settled j t value' = (g.settled j t value').settled i s value := by
  have hs := List.set_comm s t (l := g.sessions) hij
  have he (v v' : Int32) := List.modify_modify_ne (fun e : Edict => { e with inUse := v })
    (fun e => { e with inUse := v' }) g.edicts (i := i + 1) (j := j + 1) (by omega)
  cases value <;> cases value' <;> simp only [settled, markUse, modifyEdict, hs, he]

theorem applyClient_settled {k : Nat} {s : Session} (call : ClientCall String UserCommand)
    (hc : g.clientSlot ent = .ok k) (hs : g.sessions[k]? = some s) :
    g.applyClient ent call = (s.apply k call).map fun s' => g.settled k s' call.inUse? :=
  applyClient_eq call hc hs

section Pair

variable {a b : Address} {x : ClientCall String UserCommand} {g₁ : Game}

/-- A call that was accepted for another slot is no reason to refuse a call, nor to accept it, and
two calls that are accepted for different slots come to the same in either order. -/
theorem applyClient_pair (ha : g.applyClient a x = .ok g₁) (h : g.Apart a b)
    (y : ClientCall String UserCommand) :
    (∃ cause, g.applyClient b y = .error cause ∧ g₁.applyClient b y = .error cause) ∨
    ∃ g₂ g', g.applyClient b y = .ok g₂ ∧ g₁.applyClient b y = .ok g' ∧
      g₂.applyClient a x = .ok g' := by
  have hb' := (sameHandles_of_accepted ha).clientSlot_eq b
  obtain ⟨i, s, s', hi, hs, hx, hg₁⟩ := applyClient_ok ha
  change g₁ = g.settled i s' x.inUse? at hg₁
  cases hb : g.clientSlot b with
  | error cause =>
    rw [hb] at hb'
    exact Or.inl ⟨cause, applyClient_unknown y hb, applyClient_unknown y hb'⟩
  | ok j =>
    rw [hb] at hb'
    have hij : i ≠ j := fun hij => h j ⟨hij ▸ hi, hb⟩
    obtain ⟨t, ht⟩ := exists_session hb
    have ht₁ : g₁.sessions[j]? = some t := by
      rw [hg₁, settled, markUse_sessions, List.getElem?_set_ne hij, ht]
    rw [applyClient_settled y hb ht, applyClient_settled y hb' ht₁]
    cases hy : t.apply j y with
    | error cause => exact Or.inl ⟨cause, rfl, rfl⟩
    | ok t' =>
      right
      have hok : g.applyClient b y = .ok (g.settled j t' y.inUse?) := by
        rw [applyClient_settled y hb ht, hy]
        rfl
      have hi₂ := (sameHandles_of_accepted hok).clientSlot_eq a
      have hs₂ : (g.settled j t' y.inUse?).sessions[i]? = some s := by
        rw [settled, markUse_sessions, List.getElem?_set_ne (Ne.symm hij), hs]
      refine ⟨_, _, rfl, rfl, ?_⟩
      rw [applyClient_settled x (hi₂.trans hi) hs₂, hx, hg₁]
      exact congrArg Except.ok (settled_comm (Ne.symm hij) ..)

variable (reply : (c : HostCall Bytes) → c.Reply)

/-- What is heard of a call does not depend on a call for another slot before it. -/
theorem heard_after (h : g.Apart a b) (x y : ClientCall String UserCommand) :
    ((g.serve reply (.client a x)).game.serve reply (.client b y)).heard =
      (g.serve reply (.client b y)).heard := by
  cases ha : g.applyClient a x with
  | error cause => rw [serve_refused reply ha]
  | ok g₁ =>
    have he := (sameHandles_of_accepted ha).echo_eq b y
    rw [serve_accepted reply ha]
    rcases applyClient_pair ha h y with ⟨cause, hb, hb'⟩ | ⟨g₂, g', hb, hb', -⟩
    · simp only [serve_refused reply hb, serve_refused reply hb', Served.heard, he]
    · simp only [serve_accepted reply hb, serve_accepted reply hb', Served.heard, he]

theorem game_comm (h : g.Apart a b) (x y : ClientCall String UserCommand) :
    ((g.serve reply (.client a x)).game.serve reply (.client b y)).game =
      ((g.serve reply (.client b y)).game.serve reply (.client a x)).game := by
  cases ha : g.applyClient a x with
  | ok g₁ =>
    rw [serve_accepted reply ha]
    rcases applyClient_pair ha h y with ⟨cause, hb, hb'⟩ | ⟨g₂, g', hb, hb', ha'⟩
    · rw [serve_refused reply hb, serve_refused reply hb', serve_accepted reply ha]
    · rw [serve_accepted reply hb, serve_accepted reply hb', serve_accepted reply ha']
  | error cause =>
    rw [serve_refused reply ha]
    cases hb : g.applyClient b y with
    | error cause' => rw [serve_refused reply hb, serve_refused reply ha]
    | ok g₂ =>
      rw [serve_accepted reply hb]
      rcases applyClient_pair hb h.symm x with ⟨cause', ha', ha₂⟩ | ⟨g₁, g', ha', -, -⟩
      · rw [serve_refused reply ha₂]
      · rw [ha] at ha'
        cases ha'

end Pair

/-! ## Runs of client calls -/

/-- A handle, and what is to be done about the client behind it. -/
abbrev HandleCall := Address × ClientCall String UserCommand

/-- The call is for client slot `k`. -/
def isFor (g : Game) (k : Nat) (c : HandleCall) : Bool := (g.clientSlot c.1).toOption = some k

section Run

variable (reply : (c : HostCall Bytes) → c.Reply)

/-- What the host hears of a run of client calls, one after the other. -/
def hear (g : Game) : List HandleCall → List (HandleCall × List (HostCall Bytes) × Bool)
  | [] => []
  | c :: calls =>
    let s := g.serve reply (.client c.1 c.2)
    (c, s.heard) :: s.game.hear calls

/-- The game after a run of client calls. -/
def serveAll (g : Game) (calls : List HandleCall) : Game :=
  calls.foldl (fun g c => (g.serve reply (.client c.1 c.2)).game) g

/-- The games have the same in slot `k`, and handles stand for the same in both. -/
structure SameSlot (k : Nat) (g g' : Game) : Prop where
  handles : g.SameHandles g'
  session : g'.sessions[k]? = g.sessions[k]?
  inUse : g'.uses[k + 1]? = g.uses[k + 1]?

variable {k : Nat} {c : HandleCall}

theorem SameHandles.isFor_eq (h : g.SameHandles g') (k : Nat) : g'.isFor k = g.isFor k := by
  funext c
  rw [isFor, isFor, h.clientSlot_eq]

theorem sameHandles_serve (g : Game) (c : HandleCall) :
    g.SameHandles (g.serve reply (.client c.1 c.2)).game := by
  cases ha : g.applyClient c.1 c.2 with
  | error cause =>
    rw [serve_refused reply ha]
    exact .refl g
  | ok g₁ =>
    rw [serve_accepted reply ha]
    exact sameHandles_of_accepted ha

theorem isFor_iff : g.isFor k c = true ↔ g.clientSlot c.1 = .ok k := by
  rw [isFor, decide_eq_true_iff]
  cases g.clientSlot c.1 <;> simp [Except.toOption]

/-- A call for another slot, or for none, leaves slot `k`. -/
theorem SameSlot.other (h : SameSlot k g g') (hc : g.isFor k c = false) :
    SameSlot k (g.serve reply (.client c.1 c.2)).game g' := by
  cases ha : g.applyClient c.1 c.2 with
  | error cause =>
    rw [serve_refused reply ha]
    exact h
  | ok g₁ =>
    rw [serve_accepted reply ha]
    have hs := sameHandles_of_accepted ha
    obtain ⟨i, s, s', hi, -, -, rfl⟩ := applyClient_ok ha
    have hik : i ≠ k := by
      rintro rfl
      rw [isFor_iff.mpr hi] at hc
      cases hc
    refine ⟨hs.symm.trans h.handles, ?_, ?_⟩
    · rw [markUse_sessions, List.getElem?_set_ne hik]
      exact h.session
    · rw [uses_markUse, if_neg (by omega)]
      exact h.inUse

/-- A call for slot `k` finds and leaves the same in both games. -/
theorem SameSlot.own (h : SameSlot k g g') (hc : g.isFor k c = true) :
    (g'.serve reply (.client c.1 c.2)).heard = (g.serve reply (.client c.1 c.2)).heard ∧
      SameSlot k (g.serve reply (.client c.1 c.2)).game (g'.serve reply (.client c.1 c.2)).game := by
  have hk := isFor_iff.mp hc
  have hk' := (h.handles.clientSlot_eq c.1).trans hk
  obtain ⟨s, hs⟩ := exists_session hk
  have hs' := h.session.trans hs
  have he := h.handles.echo_eq c.1 c.2
  have ha := applyClient_settled c.2 hk hs
  have ha' := applyClient_settled c.2 hk' hs'
  cases hx : s.apply k c.2 with
  | error cause =>
    rw [hx] at ha ha'
    rw [serve_refused reply ha, serve_refused reply ha']
    exact ⟨by rw [Served.heard, he]; rfl, h⟩
  | ok t =>
    rw [hx] at ha ha'
    have hsame := sameHandles_of_accepted ha
    have hsame' := sameHandles_of_accepted ha'
    rw [serve_accepted reply ha, serve_accepted reply ha']
    refine ⟨by rw [Served.heard, he]; rfl, hsame.symm.trans (h.handles.trans hsame'), ?_, ?_⟩
    · have hlt := (List.getElem?_eq_some_iff.mp hs).1
      have hlt' := (List.getElem?_eq_some_iff.mp hs').1
      simp only [settled, markUse_sessions]
      rw [List.getElem?_set_self hlt, List.getElem?_set_self hlt']
    · simp only [settled, uses_markUse, if_true]
      exact congrArg _ h.inUse

/-- A slot goes through a run of client calls as if only those for it were made. -/
theorem SameSlot.run (h : SameSlot k g g') (calls : List HandleCall) :
    (g.hear reply calls).filter (fun e => g.isFor k e.1) =
        g'.hear reply (calls.filter (g.isFor k)) ∧
      SameSlot k (g.serveAll reply calls) (g'.serveAll reply (calls.filter (g.isFor k))) := by
  induction calls generalizing g g' with
  | nil => exact ⟨rfl, h⟩
  | cons c calls ih =>
    have hf := (sameHandles_serve reply g c).isFor_eq k
    cases hc : g.isFor k c with
    | false =>
      obtain ⟨hheard, hslot⟩ := ih (h.other reply hc)
      rw [hf] at hheard hslot
      rw [List.filter_cons_of_neg (by simp [hc]), hear, List.filter_cons_of_neg (by simp [hc])]
      exact ⟨hheard, hslot⟩
    | true =>
      obtain ⟨hsame, hown⟩ := h.own reply hc
      obtain ⟨hheard, hslot⟩ := ih hown
      rw [hf] at hheard hslot
      rw [List.filter_cons_of_pos hc, hear, List.filter_cons_of_pos (by simp [hc]), hheard, hear,
        hsame]
      exact ⟨rfl, hslot⟩

end Run

end Game

/-- Clients do not interfere with each other. Take any game and a host that only answers. Two
client calls on handles that do not stand for the same slot can be made in either order: the host
receives the same lines for each of them, the report of a refusal included, and gets the same
verdict, and the game comes out the same. After any run of client calls, the session of a slot and
whether its edict is in use are those after the calls for this slot alone, and the host heard the
same about these. -/
theorem clients_independent (g : Game) (reply : (c : HostCall Bytes) → c.Reply) :
    (∀ a b x y, g.Apart a b →
      let sa := g.serve reply (.client a x)
      let sb := g.serve reply (.client b y)
      let sab := sa.game.serve reply (.client b y)
      let sba := sb.game.serve reply (.client a x)
      sba.heard = sa.heard ∧ sab.heard = sb.heard ∧ sab.game = sba.game) ∧
    ∀ (calls : List Game.HandleCall) (k : Nat),
      let own := calls.filter (g.isFor k)
      (g.serveAll reply calls).sessions[k]? = (g.serveAll reply own).sessions[k]? ∧
      (g.serveAll reply calls).uses[k + 1]? = (g.serveAll reply own).uses[k + 1]? ∧
      (g.hear reply calls).filter (fun e => g.isFor k e.1) = g.hear reply own := by
  constructor
  · intro a b x y h
    exact ⟨Game.heard_after reply h.symm y x, Game.heard_after reply h x y,
      Game.game_comm reply h x y⟩
  · intro calls k
    have hself : Game.SameSlot k g g := ⟨.refl g, rfl, rfl⟩
    obtain ⟨hheard, hslot⟩ := hself.run reply calls
    exact ⟨hslot.session.symm, hslot.inUse.symm, hheard⟩

/-- A game for two clients. -/
def duoGame : Game := Game.create ⟨2, 3, true⟩ .standard

/-- The second client begins too early, which does not keep the first one from playing. -/
theorem clients_independent_duo :
    let reply := CannedHost.reply ⟨0, 0, 0, .miss, [], 0, 0, [], 0, none, []⟩
    let a := duoGame.handle 1
    let b := duoGame.handle 2
    let calls : List Game.HandleCall :=
      [(a, .connect ""), (b, .begin), (a, .begin), (b, .connect ""), (a, .command)]
    duoGame.Apart a b ∧
    ((duoGame.serve reply (.client b .begin)).game.serve reply (.client a (.connect ""))).heard =
      (duoGame.serve reply (.client a (.connect ""))).heard ∧
    (duoGame.serveAll reply calls).sessions[0]?.map (·.commands) = some 1 ∧
    (duoGame.serveAll reply calls).uses[2]? = some 0 := by
  intro reply a b calls
  have ha : duoGame.clientSlot a = .ok 0 := by
    have hi : (duoGame.index? a).bind duoGame.sessions.slotOfEdict? = some 0 := by decide +kernel
    rw [Game.clientSlot, hi]
  have hb : duoGame.clientSlot b = .ok 1 := by
    have hi : (duoGame.index? b).bind duoGame.sessions.slotOfEdict? = some 1 := by decide +kernel
    rw [Game.clientSlot, hi]
  have hapart : duoGame.Apart a b := by
    intro k hk
    have h₀ := Except.ok.inj (ha.symm.trans hk.1)
    have h₁ := Except.ok.inj (hb.symm.trans hk.2)
    omega
  obtain ⟨hpair, hrun⟩ := clients_independent duoGame reply
  obtain ⟨hheard, -, -⟩ := hpair a b (.connect "") .begin hapart
  obtain ⟨hfirst, -, -⟩ := hrun calls 0
  obtain ⟨-, hsecond, -⟩ := hrun calls 1
  refine ⟨hapart, hheard, ?_, ?_⟩
  · rw [hfirst]
    decide +kernel
  · rw [hsecond]
    decide +kernel

end GameModule
