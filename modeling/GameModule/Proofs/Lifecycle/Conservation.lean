import GameModule.Host.Canned
import GameModule.Proofs.Activity
import GameModule.Proofs.Lifecycle.Ledger

/-!
# No game is lost, shut down twice, or used after its shutdown

The ledger says where each game is. What is left is the order of the calls made for one game: a
shutdown calls the host at most once, and from that call on the game makes no other, whatever the
host does before it answers.
-/
namespace GameModule

/-! ## A shutdown calls the host at most once -/

namespace Outcome

variable {σ α : Type}

/-- The rest of the work makes no call. -/
def IsSilent : Outcome σ α → Prop
  | .done .. => True
  | .note _ rest => rest.IsSilent
  | .call .. => False

/-- The rest of the work makes one call at most. -/
def CallsOnce : Outcome σ α → Prop
  | .done .. => True
  | .note _ rest => rest.CallsOnce
  | .call _ _ resume => ∀ a s, (resume a s).IsSilent

theorem IsSilent.callsOnce {o : Outcome σ α} (h : o.IsSilent) : o.CallsOnce := by
  induction o with
  | done => trivial
  | note n rest ih => exact ih h
  | call s c resume _ => exact h.elim

end Outcome

theorem closing_callsOnce (g : Game) : (Game.closing g).CallsOnce := by
  rw [Game.closing_eq]
  split
  · exact fun _ _ => trivial
  · trivial

/-- The work in hand stops at a call, and `f` is what is left of it. -/
def Control.Suspends (f : Frame) : Control → Prop
  | .opening exports (.call _ c resume) => f = .opening exports c resume
  | .running r id generation (.call _ c resume) => f = .running r id generation c resume
  | .closing id result (.call _ c resume) => f = .closing id result c resume
  | _ => False

/-- A tick leaves the stack alone, suspends the work in hand, or takes the innermost suspended
work up again. -/
theorem tick_stack {s t : Machine × Control} (h : Tick s t) :
    t.1.stack = s.1.stack ∨ (∃ f, t.1.stack = f :: s.1.stack ∧ s.2.Suspends f) ∨
      ∃ f reply, s.1.stack = f :: t.1.stack ∧ f.resumed s.1.games reply = some t.2 := by
  cases h with
  | answered m reply hs hc => exact Or.inr (Or.inr ⟨_, reply, hs, hc⟩)
  | openingCall => exact Or.inr (Or.inl ⟨_, rfl, rfl⟩)
  | runningCall => exact Or.inr (Or.inl ⟨_, rfl, rfl⟩)
  | closingCall => exact Or.inr (Or.inl ⟨_, rfl, rfl⟩)
  | _ =>
    left
    simp [Machine.emit, Machine.note, Machine.leave, Machine.setGame, Machine.modifyGame]

/-- A shutdown that is taken up again has its own resumption in hand. -/
theorem resumed_closing {f : Frame} {games : List Resident} {id : GameId} {result : EntryResult}
    {reply : (c : HostCall Text.Bytes) → c.Reply} {o : Outcome Game Unit}
    (h : f.resumed games reply = some (.closing id result o)) :
    ∃ c resume a g, f = .closing id result c resume ∧ o = resume a g := by
  cases f with
  | opening exports c resume => cases h
  | running r id generation c resume =>
    obtain ⟨res, _, hr⟩ := Option.map_eq_some_iff.mp h
    cases hr
  | closing id result c resume =>
    obtain ⟨res, _, hr⟩ := Option.map_eq_some_iff.mp h
    cases hr
    exact ⟨c, resume, _, _, rfl, rfl⟩

/-- After its one call a shutdown is silent, in hand or suspended. -/
structure Winding (s : Machine × Control) : Prop where
  hand : ∀ id result o, s.2 = .closing id result o → o.CallsOnce
  suspended : ∀ id result c resume, Frame.closing id result c resume ∈ s.1.stack →
    ∀ a g, (resume a g).IsSilent

theorem winding_initial (exported : List String) : Winding (Machine.initial exported, .host) where
  hand := nofun
  suspended _ _ _ _ h := absurd h List.not_mem_nil

theorem winding_tick {s t : Machine × Control} (h : Tick s t) (hw : Winding s) : Winding t := by
  constructor
  · cases h with
    | answered m reply hs hc =>
      rintro id result o rfl
      obtain ⟨c, resume, a, g, rfl, rfl⟩ := resumed_closing hc
      have hf : Frame.closing id result c resume ∈ m.stack := by rw [hs]; exact List.mem_cons_self
      exact (hw.suspended id result c resume hf a g).callsOnce
    | shutdown m id result hg =>
      intro _ _ _ hc
      cases hc
      exact closing_callsOnce _
    | closingNote m id result n o =>
      intro _ _ _ hc
      cases hc
      exact hw.hand id result (.note n o) rfl
    | _ => exact nofun
  · intro id result c resume hf
    rcases tick_stack h with hs | ⟨f, hs, hsus⟩ | ⟨f, reply, hs, -⟩
    · exact hw.suspended id result c resume (hs ▸ hf)
    · rcases List.mem_cons.mp (hs ▸ hf) with rfl | hf
      · unfold Control.Suspends at hsus
        split at hsus
        · cases hsus
        · cases hsus
        · rename_i ho
          cases hsus
          exact hw.hand id result _ ho
        · exact hsus.elim
      · exact hw.suspended id result c resume hf
    · refine hw.suspended id result c resume ?_
      rw [hs]
      exact List.mem_cons_of_mem _ hf

/-! ## Calls come from the work in hand -/

/-- The work in hand is about to call the host for game `id`. -/
def Control.CallsFor (id : GameId) : Control → Prop
  | .running _ id' _ (.call ..) => id' = id
  | .closing id' _ (.call ..) => id' = id
  | _ => False

/-- What a tick may add to the history: the calls of the work in hand, and a game under the next
number. -/
def Event.AddedBy (s : Machine × Control) : Event → Prop
  | .called game _ => ∀ id, game = some id → s.2.CallsFor id
  | .opened id => id = s.1.games.length
  | _ => True

theorem addedBy_stored {s : Machine × Control} {e : Event} (h : ∃ f v, e = .stored f v) :
    e.AddedBy s := by
  obtain ⟨f, v, rfl⟩ := h
  trivial

theorem Event.AddedBy.caller {s : Machine × Control} {e : Event} (h : e.AddedBy s) {id : GameId}
    (hc : e.caller? = some id) : s.2.CallsFor id := by
  cases e with
  | called game c => exact h id hc
  | _ => cases hc

/-- A tick adds to the history, and forgets no game. -/
theorem tick_history {s t : Machine × Control} (h : Tick s t) :
    s.1.games.length ≤ t.1.games.length ∧
      ∃ new, t.1.history = new ++ s.1.history ∧ ∀ e ∈ new, e.AddedBy s := by
  cases h with
  | write m id w => exact ⟨by simp [Machine.modifyGame], [], rfl, by simp⟩
  | unbound => exact ⟨Nat.le_refl _, [_, _, _], rfl, by simp [Event.AddedBy]⟩
  | bound => exact ⟨Nat.le_refl _, [_, _], rfl, by simp [Event.AddedBy]⟩
  | stopped => exact ⟨Nat.le_refl _, [_], rfl, by simp [Event.AddedBy]⟩
  | stoppedEmpty => exact ⟨Nat.le_refl _, [_, _, _], rfl, by simp [Event.AddedBy]⟩
  | checkedOut m r _ _ _ =>
    obtain ⟨new, hh, hn⟩ := m.arrive_history (P := Event.AddedBy (m, .host)) r trivial
      fun _ => trivial
    exact ⟨by simp, new, hh, hn⟩
  | lost m r _ _ _ =>
    obtain ⟨new, hh, hn⟩ := m.arrive_history (P := Event.AddedBy (m, .host)) r trivial
      fun _ => trivial
    refine ⟨by simp [Machine.leave, Machine.emit], .returned _ :: new,
      congrArg (List.cons _) hh, ?_⟩
    exact List.forall_mem_cons.mpr ⟨trivial, hn⟩
  | skipped m r _ _ =>
    obtain ⟨new, hh, hn⟩ := m.arrive_history (P := Event.AddedBy (m, .host)) r trivial
      fun _ => trivial
    refine ⟨by simp [Machine.note, Machine.leave, Machine.emit], .returned _ :: .noted _ :: new,
      congrArg (fun l => List.cons _ (List.cons _ l)) hh, ?_⟩
    exact List.forall_mem_cons.mpr ⟨trivial, List.forall_mem_cons.mpr ⟨trivial, hn⟩⟩
  | openingNote => exact ⟨Nat.le_refl _, [_], rfl, by simp [Event.AddedBy]⟩
  | openingCall => exact ⟨Nat.le_refl _, [_], rfl, by simp [Event.AddedBy]⟩
  | parked m exports u config _ _ =>
    obtain ⟨new, hh, hn⟩ := m.made_history exports config
    refine ⟨by simp [Machine.leave, Machine.emit],
      .returned (.table (some m.games.length)) :: (new ++ [.opened m.games.length]), ?_, ?_⟩
    · simp [hh, Machine.leave, Machine.emit]
    · exact List.forall_mem_cons.mpr ⟨trivial, List.forall_mem_append.mpr
        ⟨fun e he => addedBy_stored (hn e he), List.forall_mem_singleton.mpr rfl⟩⟩
  | replaced m exports u config _ _ =>
    obtain ⟨new, hh, hn⟩ := m.made_history exports config
    refine ⟨by simp [Machine.note, Machine.emit],
      .noted .replacing :: (new ++ [.opened m.games.length]), ?_, ?_⟩
    · simp [hh, Machine.note, Machine.emit]
    · exact List.forall_mem_cons.mpr ⟨trivial, List.forall_mem_append.mpr
        ⟨fun e he => addedBy_stored (hn e he), List.forall_mem_singleton.mpr rfl⟩⟩
  | runningNote => exact ⟨Nat.le_refl _, [_], rfl, by simp [Event.AddedBy]⟩
  | runningCall m r id generation g c resume =>
    refine ⟨Nat.le_of_eq (setGame_length m id g).symm, [_], rfl, ?_⟩
    simp [Event.AddedBy, Control.CallsFor]
  | kept m r id generation g accepted _ _ =>
    obtain ⟨new, hh, hn⟩ := (m.setGame id g).announce_history r id
    refine ⟨by simp [Machine.leave, Machine.emit], .returned _ :: new,
      congrArg (List.cons _) hh, ?_⟩
    exact List.forall_mem_cons.mpr ⟨trivial, fun e he => addedBy_stored (hn e he)⟩
  | retired m r id generation g accepted _ _ =>
    obtain ⟨new, hh, hn⟩ := (m.setGame id g).announce_history r id
    exact ⟨by simp, new, hh, fun e he => addedBy_stored (hn e he)⟩
  | shutdownLost => exact ⟨Nat.le_refl _, [_], rfl, by simp [Event.AddedBy]⟩
  | closingNote => exact ⟨Nat.le_refl _, [_], rfl, by simp [Event.AddedBy]⟩
  | closingCall m id result g c resume =>
    refine ⟨Nat.le_of_eq (setGame_length m id g).symm, [_], rfl, ?_⟩
    simp [Event.AddedBy, Control.CallsFor]
  | closed m id result g =>
    refine ⟨Nat.le_of_eq (setGame_length m id g).symm, [_, _], rfl, ?_⟩
    simp [Event.AddedBy]
  | _ => exact ⟨Nat.le_refl _, [], rfl, by simp⟩

/-! ## The last call of a game -/

/-- The shutdown of game `id` has made its call, or is over. -/
def Departed (id : GameId) (s : Machine × Control) : Prop :=
  id ∈ s.1.shutDown ∨ id ∈ s.1.shuttingDown ∨
    ∃ result o, s.2 = .closing id result o ∧ o.IsSilent

theorem works_of_callsFor {c : Control} {id : GameId} (h : c.CallsFor id) :
    c.works.filterMap Work.game? = [id] := by
  unfold Control.CallsFor at h
  split at h
  · rw [← h]; rfl
  · rw [← h]; rfl
  · exact h.elim

theorem mem_game_of_shuttingDown {m : Machine} {id : GameId} (h : id ∈ m.shuttingDown) :
    id ∈ (m.stack.map Frame.work).filterMap Work.game? := by
  obtain ⟨f, hf, hi⟩ := List.mem_filterMap.mp h
  rw [List.filterMap_map]
  refine List.mem_filterMap.mpr ⟨f, hf, ?_⟩
  cases f with
  | opening exports c resume => cases hi
  | running r id generation c resume => cases hi
  | closing id result c resume => exact hi

/-- A departed game is not in hand for a call: it would be in two places. -/
theorem Departed.not_callsFor {s : Machine × Control} {id : GameId} (hd : Departed id s)
    (hb : Balanced s) : ¬ s.2.CallsFor id := by
  intro hc
  have hn := (List.nodup_append.mp hb.nodup).2.1
  rw [pending, List.filterMap_append, works_of_callsFor hc] at hn
  obtain ⟨hid, -⟩ := List.nodup_cons.mp hn
  rcases hd with hd | hd | ⟨result, o, ho, hs⟩
  · exact hid (List.mem_append_right _ hd)
  · exact hid (List.mem_append_left _ (mem_game_of_shuttingDown hd))
  · rw [ho] at hc
    cases o with
    | done => exact hc
    | note => exact hc
    | call => exact hs

theorem departed_tick {s t : Machine × Control} {id : GameId} (h : Tick s t) (hw : Winding s)
    (hd : Departed id s) : Departed id t := by
  rcases hd with hd | hd | ⟨result, o, ho, hs⟩
  · left
    obtain ⟨-, new, hh, -⟩ := tick_history h
    rw [Machine.shutDown, hh, List.filterMap_append]
    exact List.mem_append_right _ hd
  · rcases tick_stack h with hs | ⟨f, hs, -⟩ | ⟨f, reply, hs, hc⟩
    · right; left
      rwa [Machine.shuttingDown, hs]
    · right; left
      rw [Machine.shuttingDown, hs, List.filterMap_cons]
      split
      · exact hd
      · exact List.mem_cons_of_mem _ hd
    · right
      rw [Machine.shuttingDown, hs] at hd
      obtain ⟨f', hf, hi⟩ := List.mem_filterMap.mp hd
      rcases List.mem_cons.mp hf with rfl | hf
      · -- the shutdown itself is taken up again, after its call
        right
        cases f' with
        | opening exports c resume => cases hi
        | running r id generation c resume => cases hi
        | closing id' result c resume =>
          obtain rfl := Option.some.inj hi
          obtain ⟨res, _, hr⟩ := Option.map_eq_some_iff.mp hc
          refine ⟨result, _, hr.symm, ?_⟩
          exact hw.suspended id' result c resume (by rw [hs]; exact List.mem_cons_self) _ _
      · left
        exact List.mem_filterMap.mpr ⟨f', hf, hi⟩
  · obtain ⟨m, c⟩ := s
    obtain rfl : c = .closing id result o := ho
    cases h with
    | closingNote m id result n o => exact Or.inr (Or.inr ⟨result, o, rfl, hs⟩)
    | closingCall m id result g c resume => exact hs.elim
    | closed m id result g => exact Or.inl List.mem_cons_self

theorem callsFor_tick {s t : Machine × Control} {id : GameId} (h : Tick s t)
    (hn : ¬ s.2.CallsFor id) : t.1.callsFor id = s.1.callsFor id := by
  obtain ⟨-, new, hh, hc⟩ := tick_history h
  have hnew : (new.filter fun e => e.caller? = some id) = [] := by
    rw [List.filter_eq_nil_iff]
    intro e he hi
    exact hn ((hc e he).caller (of_decide_eq_true hi))
  rw [Machine.callsFor, hh, List.filter_append, hnew, List.nil_append]
  rfl

/-- From the call of its shutdown on, a game makes no call. -/
theorem callsFor_departed {m m' : Machine} {moves : List Move} {id : GameId}
    (hb : Balanced (m, .host)) (hw : Winding (m, .host)) (hd : Departed id (m, .host))
    (h : m.run moves = some m') : m'.callsFor id = m.callsFor id := by
  have hP := Machine.run_keeps
    (P := fun s => Balanced s ∧ Winding s ∧ Departed id s ∧ s.1.callsFor id = m.callsFor id)
    (fun ht hp => ⟨balanced_tick ht hp.1, winding_tick ht hp.2.1, departed_tick ht hp.2.1 hp.2.2.1,
      (callsFor_tick ht (hp.2.2.1.not_callsFor hp.1)).trans hp.2.2.2⟩)
    h ⟨hb, hw, hd, rfl⟩
  exact hP.2.2.2

theorem winding_run {exported : List String} {moves : List Move} {m : Machine}
    (h : (Machine.initial exported).run moves = some m) : Winding (m, .host) :=
  Machine.run_keeps winding_tick h (winding_initial exported)

/-! ## Every run conserves its games -/

theorem count_pending (stack : List Frame) (id : GameId) :
    ((stack.map Frame.work).filterMap Work.game?).count id =
      (stack.filterMap (·.work.out?)).count id + (stack.filterMap (·.work.closing?)).count id := by
  induction stack with
  | nil => rfl
  | cons f stack ih =>
    cases f with
    | opening exports c resume => exact ih
    | running r id' generation c resume =>
      simp only [List.map_cons, Frame.work, List.filterMap_cons, Work.game?, Work.out?,
        Work.closing?, List.count_cons, ih]
      omega
    | closing id' result c resume =>
      simp only [List.map_cons, Frame.work, List.filterMap_cons, Work.game?, Work.out?,
        Work.closing?, List.count_cons, ih]
      omega

theorem count_ledger (m : Machine) (id : GameId) :
    (ledger (m, .host)).count id = m.cell.slot.toList.count id +
      (m.checkedOut.count id + m.shuttingDown.count id + m.shutDown.count id) := by
  rw [ledger, List.count_append, List.count_append]
  congr 2
  exact count_pending m.stack id

/-- No game is lost, shut down twice, or used after its shutdown. At any moment at which the host
has control, inside any nesting of calls, each game made is in exactly one place: parked, out with
one request, inside its own shutdown, or shut down. Outside all calls the openings carried through
are the shutdowns and the parked game. A shutdown runs at most once, no call for the game follows
its end, and already from the shutdown's own call on the game makes no other. -/
theorem games_conserved (exported : List String) (moves : List Move) (m : Machine)
    (h : (Machine.initial exported).run moves = some m) :
    (∀ id < m.games.length,
      m.cell.slot.toList.count id + m.checkedOut.count id + m.shuttingDown.count id +
        m.shutDown.count id = 1) ∧
    (m.stack = [] →
      m.openings = m.shutDown.length + if m.cell.slot.isSome then 1 else 0) ∧
    (∀ id, m.shuttingDown.count id + m.shutDown.count id ≤ 1) ∧
    (∀ id later earlier, m.history = later ++ .closed id :: earlier →
      ∀ c, Event.called (some id) c ∉ later) ∧
    (∀ id, id ∈ m.shuttingDown ∨ id ∈ m.shutDown →
      ∀ moves' m', m.run moves' = some m' → m'.callsFor id = m.callsFor id) := by
  have hb := balanced_run h
  refine ⟨?_, ?_, ?_, ?_, ?_⟩
  · intro id hi
    have hc : (ledger (m, .host)).count id = 1 := by
      rw [hb.places.count_eq, List.nodup_range.count, if_pos (List.mem_range.mpr hi)]
    rw [count_ledger] at hc
    omega
  · intro hs
    have hl := hb.places.length_eq
    have ht := hb.tables
    simp only [ledger, pending, Control.works, hs, List.map_nil, List.append_nil,
      List.filterMap_nil, List.nil_append, List.length_append, List.length_range, List.countP_nil,
      Nat.add_zero] at hl ht
    rw [ht, ← hl, Nat.add_comm]
    cases m.cell.slot <;> rfl
  · intro id
    have hc := List.nodup_iff_count.mp hb.nodup id
    rw [count_ledger] at hc
    omega
  · intro id later earlier hh c hc
    have ho := hb.calls
    rw [CallsInLife, hh] at ho
    exact (List.pairwise_append.mp ho).2.2 _ hc _ List.mem_cons_self id rfl rfl
  · intro id hi moves' m' hr
    refine callsFor_departed hb (winding_run h) ?_ hr
    rcases hi with hi | hi
    · exact Or.inr (Or.inl hi)
    · exact Or.inl hi

/-- A host whose console variables are all one, and which has nothing else to say. -/
def obligingHost : (c : HostCall Text.Bytes) → c.Reply
  | .cvar .. | .cvarSet .. | .cvarForceSet .. => some ⟨none, none, 0, 0, ⟨0x3f800000⟩⟩
  | c => CannedHost.reply ⟨0, 0, 0, .miss, [], 0, 0, [], 0, none, []⟩ c

/-- A game is opened, and from inside its command it is stopped and another one is opened, which is
stopped from inside its frame. Both are shut down when their requests end, the second one first. -/
def nestedRetirement : List Move :=
  let reply : Move := .answer obligingHost
  [.enter (.start (.all true)), reply, reply, reply, reply,
    .enter (.request .serverCommand), .enter .stop,
    .enter (.start (.all false)), reply, reply, reply, reply,
    .enter (.request .runFrame), .enter .stop, reply, reply, reply, reply, reply]

theorem games_conserved_nested :
    ∃ m, (Machine.initial symbols).run nestedRetirement = some m ∧ m.stack = [] ∧
      m.openings = 2 ∧ m.shutDown = [0, 1] ∧
      m.openings = m.shutDown.length + (if m.cell.slot.isSome then 1 else 0) := by
  have hr : ((Machine.initial symbols).run nestedRetirement).map
      (fun m => (m.stack.length, m.openings, m.shutDown)) = some (0, 2, [0, 1]) := by decide +kernel
  obtain ⟨m, hm, he⟩ := Option.map_eq_some_iff.mp hr
  have hs : m.stack = [] := List.eq_nil_of_length_eq_zero (congrArg (·.1) he)
  exact ⟨m, hm, hs, congrArg (·.2.1) he, congrArg (·.2.2) he, (games_conserved _ _ m hm).2.1 hs⟩

end GameModule
