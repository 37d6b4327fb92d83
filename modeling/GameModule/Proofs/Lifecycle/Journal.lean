import GameModule.Proofs.Lifecycle.Turn

/-!
# The requests a run carries out

A request has its effect in the move that brings it to its end: the one that enters it, or the
answer to its last call. `Machine.journal` lists the requests of one game that a run brings to
their ends, with their verdicts. Whatever else the host does in between, also from inside calls,
every game is a fresh one after the requests of its journal, in this order, and writes of the host
(`run_logged`).
-/
namespace GameModule

open Text (Bytes)

/-! ## What a log leads to -/

/-- The games that a log of requests, the latest first, leads to, with any writes of the host in
between. An accepted request has had its effect, and a refused one none. -/
inductive Logged (config : Config) (place : Placement) : List (GameRequest × Bool) → Game → Prop
  | opened : Logged config place [] (Game.create config place)
  | wrote {log : List (GameRequest × Bool)} {g : Game} (w : Game.HostWrite)
      (h : Logged config place log g) : Logged config place log (g.write w)
  | carried {log : List (GameRequest × Bool)} {g g' : Game} {ok : Bool} (r : GameRequest)
      (h : Logged config place log g) (hc : Game.Carries r g g' ok) :
      Logged config place ((r, ok) :: log) g'

theorem Logged.shaped {config : Config} {place : Placement} {log : List (GameRequest × Bool)}
    {g : Game} (h : Logged config place log g) : g.Shaped config place := by
  induction h with
  | opened => exact Game.shaped_create config place
  | wrote w _ ih => exact ih.write w
  | carried r _ hc ih =>
    rcases hc with ⟨-, he⟩ | ⟨-, rfl⟩
    · exact ih.effect he
    · exact ih

/-! ## The journal -/

/-- The verdict of work that makes no more calls. -/
def Outcome.verdict? : Outcome Game Bool → Option Bool
  | .done _ ok => some ok
  | .note _ rest => rest.verdict?
  | .call .. => none

/-- A request of a game that came to its end, and its verdict. -/
abbrev Conclusion := GameId × GameRequest × Bool

/-- The end of a request, if what is left of it makes no more calls. -/
def HostRequest.conclusion (r : HostRequest) (id : GameId) (place : Placement)
    (o : Outcome Game Bool) : Option Conclusion :=
  o.verdict?.map fun ok => (id, r.decode id place, ok)

/-- What the end of a request, if there is one, adds to the journal of game `id`. -/
def additions (id : GameId) : Option Conclusion → List (GameRequest × Bool)
  | some (id', entry) => if id' = id then [entry] else []
  | none => []

namespace Machine

/-- The request that a move brings to its end: one that is entered and makes no calls, or the
suspended one whose last call is answered. -/
def concluded (m : Machine) : Move → Option Conclusion
  | .enter (.request r) =>
    m.cell.slot.bind fun id => m.games[id]?.bind fun res =>
      r.conclusion id res.game.place (Game.perform (r.decode id res.game.place) res.game)
  | .answer reply =>
    match m.stack with
    | .running r id _ c resume :: _ =>
      m.games[id]?.bind fun res =>
        r.conclusion id res.game.place (resume (c.receive (reply c.send)) res.game)
    | _ => none
  | _ => none

/-- The requests of game `id` that a run brings to their ends, the latest first. -/
def journal (m : Machine) (id : GameId) : List Move → List (GameRequest × Bool)
  | [] => []
  | move :: moves =>
    match m.step move with
    | some m' => m'.journal id moves ++ additions id (m.concluded move)
    | none => []

theorem concluded_decoded {m : Machine} {move : Move} {e : Conclusion}
    (h : m.concluded move = some e) :
    ∃ (r : HostRequest) (id : GameId) (place : Placement), e.2.1 = r.decode id place := by
  unfold concluded at h
  split at h
  · obtain ⟨id, -, h⟩ := Option.bind_eq_some_iff.mp h
    obtain ⟨res, -, h⟩ := Option.bind_eq_some_iff.mp h
    obtain ⟨ok, -, rfl⟩ := Option.map_eq_some_iff.mp h
    exact ⟨_, _, _, rfl⟩
  · split at h
    · obtain ⟨res, -, h⟩ := Option.bind_eq_some_iff.mp h
      obtain ⟨ok, -, rfl⟩ := Option.map_eq_some_iff.mp h
      exact ⟨_, _, _, rfl⟩
    · cases h
  · cases h

/-- A journal holds what the host asked for, as the game takes it. -/
theorem journal_decoded {m : Machine} {id : GameId} {moves : List Move}
    {entry : GameRequest × Bool} (h : entry ∈ m.journal id moves) :
    ∃ (r : HostRequest) (id : GameId) (place : Placement), entry.1 = r.decode id place := by
  induction moves generalizing m with
  | nil => cases h
  | cons move moves ih =>
    rw [journal] at h
    split at h
    · rcases List.mem_append.mp h with h | h
      · exact ih h
      · unfold additions at h
        split at h
        · next id' entry' hc =>
          split at h
          · obtain rfl := List.mem_singleton.mp h
            exact concluded_decoded hc
          · cases h
        · cases h
    · cases h

end Machine

/-! ## One move -/

/-- What is left of suspended work still waits for its last answer. All tables are in the same
place. -/
def Frame.Awaits : Frame → Prop
  | .opening .. => True
  | .running r id _ _ resume =>
    ∀ a g, (resume a g).Defers (Game.Carries (r.decode id .standard)) g
  | .closing _ _ _ resume => ∀ a g, (resume a g).Defers Game.Stays g

/-- Each game is what its log leads to, and suspended work has yet to have its effect. -/
structure Machine.Recorded (m : Machine) (log : GameId → List (GameRequest × Bool)) : Prop where
  games : ∀ (id : GameId) (res : Resident), m.games[id]? = some res →
    ∃ config, Logged config .standard (log id) res.game
  unmade : ∀ id, m.games.length ≤ id → log id = []
  frames : ∀ f ∈ m.stack, f.Awaits

namespace Machine.Recorded

variable {m m' : Machine} {log : GameId → List (GameRequest × Bool)} {id : GameId} {res : Resident}

theorem place_eq (h : m.Recorded log) (hi : m.games[id]? = some res) :
    res.game.place = .standard := by
  obtain ⟨config, hl⟩ := h.games id res hi
  exact hl.shaped.place_eq

theorem same (h : m.Recorded log) (hg : m'.games = m.games) (hs : m'.stack = m.stack) :
    m'.Recorded log :=
  ⟨hg ▸ h.games, hg ▸ h.unmade, hs ▸ h.frames⟩

theorem note (h : m.Recorded log) (n : Notice) : (m.note n).Recorded log := h.same rfl rfl

theorem suspend (h : m.Recorded log) {f : Frame} (hf : f.Awaits) (hg : m'.games = m.games)
    (hs : m'.stack = f :: m.stack) : m'.Recorded log := by
  refine ⟨hg ▸ h.games, hg ▸ h.unmade, ?_⟩
  rw [hs, List.forall_mem_cons]
  exact ⟨hf, h.frames⟩

theorem resume (h : m.Recorded log) {f : Frame} {rest : List Frame} (hs : m.stack = f :: rest) :
    f.Awaits ∧ { m with stack := rest }.Recorded log := by
  have hf := h.frames
  rw [hs, List.forall_mem_cons] at hf
  exact ⟨hf.1, h.games, h.unmade, hf.2⟩

theorem locked (h : m.Recorded log) {α : Type} {f : Cell → α × Cell} {a : α}
    (hl : m.locked f = some (a, m')) : m'.Recorded log := by
  obtain ⟨c, rfl⟩ := locked_eq hl
  exact h.same rfl rfl

/-- A game that is changed as its log says. -/
theorem update (h : m.Recorded log) (hi : m.games[id]? = some res) {g : Game}
    {new : List (GameRequest × Bool)}
    (hn : ∀ config, Logged config .standard (log id) res.game →
      Logged config .standard (new ++ log id) g)
    (hg : m'.games = m.games.set id { res with game := g }) (hs : m'.stack = m.stack) :
    m'.Recorded fun id' => (if id = id' then new else []) ++ log id' := by
  have hlt := (List.getElem?_eq_some_iff.mp hi).1
  refine ⟨?_, ?_, hs ▸ h.frames⟩
  · intro id' res' hi'
    rw [hg] at hi'
    by_cases hid : id = id'
    · subst hid
      rw [List.getElem?_set_self hlt] at hi'
      obtain rfl := Option.some.inj hi'
      obtain ⟨config, hl⟩ := h.games id res hi
      rw [if_pos rfl]
      exact ⟨config, hn config hl⟩
    · rw [List.getElem?_set_ne hid] at hi'
      rw [if_neg hid]
      exact h.games id' res' hi'
  · intro id' hle
    rw [hg, List.length_set] at hle
    have hne : id ≠ id' := Nat.ne_of_lt (Nat.lt_of_lt_of_le hlt hle)
    rw [if_neg hne, h.unmade id' hle]
    rfl

theorem continueClosing (h : m.Recorded log) (hi : m.games[id]? = some res) (result : EntryResult)
    {o : Outcome Game Unit} (hd : o.Defers Game.Stays res.game) :
    (m.continueClosing id result o).Recorded log := by
  induction o generalizing m with
  | done g _ =>
    obtain rfl : g = res.game := hd
    exact h.same (setGame_self hi) rfl
  | note n rest ih => exact ih (h.note n) hi hd
  | call g c resume _ =>
    obtain ⟨rfl, hres⟩ := hd
    exact h.suspend (f := .closing id result c resume) hres (setGame_self hi) rfl

theorem close (h : m.Recorded log) (id : GameId) (result : EntryResult) :
    (m.close id result).Recorded log := by
  unfold Machine.close
  split
  · next res hi => exact h.continueClosing hi result (Game.closing_defers res.game)
  · exact h.same rfl rfl

theorem finishRunning (h : m.Recorded log) {r : HostRequest} {id : GameId} {generation : UInt64}
    {accepted : Bool} (hm : m.finishRunning r id generation accepted = some m') :
    m'.Recorded log := by
  change ((m.announce r id).locked (·.putBack id generation)).bind _ = some m' at hm
  obtain ⟨⟨kept, m₁⟩, hl, hm⟩ := Option.bind_eq_some_iff.mp hm
  have h₁ := (h.same (m.announce_games r id) (m.announce_stack r id)).locked hl
  obtain rfl := Option.some.inj hm
  cases kept with
  | true => exact h₁.same rfl rfl
  | false => exact h₁.close ..

/-- A request goes on, and if it comes to its end, its verdict goes into the log. -/
theorem continueRunning (h : m.Recorded log) (hi : m.games[id]? = some res) {r : HostRequest}
    {generation : UInt64} {o : Outcome Game Bool}
    (hd : o.Defers (Game.Carries (r.decode id .standard)) res.game)
    (hm : m.continueRunning r id generation o = some m') :
    m'.Recorded fun id' =>
      additions id' (r.conclusion id .standard o) ++ log id' := by
  induction o generalizing m with
  | done g accepted =>
    have hset : (m.setGame id g).Recorded fun id' =>
        additions id' (some (id, r.decode id .standard, accepted)) ++ log id' :=
      h.update hi (fun _ hl => .carried _ hl hd) (setGame_games g hi) rfl
    exact hset.finishRunning hm
  | note n rest ih => exact ih (h.note n) hi hd hm
  | call g c resume _ =>
    obtain ⟨rfl, hres⟩ := hd
    obtain rfl := Option.some.inj hm
    exact h.suspend (f := .running r id generation c resume) hres (setGame_self hi) rfl

theorem finishOpening (h : m.Recorded log) {exports : Exports Bool} {config : Config}
    (hm : m.finishOpening exports config = some m') : m'.Recorded log := by
  have hmade : (m.made exports config).Recorded log := by
    refine ⟨?_, ?_, ?_⟩
    · intro id res hi
      rw [made_games, List.getElem?_append] at hi
      split at hi
      · exact h.games id res hi
      · next hlt =>
        obtain ⟨hlt', rfl⟩ := List.getElem?_eq_some_iff.mp hi
        rw [List.getElem_singleton, h.unmade id (Nat.le_of_not_lt hlt)]
        exact ⟨config, .opened⟩
    · intro id hle
      rw [made_games, List.length_append] at hle
      exact h.unmade id (Nat.le_of_add_right_le hle)
    · rw [made_stack]
      exact h.frames
  change ((m.made exports config).locked (·.park m.games.length)).bind _ = some m' at hm
  obtain ⟨⟨previous, m₁⟩, hl, hm⟩ := Option.bind_eq_some_iff.mp hm
  have h₁ := hmade.locked hl
  obtain rfl := Option.some.inj hm
  cases previous with
  | none => exact h₁.same rfl rfl
  | some old => exact (h₁.note .replacing).close ..

theorem continueOpening (h : m.Recorded log) {exports : Exports Bool} {o : Outcome Unit Config}
    (hm : m.continueOpening exports o = some m') : m'.Recorded log := by
  induction o generalizing m with
  | done u config => exact h.finishOpening hm
  | note n rest ih => exact ih (h.note n) hm
  | call u c resume _ =>
    obtain rfl := Option.some.inj hm
    exact h.suspend (f := .opening exports c resume) trivial rfl rfl

theorem start (h : m.Recorded log) {exports : Exports Bool} (hm : m.start exports = some m') :
    m'.Recorded log := by
  unfold Machine.start at hm
  split at hm
  · obtain rfl := Option.some.inj hm
    exact h.same rfl rfl
  · next count _ => exact (h.note (.bound count)).continueOpening hm

theorem stop (h : m.Recorded log) (hm : m.stop = some m') : m'.Recorded log := by
  obtain ⟨⟨parked, m₁⟩, hl, hm⟩ := Option.bind_eq_some_iff.mp hm
  have h₁ := h.locked hl
  obtain rfl := Option.some.inj hm
  cases parked with
  | some id => exact h₁.close ..
  | none =>
    simp only
    split
    · exact h₁.same rfl rfl
    · exact h₁.same rfl rfl

/-- A request that comes in runs on the parked game. -/
theorem request (h : m.Recorded log) {r : HostRequest} (hm : m.enter (.request r) = some m') :
    m'.Recorded fun id => additions id (m.concluded (.enter (.request r))) ++ log id := by
  have harrive (cell : Cell) : ((m.arrive r).setCell cell).Recorded log :=
    h.same (m.arrive_games r) (m.arrive_stack r)
  cases hf : m.cell.held with
  | true =>
    have hl : (m.arrive r).cell.held = true := by rwa [arrive_cell]
    change ((m.arrive r).locked Cell.checkOut).bind _ = some m' at hm
    rw [locked_held _ hl] at hm
    cases hm
  | false =>
    cases hs : m.cell.slot with
    | none =>
      rw [enter_request_skipped r hf hs] at hm
      obtain rfl := Option.some.inj hm
      simp only [concluded, hs, Option.bind_none]
      exact (harrive m.cell).same rfl rfl
    | some id =>
      cases hi : m.games[id]? with
      | none =>
        rw [enter_request_lost r hf hs hi] at hm
        obtain rfl := Option.some.inj hm
        simp only [concluded, hs, hi, Option.bind_some, Option.bind_none]
        exact (harrive m.cell.checkOut.2).same rfl rfl
      | some res =>
        rw [enter_request_parked r hf hs hi] at hm
        simp only [concluded, hs, hi, Option.bind_some, h.place_eq hi] at hm ⊢
        have hi' : ((m.arrive r).setCell m.cell.checkOut.2).games[id]? = some res := by
          rwa [setCell_games, arrive_games]
        exact (harrive _).continueRunning hi' (Game.perform_defers _ _) hm

theorem answer (h : m.Recorded log) {reply : (c : HostCall Bytes) → c.Reply}
    (hm : m.answer reply = some m') :
    m'.Recorded fun id => additions id (m.concluded (.answer reply)) ++ log id := by
  cases hs : m.stack with
  | nil =>
    simp only [Machine.answer, hs] at hm
    cases hm
  | cons f rest =>
    obtain ⟨hf, hrest⟩ := h.resume hs
    cases f with
    | opening exports c resume =>
      simp only [Machine.answer, hs] at hm
      simp only [concluded, hs]
      exact hrest.continueOpening hm
    | running r id generation c resume =>
      cases hi : m.games[id]? with
      | none =>
        simp only [Machine.answer, hs, hi] at hm
        cases hm
      | some res =>
        simp only [Machine.answer, hs, hi] at hm
        simp only [concluded, hs, hi, Option.bind_some, h.place_eq hi]
        exact hrest.continueRunning hi (hf _ _) hm
    | closing id result c resume =>
      cases hi : m.games[id]? with
      | none =>
        simp only [Machine.answer, hs, hi] at hm
        cases hm
      | some res =>
        simp only [Machine.answer, hs, hi] at hm
        obtain rfl := Option.some.inj hm
        simp only [concluded, hs]
        exact hrest.continueClosing hi result (hf _ _)

theorem write (h : m.Recorded log) (id : GameId) (w : Game.HostWrite) :
    (m.modifyGame id (·.write w)).Recorded log := by
  refine ⟨?_, ?_, h.frames⟩
  · intro id' res' hi'
    change (m.games.modify id _)[id']? = some res' at hi'
    by_cases hid : id = id'
    · subst hid
      rw [List.getElem?_modify_eq] at hi'
      obtain ⟨res, hi, rfl⟩ := Option.map_eq_some_iff.mp hi'
      obtain ⟨config, hl⟩ := h.games id res hi
      exact ⟨config, hl.wrote w⟩
    · rw [List.getElem?_modify_ne _ _ hid] at hi'
      exact h.games id' res' hi'
  · intro id' hle
    rw [modifyGame, List.length_modify] at hle
    exact h.unmade id' hle

/-- What a move brings to its end goes into the log. -/
theorem step (h : m.Recorded log) {move : Move} (hm : m.step move = some m') :
    m'.Recorded fun id => additions id (m.concluded move) ++ log id := by
  cases move with
  | enter e =>
    have he : (m.emit (.entered e)).Recorded log := h.same rfl rfl
    cases e with
    | start exports => exact he.start hm
    | stop => exact he.stop hm
    | request r => exact h.request hm
  | answer reply => exact h.answer hm
  | write id w =>
    obtain rfl := Option.some.inj hm
    exact h.write id w
  | writeInts ints =>
    obtain rfl := Option.some.inj hm
    exact h.same rfl rfl
  | reveal symbols =>
    obtain rfl := Option.some.inj hm
    exact h.same rfl rfl

theorem run (h : m.Recorded log) {moves : List Move} (hm : m.run moves = some m') :
    m'.Recorded fun id => m.journal id moves ++ log id := by
  induction moves generalizing m log with
  | nil =>
    obtain rfl := Option.some.inj hm
    exact h
  | cons move moves ih =>
    obtain ⟨mid, hstep, hrest⟩ := Option.bind_eq_some_iff.mp hm
    have hall := ih (h.step hstep) hrest
    simp only [journal, hstep, List.append_assoc]
    exact hall

end Machine.Recorded

/-- Every game of a run is what its journal leads to. -/
theorem run_logged {exported : List String} {moves : List Move} {m : Machine} {id : GameId}
    {res : Resident} (h : (Machine.initial exported).run moves = some m)
    (hi : m.games[id]? = some res) :
    ∃ config, Logged config .standard ((Machine.initial exported).journal id moves) res.game := by
  have h₀ : (Machine.initial exported).Recorded fun _ => [] := by
    refine ⟨fun id res hi => ?_, fun _ _ => rfl, fun f hf => ?_⟩
    · exact absurd hi (by simp [Machine.initial])
    · exact absurd hf List.not_mem_nil
  have hrun := (h₀.run h).games id res hi
  simpa only [List.append_nil] using hrun

end GameModule
