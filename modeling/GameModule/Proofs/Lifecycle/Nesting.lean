import GameModule.Proofs.Lifecycle.Reentry
import GameModule.Proofs.Lifecycle.Turn

/-!
# Requests that have a game out are nested

A request has its game out until it puts the game back, or gives it up to a shutdown. The cell
counts these requests, and each of them remembers the generation at which it began. While one is
under way only an opening brings another game into the slot, and that counts the generation up: the
generations grow from the outermost request to the innermost, and none is ahead of the cell's. A
request ends in the middle of a move, so its end is found among the ticks of the move.
-/
namespace GameModule

/-! ## The count of requests that have a game out -/

/-- The cell counts the requests that have a game out, in hand and suspended. -/
def CountsOut (s : Machine × Control) : Prop := s.1.cell.running = (outings s).length

theorem countsOut_initial (exported : List String) :
    CountsOut (Machine.initial exported, .host) := rfl

theorem Cell.putBack_running (c : Cell) (id : GameId) (generation : UInt64) :
    (c.putBack id generation).2.running = c.running - 1 := by
  by_cases hk : c.generation = generation ∧ c.slot = none
  · simp [Cell.putBack, hk]
  · simp [Cell.putBack, hk]

section Count

variable {s t : Machine × Control}

/-- Work that has no game out comes and goes without being counted. -/
theorem CountsOut.same (h : CountsOut s) (hc : t.1.cell.running = s.1.cell.running)
    (ho : outings t = outings s) : CountsOut t := by
  rw [CountsOut, hc, ho]
  exact h

/-- The innermost request ends, whether or not its game goes back. -/
theorem CountsOut.ended (h : CountsOut s) {id : GameId} {generation : UInt64}
    (ho : outings s = (id, generation) :: outings t)
    (hc : t.1.cell = (s.1.cell.putBack id generation).2) : CountsOut t := by
  rw [CountsOut, ho, List.length_cons] at h
  rw [CountsOut, hc, Cell.putBack_running, h, Nat.add_sub_cancel]

theorem countsOut_turn (h : Turn s t) (hr : CountsOut s) : CountsOut t := by
  cases h with
  | idle new hn hh hcur hc hg hk =>
    exact hr.same (by rw [hc]) (by rw [outings_eq, hk, outings_eq])
  | wrote id w hh hcur hc hg hk =>
    exact hr.same (by rw [hc]) (by rw [outings_eq, hk, outings_eq])
  | turnedAway e result new hres hn hh hcur hc hg hk =>
    exact hr.same (by rw [hc]) (by rw [outings_eq, hk, outings_eq])
  | stoppedEmpty new hn hs hh hcur hc hg hk =>
    exact hr.same (by rw [hc]; rfl) (by rw [outings_eq, hk, outings_eq])
  | stopped id hs hh hcur hc hg hk =>
    exact hr.same (by rw [hc]; rfl) (by rw [outings_eq, hk, outings_eq]; rfl)
  | started exports new hn hh hcur hc hg hk =>
    exact hr.same (by rw [hc]) (by rw [outings_eq, hk, outings_eq]; rfl)
  | taken r id new hn hs hh hcur hc hg hk =>
    have ho : outings t = (id, s.1.cell.generation) :: outings s := by
      rw [outings_eq, hk, outings_eq]
      rfl
    rw [CountsOut, ho, List.length_cons, ← hr, hc, Cell.checkOut, hs]
  | parked exports config rest hs hk hh hcur hc hg hk' =>
    exact hr.same (by rw [hc]; rfl) (by rw [outings_eq, hk', outings_eq, hk]; rfl)
  | replaced exports config old rest hs hk hh hcur hc hg hk' =>
    exact hr.same (by rw [hc]; rfl) (by rw [outings_eq, hk', outings_eq, hk]; rfl)
  | kept r id g accepted res rest hs hk hi he hh hcur hc hg hk' =>
    exact hr.ended (by rw [outings_eq, hk, outings_eq, hk']; rfl) hc
  | retired r id generation g accepted res rest hs hk hi he hh hcur hc hg hk' =>
    exact hr.ended (by rw [outings_eq, hk, outings_eq, hk']; rfl) hc
  | closed id result rest hk hh hcur hc hg hk' =>
    exact hr.same (by rw [hc]) (by rw [outings_eq, hk', outings_eq, hk]; rfl)

end Count

/-! ## The end of a request -/

section Ending

variable {m : Machine} {r : HostRequest} {id : GameId} {generation : UInt64}
  {o : Outcome Game Bool}

theorem outings_running :
    outings (m, .running r id generation o) = (id, generation) :: m.taken := by
  have hs : (m.stack.map Frame.work).filterMap Work.outing? = m.taken := List.filterMap_map
  rw [← hs]
  rfl

/-- A request in hand is counted on top of the suspended ones. -/
theorem CountsOut.running (h : CountsOut (m, .running r id generation o)) :
    m.cell.running = m.taken.length + 1 := by
  rw [CountsOut, outings_running, List.length_cons] at h
  exact h

/-- If nothing was retired since a request began, nobody has filled the slot. -/
theorem Sound.slot_of_running (h : Sound (m, .running r id generation o))
    (hf : m.entries < UInt64.size) (hg : m.cell.generation = generation) :
    m.cell.slot = none := by
  have hm : (id, generation) ∈ outings (m, .running r id generation o) := by
    rw [outings_running]
    exact List.mem_cons_self
  exact ((h.follows.tracks hf).out _ hm hg.symm).1

end Ending

/-- The generation alone says whether a game goes back, if the slot is empty whenever the
generations agree. -/
theorem Cell.putBack_iff {c : Cell} {id : GameId} {generation : UInt64}
    (hs : c.generation = generation → c.slot = none) :
    (c.putBack id generation).1 = true ↔ c.generation = generation := by
  by_cases hg : c.generation = generation
  · simp [Cell.putBack, hg, hs hg]
  · simp [Cell.putBack, hg]

/-! ## What a request without a parked game leaves in the log -/

/-- Taking a request in is logged only if its input frame is missing. -/
theorem arrive_notices (m : Machine) (r : HostRequest) :
    ∃ new, (m.arrive r).history = new ++ m.history ∧
      ∀ n, Event.noted n ∈ new → n = .missingInput := by
  unfold Machine.arrive
  split
  · exact ⟨[.noted .missingInput, .entered (.request r)], rfl, by simp⟩
  · exact ⟨[.entered (.request r)], rfl, by simp⟩

/-- A request that finds the slot empty is skipped, and the log says why. -/
theorem skipped_notices {m : Machine} (r : HostRequest) (hf : m.cell.held = false)
    (hs : m.cell.slot = none) :
    ∃ m' new, m.enter (.request r) = some m' ∧ m'.history = new ++ m.history ∧
      (Event.noted (.reentered r.name) ∈ new ↔ 0 < m.cell.running) ∧
      (Event.noted (.withoutGame r.name) ∈ new ↔ m.cell.running = 0) := by
  obtain ⟨new, hh, hn⟩ := arrive_notices m r
  have hre : Event.noted (.reentered r.name) ∉ new := fun h => by cases hn _ h
  have hwo : Event.noted (.withoutGame r.name) ∉ new := fun h => by cases hn _ h
  have hm := Machine.enter_request_skipped r hf hs
  by_cases hr : m.cell.running > 0
  · rw [if_pos hr] at hm
    refine ⟨_, .returned (r.result false) :: .noted (.reentered r.name) :: new, hm, ?_, ?_, ?_⟩
    · simp [Machine.note, Machine.leave, Machine.emit, hh]
    · simp [hr]
    · simp [hwo, Nat.ne_of_gt hr]
  · rw [if_neg hr] at hm
    refine ⟨_, .returned (r.result false) :: .noted (.withoutGame r.name) :: new, hm, ?_, ?_, ?_⟩
    · simp [Machine.note, Machine.leave, Machine.emit, hh]
    · simp [hre, hr]
    · simp [Nat.eq_zero_of_not_pos hr]

/-! ## The stack discipline -/

/-- Requests that have a game out form a stack. While fewer than 2^64 openings and shutdowns were
begun, at any moment at which the host has control: the cell counts the requests that have a game
out, so it counts none outside all calls; their generations grow strictly from the outermost to the
innermost, and none is ahead of the cell's. From then on, whenever a request comes to its end, it is
among those counted, so counting it off never goes below zero; and if it began at the cell's
generation the slot is empty, so the generation alone decides whether its game goes back. A request
that finds the slot empty is logged as re-entered exactly if another one has a game out. -/
theorem running_requests_stacked (exported : List String) (moves : List Move) (m : Machine)
    (h : (Machine.initial exported).run moves = some m) (hf : m.entries < UInt64.size) :
    (m.cell.running = m.taken.length ∧ (m.stack = [] → m.cell.running = 0)) ∧
    (m.taken.Pairwise (fun inner outer => outer.2 < inner.2) ∧
      ∀ p ∈ m.taken, p.2 ≤ m.cell.generation) ∧
    (∀ m' r id generation g accepted,
      Ticks (m, .host) (m', .running r id generation (.done g accepted)) →
      m'.entries < UInt64.size →
        m'.cell.running = m'.taken.length + 1 ∧
        (m'.cell.generation = generation → m'.cell.slot = none) ∧
        ((m'.cell.putBack id generation).1 = true ↔ m'.cell.generation = generation)) ∧
    (m.cell.slot = none → ∀ r, ∃ m' new, m.enter (.request r) = some m' ∧
      m'.history = new ++ m.history ∧
      (Event.noted (.reentered r.name) ∈ new ↔ m.taken ≠ []) ∧
      (Event.noted (.withoutGame r.name) ∈ new ↔ m.taken = [])) := by
  obtain ⟨hs, hr⟩ := ticks_keep_turn (fun h _ _ => countsOut_turn h) (Machine.run_ticks h)
    (sound_initial exported) (countsOut_initial exported)
  have ht := hs.follows.tracks hf
  have hn : m.cell.running = m.taken.length := by
    rw [hr, Machine.outings_host]
  rw [Machine.outings_host] at ht
  refine ⟨⟨hn, ?_⟩, ⟨ht.descending, ht.bounded⟩, ?_, ?_⟩
  · intro he
    rw [hn, Machine.taken, he]
    rfl
  · intro m' r id generation g accepted ht' hf'
    obtain ⟨hs', hr'⟩ := ticks_keep_turn (fun h _ _ => countsOut_turn h) ht' hs hr
    have hslot := hs'.slot_of_running hf'
    exact ⟨hr'.running, hslot, Cell.putBack_iff hslot⟩
  · intro he r
    have hfree := Machine.run_keeps (P := fun s => s.1.cell.held = false) free_tick h rfl
    obtain ⟨m', new, hm, hh, hre, hwo⟩ := skipped_notices r hfree he
    refine ⟨m', new, hm, hh, hre.trans ?_, hwo.trans ?_⟩
    · rw [hn, List.length_pos_iff]
    · rw [hn, List.length_eq_zero_iff]

/-- Inside the frame of the second game, which was opened from inside the command of the first one
after that was stopped. -/
theorem running_requests_stacked_nested :
    ∃ m, (Machine.initial symbols).run (nestedRetirement.take 13) = some m ∧ m.entries = 3 ∧
      m.taken = [(1, 3), (0, 1)] ∧ m.cell.running = m.taken.length ∧
      ∃ m' new, m.enter (.request .runFrame) = some m' ∧ m'.history = new ++ m.history ∧
        Event.noted (.reentered "RunFrame") ∈ new := by
  have hr : ((Machine.initial symbols).run (nestedRetirement.take 13)).any
      fun m => m.entries = 3 ∧ m.cell.slot = none ∧ m.taken = [(1, 3), (0, 1)] := by decide +kernel
  obtain ⟨m, hm, he⟩ := (Option.any_eq_true _ _).mp hr
  obtain ⟨hn, hs, ht⟩ := of_decide_eq_true he
  obtain ⟨⟨hc, -⟩, -, -, hlog⟩ := running_requests_stacked _ _ m hm (by rw [hn]; decide)
  obtain ⟨m', new, hm', hh, hre, -⟩ := hlog hs .runFrame
  exact ⟨m, hm, hn, ht, hc, m', new, hm', hh, hre.mpr (by rw [ht]; nofun)⟩

end GameModule
