import GameModule.Proofs.Lifecycle.Turn

/-!
# Whose table an opening gives back

An opening parks its game before it shuts the previous one down, and the last line of the previous
game lets the host in once more. If the host retires the new game there, by a shutdown or by
another opening, the new game is gone when its table is returned. This is the only way: the game
of a returned table is alive exactly if nothing has retired it since it was made.
-/
namespace GameModule

/-! ## Events since a game was made -/

namespace Event

/-- The current game has to go: a shutdown begins, or a new game is parked. -/
def retires : Event → Bool
  | .entered .stop | .opened _ => true
  | _ => false

def makes (id : GameId) : Event → Bool
  | .opened id' => id' = id
  | _ => false

theorem current_of_not_retires {e : Event} (h : e.retires = false) (before : Option GameId) :
    e.current before = before := by
  unfold retires at h
  split at h
  · cases h
  · cases h
  · next hstop hopened =>
    unfold current
    split
    · exact absurd rfl (hopened _)
    · exact absurd rfl hstop
    · rfl

theorem current_of_retires {e : Event} (h : e.retires = true) {id : GameId}
    (hm : e.makes id = false) (before : Option GameId) : e.current before ≠ some id := by
  cases e with
  | opened id' => simpa [current, makes] using hm
  | entered entry =>
    cases entry with
    | stop => exact nofun
    | _ => cases h
  | _ => cases h

end Event

/-- What happened since game `id` was made, the latest first. -/
def since (id : GameId) (history : List Event) : List Event :=
  history.takeWhile fun e => !e.makes id

/-- A game is the current one from its making until the first event that retires it. -/
theorem current_eq_some_iff (id : GameId) (history : List Event) :
    history.foldr Event.current none = some id ↔
      .opened id ∈ history ∧ ∀ e ∈ since id history, e.retires = false := by
  induction history with
  | nil => simp
  | cons e history ih =>
    cases hm : e.makes id with
    | true =>
      obtain rfl : e = .opened id := by
        cases e with
        | opened id' => exact congrArg Event.opened (of_decide_eq_true hm)
        | _ => cases hm
      simp [since, Event.current, hm]
    | false =>
      have hs : since id (e :: history) = e :: since id history := by simp [since, hm]
      have ho : e ≠ .opened id := by
        rintro rfl
        simp [Event.makes] at hm
      rw [hs, List.foldr_cons, List.forall_mem_cons, List.mem_cons]
      cases hr : e.retires with
      | true => simp [Event.current_of_retires hr hm]
      | false => simp [Event.current_of_not_retires hr, ih, ho.symm]

/-! ## The current game is parked, or out with the innermost request -/

/-- Where the current game is. Unlike the refinement of the lifecycle by the cell, this needs no
bound on the generation: whatever the numbers say, the current game never leaves these places. -/
def Anchored (s : Machine × Control) : Prop :=
  ∀ id, s.1.current = some id →
    s.1.cell.slot = some id ∨
      s.1.cell.slot = none ∧ (outings s).head? = some (id, s.1.cell.generation)

theorem anchored_initial (exported : List String) : Anchored (Machine.initial exported, .host) :=
  nofun

section Anchored

variable {s t : Machine × Control}

theorem Anchored.same (h : Anchored s) (hcur : t.1.current = s.1.current)
    (hc : t.1.cell = s.1.cell) (ho : outings t = outings s) : Anchored t := by
  unfold Anchored
  rw [hcur, hc, ho]
  exact h

theorem Anchored.cleared (hcur : t.1.current = none) : Anchored t := by
  intro id hid
  rw [hcur] at hid
  cases hid

theorem Anchored.parked {id : GameId} (hcur : t.1.current = some id)
    (hs : t.1.cell.slot = some id) : Anchored t := by
  intro id' hid
  left
  rw [hs, ← hcur, hid]

/-- The innermost request ends. If it has the current game out, the game goes back; otherwise the
current game is parked, and the request keeps its hands off. -/
theorem Anchored.ended (h : Anchored s) {r : HostRequest} {id : GameId} {generation : UInt64}
    {rest : List Task} (hk : tasks s = .running r id generation :: rest)
    (hcur : t.1.current = s.1.current)
    (hc : t.1.cell = (s.1.cell.putBack id generation).2) : Anchored t := by
  have ho : (outings s).head? = some (id, generation) := by
    rw [outings_eq, hk]
    rfl
  intro id' hid
  left
  rw [hc]
  rcases h id' (hcur ▸ hid) with hs | ⟨hs, hhead⟩
  · simp [Cell.putBack, hs]
  · rw [ho] at hhead
    obtain ⟨rfl, rfl⟩ := Prod.mk.inj (Option.some.inj hhead)
    simp [Cell.putBack, hs]

theorem anchored_turn (h : Turn s t) (ha : Anchored s) : Anchored t := by
  cases h with
  | idle new hn hh hcur hc hg hk => exact ha.same hcur hc (by rw [outings_eq, hk, outings_eq])
  | wrote id w hh hcur hc hg hk => exact ha.same hcur hc (by rw [outings_eq, hk, outings_eq])
  | turnedAway e result new hr hn hh hcur hc hg hk =>
    exact ha.same hcur hc (by rw [outings_eq, hk, outings_eq])
  | stoppedEmpty new hn hs hh hcur => exact .cleared hcur
  | stopped id hs hh hcur => exact .cleared hcur
  | started exports new hn hh hcur hc hg hk =>
    exact ha.same hcur hc (by rw [outings_eq, hk, outings_eq]; rfl)
  | taken r id new hn hs hh hcur hc hg hk =>
    intro id' hid
    right
    rcases ha id' (hcur ▸ hid) with hs' | ⟨hs', -⟩
    · obtain rfl := Option.some.inj (hs.symm.trans hs')
      rw [hc, outings_eq, hk, Cell.checkOut, hs]
      exact ⟨rfl, rfl⟩
    · rw [hs] at hs'
      cases hs'
  | parked exports config rest hs hk hh hcur hc => exact .parked hcur (congrArg Cell.slot hc)
  | replaced exports config old rest hs hk hh hcur hc =>
    exact .parked hcur (congrArg Cell.slot hc)
  | kept r id g accepted res rest hs hk hi he hh hcur hc => exact ha.ended hk hcur hc
  | retired r id generation g accepted res rest hs hk hi he hh hcur hc =>
    exact ha.ended hk hcur hc
  | closed id result rest hk hh hcur hc hg hk' =>
    exact ha.same hcur hc (by rw [outings_eq, hk', outings_eq, hk]; rfl)

end Anchored

/-! ## Tables that are owed -/

/-- An element of a list, with what follows it, is new or stood there before. -/
theorem suffix_append_cons {α : Type} {a : α} {l new old : List α} (h : a :: l <:+ new ++ old) :
    a ∈ new ∨ a :: l <:+ old := by
  induction new with
  | nil => exact Or.inr h
  | cons b new ih =>
    rcases List.suffix_cons_iff.mp h with he | hs
    · rw [(List.cons.inj he).1]
      exact Or.inl List.mem_cons_self
    · exact (ih hs).imp_left (List.mem_cons_of_mem _)

/-- Work that owes the table of game `id` began before the game was made, and so did all work
around it. -/
def Owing (s : Machine × Control) : Prop :=
  ∀ old id outer, .closing old (.table (some id)) :: outer <:+ tasks s →
    .opened id ∈ s.1.history ∧ id < s.1.games.length ∧
      ∀ task ∈ .closing old (.table (some id)) :: outer, ∀ g, task.work.game? = some g → g < id

theorem owing_initial (exported : List String) : Owing (Machine.initial exported, .host) := by
  intro old id outer h
  cases List.suffix_nil.mp h

theorem mem_ledger_of_task {s : Machine × Control} {task : Task} {g : GameId}
    (ht : task ∈ tasks s) (hg : task.work.game? = some g) : g ∈ ledger s := by
  have hp : g ∈ (pending s).filterMap Work.game? := by
    rw [pending_eq, List.filterMap_map]
    exact List.mem_filterMap.mpr ⟨task, ht, hg⟩
  exact List.mem_append_right _ (List.mem_append_left _ hp)

section Owing

variable {s t : Machine × Control}

/-- The innermost work changes, and owes no table. -/
theorem Owing.keep (h : Owing s) (ht : Turn s t) (gone new : List Task) {rest : List Task}
    (hs : tasks s = gone ++ rest) (hk : tasks t = new ++ rest)
    (hl : ∀ task ∈ new, task.work.owesTable = false) : Owing t := by
  intro old id outer hsuf
  rw [hk] at hsuf
  rcases suffix_append_cons hsuf with hm | hsuf
  · cases hl _ hm
  · obtain ⟨ho, hlt, hout⟩ := h old id outer (hs ▸ hsuf.trans (List.suffix_append ..))
    exact ⟨(turn_history ht).subset ho, Nat.lt_of_lt_of_le hlt (turn_games ht), hout⟩

theorem owing_turn (h : Turn s t) (hb : Balanced s) (ho : Owing s) : Owing t := by
  have hturn := h
  cases h with
  | idle new hn hh hcur hc hg hk => exact ho.keep hturn [] [] rfl hk (by simp)
  | wrote id w hh hcur hc hg hk => exact ho.keep hturn [] [] rfl hk (by simp)
  | turnedAway e result new hr hn hh hcur hc hg hk =>
    exact ho.keep hturn [] [] rfl hk (by simp)
  | stoppedEmpty new hn hs hh hcur hc hg hk => exact ho.keep hturn [] [] rfl hk (by simp)
  | stopped id hs hh hcur hc hg hk =>
    exact ho.keep hturn [] [_] rfl hk (List.forall_mem_singleton.mpr rfl)
  | started exports new hn hh hcur hc hg hk =>
    exact ho.keep hturn [] [_] rfl hk (List.forall_mem_singleton.mpr rfl)
  | taken r id new hn hs hh hcur hc hg hk =>
    exact ho.keep hturn [] [_] rfl hk (List.forall_mem_singleton.mpr rfl)
  | parked exports config rest hs hk hh hcur hc hg hk' =>
    exact ho.keep hturn [_] [] hk hk' (by simp)
  | replaced exports config old rest hs hk hh hcur hc hg hk' =>
    intro old' id outer hsuf
    rw [hk'] at hsuf
    rcases List.suffix_cons_iff.mp hsuf with he | hsuf
    · obtain ⟨hhead, rfl⟩ := List.cons.inj he
      cases hhead
      refine ⟨?_, by rw [hg]; simp, ?_⟩
      · rw [hh]
        exact List.mem_cons_of_mem _ (List.mem_append_right _ List.mem_cons_self)
      · intro task htask g hgame
        rcases List.mem_cons.mp htask with rfl | hrest
        · obtain rfl := Option.some.inj hgame
          exact hb.lt_of_mem (by simp [ledger, hs])
        · exact hb.lt_of_mem (mem_ledger_of_task (hk ▸ List.mem_cons_of_mem _ hrest) hgame)
    · obtain ⟨hopen, hlt, hout⟩ := ho old' id outer (hk ▸ hsuf.trans (List.suffix_cons ..))
      exact ⟨(turn_history hturn).subset hopen, Nat.lt_of_lt_of_le hlt (turn_games hturn), hout⟩
  | kept r id g accepted res rest hs hk hi he hh hcur hc hg hk' =>
    exact ho.keep hturn [_] [] hk hk' (by simp)
  | retired r id generation g accepted res rest hs hk hi he hh hcur hc hg hk' =>
    refine ho.keep hturn [_] [_] hk hk' ?_
    exact List.forall_mem_singleton.mpr (isTable_result r accepted)
  | closed id result rest hk hh hcur hc hg hk' =>
    exact ho.keep hturn [_] [] hk hk' (by simp)

end Owing

/-! ## Tables that were returned -/

/-- What is so when the table of game `id` is returned after `earlier`. -/
structure Vouched (id : GameId) (earlier : List Event) : Prop where
  made : .opened id ∈ earlier
  alive : (∀ e ∈ since id earlier, e.retires = false) → .closed id ∉ earlier
  unretired : earlier.countP Event.isLifecycle < UInt64.size → .closed id ∉ earlier →
    ∀ e ∈ since id earlier, e.retires = false

theorem mem_shutDown {m : Machine} {id : GameId} : id ∈ m.shutDown ↔ .closed id ∈ m.history := by
  constructor
  · intro h
    obtain ⟨e, he, hc⟩ := List.mem_filterMap.mp h
    cases e with
    | closed id' =>
      obtain rfl := Option.some.inj hc
      exact he
    | _ => cases hc
  · intro h
    exact List.mem_filterMap.mpr ⟨_, h, rfl⟩

/-- A game that is parked or under way is not shut down. -/
theorem Balanced.not_shutDown {s : Machine × Control} (h : Balanced s) {id : GameId}
    (hi : id ∈ s.1.cell.slot.toList ++ (pending s).filterMap Work.game?) : id ∉ s.1.shutDown := by
  intro hd
  have hn := h.nodup
  rw [ledger, ← List.append_assoc] at hn
  exact (List.nodup_append.mp hn).2.2 id hi id hd rfl

theorem Anchored.not_shutDown {s : Machine × Control} (h : Anchored s) (hb : Balanced s)
    {id : GameId} (hc : s.1.current = some id) : id ∉ s.1.shutDown := by
  refine hb.not_shutDown (List.mem_append.mpr ?_)
  rcases h id hc with hs | ⟨-, ho⟩
  · left
    simp [hs]
  · right
    obtain ⟨w, hw, hout⟩ := List.mem_filterMap.mp (List.mem_of_mem_head? ho)
    refine List.mem_filterMap.mpr ⟨w, hw, ?_⟩
    cases w with
    | running id' generation => exact congrArg (Option.map Prod.fst) hout
    | _ => cases hout

/-- When a table is returned, the work still under way is older than its game, so the game is
parked if it is not shut down. -/
theorem vouched_of_returned {t : Machine × Control} (ht : Sound t) (ha : Anchored t)
    {id : GameId} {earlier : List Event}
    (hh : t.1.history = .returned (.table (some id)) :: earlier) (ho : .opened id ∈ earlier)
    (hlt : id < t.1.games.length)
    (hk : ∀ task ∈ tasks t, ∀ g, task.work.game? = some g → g < id) : Vouched id earlier := by
  have hcur : t.1.current = earlier.foldr Event.current none := by
    rw [Machine.current, hh]
    rfl
  have hclosed : id ∈ t.1.shutDown ↔ .closed id ∈ earlier := by
    rw [mem_shutDown, hh]
    simp
  refine ⟨ho, fun hs => ?_, fun hf hn => ?_⟩
  · have hc := (current_eq_some_iff id earlier).mpr ⟨ho, hs⟩
    rw [← hclosed]
    exact ha.not_shutDown ht.balanced (hcur.trans hc)
  · have hslot : t.1.cell.slot = some id := by
      have hm : id ∈ ledger t := ht.balanced.places.mem_iff.mpr (List.mem_range.mpr hlt)
      rw [ledger, List.mem_append, List.mem_append] at hm
      rcases hm with hm | hm | hm
      · exact Option.mem_toList.mp hm
      · rw [pending_eq, List.filterMap_map] at hm
        obtain ⟨task, htask, hg⟩ := List.mem_filterMap.mp hm
        exact absurd (hk task htask id hg) (Nat.lt_irrefl id)
      · exact absurd (hclosed.mp hm) hn
    have he : t.1.entries < UInt64.size := by
      rw [Machine.entries, hh]
      exact hf
    have hc := (ht.follows.tracks he).parked id hslot
    exact ((current_eq_some_iff id earlier).mp (hcur.symm.trans hc)).2

/-- Every table returned so far is vouched for. -/
def AllVouched (history : List Event) : Prop :=
  ∀ id earlier, .returned (.table (some id)) :: earlier <:+ history → Vouched id earlier

theorem AllVouched.append {history : List Event} (h : AllVouched history) {new : List Event}
    (hn : ∀ e ∈ new, e.isOpening = false) : AllVouched (new ++ history) := by
  intro id earlier hs
  rcases suffix_append_cons hs with hm | hs
  · cases hn _ hm
  · exact h id earlier hs

theorem AllVouched.cons {history : List Event} (h : AllVouched history) {e : Event}
    (he : e.isOpening = false) : AllVouched (e :: history) :=
  h.append (List.forall_mem_singleton.mpr he)

theorem AllVouched.returned {history : List Event} {id : GameId} (h : AllVouched history)
    (hv : Vouched id history) : AllVouched (.returned (.table (some id)) :: history) := by
  intro id' earlier hs
  rcases List.suffix_cons_iff.mp hs with he | hs
  · cases he
    exact hv
  · exact h id' earlier hs

theorem isIdle_not_opening {e : Event} (h : e.IsIdle) : e.isOpening = false := by
  cases e with
  | returned => exact h.elim
  | _ => rfl

theorem stored_not_opening {exports : Exports Bool} {field : ExportField} {value : Int}
    {e : Event} (h : e ∈ exports.stored field value) : e.isOpening = false := by
  unfold Exports.stored at h
  split at h
  · rw [List.mem_singleton.mp h]
    rfl
  · cases h

theorem AllVouched.told {history : List Event} (h : AllVouched history) (exports : Exports Bool)
    (info : ExportInfo) : AllVouched (exports.told info ++ history) := by
  simp only [Exports.told, List.append_assoc]
  have hs {history : List Event} (h : AllVouched history) (field : ExportField) (value : Int) :
      AllVouched (exports.stored field value ++ history) := h.append fun _ => stored_not_opening
  exact hs (hs (hs (hs h _ _) _ _) _ _) _ _

theorem allVouched_turn {s t : Machine × Control} (h : Turn s t) (hs : Sound s) (ht : Sound t)
    (ha : Anchored t) (ho : Owing s) (hv : AllVouched s.1.history) : AllVouched t.1.history := by
  have announced (r : HostRequest) (res : Resident) (g : Game) :
      AllVouched (res.announced r g ++ s.1.history) := by
    unfold Resident.announced
    split
    · exact hv.append fun _ => stored_not_opening
    · exact hv
  cases h with
  | idle new hn hh => exact hh ▸ hv.append fun e he => isIdle_not_opening (hn e he)
  | wrote id w hh => exact hh ▸ hv
  | turnedAway e result new hr hn hh =>
    rw [hh]
    exact ((hv.cons rfl).append fun e he => isIdle_not_opening (hn e he)).cons hr
  | stoppedEmpty new hn _ hh =>
    rw [hh]
    exact ((hv.cons rfl).append fun e he => isIdle_not_opening (hn e he)).cons rfl
  | stopped id _ hh => exact hh ▸ hv.cons rfl
  | started exports new hn hh =>
    rw [hh]
    exact (hv.cons rfl).append fun e he => isIdle_not_opening (hn e he)
  | taken r id new hn _ hh =>
    rw [hh]
    exact (hv.cons rfl).append fun e he => isIdle_not_opening (hn e he)
  | parked exports config rest _ hk hh hcur hc hg hk' =>
    have hvouched := vouched_of_returned ht ha hh
      (List.mem_append_right _ List.mem_cons_self) (by simp [hg]) fun task htask g hgame =>
        hs.balanced.lt_of_mem
          (mem_ledger_of_task (hk ▸ List.mem_cons_of_mem _ (hk' ▸ htask)) hgame)
    rw [hh]
    exact ((hv.cons rfl).told _ _).returned hvouched
  | replaced exports config old rest _ hk hh =>
    rw [hh]
    exact ((hv.cons rfl).told _ _).cons rfl
  | kept r id g accepted res rest _ hk hi he hh =>
    rw [hh]
    exact (announced r res g).cons (isTable_result r accepted)
  | retired r id generation g accepted res rest _ hk hi he hh => exact hh ▸ announced r res g
  | closed old result rest hk hh hcur hc hg hk' =>
    have hclosed : AllVouched (.closed old :: s.1.history) := hv.cons rfl
    by_cases hr : result.isTable = true
    · obtain ⟨id, rfl⟩ : ∃ id, result = .table (some id) := by
        unfold EntryResult.isTable at hr
        split at hr
        · exact ⟨_, rfl⟩
        · cases hr
      -- all work inside the shutdown is over, so what is left is older than the game
      obtain ⟨hopen, hlt, hout⟩ := ho old id rest (hk ▸ List.suffix_rfl)
      have hvouched := vouched_of_returned ht ha hh (List.mem_cons_of_mem _ hopen)
        (hg ▸ hlt) fun task htask => hout task (List.mem_cons_of_mem _ (hk' ▸ htask))
      exact hh ▸ hclosed.returned hvouched
    · exact hh ▸ hclosed.cons (Bool.eq_false_iff.mpr hr)

/-- What a run keeps account of. -/
structure Accounted (s : Machine × Control) : Prop where
  anchored : Anchored s
  owing : Owing s
  vouched : AllVouched s.1.history

theorem accounted_turn {s t : Machine × Control} (h : Turn s t) (hs : Sound s) (ht : Sound t)
    (ha : Accounted s) : Accounted t where
  anchored := anchored_turn h ha.anchored
  owing := owing_turn h hs.balanced ha.owing
  vouched := allVouched_turn h hs ht (anchored_turn h ha.anchored) ha.owing ha.vouched

theorem accounted_run {exported : List String} {moves : List Move} {m : Machine}
    (h : (Machine.initial exported).run moves = some m) : Accounted (m, .host) :=
  run_keeps_turn accounted_turn h
    ⟨anchored_initial exported, owing_initial exported, fun _ _ h => nomatch List.suffix_nil.mp h⟩

/-- The game of a returned table is alive exactly if nothing retired it since it was made. When an
opening gives a table back, in any nesting of calls, the game was made before. If no shutdown was
begun and no other game was parked since, the game is not shut down. If one was, the game is shut
down by now, as long as the openings and shutdowns begun fit in 64 bits. -/
theorem returned_table_alive (exported : List String) (moves : List Move) (m : Machine)
    (h : (Machine.initial exported).run moves = some m) (later earlier : List Event) (id : GameId)
    (hh : m.history = later ++ .returned (.table (some id)) :: earlier) :
    .opened id ∈ earlier ∧
    ((∀ e ∈ since id earlier, e.retires = false) → .closed id ∉ earlier) ∧
    (earlier.countP Event.isLifecycle < UInt64.size → .closed id ∉ earlier →
      ∀ e ∈ since id earlier, e.retires = false) := by
  obtain ⟨hmade, halive, hunretired⟩ := (accounted_run h).vouched id earlier ⟨later, hh.symm⟩
  exact ⟨hmade, halive, hunretired⟩

/-- The game of the table an event gives back. -/
def Event.table? : Event → Option GameId
  | .returned (.table id) => id
  | _ => none

theorem eq_returned_cons {history : List Event} {id : GameId}
    (h : history.head?.bind Event.table? = some id) :
    history = .returned (.table (some id)) :: history.tail := by
  obtain ⟨e, he, ht⟩ := Option.bind_eq_some_iff.mp h
  obtain rfl : e = .returned (.table (some id)) := by
    unfold Event.table? at ht
    split at ht
    · rw [ht]
    · cases ht
  obtain ⟨tail, rfl⟩ := List.head?_eq_some_iff.mp he
  rfl

/-- A second game is opened while the first one is parked, which takes its leave with a line. The
host answers the line after `inside`. -/
def replacement (inside : List Move) : List Move :=
  let reply : Move := .answer obligingHost
  let opening : List Move := [.enter (.start (.all true)), reply, reply, reply, reply]
  opening ++ opening ++ inside ++ [reply]

/-- The host runs a frame of the second game inside the last line of the first one. -/
theorem returned_table_alive_framed :
    ∃ m, (Machine.initial symbols).run
        (replacement [.enter (.request .runFrame), .answer obligingHost]) = some m ∧
      m.history = .returned (.table (some 1)) :: m.history.tail ∧
      (∀ e ∈ since 1 m.history.tail, e.retires = false) ∧ .closed 1 ∉ m.history.tail := by
  have hr : ((Machine.initial symbols).run
      (replacement [.enter (.request .runFrame), .answer obligingHost])).any fun m =>
        m.history.head?.bind Event.table? = some 1 ∧
          ∀ e ∈ since 1 m.history.tail, e.retires = false := by decide +kernel
  obtain ⟨m, hm, he⟩ := (Option.any_eq_true _ _).mp hr
  obtain ⟨hhead, hs⟩ := of_decide_eq_true he
  have hh := eq_returned_cons hhead
  exact ⟨m, hm, hh, hs, (returned_table_alive _ _ m hm [] m.history.tail 1 hh).2.1 hs⟩

/-- The host shuts the module down inside the last line of the first game. The second game is gone
when its table is returned. -/
theorem returned_table_of_closed_game :
    ∃ m earlier, (Machine.initial symbols).run
        (replacement [.enter .stop, .answer obligingHost]) = some m ∧
      m.history = .returned (.table (some 1)) :: earlier ∧ .closed 1 ∈ earlier := by
  have hr : ((Machine.initial symbols).run
      (replacement [.enter .stop, .answer obligingHost])).any fun m =>
        m.history.head?.bind Event.table? = some 1 ∧ 1 ∈ m.shutDown := by decide +kernel
  obtain ⟨m, hm, he⟩ := (Option.any_eq_true _ _).mp hr
  obtain ⟨hhead, hd⟩ := of_decide_eq_true he
  have hh := eq_returned_cons hhead
  have hc := mem_shutDown.mp hd
  rw [hh] at hc
  exact ⟨m, m.history.tail, hm, hh, (List.mem_cons.mp hc).resolve_left nofun⟩

end GameModule
