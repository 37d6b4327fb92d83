import GameModule.Host.Canned
import GameModule.Host.Recorder

/-!
# Counts from the host

The host reports how many entries of a list it filled, as a 32-bit integer that may be negative or
too large. Slicing a list by such a count would fail past its end; cut to the length of the list it
never does, so the game reads a front part of what is there and no more.
-/
namespace GameModule

open Text (Bytes)

variable {α : Type}

/-- The first `n` entries of a list, which must have that many. -/
def slice? (xs : List α) (n : Nat) : Option (List α) :=
  if n ≤ xs.length then some (xs.take n) else none

theorem slice?_eq_some {xs : List α} {n : Nat} (h : n ≤ xs.length) :
    slice? xs n = some (xs.take n) := if_pos h

/-! ## Rows of a record -/

theorem counted_eq {n : Nat} (row : Vector α n) (count : Int32) :
    counted row count = row.toList.take (within n count) := by
  have hle := within_le n count
  refine List.ext_getElem ?_ fun i hi hi' => ?_
  · rw [counted, List.length_ofFn, List.length_take, Vector.length_toList, Nat.min_eq_left hle]
  · rw [List.getElem_take]
    simp only [counted, List.getElem_ofFn, Vector.getElem_toList]
    rfl

theorem slice?_counted {n : Nat} (row : Vector α n) (count : Int32) :
    slice? row.toList (within n count) = some (counted row count) := by
  rw [slice?_eq_some (by rw [Vector.length_toList]; exact within_le n count), counted_eq]

/-! ## The list of an area query -/

/-- The list as the host leaves it: it was handed over with every slot null. -/
def AreaReply.slots (r : AreaReply) (room : Nat) : List Address :=
  r.stored ++ List.replicate (room - r.stored.length) .null

theorem AreaReply.length_slots {r : AreaReply} {room : Nat} (h : r.stored.length ≤ room) :
    (r.slots room).length = room := by
  rw [slots, List.length_append, List.length_replicate]
  omega

/-- Reading the slots one by one gives the list. -/
theorem AreaReply.map_range_slots {r : AreaReply} {room : Nat} (h : r.stored.length ≤ room) :
    ((List.range room).map fun i => r.stored[i]?.getD .null) = r.slots room := by
  refine List.ext_getElem ?_ fun i hi hi' => ?_
  · rw [List.length_map, List.length_range, length_slots h]
  · rw [List.getElem_map, List.getElem_range]
    by_cases hin : i < r.stored.length
    · rw [List.getElem?_eq_getElem hin]
      exact (List.getElem_append_left hin).symm
    · have hout : r.stored.length ≤ i := Nat.le_of_not_lt hin
      rw [List.getElem?_eq_none hout]
      simp only [slots, List.getElem_append_right hout, List.getElem_replicate, Option.getD_none]

theorem slice?_areaResult {limit : Nat} {r : AreaReply}
    (h : r.stored.length ≤ HostCall.areaRoom limit) :
    slice? (r.slots (HostCall.areaRoom limit)) (within (HostCall.areaRoom limit) r.count) =
      some (HostCall.areaResult limit r) := by
  have hle := within_le (HostCall.areaRoom limit) r.count
  rw [slice?_eq_some (by rwa [AreaReply.length_slots h]), ← AreaReply.map_range_slots h,
    ← List.map_take, List.take_range, Nat.min_eq_left hle]
  rfl

theorem length_areaResult (limit : Nat) (r : AreaReply) :
    (HostCall.areaResult limit r).length ≤ limit := by
  have hle := within_le (HostCall.areaRoom limit) r.count
  have hroom : HostCall.areaRoom limit ≤ limit := Nat.min_le_left _ _
  rw [HostCall.areaResult, List.length_map, List.length_range]
  omega

/-- What the game reads of a list is a front part of it, as long as the count of the host says, a
negative count being none, and never longer than the list: the slots of an area query, null where
the host stored nothing; the edicts of a recorder; the entities a move touched; the clusters of an
edict. -/
theorem counts_never_widen :
    (∀ (σ : Type) (s : σ) (reply : (c : HostCall Bytes) → c.Reply) (mins maxs : Vec3) (limit : Nat)
      (kind : AreaType) (r : AreaReply),
      reply (.areaEdicts mins maxs (min limit 0x7fffffff) kind) = r →
      r.stored.length ≤ min limit 0x7fffffff →
      ∃ found, (Activity.ask (.areaEdicts mins maxs limit kind) s).converse reply =
          ([.areaEdicts mins maxs (min limit 0x7fffffff) kind], found) ∧
        slice? (r.slots (min limit 0x7fffffff))
          (min (max r.count.toInt 0).toNat (min limit 0x7fffffff)) = some found ∧
        found.length ≤ limit) ∧
    (∀ (r : Recorder) (mins maxs : Vec3) (limit : Nat) (kind : AreaType),
      slice? r.area (min r.area.length limit) =
        some (r.answer (.areaEdicts mins maxs limit kind)).1) ∧
    (∀ m : MoveBlock, slice? m.touch.toList (min (max m.numTouch.toInt 0).toNat 32) =
      some m.touched) ∧
    ∀ e : Edict, slice? e.clusterNumbers.toList (min (max e.numClusters.toInt 0).toNat 16) =
      some e.clusters := by
  refine ⟨?_, ?_, fun m => slice?_counted m.touch m.numTouch,
    fun e => slice?_counted e.clusterNumbers e.numClusters⟩
  · rintro σ s reply mins maxs limit kind r rfl h
    exact ⟨_, rfl, slice?_areaResult h, length_areaResult _ _⟩
  · intro r mins maxs limit kind
    have ha : r.area.take (min r.area.length limit) = r.area.take limit := by
      rw [Nat.min_comm, ← List.take_eq_take_min]
    exact (slice?_eq_some (Nat.min_le_left _ _)).trans (congrArg some ha)

/-- A host that stored one edict and reports a hundred, asked for three. -/
theorem counts_never_widen_overcounted :
    (Activity.ask (.areaEdicts .zero .zero 3 .solid) ()).converse
      (CannedHost.reply ⟨0, 0, 0, .miss, [⟨0x1000⟩], 100, 0, [], 0, none, []⟩) =
        ([.areaEdicts .zero .zero 3 .solid], [⟨0x1000⟩, .null, .null]) := by
  obtain ⟨found, heard, slots, -⟩ := counts_never_widen.1 Unit ()
    (CannedHost.reply ⟨0, 0, 0, .miss, [⟨0x1000⟩], 100, 0, [], 0, none, []⟩) .zero .zero 3 .solid
    ⟨[⟨0x1000⟩], 100⟩ rfl (by decide)
  have hfound : found = [⟨0x1000⟩, .null, .null] := (Option.some.inj slots).symm
  exact hfound ▸ heard

end GameModule
