import GameModule.Proofs.Game.Shape

/-!
# Which handles stand for clients

A handle is only an address. It is taken for an entry of a table if it lies a whole number of
strides behind the base, and looked up in the table after that. With the base not null and the end
of the table within 64 bits, the addresses that resolve are those of the entries, one for each, and
the client slots are the edicts behind the world that are linked to a client in a fresh table.
-/
namespace GameModule

/-! ## Entries of a table -/

namespace Address

variable {base a : Address} {size n : Nat}

/-- A table of `n` entries can start here: not at null, and it ends within 64 bits. -/
structure Holds (base : Address) (size n : Nat) : Prop where
  ne_null : base ≠ .null
  fits : base.bits.toNat + size * n ≤ UInt64.size

theorem eq_of_toNat {a b : Address} (h : a.bits.toNat = b.bits.toNat) : a = b := by
  cases a
  cases b
  exact congrArg Address.mk (UInt64.toNat_inj.mp h)

theorem ne_null_iff : a ≠ .null ↔ 0 < a.bits.toNat := by
  constructor
  · intro h
    refine Nat.pos_of_ne_zero fun h₀ => h (eq_of_toNat ?_)
    exact h₀
  · rintro h rfl
    exact absurd h (by decide)

theorem toNat_entry (h : base.bits.toNat + size * n < UInt64.size) :
    (base.entry size n).bits.toNat = base.bits.toNat + size * n := by
  have hn : size * n < UInt64.size := Nat.lt_of_le_of_lt (Nat.le_add_left ..) h
  rw [entry, UInt64.toNat_add, UInt64.toNat_ofNat', Nat.mod_eq_of_lt hn, Nat.mod_eq_of_lt h]

/-- An address that resolves is that many strides behind the base. -/
theorem toNat_of_index? (h : base.index? size a = some n) :
    a.bits.toNat = base.bits.toNat + size * n := by
  unfold index? at h
  split at h
  · cases h
  · split at h
    · cases h
    · rename_i hlt
      have hle : base.bits.toNat ≤ a.bits.toNat := by
        rw [UInt64.lt_iff_toNat_lt] at hlt
        omega
      simp only at h
      split at h
      · rename_i hm
        obtain rfl := Option.some.inj h
        have hd := Nat.mul_div_cancel' (Nat.dvd_of_mod_eq_zero hm)
        omega
      · cases h

theorem eq_entry_of_index? (h : base.index? size a = some n) : a = base.entry size n := by
  have ha := toNat_of_index? h
  have hlt := a.bits.toNat_lt
  refine eq_of_toNat ?_
  rw [toNat_entry (ha ▸ hlt), ha]

theorem index?_of_toNat (hb : base ≠ .null) (hs : 0 < size)
    (h : a.bits.toNat = base.bits.toNat + size * n) : base.index? size a = some n := by
  have hb₀ := ne_null_iff.mp hb
  have ha : a ≠ .null := ne_null_iff.mpr (by omega)
  have hg : (a.isNull || base.isNull || decide (size = 0)) = false := by
    simp [isNull, ha, hb, Nat.ne_of_gt hs]
  have hle : ¬ a.bits < base.bits := by
    rw [UInt64.lt_iff_toNat_lt]
    omega
  have ho : a.bits.toNat - base.bits.toNat = size * n := by omega
  rw [index?, hg]
  simp only [Bool.false_eq_true, ↓reduceIte, if_neg hle, ho, Nat.mul_mod_right,
    Nat.mul_div_cancel_left n hs]

theorem index?_eq_some_iff (hb : base ≠ .null) (hs : 0 < size) :
    base.index? size a = some n ↔ a.bits.toNat = base.bits.toNat + size * n :=
  ⟨toNat_of_index?, index?_of_toNat hb hs⟩

theorem index?_entry (hb : base ≠ .null) (hs : 0 < size)
    (h : base.bits.toNat + size * n < UInt64.size) :
    base.index? size (base.entry size n) = some n :=
  index?_of_toNat hb hs (toNat_entry h)

theorem Holds.toNat_entry {len : Nat} (h : base.Holds size len) (hs : 0 < size) (hn : n < len) :
    (base.entry size n).bits.toNat = base.bits.toNat + size * n := by
  have hf := h.fits
  have hm := (Nat.mul_lt_mul_left hs).mpr hn
  exact Address.toNat_entry (by omega)

end Address

/-! ## Edicts and client slots -/

namespace Game

variable {config : Config} {place : Placement} {g : Game} {ent : Address} {n k : Nat}

theorem stride_eq : Edict.stride = 280 := by decide +kernel

theorem stride_pos : 0 < Edict.stride := by
  rw [stride_eq]
  decide

theorem clientStride_pos : 0 < clientStride := by decide +kernel

theorem index?_eq_some_iff (hb : g.place.edicts ≠ .null) :
    g.index? ent = some n ↔
      n < g.edicts.length ∧ ent.bits.toNat = g.place.edicts.bits.toNat + Edict.stride * n := by
  rw [index?, Option.filter_eq_some_iff, Address.index?_eq_some_iff hb stride_pos,
    decide_eq_true_iff]
  exact And.comm

theorem clientSlot_eq_ok_iff :
    g.clientSlot ent = .ok k ↔ k < g.sessions.length ∧ g.index? ent = some (k + 1) := by
  constructor
  · intro h
    exact ⟨clientSlot_lt h, (index?_of_clientSlot h).1⟩
  · rintro ⟨hk, hi⟩
    have hs : g.sessions.slotOfEdict? (k + 1) = some k := if_pos hk
    rw [clientSlot, hi, Option.bind_some, hs]

theorem clientSlot_eq_unknown (h : ∀ k, g.clientSlot ent ≠ .ok k) :
    g.clientSlot ent = .error .unknownClient := by
  unfold clientSlot at h ⊢
  split
  · rename_i slot hs
    rw [hs] at h
    exact absurd rfl (h slot)
  · rfl

/-- Every client edict is inside the table. -/
theorem Shaped.clientSlot_eq_ok_iff (hs : g.Shaped config place) (hf : config.Fits)
    (hb : place.edicts ≠ .null) :
    g.clientSlot ent = .ok k ↔
      k < config.maxClients ∧
        ent.bits.toNat = place.edicts.bits.toNat + Edict.stride * (k + 1) := by
  have hr := hf.room
  rw [Game.clientSlot_eq_ok_iff, index?_eq_some_iff (hs.place_eq ▸ hb), hs.sessions, hs.edicts,
    hs.place_eq]
  constructor
  · rintro ⟨hk, -, ha⟩
    exact ⟨hk, ha⟩
  · rintro ⟨hk, ha⟩
    exact ⟨hk, by omega, ha⟩

theorem Shaped.clientSlot_handle_iff (hs : g.Shaped config place) (hf : config.Fits)
    (ht : place.edicts.Holds Edict.stride config.maxEntities) (hn : n < config.maxEntities) :
    g.clientSlot (g.handle n) = .ok k ↔ k < config.maxClients ∧ n = k + 1 := by
  rw [hs.clientSlot_eq_ok_iff hf ht.ne_null, handle, hs.edicts, if_pos hn, hs.place_eq,
    ht.toNat_entry stride_pos hn, Nat.add_left_cancel_iff,
    Nat.mul_right_inj (Nat.ne_of_gt stride_pos)]

/-! ## Fresh tables -/

theorem Shaped.freshEdict_of_reset (hs : g.Shaped config place) {e : Edict}
    (h : g.resetTables.edicts[n]? = some e) :
    n < config.maxEntities ∧ e = freshEdict config place n := by
  rw [hs.resetTables_eq] at h
  change (freshEdicts config place)[n]? = some e at h
  rw [freshEdicts, List.getElem?_map] at h
  obtain ⟨i, hi, rfl⟩ := Option.map_eq_some_iff.mp h
  obtain ⟨hlt, rfl⟩ := List.getElem?_eq_some_iff.mp hi
  rw [List.length_range] at hlt
  rw [List.getElem_range]
  exact ⟨hlt, rfl⟩

theorem Shaped.freshClient_of_reset (hs : g.Shaped config place) (hk : k < config.maxClients) :
    g.resetTables.clients[k]? = some (freshClient k) := by
  rw [hs.resetTables_eq]
  change (freshClients config)[k]? = _
  rw [freshClients, List.getElem?_map, List.getElem?_range hk]
  rfl

theorem freshEdict_client_ne_null_iff
    (ht : place.clients.Holds clientStride config.maxClients) :
    (freshEdict config place n).client ≠ .null ↔ 1 ≤ n ∧ n ≤ config.maxClients := by
  change (if 1 ≤ n ∧ n ≤ config.maxClients then clientAddress place (n - 1) else .null) ≠ _ ↔ _
  by_cases hn : 1 ≤ n ∧ n ≤ config.maxClients
  · have hc := Address.ne_null_iff.mp ht.ne_null
    have ha := ht.toNat_entry clientStride_pos (show n - 1 < config.maxClients by omega)
    rw [if_pos hn, Address.ne_null_iff, clientAddress, ha]
    exact ⟨fun _ => hn, fun _ => by omega⟩
  · rw [if_neg hn]
    exact ⟨fun h => absurd rfl h, fun h => absurd h hn⟩

/-- The client edict of a slot is linked to the client of the slot. -/
theorem freshEdict_client (hk : k < config.maxClients) :
    (freshEdict config place (k + 1)).client = clientAddress place k :=
  if_pos ⟨by omega, by omega⟩

theorem freshClient_number (hf : config.Fits) (hk : k < config.maxClients) :
    (freshClient k).number.toInt = k := by
  have hc := hf.clients
  have hl : Limits.clients = 256 := rfl
  change (Int32.ofNat k).toInt = k
  exact Int32.toInt_ofNat_of_lt (by omega)

theorem Shaped.clientOf?_reset (hs : g.Shaped config place)
    (ht : place.clients.Holds clientStride config.maxClients) (hk : k < config.maxClients) :
    g.resetTables.clientOf? (freshEdict config place (k + 1)) = some (freshClient k) := by
  have hi : place.clients.index? clientStride (clientAddress place k) = some k :=
    Address.index?_of_toNat ht.ne_null clientStride_pos (ht.toNat_entry clientStride_pos hk)
  rw [clientOf?, freshEdict_client hk, hs.resetTables.place_eq, hi, Option.bind_some,
    hs.freshClient_of_reset hk]

end Game

/-- Handles resolve to exactly the client slots. Take any game that can come about, with its edict
table at an address that holds it. An address stands for edict `n` if and only if it is that of the
edict and the edict is in the table, and for client slot `k` if and only if it is that of edict
`k + 1` and there is such a slot; every other address stands for none. No two addresses stand for
the same edict or slot. In fresh tables, with the clients also at an address that holds them, the
edicts that stand for a slot are those that are linked to a client, and the link leads to the client
with the number of the slot. In any table that is not at null, with entries of any size, the address
of an entry resolves to that entry, and no other address does. -/
theorem handles_resolve_to_slots (reply : (c : HostCall Text.Bytes) → c.Reply) (place : Placement)
    (log : List (GameRequest × Bool)) (g : Game)
    (h : Plays (Config.answered reply) place log g)
    (ht : place.edicts.Holds 280 g.edicts.length) :
    (∀ ent n, g.index? ent = some n ↔
      n < g.edicts.length ∧ ent.bits.toNat = place.edicts.bits.toNat + 280 * n) ∧
    (∀ ent, (∀ n < g.edicts.length, ent.bits.toNat ≠ place.edicts.bits.toNat + 280 * n) →
      g.index? ent = none) ∧
    (∀ ent k, g.clientSlot ent = .ok k ↔
      k < g.config.maxClients ∧ ent.bits.toNat = place.edicts.bits.toNat + 280 * (k + 1)) ∧
    (∀ ent, (∀ k < g.config.maxClients,
        ent.bits.toNat ≠ place.edicts.bits.toNat + 280 * (k + 1)) →
      g.clientSlot ent = .error .unknownClient) ∧
    (∀ ent ent' n, g.index? ent = some n → g.index? ent' = some n → ent = ent') ∧
    (∀ ent ent' k, g.clientSlot ent = .ok k → g.clientSlot ent' = .ok k → ent = ent') ∧
    (place.clients.Holds Game.clientStride g.clients.length →
      ∀ n e, g.resetTables.edicts[n]? = some e →
      ((∃ k, g.resetTables.clientSlot (g.resetTables.handle n) = .ok k) ↔ e.client ≠ .null) ∧
      ∀ k, g.resetTables.clientSlot (g.resetTables.handle n) = .ok k →
        e.client = Game.clientAddress place k ∧
        ∃ c, g.resetTables.clients[k]? = some c ∧ g.resetTables.clientOf? e = some c ∧
          c.number.toInt = k) ∧
    (∀ (base : Address) (size n : Nat), base ≠ .null → 0 < size →
      base.bits.toNat + size * n < UInt64.size →
      base.index? size (base.entry size n) = some n) ∧
    ∀ (base : Address) (size n : Nat) (a : Address), base.index? size a = some n →
      a = base.entry size n := by
  have hs := plays_shaped h
  have hf : (Config.answered reply).Fits := by
    rw [Config.answered_eq]
    exact Config.fits_clamped ..
  rw [hs.edicts, ← Game.stride_eq] at ht
  have hindex : ∀ ent n, g.index? ent = some n ↔
      n < g.edicts.length ∧ ent.bits.toNat = place.edicts.bits.toNat + 280 * n := by
    intro ent n
    rw [Game.index?_eq_some_iff (hs.place_eq ▸ ht.ne_null), hs.place_eq, Game.stride_eq]
  have hslot : ∀ ent k, g.clientSlot ent = .ok k ↔ k < g.config.maxClients ∧
      ent.bits.toNat = place.edicts.bits.toNat + 280 * (k + 1) := by
    intro ent k
    rw [hs.clientSlot_eq_ok_iff hf ht.ne_null, Game.stride_eq, hs.config_eq]
  refine ⟨hindex, ?_, hslot, ?_, ?_, ?_, ?_, ?_, ?_⟩
  · intro ent hne
    refine Option.eq_none_iff_forall_ne_some.mpr fun n hi => ?_
    exact hne n ((hindex ent n).mp hi).1 ((hindex ent n).mp hi).2
  · intro ent hne
    refine Game.clientSlot_eq_unknown fun k hk => ?_
    exact hne k ((hslot ent k).mp hk).1 ((hslot ent k).mp hk).2
  · intro ent ent' n hi hi'
    exact Address.eq_of_toNat (((hindex ent n).mp hi).2.trans ((hindex ent' n).mp hi').2.symm)
  · intro ent ent' k hk hk'
    exact Address.eq_of_toNat (((hslot ent k).mp hk).2.trans ((hslot ent' k).mp hk').2.symm)
  · intro hcl n e he
    rw [hs.clients] at hcl
    obtain ⟨hn, rfl⟩ := hs.freshEdict_of_reset he
    have hfresh (k : Nat) := hs.resetTables.clientSlot_handle_iff (k := k) hf ht hn
    constructor
    · rw [Game.freshEdict_client_ne_null_iff hcl]
      constructor
      · rintro ⟨k, hk⟩
        obtain ⟨hlt, rfl⟩ := (hfresh k).mp hk
        omega
      · rintro ⟨h₁, hle⟩
        exact ⟨n - 1, (hfresh (n - 1)).mpr (by omega)⟩
    · intro k hk
      obtain ⟨hlt, rfl⟩ := (hfresh k).mp hk
      exact ⟨Game.freshEdict_client hlt, Game.freshClient k, hs.freshClient_of_reset hlt,
        hs.clientOf?_reset hcl hlt, Game.freshClient_number hf hlt⟩
  · intro base size n hb hsz hlt
    exact Address.index?_entry hb hsz hlt
  · intro base size n a ha
    exact Address.eq_entry_of_index? ha

theorem handles_resolve_to_slots_solo :
    ∃ g, Plays (Config.answered unreasonableHost) .standard [] g ∧
      Placement.standard.edicts.Holds 280 g.edicts.length ∧
      g.clientSlot ⟨0x10000000118⟩ = .ok 0 ∧
      g.clientSlot ⟨0x10000000119⟩ = .error .unknownClient ∧
      ∀ ent, g.clientSlot ent = .ok 0 → ent = ⟨0x10000000118⟩ := by
  have hpl : Plays (Config.answered unreasonableHost) .standard []
      (Game.create (Config.answered unreasonableHost) .standard) := .opened
  generalize Game.create (Config.answered unreasonableHost) .standard = g at hpl
  have hc : g.config = ⟨1, 2, true⟩ := (plays_shaped hpl).config_eq.trans (by decide +kernel)
  have hp : Placement.standard.edicts.Holds 280 g.edicts.length := by
    rw [(plays_shaped hpl).edicts, ← (plays_shaped hpl).config_eq, hc]
    exact ⟨by decide, by decide⟩
  obtain ⟨-, -, hslot, hnone, -, hinj, -⟩ :=
    handles_resolve_to_slots unreasonableHost .standard [] g hpl hp
  rw [hc] at hslot hnone
  have h₀ := (hslot ⟨0x10000000118⟩ 0).mpr ⟨by decide, by decide⟩
  refine ⟨g, hpl, hp, h₀, hnone _ fun k hlt => ?_, fun ent he => hinj _ _ 0 he h₀⟩
  obtain rfl : k = 0 := by simpa using hlt
  decide

/-- A table at null resolves nothing, not even the address of one of its entries. -/
theorem entry_of_null_unresolved :
    ¬ ∀ (base : Address) (size n : Nat), 0 < size → base.bits.toNat + size * n < UInt64.size →
      base.index? size (base.entry size n) = some n := by
  intro h
  have hn := h .null 280 1 (by decide) (by decide)
  exact absurd hn (by decide)

end GameModule
