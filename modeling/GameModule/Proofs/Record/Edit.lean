import GameModule.Proofs.Record.Format
import GameModule.Proofs.Text.Buffer

/-!
# Typed edits of records

A record has setters for some of its fields, and a record embedded in another is edited in place.
`Target` lists the fields that can be set, with the stretch of bytes each one takes. Setting a field
replaces exactly that stretch of the encoding by bytes that depend on the new value alone. The rest
follows from the bytes: encodings lose nothing, so setters of fields that do not overlap commute,
and what a reader finds is the last value set.
-/
namespace GameModule.Record

open Text (Bytes)

/-! ## Fields with setters -/

/-- A field with a typed setter, in a record or in one embedded in it. -/
inductive Target : RecordKind → Type
  | event : Target .entityState
  | moveType : Target .moveState
  | flags : Target .moveState
  | origin : Target .moveState
  | velocity : Target .moveState
  | stat (index : Nat) : Target .playerState
  | move (t : Target .moveState) : Target .playerState
  | player (t : Target .playerState) : Target .client
  | name : Target .surface

namespace Target

/-- What the setter takes. -/
def Value : {k : RecordKind} → Target k → Type
  | _, event => EntityEvent
  | _, moveType => MoveType
  | _, flags => UInt8
  | _, origin => Vec3
  | _, velocity => Vec3
  | _, stat _ => Int16
  | _, move t => t.Value
  | _, player t => t.Value
  | _, name => String

/-- What the reader gives. -/
def View : {k : RecordKind} → Target k → Type
  | _, event => Option EntityEvent
  | _, moveType => Option MoveType
  | _, flags => UInt8
  | _, origin => Vec3
  | _, velocity => Vec3
  | _, stat _ => Int16
  | _, move t => t.View
  | _, player t => t.View
  | _, name => String

/-- The setter; nothing if it refuses. -/
def set : {k : RecordKind} → (t : Target k) → t.Value → k.Carrier → Option k.Carrier
  | _, event, e, s => some (EntityState.setEvent s e)
  | _, moveType, m, s => some (MoveState.setMoveType s m)
  | _, flags, bits, s => some (MoveState.setFlags s bits)
  | _, origin, v, s => some (MoveState.setOrigin s v)
  | _, velocity, v, s => some (MoveState.setVelocity s v)
  | _, stat index, n, s => PlayerState.setStat? s index n
  | _, move t, v, (s : PlayerState) => (t.set v s.move).map fun m => { s with move := m }
  | _, player t, v, (c : Client) => (t.set v c.player).map fun p => { c with player := p }
  | _, name, text, s => some (Surface.setName s text)

/-- The reader that goes with the setter. -/
def get : {k : RecordKind} → (t : Target k) → k.Carrier → t.View
  | _, event, s => EntityState.event? s
  | _, moveType, s => MoveState.moveType? s
  | _, flags, s => MoveState.flags s
  | _, origin, s => MoveState.originCoords s
  | _, velocity, s => MoveState.velocityCoords s
  | _, stat index, s => PlayerState.stat s index
  | _, move t, s => t.get (PlayerState.move s)
  | _, player t, s => t.get (Client.player s)
  | _, name, s => Surface.nameText s

/-- What the reader gives for a stored value: coordinates come back in eighths, and of a name the
first sixteen characters as a reader of narrow text sees them. -/
def shown : {k : RecordKind} → (t : Target k) → t.Value → t.View
  | _, event, e => some e
  | _, moveType, m => some m
  | _, flags, bits => bits
  | _, origin, v => Vec3.ofShort (Vec3.toShort v)
  | _, velocity, v => Vec3.ofShort (Vec3.toShort v)
  | _, stat _, n => n
  | _, move t, v => t.shown v
  | _, player t, v => t.shown v
  | _, name, text => String.ofList ((Text.sent ((String.toList text).take 16)).map Text.fold)

/-- Where the field starts. -/
def offset : {k : RecordKind} → Target k → Nat
  | _, event => 80
  | _, moveType => 0
  | _, origin => 4
  | _, velocity => 10
  | _, flags => 16
  | _, stat index => 120 + 2 * index
  | _, move t => t.offset
  | _, player t => t.offset
  | _, name => 0

/-- How many bytes it takes. -/
def width : {k : RecordKind} → Target k → Nat
  | _, event => 4
  | _, moveType => 4
  | _, origin => 6
  | _, velocity => 6
  | _, flags => 1
  | _, stat _ => 2
  | _, move t => t.width
  | _, player t => t.width
  | _, name => 16

/-- Only a statistic can be missing. -/
def Present : {k : RecordKind} → Target k → Prop
  | _, stat index => index < 32
  | _, move t => t.Present
  | _, player t => t.Present
  | _, _ => True

def Covers {k : RecordKind} (t : Target k) (i : Nat) : Prop :=
  t.offset ≤ i ∧ i < t.offset + t.width

instance {k : RecordKind} (t : Target k) (i : Nat) : Decidable (t.Covers i) :=
  inferInstanceAs (Decidable (_ ∧ _))

/-- The bytes of a stored value. -/
def bytes : {k : RecordKind} → (t : Target k) → t.Value → Bytes
  | _, event, e => stored (cells (Int32.ofInt (Coded.code (α := EntityEvent) e)))
  | _, moveType, m => stored (cells (Int32.ofInt (Coded.code (α := MoveType) m)))
  | _, flags, bits => stored (cells (α := UInt8) bits)
  | _, origin, v => stored (cells (Vec3.toShort v))
  | _, velocity, v => stored (cells (Vec3.toShort v))
  | _, stat _, n => stored (cells (α := Int16) n)
  | _, move t, v => t.bytes v
  | _, player t, v => t.bytes v
  | _, name, text => Text.Buffer.filled 16 ((String.toList text).take 16)

end Target

/-! ## The bytes of a field -/

section Bytes

/-- A field of a record without gaps starts where those in front of it end. -/
theorem Adjacent.offset_eq {α : Type} {a : α} {start : Nat} {front back : List (Part α)}
    {p : Part α} (h : Adjacent a start (front ++ p :: back)) :
    p.offset = start + span (row front a) := by
  induction front generalizing start with
  | nil => exact h.1
  | cons q front ih =>
    have hs : span (row (q :: front) a) = span (q.cells a) + span (row front a) := by
      rw [← length_stored, row, List.flatMap_cons, stored_append, List.length_append,
        length_stored, length_stored]
      rfl
    rw [ih h.2, hs, Nat.add_assoc]

/-- A change inside one field is the same change at the offset of the field, counted from the front
of the record. -/
theorem encode_part {k : RecordKind} (r s : k.Carrier) (front back : List (Part k.Carrier))
    {p : Part k.Carrier} (hp : k.parts = front ++ p :: back) (hf : row front s = row front r)
    (hb : row back s = row back r) {i : Nat} {new : Bytes}
    (hi : i + new.length ≤ span (p.cells r))
    (hn : stored (p.cells s) = splice (stored (p.cells r)) i new) :
    k.codec.encode s = splice (k.codec.encode r) (p.offset + i) new := by
  have he : ∀ r, k.codec.encode r =
      stored (row front r) ++ (stored (p.cells r) ++ stored (row back r)) := by
    intro r
    rw [k.exact_codec.2 r, hp, row, List.flatMap_append, List.flatMap_cons, stored_append,
      stored_append]
    rfl
  have ha : Adjacent r 0 (front ++ p :: back) := hp ▸ k.adjacent_parts r
  have ho : p.offset = (stored (row front r)).length := by
    rw [length_stored, ha.offset_eq, Nat.zero_add]
  rw [he r, he s, hf, hb, hn, ho, splice_append_right, splice_append_left (by rwa [length_stored])]

/-- A whole field is replaced. -/
theorem encode_field {k : RecordKind} (r s : k.Carrier) (front back : List (Part k.Carrier))
    {p : Part k.Carrier} (hp : k.parts = front ++ p :: back) (hf : row front s = row front r)
    (hb : row back s = row back r) (hs : span (p.cells s) = span (p.cells r)) :
    k.codec.encode s = splice (k.codec.encode r) p.offset (stored (p.cells s)) := by
  have hl : (stored (p.cells s)).length = (stored (p.cells r)).length := by
    rw [length_stored, length_stored, hs]
  have hi : 0 + (stored (p.cells s)).length ≤ span (p.cells r) := by
    rw [Nat.zero_add, length_stored, hs]
  exact encode_part r s front back hp hf hb hi (splice_whole hl).symm

/-- A record that stands at the front of another one is edited in place. -/
theorem encode_embedded {k j : RecordKind} (r s : k.Carrier) (a b : j.Carrier)
    (back : List (Part k.Carrier)) {p : Part k.Carrier} (hp : k.parts = p :: back)
    (hb : row back s = row back r) (hr : p.cells r = row j.parts a)
    (hs : p.cells s = row j.parts b) {i : Nat} {new : Bytes} (hi : i + new.length ≤ j.size)
    (hn : j.codec.encode b = splice (j.codec.encode a) i new) :
    k.codec.encode s = splice (k.codec.encode r) i new := by
  obtain ⟨hl, he⟩ := j.exact_codec
  have hw : span (p.cells r) = j.size := by
    rw [hr, ← length_stored, ← he, hl.length_encode, j.codec_size]
  have hin : stored (p.cells s) = splice (stored (p.cells r)) i new := by
    rw [hr, hs, ← he, ← he, hn]
  have ha : Adjacent r 0 (p :: back) := hp ▸ k.adjacent_parts r
  have ho : p.offset = 0 := ha.1
  have h := encode_part r s [] back hp rfl hb (hw ▸ hi) hin
  rwa [ho, Nat.zero_add] at h

/-- One entry of a row of entries of the same width is replaced. -/
theorem stored_set_list {α : Type} [HasCells α] {w : Nat} (hw : ∀ a : α, span (cells a) = w)
    (as : List α) {i : Nat} (h : i < as.length) (a : α) :
    stored ((as.set i a).flatMap cells) =
      splice (stored (as.flatMap cells)) (w * i) (stored (cells a)) := by
  have hl : ∀ a : α, (stored (cells a)).length = w := fun a => (length_stored _).trans (hw a)
  induction as generalizing i with
  | nil => exact absurd h (Nat.not_lt_zero _)
  | cons b as ih =>
    rw [List.flatMap_cons, stored_append]
    cases i with
    | zero =>
      rw [List.set_cons_zero, List.flatMap_cons, stored_append, Nat.mul_zero,
        splice_append_left (by rw [hl, hl, Nat.zero_add]), splice_whole (by rw [hl, hl])]
    | succ i =>
      have ho : w * (i + 1) = (stored (cells b)).length + w * i := by
        rw [hl, Nat.mul_succ, Nat.add_comm]
      rw [List.set_cons_succ, List.flatMap_cons, stored_append, ho, splice_append_right,
        ih (Nat.lt_of_succ_lt_succ h)]

theorem stored_set {α : Type} [HasCells α] {w : Nat} (hw : ∀ a : α, span (cells a) = w) {n : Nat}
    (as : Vector α n) {i : Nat} (h : i < n) (a : α) :
    stored (cells (as.set i a)) = splice (stored (cells as)) (w * i) (stored (cells a)) := by
  show stored ((as.set i a).toList.flatMap cells) = splice (stored (as.toList.flatMap cells)) _ _
  rw [Vector.toList_set]
  exact stored_set_list hw as.toList (by rwa [Vector.length_toList]) a

theorem stored_bytes {n : Nat} (v : Vector UInt8 n) : stored (cells v) = v.toList := by
  show stored (v.toList.flatMap cells) = v.toList
  induction v.toList with
  | nil => rfl
  | cons b bs ih =>
    rw [List.flatMap_cons, stored_append, ih]
    show [UInt8.ofNat b.toNat] ++ bs = b :: bs
    rw [UInt8.ofNat_toNat]
    rfl

end Bytes

namespace Target

variable {k : RecordKind}

theorem length_bytes (t : Target k) (v : t.Value) : (t.bytes v).length = t.width := by
  induction t with
  | name =>
    have hl := congrArg List.length (Text.Buffer.bytes_store_eq (Text.Buffer.empty (n := 16)) v)
    rw [Text.Buffer.length_eq] at hl
    exact hl.symm
  | move t ih => exact ih v
  | player t ih => exact ih v
  | _ => exact length_stored _

theorem set_eq_none_iff {t : Target k} {v : t.Value} {r : k.Carrier} :
    t.set v r = none ↔ ¬ t.Present := by
  induction t with
  | stat index =>
    show PlayerState.setStat? r index v = none ↔ ¬ index < 32
    unfold PlayerState.setStat?
    split
    · next h => exact ⟨nofun, fun hn => absurd h hn⟩
    · next h => exact ⟨fun _ => h, fun _ => rfl⟩
  | move t ih => exact Option.map_eq_none_iff.trans ih
  | player t ih => exact Option.map_eq_none_iff.trans ih
  | _ => exact ⟨nofun, fun hn => absurd trivial hn⟩

theorem present_of_set {t : Target k} {v : t.Value} {r r' : k.Carrier} (h : t.set v r = some r') :
    t.Present := by
  by_contra hn
  rw [set_eq_none_iff.mpr hn] at h
  cases h

/-- A field that exists lies inside its record. -/
theorem fits {t : Target k} (h : t.Present) : t.offset + t.width ≤ k.size := by
  induction t with
  | stat index =>
    have hi : index < 32 := h
    show 120 + 2 * index + 2 ≤ 184
    omega
  | move t ih => exact Nat.le_trans (ih h) (by decide)
  | player t ih => exact Nat.le_trans (ih h) (by decide)
  | _ => decide

theorem fits_bytes {t : Target k} (h : t.Present) (v : t.Value) :
    t.offset + (t.bytes v).length ≤ k.size := by
  rw [length_bytes]
  exact fits h

theorem name_setName (s : Surface) (text : String) :
    (s.setName text).name.toList = Text.Buffer.filled 16 (text.toList.take 16) :=
  Text.Buffer.bytes_store_eq ⟨s.name.toList, Vector.length_toList⟩ text

/-- Setting a field replaces its bytes, whatever the record held. -/
theorem encode_set {t : Target k} {v : t.Value} {r s : k.Carrier} (h : t.set v r = some s) :
    k.codec.encode s = splice (k.codec.encode r) t.offset (t.bytes v) := by
  induction t with
  | event =>
    obtain rfl := Option.some.inj h
    exact encode_field (k := .entityState) r _ (entityParts.take 14) [] rfl rfl rfl rfl
  | moveType =>
    obtain rfl := Option.some.inj h
    exact encode_field (k := .moveState) r _ [] (moveParts.drop 1) rfl rfl rfl rfl
  | origin =>
    obtain rfl := Option.some.inj h
    exact encode_field (k := .moveState) r _ (moveParts.take 1) (moveParts.drop 2) rfl rfl rfl rfl
  | velocity =>
    obtain rfl := Option.some.inj h
    exact encode_field (k := .moveState) r _ (moveParts.take 2) (moveParts.drop 3) rfl rfl rfl rfl
  | flags =>
    obtain rfl := Option.some.inj h
    exact encode_field (k := .moveState) r _ (moveParts.take 3) (moveParts.drop 4) rfl rfl rfl rfl
  | stat index =>
    have hi : index < 32 := present_of_set h
    obtain rfl := Option.some.inj ((dif_pos hi).symm.trans h)
    have hw : span (cells (PlayerState.stats r)) = 64 := (Codec.exact_int16.row 32).span_eq _
    have hin : 2 * index + 2 ≤ span (cells (PlayerState.stats r)) := by omega
    exact encode_part (k := .playerState) r { (r : PlayerState) with stats := r.stats.set index v }
      (playerParts.take 11) [] rfl rfl rfl hin (stored_set span_int16 (PlayerState.stats r) hi v)
  | move t ih =>
    obtain ⟨m, hm, rfl⟩ := Option.map_eq_some_iff.mp h
    exact encode_embedded (k := .playerState) (j := .moveState) r
      { (r : PlayerState) with move := m } (PlayerState.move r) m (playerParts.drop 1) rfl rfl rfl
      rfl (fits_bytes (present_of_set hm) v) (ih hm)
  | player t ih =>
    obtain ⟨p, hp, rfl⟩ := Option.map_eq_some_iff.mp h
    exact encode_embedded (k := .client) (j := .playerState) r
      { (r : Client) with player := p } (Client.player r) p (clientParts.drop 1) rfl rfl rfl
      rfl (fits_bytes (present_of_set hp) v) (ih hp)
  | name =>
    obtain rfl := Option.some.inj h
    have hw := (RecordKind.span_name (Surface.setName r v).name).trans
      (RecordKind.span_name (Surface.name r)).symm
    have he := encode_field (k := .surface) r (Surface.setName r v) [] (surfaceParts.drop 1) rfl
      rfl rfl hw
    have hn := (stored_bytes (Surface.setName r v).name).trans (name_setName r v)
    exact he.trans (congrArg (splice _ 0) hn)

/-! ## Reading back -/

theorem event?_setEvent (s : EntityState) (e : EntityEvent) : (s.setEvent e).event? = some e := by
  cases e <;> rfl

theorem moveType?_setMoveType (s : MoveState) (m : MoveType) :
    (s.setMoveType m).moveType? = some m := by
  cases m <;> rfl

theorem stat_setStat? {s s' : PlayerState} {index : Nat} {n : Int16}
    (h : s.setStat? index n = some s') : s'.stat index = n := by
  unfold PlayerState.setStat? at h
  split at h
  · next hi =>
    obtain rfl := Option.some.inj h
    rw [PlayerState.stat, Vector.getElem?_set_self hi, Option.getD_some]
  · cases h

/-- A slot that does not exist reads as zero. -/
theorem stat_eq_zero (s : PlayerState) {index : Nat} (h : 32 ≤ index) : s.stat index = 0 := by
  have hn : s.stats[index]? = none := Vector.getElem?_eq_none h
  rw [PlayerState.stat, hn, Option.getD_none]

theorem nameText_setName (s : Surface) (text : String) : (s.setName text).nameText =
    String.ofList ((Text.sent (text.toList.take 16)).map Text.fold) :=
  Text.Buffer.text_store_eq ⟨s.name.toList, Vector.length_toList⟩ text

/-- The reader gives what was stored. -/
theorem get_set {t : Target k} {v : t.Value} {r s : k.Carrier} (h : t.set v r = some s) :
    t.get s = t.shown v := by
  induction t with
  | event =>
    obtain rfl := Option.some.inj h
    exact event?_setEvent r v
  | moveType =>
    obtain rfl := Option.some.inj h
    exact moveType?_setMoveType r v
  | stat index => exact stat_setStat? h
  | move t ih =>
    obtain ⟨m, hm, rfl⟩ := Option.map_eq_some_iff.mp h
    exact ih hm
  | player t ih =>
    obtain ⟨p, hp, rfl⟩ := Option.map_eq_some_iff.mp h
    exact ih hp
  | name =>
    obtain rfl := Option.some.inj h
    exact nameText_setName r v
  | _ =>
    obtain rfl := Option.some.inj h
    rfl

/-- Different fields of a record do not overlap. -/
theorem disjoint {t u : Target k} (h : t ≠ u) :
    t.offset + t.width ≤ u.offset ∨ u.offset + u.width ≤ t.offset := by
  induction t with
  | stat index =>
    cases u with
    | stat index' =>
      have hi : index ≠ index' := fun he => h (he ▸ rfl)
      show 120 + 2 * index + 2 ≤ 120 + 2 * index' ∨ 120 + 2 * index' + 2 ≤ 120 + 2 * index
      omega
    | move u =>
      have hu : u.offset + u.width ≤ 28 := fits (by cases u <;> trivial)
      show 120 + 2 * index + 2 ≤ u.offset ∨ u.offset + u.width ≤ 120 + 2 * index
      omega
  | move t ih =>
    cases u with
    | stat index =>
      have ht : t.offset + t.width ≤ 28 := fits (by cases t <;> trivial)
      show t.offset + t.width ≤ 120 + 2 * index ∨ 120 + 2 * index + 2 ≤ t.offset
      omega
    | move u => exact ih fun he => h (he ▸ rfl)
  | player t ih =>
    cases u with
    | player u => exact ih fun he => h (he ▸ rfl)
  | event => cases u; exact absurd rfl h
  | name => cases u; exact absurd rfl h
  | _ => cases u <;> simp_all [offset, width]

end Target

/-! ## Sequences of edits -/

/-- A call of a setter. -/
structure Edit (k : RecordKind) where
  target : Target k
  value : target.Value

namespace Edit

variable {k : RecordKind}

/-- The record after an edit; one that is refused changes nothing. -/
def apply (e : Edit k) (r : k.Carrier) : k.Carrier := (e.target.set e.value r).getD r

def run (r : k.Carrier) (edits : List (Edit k)) : k.Carrier := edits.foldl (fun r e => e.apply r) r

theorem apply_absent {e : Edit k} (h : ¬ e.target.Present) (r : k.Carrier) :
    e.apply r = r := by
  rw [apply, Target.set_eq_none_iff.mpr h, Option.getD_none]

theorem set_present {e : Edit k} (h : e.target.Present) (r : k.Carrier) :
    e.target.set e.value r = some (e.apply r) := by
  cases hs : e.target.set e.value r with
  | none => exact absurd h (Target.set_eq_none_iff.mp hs)
  | some s => rw [apply, hs, Option.getD_some]

theorem length_encode (r : k.Carrier) : (k.codec.encode r).length = k.size :=
  (k.exact_codec.1.length_encode r).trans k.codec_size

theorem fits_encode {e : Edit k} (h : e.target.Present) (r : k.Carrier) :
    e.target.offset + (e.target.bytes e.value).length ≤ (k.codec.encode r).length := by
  rw [length_encode]
  exact Target.fits_bytes h e.value

theorem encode_apply {e : Edit k} (h : e.target.Present) (r : k.Carrier) :
    k.codec.encode (e.apply r) =
      splice (k.codec.encode r) e.target.offset (e.target.bytes e.value) :=
  Target.encode_set (set_present h r)

/-- An edit leaves the bytes outside its field alone. -/
theorem getElem?_encode_apply (e : Edit k) (r : k.Carrier) {i : Nat}
    (h : e.target.Present → ¬ e.target.Covers i) :
    (k.codec.encode (e.apply r))[i]? = (k.codec.encode r)[i]? := by
  by_cases he : e.target.Present
  · have hi : ¬ (e.target.offset ≤ i ∧ i < e.target.offset + e.target.width) := h he
    rw [encode_apply he, getElem?_splice (fits_encode he r), Target.length_bytes, if_neg hi]
  · rw [apply_absent he]

theorem getElem?_encode_run (r : k.Carrier) (edits : List (Edit k)) {i : Nat}
    (h : ∀ e ∈ edits, e.target.Present → ¬ e.target.Covers i) :
    (k.codec.encode (run r edits))[i]? = (k.codec.encode r)[i]? := by
  induction edits generalizing r with
  | nil => rfl
  | cons e edits ih =>
    obtain ⟨he, hrest⟩ := List.forall_mem_cons.mp h
    exact (ih (e.apply r) hrest).trans (getElem?_encode_apply e r he)

/-- Edits of different fields commute, since an encoding tells records apart. -/
theorem apply_comm {e e' : Edit k} (h : e.target ≠ e'.target) (r : k.Carrier) :
    e'.apply (e.apply r) = e.apply (e'.apply r) := by
  by_cases he : e.target.Present
  · by_cases he' : e'.target.Present
    · apply k.exact_codec.1.encode_inj
      have hd := Target.disjoint h
      rw [encode_apply he', encode_apply he, encode_apply he, encode_apply he']
      apply splice_comm (fits_encode he r) (fits_encode he' r)
      rwa [Target.length_bytes, Target.length_bytes]
    · rw [apply_absent he', apply_absent he']
  · rw [apply_absent he, apply_absent he]

/-- An edit may be put off until after edits of other fields. -/
theorem run_apply {e : Edit k} (r : k.Carrier) {later : List (Edit k)}
    (h : ∀ e' ∈ later, e'.target ≠ e.target) : run (e.apply r) later = e.apply (run r later) := by
  induction later generalizing r with
  | nil => rfl
  | cons e' later ih =>
    obtain ⟨he', hrest⟩ := List.forall_mem_cons.mp h
    show run (e'.apply (e.apply r)) later = e.apply (run (e'.apply r) later)
    rw [apply_comm he'.symm, ih _ hrest]

/-- A field reads as the last value set, whatever happens to the others. -/
theorem get_run {e : Edit k} (he : e.target.Present) (r : k.Carrier) {later : List (Edit k)}
    (h : ∀ e' ∈ later, e'.target ≠ e.target) :
    e.target.get (run (e.apply r) later) = e.target.shown e.value := by
  rw [run_apply r h]
  exact Target.get_set (set_present he _)

end Edit

/-- Every edit changes exactly its own bytes. Take a record read from any bytes and any edits made
to it. A byte that is in no field edited so far is still the one it was read from. Setting a field
that exists gives a record with the same bytes outside the field, whose reader gives the value
stored, also after any further edits of other fields. Only a statistic from number 32 on is
refused; nothing changes then, and the slot reads as zero. Two edits of different fields can be made
in either order. -/
theorem edits_change_own_bytes (k : RecordKind) (bs : Bytes) (start : k.Carrier)
    (edits : List (Edit k)) (h : k.codec.read? bs = some start) :
    let r := Edit.run start edits
    (∀ i < k.size, (∀ e ∈ edits, e.target.Present → ¬ e.target.Covers i) →
      (k.codec.encode r)[i]? = bs[i]?) ∧
    (∀ e : Edit k, e.target.Present → ∃ s, e.target.set e.value r = some s ∧
      (k.codec.encode s).length = k.size ∧
      (∀ i, ¬ e.target.Covers i → (k.codec.encode s)[i]? = (k.codec.encode r)[i]?) ∧
      e.target.get s = e.target.shown e.value ∧
      ∀ later : List (Edit k), (∀ e' ∈ later, e'.target ≠ e.target) →
        e.target.get (Edit.run s later) = e.target.shown e.value) ∧
    (∀ e : Edit k, ¬ e.target.Present → e.target.set e.value r = none ∧ e.apply r = r) ∧
    (∀ (s : PlayerState) (index : Nat) (n : Int16), 32 ≤ index →
      s.setStat? index n = none ∧ s.stat index = 0) ∧
    ∀ e e' : Edit k, e.target ≠ e'.target → e'.apply (e.apply r) = e.apply (e'.apply r) := by
  intro r
  refine ⟨fun i hi hout => ?_, fun e he => ?_, fun e he => ?_, fun s index n hi => ?_,
    fun e e' hne => Edit.apply_comm hne r⟩
  · rw [Edit.getElem?_encode_run start edits hout, k.exact_codec.1.encode_of_read? h, k.codec_size,
      List.getElem?_take_of_lt hi]
  · refine ⟨e.apply r, Edit.set_present he r, Edit.length_encode _, fun i hi => ?_, ?_, ?_⟩
    · exact Edit.getElem?_encode_apply e r fun _ => hi
    · exact Target.get_set (Edit.set_present he r)
    · exact fun later hl => Edit.get_run he r hl
  · exact ⟨Target.set_eq_none_iff.mpr he, Edit.apply_absent he r⟩
  · have hn : ¬ (Target.stat index).Present := Nat.not_lt.mpr hi
    exact ⟨Target.set_eq_none_iff.mpr hn, Target.stat_eq_zero s hi⟩

/-- A client read from the bytes `0 .. 191`, with an origin set and then its last statistic. -/
theorem edits_change_own_bytes_client :
    let bs : Bytes := (List.range 192).map UInt8.ofNat
    let origin : Edit .client := ⟨.player (.move .origin), (⟨1, 2, 3⟩ : Vec3)⟩
    let stat : Edit .client := ⟨.player (.stat 31), (-2 : Int16)⟩
    ∃ start s : Client, Client.codec.read? bs = some start ∧
      stat.target.set stat.value (Edit.run start [origin]) = some s ∧ s.player.stat 31 = -2 ∧
      (Client.codec.encode s)[181]? = some 181 ∧ (Client.codec.encode s)[184]? = some 184 ∧
      s.player.stat 32 = 0 := by
  intro bs origin stat
  have hl : Client.codec.size ≤ bs.length := by
    rw [List.length_map, List.length_range]
    exact Nat.le_refl 192
  obtain ⟨start, hread, -⟩ := RecordKind.exact_client.lawful.exists_read? hl
  obtain ⟨hold, hset, -, hzero, -⟩ := edits_change_own_bytes .client bs start [origin] hread
  obtain ⟨s, hs, -, hout, hget, -⟩ := hset stat (show 31 < 32 by decide)
  have hfar : ∀ i, ¬ origin.target.Covers i → ∀ e ∈ [origin], e.target.Present →
      ¬ e.target.Covers i := by
    intro i hi e he _
    rwa [List.mem_singleton.mp he]
  refine ⟨start, s, hread, hs, hget, ?_, ?_, (hzero s.player 32 0 (by decide)).2⟩
  · exact (hout 181 (by decide)).trans (hold 181 (by decide) (hfar 181 (by decide)))
  · exact (hout 184 (by decide)).trans (hold 184 (by decide) (hfar 184 (by decide)))

end GameModule.Record
