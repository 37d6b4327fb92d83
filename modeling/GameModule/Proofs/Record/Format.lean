import GameModule.Proofs.Record.Codec
import GameModule.Record.Collision
import GameModule.Record.Entity
import GameModule.Record.Layout
import GameModule.Record.Player

/-!
# The format of the plain records

A record is a row of numbers of one, two or four bytes, each stored with its least significant
byte first. `RecordKind.parts` says for each record which field starts where and which numbers it
is stored as; what a codec writes is exactly that, holes between fields included. Together with
the laws of codecs this fixes both directions of every record.
-/
namespace GameModule.Record

open Text (Bytes)

/-! ## Numbers in bytes -/

/-- The bytes of a number, the least significant one first. -/
def littleEndian : (width value : Nat) → Bytes
  | 0, _ => []
  | width + 1, value => UInt8.ofNat value :: littleEndian width (value / 256)

theorem length_littleEndian (width value : Nat) : (littleEndian width value).length = width := by
  induction width generalizing value with
  | zero => rfl
  | succ width ih => rw [littleEndian, List.length_cons, ih]

/-- A number and the bytes it takes. -/
structure Cell where
  width : Nat
  value : Nat

/-- The bytes that some numbers take. -/
def span (cells : List Cell) : Nat := cells.foldr (·.width + ·) 0

def stored (cells : List Cell) : Bytes := cells.flatMap fun c => littleEndian c.width c.value

theorem stored_append (cells cells' : List Cell) :
    stored (cells ++ cells') = stored cells ++ stored cells' := List.flatMap_append

theorem length_stored (cells : List Cell) : (stored cells).length = span cells := by
  induction cells with
  | nil => rfl
  | cons c cells ih =>
    rw [stored, List.flatMap_cons, List.length_append, length_littleEndian]
    exact congrArg (c.width + ·) ih

/-- The numbers a value is stored as. -/
class HasCells (α : Type) where
  cells : α → List Cell

export HasCells (cells)

instance : HasCells UInt8 := ⟨fun b => [⟨1, b.toNat⟩]⟩
instance : HasCells UInt16 := ⟨fun w => [⟨2, w.toNat⟩]⟩
instance : HasCells UInt32 := ⟨fun w => [⟨4, w.toNat⟩]⟩
instance : HasCells Int16 := ⟨fun n => cells n.toUInt16⟩
instance : HasCells Int32 := ⟨fun n => cells n.toUInt32⟩
instance : HasCells Single := ⟨fun x => cells x.bits⟩
instance {α β : Type} [HasCells α] [HasCells β] : HasCells (α × β) :=
  ⟨fun p => cells p.1 ++ cells p.2⟩
instance {α : Type} [HasCells α] {n : Nat} : HasCells (Vector α n) :=
  ⟨fun v => v.toList.flatMap cells⟩
instance : HasCells Short3 := ⟨fun v => cells v.x ++ cells v.y ++ cells v.z⟩
instance : HasCells Vec3 := ⟨fun v => cells v.x ++ cells v.y ++ cells v.z⟩
instance : HasCells Vec4 := ⟨fun v => cells v.x ++ cells v.y ++ cells v.z ++ cells v.w⟩

@[simp] theorem span_byte (b : UInt8) : span (cells b) = 1 := rfl
@[simp] theorem span_word32 (w : UInt32) : span (cells w) = 4 := rfl
@[simp] theorem span_int16 (n : Int16) : span (cells n) = 2 := rfl
@[simp] theorem span_int32 (n : Int32) : span (cells n) = 4 := rfl
@[simp] theorem span_single (x : Single) : span (cells x) = 4 := rfl
@[simp] theorem span_short3 (v : Short3) : span (cells v) = 6 := rfl
@[simp] theorem span_vec3 (v : Vec3) : span (cells v) = 12 := rfl
@[simp] theorem span_vec4 (v : Vec4) : span (cells v) = 16 := rfl

namespace Codec

variable {α β : Type} [HasCells α] [HasCells β] {c : Codec α} {d : Codec β}

/-- Nothing is lost, and a value is written as the numbers it is stored as. -/
structure Exact (c : Codec α) : Prop where
  lawful : c.Lawful
  encode_eq : ∀ a, c.encode a = stored (cells a)

theorem Exact.span_eq (hc : c.Exact) (a : α) : span (cells a) = c.size := by
  rw [← length_stored, ← hc.encode_eq, hc.lawful.length_encode]

theorem eq_ofNat {b : UInt8} {n : Nat} (h : b.toNat = n % 256) : b = UInt8.ofNat n :=
  UInt8.toNat_inj.mp (h.trans UInt8.toNat_ofNat'.symm)

theorem exact_byte : byte.Exact where
  lawful := lawful_byte
  encode_eq b := congrArg (fun b => [b]) (UInt8.ofNat_toNat (x := b)).symm

theorem exact_word16 : word16.Exact where
  lawful := lawful_word16
  encode_eq w := by
    have h₀ : w.toUInt8 = UInt8.ofNat w.toNat := eq_ofNat (toNat_low16 w)
    have h₁ : (w >>> 8).toUInt8 = UInt8.ofNat (w.toNat / 256) := by
      rw [← toNat_high16, UInt8.ofNat_toNat]
    change [w.toUInt8, (w >>> 8).toUInt8] = [UInt8.ofNat w.toNat, UInt8.ofNat (w.toNat / 256)]
    rw [h₀, h₁]

theorem exact_word32 : word32.Exact where
  lawful := lawful_word32
  encode_eq w := by
    have hw := w.toNat_lt
    have hl := toNat_low32 w
    have hh := toNat_high32 w
    have h₀ : w.toUInt16.toUInt8 = UInt8.ofNat w.toNat := eq_ofNat (by
      rw [toNat_low16]
      omega)
    have h₁ : (w.toUInt16 >>> 8).toUInt8 = UInt8.ofNat (w.toNat / 256) := eq_ofNat (by
      rw [toNat_high16]
      omega)
    have h₂ : (w >>> 16).toUInt16.toUInt8 = UInt8.ofNat (w.toNat / 256 / 256) := eq_ofNat (by
      rw [toNat_low16]
      omega)
    have h₃ : ((w >>> 16).toUInt16 >>> 8).toUInt8 = UInt8.ofNat (w.toNat / 256 / 256 / 256) :=
      eq_ofNat (by
        rw [toNat_high16]
        omega)
    change [w.toUInt16.toUInt8, (w.toUInt16 >>> 8).toUInt8, (w >>> 16).toUInt16.toUInt8,
      ((w >>> 16).toUInt16 >>> 8).toUInt8] = littleEndian 4 w.toNat
    rw [h₀, h₁, h₂, h₃]
    rfl

theorem Exact.pair (hc : c.Exact) (hd : d.Exact) : (c.pair d).Exact where
  lawful := hc.lawful.pair hd.lawful
  encode_eq p := by
    change c.encode p.1 ++ d.encode p.2 = stored (cells p.1 ++ cells p.2)
    rw [hc.encode_eq, hd.encode_eq, stored_append]

/-- Values of another type are stored as those they stand for. -/
theorem Exact.map (hc : c.Exact) {forth : α → β} {back : β → α}
    (hf : ∀ b, forth (back b) = b) (hb : ∀ a, back (forth a) = a)
    (hs : ∀ b, cells (back b) = cells b) : (c.map forth back).Exact where
  lawful := hc.lawful.map hf hb
  encode_eq b := by
    change c.encode (back b) = stored (cells b)
    rw [hc.encode_eq, hs]

theorem encode_row (hc : c.Exact) {n : Nat} (v : Vector α n) :
    (c.row n).encode v = stored (cells v) := by
  induction n with
  | zero =>
    obtain rfl : v = #v[] := Vector.eq_empty
    rfl
  | succ n ih =>
    have hv : v.toList = v.head :: v.tail.toList := by
      rw [← congrArg Vector.toList (cons_head_tail v (by simp; omega))]
      simp [Vector.toList]
    change c.encode v.head ++ (c.row n).encode v.tail = stored (v.toList.flatMap cells)
    rw [hv, List.flatMap_cons, stored_append, hc.encode_eq, ih]
    rfl

theorem Exact.row (hc : c.Exact) (n : Nat) : (c.row n).Exact := ⟨hc.lawful.row, encode_row hc⟩

theorem exact_int16 : int16.Exact :=
  exact_word16.map (fun _ => rfl) (fun _ => rfl) fun _ => rfl

theorem exact_int32 : int32.Exact :=
  exact_word32.map (fun _ => rfl) (fun _ => rfl) fun _ => rfl

theorem exact_single : single.Exact :=
  exact_word32.map (fun _ => rfl) (fun _ => rfl) fun _ => rfl

theorem exact_short3 : short3.Exact :=
  (exact_int16.pair (exact_int16.pair exact_int16)).map (fun _ => rfl) (fun _ => rfl) fun _ => rfl

theorem exact_vec3 : vec3.Exact :=
  (exact_single.pair (exact_single.pair exact_single)).map (fun _ => rfl) (fun _ => rfl)
    fun _ => rfl

theorem exact_vec4 : vec4.Exact :=
  (exact_single.pair (exact_single.pair (exact_single.pair exact_single))).map (fun _ => rfl)
    (fun _ => rfl) fun _ => rfl

end Codec

/-! ## Fields -/

/-- A field of a record: where it starts, and the numbers it is stored as. -/
structure Part (α : Type) where
  name : String
  offset : Nat
  cells : α → List Cell

/-- The field that `get` reads. -/
def Part.field {α β : Type} [HasCells β] (name : String) (offset : Nat) (get : α → β) : Part α :=
  ⟨name, offset, fun a => HasCells.cells (get a)⟩

/-- The numbers of a record, field by field. -/
def row {α : Type} (parts : List (Part α)) (a : α) : List Cell := parts.flatMap (·.cells a)

/-- Each field starts where the one before it ends. -/
def Adjacent {α : Type} (a : α) : (start : Nat) → List (Part α) → Prop
  | _, [] => True
  | start, p :: parts => p.offset = start ∧ Adjacent a (start + span (p.cells a)) parts

/-- A field of a record without gaps stands at its offset. -/
theorem Adjacent.stands {α : Type} {a : α} {start : Nat} {parts : List (Part α)}
    (h : Adjacent a start parts) {front : Bytes} (hf : front.length = start) {p : Part α}
    (hp : p ∈ parts) :
    stored (p.cells a) <+: (front ++ stored (row parts a)).drop p.offset := by
  induction parts generalizing start front with
  | nil => cases hp
  | cons q parts ih =>
    obtain ⟨ho, hrest⟩ := h
    rw [row, List.flatMap_cons, stored_append]
    rcases List.mem_cons.mp hp with rfl | hp
    · rw [List.drop_left' (hf.trans ho.symm)]
      exact List.prefix_append ..
    · rw [← List.append_assoc]
      refine ih hrest ?_ hp
      rw [List.length_append, length_stored, hf]

open GameModule.Record.Part (field)

def vec3Parts : List (Part Vec3) := [field "x" 0 (·.x), field "y" 4 (·.y), field "z" 8 (·.z)]

def vec4Parts : List (Part Vec4) :=
  [field "x" 0 (·.x), field "y" 4 (·.y), field "z" 8 (·.z), field "w" 12 (·.w)]

def entityParts : List (Part EntityState) :=
  [field "number" 0 (·.number), field "origin" 4 (·.origin), field "angles" 16 (·.angles),
   field "old_origin" 28 (·.oldOrigin), field "model_index" 40 (·.modelIndex),
   field "model_index2" 44 (·.modelIndex2), field "model_index3" 48 (·.modelIndex3),
   field "model_index4" 52 (·.modelIndex4), field "frame" 56 (·.frame),
   field "skin_number" 60 (·.skinNumber), field "effects" 64 (·.effects),
   field "render_fx" 68 (·.renderFx), field "solid" 72 (·.solid), field "sound" 76 (·.sound),
   field "event" 80 (·.event)]

instance : HasCells EntityState := ⟨row entityParts⟩

/-- The name of a hole, which layouts do not list. -/
def holeName : String := "_pad"

def moveParts : List (Part MoveState) :=
  [field "pm_type" 0 (·.moveType), field "origin" 4 (·.origin), field "velocity" 10 (·.velocity),
   field "pm_flags" 16 (·.flags), field "pm_time" 17 (·.time), field "gravity" 18 (·.gravity),
   field "delta_angles" 20 (·.deltaAngles), field holeName 26 (·.padding)]

instance : HasCells MoveState := ⟨row moveParts⟩

def commandParts : List (Part UserCommand) :=
  [field "msec" 0 (·.msec), field "buttons" 1 (·.buttons), field "angles" 2 (·.angles),
   field "forward_move" 8 (·.forwardMove), field "side_move" 10 (·.sideMove),
   field "up_move" 12 (·.upMove), field "impulse" 14 (·.impulse),
   field "light_level" 15 (·.lightLevel)]

instance : HasCells UserCommand := ⟨row commandParts⟩

def playerParts : List (Part PlayerState) :=
  [field "pmove" 0 (·.move), field "view_angles" 28 (·.viewAngles),
   field "view_offset" 40 (·.viewOffset), field "kick_angles" 52 (·.kickAngles),
   field "gun_angles" 64 (·.gunAngles), field "gun_offset" 76 (·.gunOffset),
   field "gun_index" 88 (·.gunIndex), field "gun_frame" 92 (·.gunFrame),
   field "blend" 96 (·.blend), field "fov" 112 (·.fieldOfView), field "rd_flags" 116 (·.viewFlags),
   field "stats" 120 (·.stats)]

instance : HasCells PlayerState := ⟨row playerParts⟩

def clientParts : List (Part Client) :=
  [field "player_state" 0 (·.player), field "ping" 184 (·.ping),
   field "client_number" 188 (·.number)]

instance : HasCells Client := ⟨row clientParts⟩

def planeParts : List (Part Plane) :=
  [field "normal" 0 (·.normal), field "dist" 12 (·.dist), field "plane_type" 16 (·.planeType),
   field "sign_bits" 17 (·.signBits), field "pad" 18 (·.padding)]

instance : HasCells Plane := ⟨row planeParts⟩

def surfaceParts : List (Part Surface) :=
  [field "name" 0 (·.name), field "flags" 16 (·.flags), field "value" 20 (·.value)]

instance : HasCells Surface := ⟨row surfaceParts⟩

/-! ## The records -/

/-- The records without addresses in them. -/
inductive RecordKind where
  | vector3 | vector4 | entityState | moveState | userCommand | playerState | client | plane
  | surface

namespace RecordKind

def Carrier : RecordKind → Type
  | vector3 => Vec3
  | vector4 => Vec4
  | entityState => EntityState
  | moveState => MoveState
  | userCommand => UserCommand
  | playerState => PlayerState
  | client => Client
  | plane => Plane
  | surface => Surface

def codec : (k : RecordKind) → Codec k.Carrier
  | vector3 => Codec.vec3
  | vector4 => Codec.vec4
  | entityState => EntityState.codec
  | moveState => MoveState.codec
  | userCommand => UserCommand.codec
  | playerState => PlayerState.codec
  | client => Client.codec
  | plane => Plane.codec
  | surface => Surface.codec

def layout : RecordKind → Layout
  | vector3 => vec3Layout
  | vector4 => vec4Layout
  | entityState => entityLayout
  | moveState => moveLayout
  | userCommand => commandLayout
  | playerState => playerLayout
  | client => clientLayout
  | plane => planeLayout
  | surface => surfaceLayout

/-- The size agreed with the host. -/
def size : RecordKind → Nat
  | vector3 => 12
  | vector4 => 16
  | entityState => 84
  | moveState => 28
  | userCommand => 16
  | playerState => 184
  | client => 192
  | plane => 20
  | surface => 24

/-- The fields, at the offsets agreed with the host. -/
def parts : (k : RecordKind) → List (Part k.Carrier)
  | vector3 => vec3Parts
  | vector4 => vec4Parts
  | entityState => entityParts
  | moveState => moveParts
  | userCommand => commandParts
  | playerState => playerParts
  | client => clientParts
  | plane => planeParts
  | surface => surfaceParts

/-- The offsets of the fields that a layout lists. -/
def offsets (k : RecordKind) : List (String × Nat) :=
  (k.parts.map fun p => (p.name, p.offset)).filter (·.1 ≠ holeName)

section Codecs

open Codec

theorem exact_entityState : EntityState.codec.Exact :=
  (exact_int32.pair <| exact_vec3.pair <| exact_vec3.pair <| exact_vec3.pair <| exact_int32.pair <|
    exact_int32.pair <| exact_int32.pair <| exact_int32.pair <| exact_int32.pair <|
    exact_int32.pair <| exact_word32.pair <| exact_int32.pair <| exact_int32.pair <|
    exact_int32.pair exact_int32).map (fun _ => rfl) (fun _ => rfl) fun _ => rfl

theorem exact_moveState : MoveState.codec.Exact :=
  (exact_int32.pair <| exact_short3.pair <| exact_short3.pair <| exact_byte.pair <|
    exact_byte.pair <| exact_int16.pair <| exact_short3.pair <| exact_byte.pair exact_byte).map
    (fun _ => rfl) (fun _ => rfl) fun _ => rfl

theorem exact_userCommand : UserCommand.codec.Exact :=
  (exact_byte.pair <| exact_byte.pair <| exact_short3.pair <| exact_int16.pair <|
    exact_int16.pair <| exact_int16.pair <| exact_byte.pair exact_byte).map (fun _ => rfl)
    (fun _ => rfl) fun _ => rfl

theorem exact_playerState : PlayerState.codec.Exact :=
  (exact_moveState.pair <| exact_vec3.pair <| exact_vec3.pair <| exact_vec3.pair <|
    exact_vec3.pair <| exact_vec3.pair <| exact_int32.pair <| exact_int32.pair <|
    exact_vec4.pair <| exact_single.pair <| exact_int32.pair <| exact_int16.row _).map
    (fun _ => rfl) (fun _ => rfl) fun s => by
      -- the last field has no fixed number of cells as far as computation goes
      change _ = row playerParts s
      simp only [row, playerParts, List.flatMap_cons, List.flatMap_nil, List.append_nil]
      rfl

theorem exact_client : Client.codec.Exact :=
  (exact_playerState.pair <| exact_int32.pair exact_int32).map (fun _ => rfl) (fun _ => rfl)
    fun _ => rfl

theorem exact_plane : Plane.codec.Exact :=
  (exact_vec3.pair <| exact_single.pair <| exact_byte.pair <| exact_byte.pair <|
    exact_byte.pair exact_byte).map (fun _ => rfl) (fun _ => rfl) fun _ => rfl

theorem exact_surface : Surface.codec.Exact :=
  ((exact_byte.row 16).pair <| exact_int32.pair exact_int32).map (fun _ => rfl) (fun _ => rfl)
    fun _ => rfl

theorem exact_codec : (k : RecordKind) → k.codec.Lawful ∧
    ∀ r, k.codec.encode r = stored (row k.parts r)
  | vector3 => ⟨exact_vec3.lawful, exact_vec3.encode_eq⟩
  | vector4 => ⟨exact_vec4.lawful, exact_vec4.encode_eq⟩
  | entityState => ⟨exact_entityState.lawful, exact_entityState.encode_eq⟩
  | moveState => ⟨exact_moveState.lawful, exact_moveState.encode_eq⟩
  | userCommand => ⟨exact_userCommand.lawful, exact_userCommand.encode_eq⟩
  | playerState => ⟨exact_playerState.lawful, exact_playerState.encode_eq⟩
  | client => ⟨exact_client.lawful, exact_client.encode_eq⟩
  | plane => ⟨exact_plane.lawful, exact_plane.encode_eq⟩
  | surface => ⟨exact_surface.lawful, exact_surface.encode_eq⟩

end Codecs

theorem codec_size (k : RecordKind) : k.codec.size = k.size := by
  cases k <;> rfl

theorem layout_size (k : RecordKind) : k.layout.size = k.size := by
  cases k <;> decide +kernel

theorem layout_offsets (k : RecordKind) : k.layout.offsets = k.offsets := by
  cases k <;> decide +kernel

@[simp] theorem span_move (s : MoveState) : span (cells s) = 28 :=
  (exact_moveState.span_eq s).trans (codec_size .moveState)

@[simp] theorem span_player (s : PlayerState) : span (cells s) = 184 :=
  (exact_playerState.span_eq s).trans (codec_size .playerState)

@[simp] theorem span_name (name : Vector UInt8 16) : span (cells name) = 16 :=
  (Codec.exact_byte.row 16).span_eq name

/-- No record has a gap between its fields. -/
theorem adjacent_parts (k : RecordKind) (r : k.Carrier) : Adjacent r 0 k.parts := by
  cases k with
  | vector3 => simp [parts, vec3Parts, Adjacent, field]
  | vector4 => simp [parts, vec4Parts, Adjacent, field]
  | entityState => simp [parts, entityParts, Adjacent, field]
  | moveState => simp [parts, moveParts, Adjacent, field]
  | userCommand => simp [parts, commandParts, Adjacent, field]
  | playerState => simp [parts, playerParts, Adjacent, field]
  | client => simp [parts, clientParts, Adjacent, field]
  | plane => simp [parts, planeParts, Adjacent, field]
  | surface => simp [parts, surfaceParts, Adjacent, field]

end RecordKind

/-- Decoding and encoding are inverse to each other over the whole format. Take any of the plain
records. Its size and the offsets of its fields are those agreed with the host, and an encoding
holds each field at its offset, number by number with the least significant byte first, and nothing
else. Reading fails exactly on too few bytes; else it finds the record whose encoding stands at the
front, whatever follows. Reading an encoding gives the record back. A record written anywhere into
a buffer with room for it is read back there, and no other byte changes. -/
theorem record_round_trip (k : RecordKind) :
    (k.codec.size = k.size ∧ k.layout.size = k.size ∧ k.layout.offsets = k.offsets) ∧
    (∀ r, k.codec.encode r = stored (row k.parts r) ∧
      ∀ p ∈ k.parts, stored (p.cells r) <+: (k.codec.encode r).drop p.offset) ∧
    (∀ bs, k.codec.read? bs = none ↔ bs.length < k.size) ∧
    (∀ bs, k.size ≤ bs.length →
      ∃ r, k.codec.read? bs = some r ∧ k.codec.encode r = bs.take k.size ∧
        ∀ tail, k.codec.read? (bs.take k.size ++ tail) = some r) ∧
    (∀ r tail, k.codec.read? (k.codec.encode r ++ tail) = some r) ∧
    ∀ bs offset r, offset + k.size ≤ bs.length →
      (k.codec.writeAt bs offset r).length = bs.length ∧
      k.codec.readAt? (k.codec.writeAt bs offset r) offset = some r ∧
      ∀ i, i < offset ∨ offset + k.size ≤ i → (k.codec.writeAt bs offset r)[i]? = bs[i]? := by
  have hs := k.codec_size
  obtain ⟨hl, he⟩ := k.exact_codec
  refine ⟨⟨hs, k.layout_size, k.layout_offsets⟩, fun r => ⟨he r, fun p hp => ?_⟩, ?_, ?_,
    hl.read?_encode, ?_⟩
  · have hst := (k.adjacent_parts r).stands (List.length_nil (α := UInt8)) hp
    rwa [List.nil_append, ← he] at hst
  · rw [← hs]
    exact hl.read?_eq_none_iff
  · rw [← hs]
    exact fun _ h => hl.exists_read? h
  · rw [← hs]
    intro bs offset r h
    exact ⟨hl.length_writeAt h r, hl.readAt?_writeAt h r, fun i hi => hl.getElem?_writeAt h r hi⟩

/-- A plane read from the bytes `0 .. 22`, which leave three over, and written into a buffer with
one more byte on either side. -/
theorem record_round_trip_plane :
    let bs : Bytes := (List.range 23).map UInt8.ofNat
    let buffer : Bytes := List.replicate 22 0xee
    ∃ r : Plane, Plane.codec.read? bs = some r ∧ r.dist = ⟨0x0f0e0d0c⟩ ∧ r.padding = (18, 19) ∧
      Plane.codec.encode r = bs.take 20 ∧ Plane.codec.read? (bs.take 19) = none ∧
      Plane.codec.readAt? (Plane.codec.writeAt buffer 1 r) 1 = some r ∧
      (Plane.codec.writeAt buffer 1 r)[21]? = some 0xee := by
  intro bs buffer
  obtain ⟨-, -, hnone, hread, -, hwrite⟩ := record_round_trip .plane
  obtain ⟨r, hr, henc, -⟩ := hread bs (by decide)
  obtain ⟨-, hback, hout⟩ := hwrite buffer 1 r (by decide)
  have hd : (Plane.codec.read? bs).map (fun r => (r.dist, r.padding)) =
      some (⟨0x0f0e0d0c⟩, (18, 19)) := by decide +kernel
  have hm := congrArg (Option.map fun r : Plane => (r.dist, r.padding)) hr
  have hf := Option.some.inj (hm.symm.trans hd)
  refine ⟨r, hr, congrArg Prod.fst hf, congrArg Prod.snd hf, henc, ?_, hback, ?_⟩
  · exact (hnone _).mpr (by decide)
  · exact (hout 21 (by decide)).trans (by decide)

end GameModule.Record
