import GameModule.Space.Vector
import GameModule.Text.Narrow

/-!
# Record codecs

A codec turns a value into a fixed number of bytes, least significant byte first, and reads it
back from the front of a byte string. Codecs of records are built from codecs of their fields
in order; a hole between fields is a field like any other, so decoding loses no byte.
-/
namespace GameModule.Record

open Text (Bytes)

structure Codec (α : Type) where
  size : Nat
  encode : α → Bytes
  /-- The value at the front and the bytes after it; nothing if there are too few bytes. -/
  decode : Bytes → Option (α × Bytes)

namespace Codec

variable {α β : Type}

/-- The value at the front of a byte string. -/
def read? (c : Codec α) (bs : Bytes) : Option α := (c.decode bs).map (·.1)

/-- The value at an offset. -/
def readAt? (c : Codec α) (bs : Bytes) (offset : Nat) : Option α := c.read? (bs.drop offset)

/-- Stores a value at an offset of a buffer that has room for it there. -/
def writeAt (c : Codec α) (bs : Bytes) (offset : Nat) (a : α) : Bytes :=
  bs.take offset ++ c.encode a ++ bs.drop (offset + c.size)

def byte : Codec UInt8 where
  size := 1
  encode b := [b]
  decode
    | b :: bs => some (b, bs)
    | [] => none

/-- One codec after another. -/
def pair (c : Codec α) (d : Codec β) : Codec (α × β) where
  size := c.size + d.size
  encode p := c.encode p.1 ++ d.encode p.2
  decode bs :=
    match c.decode bs with
    | none => none
    | some (a, rest) =>
      match d.decode rest with
      | none => none
      | some (b, rest) => some ((a, b), rest)

/-- The same bytes read as another type. -/
def map (c : Codec α) (forth : α → β) (back : β → α) : Codec β where
  size := c.size
  encode b := c.encode (back b)
  decode bs := (c.decode bs).map fun (a, rest) => (forth a, rest)

/-- A row of `n` values. -/
def row (c : Codec α) : (n : Nat) → Codec (Vector α n)
  | 0 => ⟨0, fun _ => [], fun bs => some (#v[], bs)⟩
  | n + 1 => (c.pair (row c n)).map
      (fun (a, as) => ⟨#[a] ++ as.toArray, by simp; omega⟩) (fun as => (as.head, as.tail))

def word16 : Codec UInt16 :=
  (byte.pair byte).map (fun (lo, hi) => lo.toUInt16 ||| (hi.toUInt16 <<< 8))
    (fun w => (w.toUInt8, (w >>> 8).toUInt8))

def word32 : Codec UInt32 :=
  (word16.pair word16).map (fun (lo, hi) => lo.toUInt32 ||| (hi.toUInt32 <<< 16))
    (fun w => (w.toUInt16, (w >>> 16).toUInt16))

def int16 : Codec Int16 := word16.map UInt16.toInt16 Int16.toUInt16

def int32 : Codec Int32 := word32.map UInt32.toInt32 Int32.toUInt32

def single : Codec Single := word32.map Single.mk Single.bits

def short3 : Codec Short3 :=
  (int16.pair (int16.pair int16)).map (fun (x, y, z) => ⟨x, y, z⟩) (fun v => (v.x, v.y, v.z))

def vec3 : Codec Vec3 :=
  (single.pair (single.pair single)).map (fun (x, y, z) => ⟨x, y, z⟩) (fun v => (v.x, v.y, v.z))

def vec4 : Codec Vec4 :=
  (single.pair (single.pair (single.pair single))).map (fun (x, y, z, w) => ⟨x, y, z, w⟩)
    (fun v => (v.x, v.y, v.z, v.w))

end Codec

end GameModule.Record
