/-!
# Flag sets

A flag set names bits of an integer of a fixed width. Bits without a name are kept. Composite
flags are named unions of other flags.
-/
namespace GameModule

structure FlagSet where
  /-- Bits of the integer that holds the flags. -/
  width : Nat
  /-- Whether that integer is read as signed. -/
  isSigned : Bool
  /-- Flags in declaration order. -/
  table : List (String × Nat)

namespace FlagSet

variable (f : FlagSet)

abbrev Flags := BitVec f.width

/-- The union of all named flags. -/
def all : f.Flags := f.table.foldl (fun acc flag => acc ||| BitVec.ofNat f.width flag.2) 0

/-- The integer that holds the flags. -/
def number (a : f.Flags) : Int := if f.isSigned then a.toInt else a.toNat

def ofNumber (n : Int) : f.Flags := BitVec.ofInt f.width n

/-- The bits, if each of them has a name. -/
def ofBits? (a : f.Flags) : Option f.Flags := if a &&& ~~~f.all = 0 then some a else none

def truncate (a : f.Flags) : f.Flags := a &&& f.all

def contains (a b : f.Flags) : Bool := a &&& b = b

def intersects (a b : f.Flags) : Bool := a &&& b ≠ 0

def difference (a b : f.Flags) : f.Flags := a &&& ~~~b

def complement (a : f.Flags) : f.Flags := f.truncate (~~~a)

def isAll (a : f.Flags) : Bool := f.all ||| a = a

/-- Walks the table: a flag is listed if it is in `a` and covers something not yet listed. The
second result is what no listed flag covers. -/
def namesFrom (a : f.Flags) : List (String × Nat) → f.Flags → List String × f.Flags
  | [], remaining => ([], remaining)
  | (name, bits) :: flags, remaining =>
    if remaining = 0 then ([], 0)
    else
      let flag := BitVec.ofNat f.width bits
      if a &&& flag = flag ∧ remaining &&& flag ≠ 0 then
        let (names, rest) := namesFrom a flags (remaining &&& ~~~flag)
        (name :: names, rest)
      else namesFrom a flags remaining

def names (a : f.Flags) : List String × f.Flags := f.namesFrom a f.table a

/-- What fills a volume of space, and what a trace stops at. -/
def contents : FlagSet where
  width := 32
  isSigned := false
  table :=
    [("SOLID", 0x1), ("WINDOW", 0x2), ("AUX", 0x4), ("LAVA", 0x8), ("SLIME", 0x10),
     ("WATER", 0x20), ("MIST", 0x40), ("AREA_PORTAL", 0x8000), ("PLAYER_CLIP", 0x10000),
     ("MONSTER_CLIP", 0x20000), ("CURRENT_0", 0x40000), ("CURRENT_90", 0x80000),
     ("CURRENT_180", 0x100000), ("CURRENT_270", 0x200000), ("CURRENT_UP", 0x400000),
     ("CURRENT_DOWN", 0x800000), ("ORIGIN", 0x1000000), ("MONSTER", 0x2000000),
     ("DEAD_MONSTER", 0x4000000), ("DETAIL", 0x8000000), ("TRANSLUCENT", 0x10000000),
     ("LADDER", 0x20000000), ("MASK_ALL", 0xffffffff), ("MASK_SOLID", 0x3),
     ("MASK_PLAYER_SOLID", 0x2010003), ("MASK_DEAD_SOLID", 0x10003),
     ("MASK_MONSTER_SOLID", 0x2020003), ("MASK_WATER", 0x38), ("MASK_OPAQUE", 0x19),
     ("MASK_SHOT", 0x6000003), ("MASK_CURRENTS", 0xfc0000)]

def surface : FlagSet where
  width := 32
  isSigned := true
  table :=
    [("LIGHT", 0x1), ("SLICK", 0x2), ("SKY", 0x4), ("WARP", 0x8), ("TRANS33", 0x10),
     ("TRANS66", 0x20), ("FLOWING", 0x40), ("NO_DRAW", 0x80)]

def cvar : FlagSet where
  width := 32
  isSigned := true
  table :=
    [("ARCHIVE", 1), ("USER_INFO", 2), ("SERVER_INFO", 4), ("READ_ONLY", 8), ("LATCHED", 16)]

def move : FlagSet where
  width := 8
  isSigned := false
  table :=
    [("DUCKED", 1), ("JUMP_HELD", 2), ("ON_GROUND", 4), ("TIME_WATER_JUMP", 8), ("TIME_LAND", 16),
     ("TIME_TELEPORT", 32), ("NO_PREDICTION", 64)]

def buttons : FlagSet where
  width := 8
  isSigned := false
  table := [("ATTACK", 1), ("USE", 2), ("ANY", 128)]

def renderEffects : FlagSet where
  width := 32
  isSigned := true
  table :=
    [("MIN_LIGHT", 0x1), ("VIEWER_MODEL", 0x2), ("WEAPON_MODEL", 0x4), ("FULL_BRIGHT", 0x8),
     ("DEPTH_HACK", 0x10), ("TRANSLUCENT", 0x20), ("FRAME_LERP", 0x40), ("BEAM", 0x80),
     ("CUSTOM_SKIN", 0x100), ("GLOW", 0x200), ("SHELL_RED", 0x400), ("SHELL_GREEN", 0x800),
     ("SHELL_BLUE", 0x1000), ("IR_VISIBLE", 0x8000), ("SHELL_DOUBLE", 0x10000),
     ("SHELL_HALF_DAM", 0x20000), ("USE_DISGUISE", 0x40000)]

def renderView : FlagSet where
  width := 32
  isSigned := true
  table := [("UNDER_WATER", 1), ("NO_WORLD_MODEL", 2), ("IR_GOGGLES", 4), ("UV_GOGGLES", 8)]

def server : FlagSet where
  width := 32
  isSigned := true
  table := [("NO_CLIENT", 0x1), ("DEAD_MONSTER", 0x2), ("MONSTER", 0x4)]

def entityEffects : FlagSet where
  width := 32
  isSigned := false
  table :=
    [("ROTATE", 0x1), ("GIB", 0x2), ("BLASTER", 0x8), ("ROCKET", 0x10), ("GRENADE", 0x20),
     ("HYPER_BLASTER", 0x40), ("BFG", 0x80), ("COLOR_SHELL", 0x100), ("POWER_SCREEN", 0x200),
     ("ANIM01", 0x400), ("ANIM23", 0x800), ("ANIM_ALL", 0x1000), ("ANIM_ALL_FAST", 0x2000),
     ("FLIES", 0x4000), ("QUAD", 0x8000), ("PENT", 0x10000), ("TELEPORTER", 0x20000),
     ("FLAG1", 0x40000), ("FLAG2", 0x80000), ("ION_RIPPER", 0x100000), ("GREEN_GIB", 0x200000),
     ("BLUE_HYPER_BLASTER", 0x400000), ("SPINNING_LIGHTS", 0x800000), ("PLASMA", 0x1000000),
     ("TRAP", 0x2000000), ("TRACKER", 0x4000000), ("DOUBLE", 0x8000000),
     ("SPHERE_TRANS", 0x10000000), ("TAG_TRAIL", 0x20000000), ("HALF_DAMAGE", 0x40000000),
     ("TRACKER_TRAIL", 0x80000000)]

/-- The flag sets under their published names. -/
def named : List (String × FlagSet) :=
  [("ContentFlags", contents), ("SurfaceFlags", surface), ("CvarFlags", cvar),
   ("PmoveFlags", move), ("UserCmdButtons", buttons), ("RenderEffects", renderEffects),
   ("RenderDefFlags", renderView), ("ServerFlags", server), ("EntityEffects", entityEffects)]

end FlagSet

end GameModule
