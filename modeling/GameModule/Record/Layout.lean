/-!
# Record layouts

Where the host expects each field. A field starts at the next multiple of its alignment, and a
record is as long as a whole number of its widest alignment.
-/
namespace GameModule.Record

structure Shape where
  size : Nat
  align : Nat
deriving DecidableEq

structure Field where
  name : String
  shape : Shape

/-- The next multiple of `align`. -/
def alignUp (align n : Nat) : Nat := (n + align - 1) / align * align

/-- Offsets of the fields when the first one may start at `start`, and where the last one ends. -/
def place : (start : Nat) → List Field → List (String × Nat) × Nat
  | start, [] => ([], start)
  | start, f :: fs =>
    let offset := alignUp f.shape.align start
    let (offsets, stop) := place (offset + f.shape.size) fs
    ((f.name, offset) :: offsets, stop)

abbrev Layout := List Field

namespace Layout

def offsets (l : Layout) : List (String × Nat) := (place 0 l).1

/-- The widest alignment of a field. -/
def align (l : Layout) : Nat := l.foldl (fun a f => max a f.shape.align) 1

def size (l : Layout) : Nat := alignUp l.align (place 0 l).2

/-- A record as a field of another. -/
def shape (l : Layout) : Shape := ⟨l.size, l.align⟩

end Layout

namespace Shape

def byte : Shape := ⟨1, 1⟩
def short : Shape := ⟨2, 2⟩
def int : Shape := ⟨4, 4⟩
def single : Shape := ⟨4, 4⟩
def address : Shape := ⟨8, 8⟩

def row (n : Nat) (s : Shape) : Shape := ⟨n * s.size, s.align⟩

end Shape

/-- Fields of one shape. -/
def fields (s : Shape) (names : List String) : Layout := names.map (⟨·, s⟩)

def vec3Layout : Layout := fields .single ["x", "y", "z"]

def vec4Layout : Layout := fields .single ["x", "y", "z", "w"]

def entityLayout : Layout :=
  fields .int ["number"] ++ fields vec3Layout.shape ["origin", "angles", "old_origin"] ++
  fields .int ["model_index", "model_index2", "model_index3", "model_index4", "frame",
    "skin_number", "effects", "render_fx", "solid", "sound", "event"]

def moveLayout : Layout :=
  fields .int ["pm_type"] ++ fields (.row 3 .short) ["origin", "velocity"] ++
  fields .byte ["pm_flags", "pm_time"] ++ fields .short ["gravity"] ++
  fields (.row 3 .short) ["delta_angles"]

def commandLayout : Layout :=
  fields .byte ["msec", "buttons"] ++ fields (.row 3 .short) ["angles"] ++
  fields .short ["forward_move", "side_move", "up_move"] ++ fields .byte ["impulse", "light_level"]

def playerLayout : Layout :=
  fields moveLayout.shape ["pmove"] ++
  fields vec3Layout.shape ["view_angles", "view_offset", "kick_angles", "gun_angles",
    "gun_offset"] ++
  fields .int ["gun_index", "gun_frame"] ++ fields vec4Layout.shape ["blend"] ++
  fields .single ["fov"] ++ fields .int ["rd_flags"] ++ fields (.row 32 .short) ["stats"]

def clientLayout : Layout :=
  fields playerLayout.shape ["player_state"] ++ fields .int ["ping", "client_number"]

def planeLayout : Layout :=
  fields vec3Layout.shape ["normal"] ++ fields .single ["dist"] ++
  fields .byte ["plane_type", "sign_bits"] ++ fields (.row 2 .byte) ["pad"]

def surfaceLayout : Layout :=
  fields (.row 16 .byte) ["name"] ++ fields .int ["flags", "value"]

def linkLayout : Layout := fields .address ["prev", "next"]

def traceLayout : Layout :=
  fields .int ["all_solid", "start_solid"] ++ fields .single ["fraction"] ++
  fields vec3Layout.shape ["end_pos"] ++ fields planeLayout.shape ["plane"] ++
  fields .address ["surface"] ++ fields .int ["contents"] ++ fields .address ["entity"]

def edictLayout : Layout :=
  fields entityLayout.shape ["state"] ++ fields .address ["client"] ++
  fields .int ["in_use", "link_count"] ++ fields linkLayout.shape ["area"] ++
  fields .int ["num_clusters"] ++ fields (.row 16 .int) ["cluster_numbers"] ++
  fields .int ["head_node", "area_number", "area_number2", "server_flags"] ++
  fields vec3Layout.shape ["mins", "maxs", "abs_min", "abs_max", "size"] ++
  fields .int ["solid", "clip_mask"] ++ fields .address ["owner"]

def moveBlockLayout : Layout :=
  fields moveLayout.shape ["state"] ++ fields commandLayout.shape ["cmd"] ++
  fields .int ["snap_initial", "num_touch"] ++ fields (.row 32 .address) ["touch_entities"] ++
  fields vec3Layout.shape ["view_angles"] ++ fields .single ["view_height"] ++
  fields vec3Layout.shape ["mins", "maxs"] ++ fields .address ["ground_entity"] ++
  fields .int ["water_type", "water_level"] ++ fields .address ["trace", "point_contents"]

def cvarLayout : Layout :=
  fields .address ["name", "string", "latched_string"] ++ fields .int ["flags", "modified"] ++
  fields .single ["value"] ++ fields .address ["next"]

def exportLayout : Layout :=
  fields .int ["api_version"] ++
  fields .address ["initialize", "shutdown", "spawn_entities", "write_game", "read_game",
    "write_level", "read_level", "client_connect", "client_begin", "client_userinfo_changed",
    "client_disconnect", "client_command", "client_think", "run_frame", "server_command"]

/-- The layouts under the names of their records. -/
def layouts : List (String × Layout) :=
  [("Vector3", vec3Layout), ("Vector4", vec4Layout), ("EntityState", entityLayout),
   ("PmoveState", moveLayout), ("UserCmd", commandLayout), ("PlayerState", playerLayout),
   ("Client", clientLayout), ("Plane", planeLayout), ("Surface", surfaceLayout),
   ("Link", linkLayout), ("TraceResult", traceLayout), ("Edict", edictLayout),
   ("PmoveInterop", moveBlockLayout), ("Cvar", cvarLayout), ("ServerGameExport", exportLayout)]

end GameModule.Record
