import GameModule.Activity

/-!
# A host that records

A stand-in for a host: it keeps every call in order and answers with values set beforehand. Its
console variables keep their texts as UTF-8, and the game reads them back one character per byte.
-/
namespace GameModule

open Text (Bytes)

/-- The bytes of a text in UTF-8. A text with a zero character cannot be kept and becomes
empty. -/
def storedText (s : String) : Bytes :=
  if s.toList.any (·.toNat = 0) then [] else s.toList.flatMap String.utf8EncodeChar

namespace Cvar

/-- A variable as it is first registered. -/
def registered (name value : String) (flags : Int32) : Cvar :=
  { name := some (storedText name), string := some (storedText value), flags, modified := 1,
    value := Single.ofText value }

/-- The variable after its text was set. -/
def assign (c : Cvar) (value : String) : Cvar :=
  { c with string := some (storedText value), value := Single.ofText value, modified := 1 }

end Cvar

structure Recorder where
  calls : List (HostCall String)
  cvars : List (String × Cvar)
  /-- Every variable is reported as missing. -/
  withholds : Bool
  args : List String
  /-- The last index given out. -/
  lastIndex : Int32
  trace : Option TraceResult
  area : List Address
  /-- A call that is followed by a console line of its own, and that line. -/
  echo : Option (String × String)

namespace Recorder

def fresh : Recorder :=
  { calls := [], cvars := [], withholds := false, args := [], lastIndex := 0, trace := none,
    area := [], echo := none }

def find? (r : Recorder) (name : String) : Option Cvar := r.cvars.lookup name

/-- Stores a variable under a name. -/
def put (r : Recorder) (name : String) (c : Cvar) : Recorder :=
  { r with
    cvars :=
      if (r.find? name).isSome then r.cvars.map fun p => if p.1 = name then (name, c) else p
      else r.cvars ++ [(name, c)] }

/-- Sets a variable, as if the host's settings had set it. -/
def setCvar (r : Recorder) (name value : String) : Recorder :=
  match r.find? name with
  | some c => r.put name (c.assign value)
  | none => r.put name (.registered name value 0)

/-- From now on every variable is reported as missing. -/
def withhold (r : Recorder) : Recorder := { r with withholds := true }

/-- Keeps a call, and the line that follows it. -/
def record (r : Recorder) (c : HostCall String) : Recorder :=
  let follow := match r.echo with
    | some (name, line) => if name = c.name then [.debugPrint line] else []
    | none => []
  { r with calls := r.calls ++ c :: follow }

def nextIndex (r : Recorder) : Int32 × Recorder :=
  (r.lastIndex + 1, { r with lastIndex := r.lastIndex + 1 })

/-- Finds a variable, registering it if it is new, and sets it if `overwrite` says so. Flags
only ever accumulate. -/
def lookup (r : Recorder) (name value : String) (flags : Int32) (overwrite : Bool) :
    Option Cvar × Recorder :=
  if r.withholds then (none, r)
  else
    let c := (r.find? name).getD (.registered name value flags)
    let c := if overwrite then c.assign value else c
    let c := { c with flags := c.flags ||| flags }
    (some c, r.put name c)

/-- The answer to a call that has been recorded. -/
def reply (r : Recorder) : (c : HostCall String) → c.Answer × Recorder
  | .modelIndex _ | .soundIndex _ | .imageIndex _ => r.nextIndex
  | .inVis .. | .inPvs .. | .inPhs .. | .areasConnected .. => (false, r)
  | .trace _ _ _ stop _ _ => (r.trace.getD { TraceResult.miss with endPos := stop }, r)
  | .pointContents _ => ((0 : UInt32), r)
  | .areaEdicts _ _ limit _ => (r.area.take limit, r)
  | .move block => ({ block with numTouch := 0 }, r)
  | .cvar name value flags => r.lookup name value flags false
  | .cvarSet name value | .cvarForceSet name value => r.lookup name value 0 true
  | .argc => (Int32.ofNat r.args.length, r)
  | .argv n => (if n < 0 then "" else r.args[n.toInt.toNat]?.getD "", r)
  | .args => (" ".intercalate (r.args.drop 1), r)
  | .configString .. | .setModel .. | .broadcastPrint .. | .debugPrint _ | .clientPrint ..
  | .centerPrint .. | .error _ | .startSound .. | .startPositionedSound .. | .unicast ..
  | .multicast .. | .writeFloat _ | .writeChar _ | .writeByte _ | .writeShort _ | .writeLong _
  | .writeString _ | .writePosition _ | .writeAngle _ | .linkEntity _ | .unlinkEntity _
  | .setAreaPortalState .. | .addCommandString _ | .debugGraph .. => ((), r)

def answer (r : Recorder) (c : HostCall String) : c.Answer × Recorder := (r.record c).reply c

/-- The console lines among the calls. -/
def prints (r : Recorder) : List String :=
  r.calls.filterMap fun
    | .debugPrint message => some message
    | _ => none

end Recorder

/-- Something that happened while an activity ran: a call or a notice. -/
inductive LogLine where
  | call (c : HostCall String)
  | notice (n : Notice)

/-- The end of an activity that ran to completion, and what happened on the way. -/
structure Recording (σ α : Type) where
  log : List LogLine
  state : σ
  result : α
  host : Recorder

/-- Runs an activity against a recorder. -/
def Outcome.record {σ α : Type} : Outcome σ α → Recorder → Recording σ α
  | .done s a, r => ⟨[], s, a, r⟩
  | .note n rest, r =>
    let rec' := rest.record r
    { rec' with log := .notice n :: rec'.log }
  | .call s c resume, r =>
    let (a, r') := r.answer c
    let rec' := (resume a s).record r'
    { rec' with log := (r'.calls.drop r.calls.length).map .call ++ rec'.log }

end GameModule
