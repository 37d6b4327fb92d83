import GameModule.Proofs.Host.CvarText
import Mathlib.Data.List.Induction

/-!
# The variables of a recorder

What a recorder shows of a variable is read off the history of the steps on its name: the text is
the last one set, or else the default of its first registration, and the flags are those of all
registrations together. Steps on other names do not show. Once variables are withheld, a call finds
none and changes none; it is only listed.
-/
namespace GameModule

open Text

/-- What is done to the variables of a recorder: settings made beforehand, calls of the game, and
the end of all answers. -/
inductive CvarStep where
  | preset (name value : String)
  | register (name value : String) (flags : Int32)
  | set (name value : String)
  | forceSet (name value : String)
  | withhold
deriving DecidableEq

namespace CvarStep

/-- The call that the step makes. -/
def call? : CvarStep → Option (HostCall String)
  | register name value flags => some (.cvar name value flags)
  | set name value => some (.cvarSet name value)
  | forceSet name value => some (.cvarForceSet name value)
  | preset .. | withhold => none

def name? : CvarStep → Option String
  | preset name _ | register name _ _ | set name _ | forceSet name _ => some name
  | withhold => none

def value? : CvarStep → Option String
  | preset _ value | register _ value _ | set _ value | forceSet _ value => some value
  | withhold => none

/-- The text that the step sets a variable to. -/
def setting? (name : String) : CvarStep → Option String
  | preset n value | set n value | forceSet n value => if n = name then some value else none
  | register .. | withhold => none

/-- The default and the flags that the step registers a variable with. -/
def registration? (name : String) : CvarStep → Option (String × Int32)
  | register n value flags => if n = name then some (value, flags) else none
  | preset .. | set .. | forceSet .. | withhold => none

/-- The text of the step reads back from UTF-8. -/
def IsPlain (s : CvarStep) : Prop := ∀ v ∈ s.value?, IsAscii v

instance (s : CvarStep) : Decidable s.IsPlain :=
  inferInstanceAs (Decidable (∀ v ∈ s.value?, IsAscii v))

end CvarStep

/-! ## The history of a name -/

section History

variable (name : String) (steps : List CvarStep)

/-- The texts set, in order. -/
def settings : List String := steps.filterMap (CvarStep.setting? name)

/-- The registrations, in order. -/
def registrations : List (String × Int32) := steps.filterMap (CvarStep.registration? name)

/-- The last text set; if there is none, the default of the first registration. -/
def shownText? : Option String :=
  (settings name steps).getLast?.or ((registrations name steps).head?.map (·.1))

/-- The flags of all registrations. -/
def shownFlags : Int32 := (registrations name steps).foldl (fun flags r => flags ||| r.2) 0

/-- The variable that the history makes. -/
def shown? : Option Cvar :=
  (shownText? name steps).map (Cvar.registered name · (shownFlags name steps))

end History

/-! ## One step -/

/-- The variable that a call gives, of one that is there or not. -/
def Cvar.found (c : Option Cvar) (name value : String) (flags : Int32) (overwrite : Bool) : Cvar :=
  let c := c.getD (.registered name value flags)
  let c := if overwrite then c.assign value else c
  { c with flags := c.flags ||| flags }

/-- What a step makes of the variable of its name. -/
def CvarStep.revise : CvarStep → Option Cvar → Option Cvar
  | preset name value, c => some ((c.map (·.assign value)).getD (.registered name value 0))
  | register name value flags, c => some (.found c name value flags false)
  | set name value, c | forceSet name value, c => some (.found c name value 0 true)
  | withhold, c => c

namespace Recorder

/-- Takes one step; a call gives the variable it finds. -/
def perform (r : Recorder) : CvarStep → Option Cvar × Recorder
  | .preset name value => (none, r.setCvar name value)
  | .register name value flags => r.answer (.cvar name value flags)
  | .set name value => r.answer (.cvarSet name value)
  | .forceSet name value => r.answer (.cvarForceSet name value)
  | .withhold => (none, r.withhold)

/-- A fresh recorder after these steps. -/
def afterSteps (steps : List CvarStep) : Recorder :=
  steps.foldl (fun r s => (r.perform s).2) fresh

theorem lookup_replace (name key : String) (c : Cvar) (l : List (String × Cvar)) :
    (l.map fun p => if p.1 = name then (name, c) else p).lookup key =
      if key = name then (l.lookup name).map fun _ => c else l.lookup key := by
  induction l with
  | nil => simp
  | cons p l ih =>
    obtain ⟨k, d⟩ := p
    by_cases hk : k = name
    · subst hk
      by_cases hn : key = k
      · simp [hn]
      · have hb : (key == k) = false := beq_false_of_ne hn
        simpa [List.lookup_cons, hb, hn] using ih
    · have hb : (name == k) = false := beq_false_of_ne (Ne.symm hk)
      by_cases hn : key = k
      · simp [hn, hk]
      · have hb' : (key == k) = false := beq_false_of_ne hn
        simpa [List.lookup_cons, hk, hb, hb'] using ih

theorem find?_put (r : Recorder) (name key : String) (c : Cvar) :
    (r.put name c).find? key = if key = name then some c else r.find? key := by
  unfold put find?
  cases hd : r.cvars.lookup name with
  | some d =>
    rw [Option.isSome_some, if_pos rfl, lookup_replace, hd]
    rfl
  | none =>
    rw [Option.isSome_none, if_neg Bool.false_ne_true, List.lookup_append]
    by_cases hn : key = name
    · simp [hn, hd]
    · have hb : (key == name) = false := beq_false_of_ne hn
      simp [List.lookup_cons, hb, hn]

section Lookup

variable {r : Recorder} (name value : String) (flags : Int32) (overwrite : Bool)

theorem lookup_open (hw : r.withholds = false) : r.lookup name value flags overwrite =
    (some (.found (r.find? name) name value flags overwrite),
      r.put name (.found (r.find? name) name value flags overwrite)) := by
  rw [lookup, hw, if_neg Bool.false_ne_true]
  rfl

theorem lookup_withheld (hw : r.withholds = true) :
    r.lookup name value flags overwrite = (none, r) := if_pos hw

theorem lookup_other {key : String} (hk : key ≠ name) :
    (r.lookup name value flags overwrite).2.find? key = r.find? key := by
  cases hw : r.withholds with
  | true => rw [lookup_withheld _ _ _ _ hw]
  | false => rw [lookup_open _ _ _ _ hw, find?_put, if_neg hk]

theorem lookup_frame : (r.lookup name value flags overwrite).2.withholds = r.withholds ∧
    (r.lookup name value flags overwrite).2.calls = r.calls ∧
    (r.lookup name value flags overwrite).2.echo = r.echo := by
  cases hw : r.withholds with
  | true => rw [lookup_withheld _ _ _ _ hw]; exact ⟨hw, rfl, rfl⟩
  | false => rw [lookup_open _ _ _ _ hw]; exact ⟨hw, rfl, rfl⟩

end Lookup

section Perform

variable {r : Recorder} {step : CvarStep} {name : String}

/-- A call is listed and looks its variable up. -/
theorem perform_call {c : HostCall String} (h : step.call? = some c) (r : Recorder) :
    ∃ name value flags overwrite, step.name? = some name ∧
      r.perform step = (r.record c).lookup name value flags overwrite ∧
      ∀ d, step.revise d = some (.found d name value flags overwrite) := by
  cases step with
  | preset | withhold => exact absurd h nofun
  | register | set | forceSet =>
    obtain rfl := Option.some.inj h
    exact ⟨_, _, _, _, rfl, rfl, fun _ => rfl⟩

theorem eq_of_call?_eq_none (h : step.call? = none) :
    (∃ name value, step = .preset name value) ∨ step = .withhold := by
  cases step with
  | preset name value => exact .inl ⟨name, value, rfl⟩
  | withhold => exact .inr rfl
  | register | set | forceSet => exact absurd h nofun

theorem find?_setCvar (r : Recorder) (name value key : String) :
    (r.setCvar name value).find? key =
      if key = name then (CvarStep.preset name value).revise (r.find? name) else r.find? key := by
  unfold setCvar
  cases hf : r.find? name with
  | none => exact find?_put ..
  | some c => exact find?_put ..

theorem setCvar_frame (r : Recorder) (name value : String) :
    (r.setCvar name value).withholds = r.withholds ∧
      (r.setCvar name value).calls = r.calls ∧ (r.setCvar name value).echo = r.echo := by
  unfold setCvar
  cases r.find? name <;> exact ⟨rfl, rfl, rfl⟩

/-- Where variables are open, a step revises the variable of its name, and a call gives it as it is
then. -/
theorem perform_own (h : step.name? = some name) (hw : r.withholds = false) :
    (r.perform step).2.find? name = step.revise (r.find? name) ∧
      (step.call?.isSome →
        ∃ c, (r.perform step).1 = some c ∧ (r.perform step).2.find? name = some c) := by
  cases hc : step.call? with
  | some c =>
    obtain ⟨n, value, flags, overwrite, hn, hp, hr⟩ := perform_call hc r
    obtain rfl := Option.some.inj (hn.symm.trans h)
    have hw' : (r.record c).withholds = false := hw
    rw [hp, lookup_open _ _ _ _ hw', hr, find?_put, if_pos rfl]
    exact ⟨rfl, fun _ => ⟨_, rfl, rfl⟩⟩
  | none =>
    rcases eq_of_call?_eq_none hc with ⟨n, value, rfl⟩ | rfl
    · obtain rfl := Option.some.inj h
      exact ⟨(find?_setCvar r n value n).trans (if_pos rfl), nofun⟩
    · exact absurd h nofun

theorem perform_other (h : step.name? ≠ some name) :
    (r.perform step).2.find? name = r.find? name := by
  cases hc : step.call? with
  | some c =>
    obtain ⟨n, value, flags, overwrite, hn, hp, -⟩ := perform_call hc r
    have hk : name ≠ n := by
      rintro rfl
      exact h hn
    rw [hp, lookup_other _ _ _ _ hk]
    rfl
  | none =>
    rcases eq_of_call?_eq_none hc with ⟨n, value, rfl⟩ | rfl
    · have hk : name ≠ n := by
        rintro rfl
        exact h rfl
      exact (find?_setCvar r n value name).trans (if_neg hk)
    · rfl

theorem perform_withheld (h : step.call?.isSome) (hw : r.withholds = true) :
    (r.perform step).1 = none ∧ (r.perform step).2.cvars = r.cvars := by
  obtain ⟨c, hc⟩ := Option.isSome_iff_exists.mp h
  obtain ⟨n, value, flags, overwrite, -, hp, -⟩ := perform_call hc r
  have hw' : (r.record c).withholds = true := hw
  rw [hp, lookup_withheld _ _ _ _ hw']
  exact ⟨rfl, rfl⟩

theorem perform_withholds :
    (r.perform step).2.withholds = (r.withholds || step = .withhold) := by
  cases hc : step.call? with
  | some c =>
    obtain ⟨n, value, flags, overwrite, hn, hp, -⟩ := perform_call hc r
    have hs : step ≠ .withhold := by
      rintro rfl
      exact absurd hc nofun
    rw [hp, (lookup_frame _ _ _ _).1, decide_eq_false hs, Bool.or_false]
    rfl
  | none =>
    rcases eq_of_call?_eq_none hc with ⟨n, value, rfl⟩ | rfl
    · rw [decide_eq_false nofun, Bool.or_false]
      exact (setCvar_frame r n value).1
    · rw [decide_eq_true rfl, Bool.or_true]
      rfl

theorem perform_calls (step : CvarStep) (h : r.echo = none) :
    (r.perform step).2.calls = r.calls ++ step.call?.toList ∧ (r.perform step).2.echo = none := by
  cases hc : step.call? with
  | some c =>
    obtain ⟨n, value, flags, overwrite, -, hp, -⟩ := perform_call hc r
    obtain ⟨-, hcalls, hecho⟩ := lookup_frame (r := r.record c) n value flags overwrite
    rw [hp, hcalls, hecho, record, h]
    exact ⟨rfl, rfl⟩
  | none =>
    rw [Option.toList_none, List.append_nil]
    rcases eq_of_call?_eq_none hc with ⟨n, value, rfl⟩ | rfl
    · obtain ⟨-, hcalls, hecho⟩ := setCvar_frame r n value
      exact ⟨hcalls, hecho.trans h⟩
    · exact ⟨rfl, h⟩

end Perform

end Recorder

/-! ## A run of steps -/

section Extend

variable {name : String} {steps : List CvarStep} {step : CvarStep}

theorem filterMap_concat {α β : Type} (f : α → Option β) (xs : List α) (x : α) :
    (xs ++ [x]).filterMap f = xs.filterMap f ++ (f x).toList := by
  rw [List.filterMap_append, List.filterMap_cons]
  cases f x <;> rfl

theorem shownText?_concat : shownText? name (steps ++ [step]) =
    (step.setting? name).or
      ((shownText? name steps).or ((step.registration? name).map (·.1))) := by
  simp only [shownText?, settings, registrations, filterMap_concat, List.getLast?_append,
    List.head?_append, Option.map_or, Option.or_assoc]
  cases step.setting? name <;> cases step.registration? name <;> rfl

theorem shownFlags_concat : shownFlags name (steps ++ [step]) =
    shownFlags name steps ||| ((step.registration? name).map (·.2)).getD 0 := by
  simp only [shownFlags, registrations, filterMap_concat, List.foldl_append]
  cases step.registration? name with
  | none => exact Int32.or_zero.symm
  | some r => rfl

/-- A name that nothing was done to has no flags. -/
theorem shownFlags_of_none (h : shownText? name steps = none) : shownFlags name steps = 0 := by
  have hr : registrations name steps = [] := by
    obtain ⟨-, hd⟩ := Option.or_eq_none_iff.mp h
    simpa using hd
  rw [shownFlags, hr]
  rfl

/-- A step on another name adds nothing to the history of a name. -/
theorem shown?_other (h : step.name? ≠ some name) :
    shown? name (steps ++ [step]) = shown? name steps := by
  have hn : step.setting? name = none ∧ step.registration? name = none := by
    cases step <;> simp_all [CvarStep.name?, CvarStep.setting?, CvarStep.registration?]
  simp only [shown?, shownText?_concat, shownFlags_concat, hn.1, hn.2, Option.map_none,
    Option.getD_none, Option.or_none, Option.none_or, Int32.or_zero]

theorem shown?_set {value : String} (hs : step.setting? name = some value)
    (hr : step.registration? name = none) :
    shown? name (steps ++ [step]) = some (.registered name value (shownFlags name steps)) := by
  rw [shown?, shownText?_concat, shownFlags_concat, hs, hr, Option.some_or, Option.map_none,
    Option.getD_none, Int32.or_zero, Option.map_some]

theorem found_shown? (name value : String) (steps : List CvarStep) :
    Cvar.found (shown? name steps) name value 0 true =
      .registered name value (shownFlags name steps) := by
  rw [shown?]
  cases hs : shownText? name steps with
  | none =>
    rw [shownFlags_of_none hs]
    show Cvar.registered name value (0 ||| 0) = _
    rw [Int32.or_zero]
  | some text =>
    show Cvar.registered name value (shownFlags name steps ||| 0) = _
    rw [Int32.or_zero]

/-- A step on a name adds to its history what it makes of the variable. -/
theorem shown?_own (h : step.name? = some name) :
    shown? name (steps ++ [step]) = step.revise (shown? name steps) := by
  cases step with
  | withhold => exact absurd h nofun
  | preset n value =>
    obtain rfl := Option.some.inj h
    have hs : (CvarStep.preset n value).setting? n = some value := if_pos rfl
    rw [shown?_set hs rfl, shown?]
    cases ht : shownText? n steps with
    | none =>
      rw [shownFlags_of_none ht]
      rfl
    | some text => rfl
  | register n value flags =>
    obtain rfl := Option.some.inj h
    have hr : (CvarStep.register n value flags).registration? n = some (value, flags) := if_pos rfl
    have hs : (CvarStep.register n value flags).setting? n = none := rfl
    rw [shown?, shownText?_concat, shownFlags_concat, hs, hr, Option.none_or, shown?]
    cases ht : shownText? n steps with
    | none =>
      show some (Cvar.registered n value (shownFlags n steps ||| flags)) =
        some (Cvar.registered n value (flags ||| flags))
      rw [shownFlags_of_none ht, Int32.zero_or, Int32.or_self]
    | some text => rfl
  | set n value =>
    obtain rfl := Option.some.inj h
    have hs : (CvarStep.set n value).setting? n = some value := if_pos rfl
    rw [shown?_set hs rfl, ← found_shown?]
    rfl
  | forceSet n value =>
    obtain rfl := Option.some.inj h
    have hs : (CvarStep.forceSet n value).setting? n = some value := if_pos rfl
    rw [shown?_set hs rfl, ← found_shown?]
    rfl

end Extend

namespace Recorder

variable {steps : List CvarStep}

theorem afterSteps_concat (steps : List CvarStep) (step : CvarStep) :
    afterSteps (steps ++ [step]) = ((afterSteps steps).perform step).2 := by
  rw [afterSteps, List.foldl_append]
  rfl

theorem withholds_afterSteps (steps : List CvarStep) :
    (afterSteps steps).withholds = decide (.withhold ∈ steps) := by
  induction steps using List.reverseRecOn with
  | nil => rfl
  | append_singleton steps step ih =>
    rw [afterSteps_concat, perform_withholds, ih]
    simp [eq_comm]

/-- Calls are listed in order, withheld or not. -/
theorem calls_afterSteps (steps : List CvarStep) :
    (afterSteps steps).calls = steps.filterMap CvarStep.call? ∧ (afterSteps steps).echo = none := by
  induction steps using List.reverseRecOn with
  | nil => exact ⟨rfl, rfl⟩
  | append_singleton steps step ih =>
    obtain ⟨hcalls, hecho⟩ := perform_calls step ih.2
    rw [afterSteps_concat, filterMap_concat, ← ih.1]
    exact ⟨hcalls, hecho⟩

/-- As long as variables are open, the store is what the history of each name makes. -/
theorem find?_afterSteps (h : .withhold ∉ steps) (name : String) :
    (afterSteps steps).find? name = shown? name steps := by
  induction steps using List.reverseRecOn with
  | nil => rfl
  | append_singleton steps step ih =>
    have hmem : .withhold ∉ steps := fun hm => h (List.mem_append_left _ hm)
    have hw : (afterSteps steps).withholds = false := by
      rw [withholds_afterSteps, decide_eq_false hmem]
    rw [afterSteps_concat]
    by_cases hn : step.name? = some name
    · rw [(perform_own hn hw).1, shown?_own hn, ih hmem]
    · rw [perform_other hn, shown?_other hn, ih hmem]

end Recorder

/-! ## What a handle shows -/

/-- The record of a variable with this text and these flags, as the game reads it. -/
structure Cvar.Shows (c : Cvar) (text : String) (flags : Int32) : Prop where
  string : ∀ default, Cvar.stringOr (some c) default = text
  flags : c.flags = flags
  value : ∀ default, Cvar.valueOr (some c) default =
    ((Number.Numeral.read .single (trim text.toList)).map Single.ofValue).getD 0
  modified : c.modified = 1

theorem shows_registered {text : String} (h : IsAscii text) (name : String) (flags : Int32) :
    (Cvar.registered name text flags).Shows text flags where
  string _ := ofNarrow_storedText_ascii h
  flags := rfl
  value _ := rfl
  modified := rfl

theorem CvarStep.value?_of_setting? {s : CvarStep} {name text : String}
    (h : s.setting? name = some text) : s.value? = some text := by
  cases s <;> simp_all [setting?, value?]

theorem CvarStep.value?_of_registration? {s : CvarStep} {name : String} {r : String × Int32}
    (h : s.registration? name = some r) : s.value? = some r.1 := by
  cases s <;> simp_all [registration?, value?]
  obtain ⟨-, rfl⟩ := h
  rfl

/-- A text shown is the text of one of the steps. -/
theorem isAscii_of_shownText? {name text : String} {steps : List CvarStep}
    (hp : ∀ s ∈ steps, s.IsPlain) (h : shownText? name steps = some text) : IsAscii text := by
  rcases Option.or_eq_some_iff.mp h with hl | ⟨-, hd⟩
  · obtain ⟨s, hs, hv⟩ := List.mem_filterMap.mp (List.mem_of_getLast? hl)
    exact hp s hs text (s.value?_of_setting? hv)
  · obtain ⟨r, hr, rfl⟩ := Option.map_eq_some_iff.mp hd
    obtain ⟨s, hs, hv⟩ := List.mem_filterMap.mp (List.mem_of_head? hr)
    exact hp s hs r.1 (s.value?_of_registration? hv)

/-- A stored variable shows what the history of its name says. -/
theorem shows_of_find? {steps : List CvarStep} {name : String} {c : Cvar} (hw : .withhold ∉ steps)
    (hp : ∀ s ∈ steps, s.IsPlain) (hf : (Recorder.afterSteps steps).find? name = some c) :
    ∃ text, shownText? name steps = some text ∧ c.Shows text (shownFlags name steps) := by
  rw [Recorder.find?_afterSteps hw, shown?] at hf
  obtain ⟨text, ht, rfl⟩ := Option.map_eq_some_iff.mp hf
  exact ⟨text, ht, shows_registered (isAscii_of_shownText? hp ht) _ _⟩

/-- Until variables are withheld, a call gives the variable that is stored, and what is stored shows
the history of its name; steps on other names do not change it. From then on a call gives none and
leaves the store alone. Every call is listed in order. -/
theorem cvar_store_follows_history :
    (∀ steps step name, .withhold ∉ steps → (∀ s ∈ steps ++ [step], s.IsPlain) →
      step.call?.isSome → step.name? = some name →
      ∃ c text, ((Recorder.afterSteps steps).perform step).1 = some c ∧
        (Recorder.afterSteps (steps ++ [step])).find? name = some c ∧
        shownText? name (steps ++ [step]) = some text ∧
        c.Shows text (shownFlags name (steps ++ [step]))) ∧
    (∀ steps name c, .withhold ∉ steps → (∀ s ∈ steps, s.IsPlain) →
      (Recorder.afterSteps steps).find? name = some c →
      ∃ text, shownText? name steps = some text ∧ c.Shows text (shownFlags name steps)) ∧
    (∀ (r : Recorder) step name, step.name? ≠ some name →
      (r.perform step).2.find? name = r.find? name) ∧
    (∀ steps step, .withhold ∈ steps → step.call?.isSome →
      ((Recorder.afterSteps steps).perform step).1 = none ∧
        (Recorder.afterSteps (steps ++ [step])).cvars = (Recorder.afterSteps steps).cvars) ∧
    ∀ steps, (Recorder.afterSteps steps).calls = steps.filterMap CvarStep.call? := by
  refine ⟨?_, fun _ _ _ => shows_of_find?, fun _ _ _ => Recorder.perform_other, ?_,
    fun steps => (Recorder.calls_afterSteps steps).1⟩
  · intro steps step name hw hp hc hn
    have hopen : (Recorder.afterSteps steps).withholds = false := by
      rw [Recorder.withholds_afterSteps, decide_eq_false hw]
    obtain ⟨c, hgiven, hstored⟩ := (Recorder.perform_own hn hopen).2 hc
    rw [← Recorder.afterSteps_concat] at hstored
    have hstep : step ≠ .withhold := by
      rintro rfl
      exact absurd hn nofun
    have hw' : .withhold ∉ steps ++ [step] := by simp [hw, hstep.symm]
    obtain ⟨text, ht, hshows⟩ := shows_of_find? hw' hp hstored
    exact ⟨c, text, hgiven, hstored, ht, hshows⟩
  · intro steps step hw hc
    have hheld : (Recorder.afterSteps steps).withholds = true := by
      rw [Recorder.withholds_afterSteps, decide_eq_true hw]
    rw [Recorder.afterSteps_concat]
    exact Recorder.perform_withheld hc hheld

/-- A variable that was set before it was registered twice shows the number eight; the same call
gives nothing when variables are withheld. -/
theorem cvar_store_follows_history_preset :
    (∃ c, ((Recorder.afterSteps [.preset "maxclients" " 8 ", .register "maxclients" "4" 16]).perform
        (.register "maxclients" "4" 4)).1 = some c ∧ c.Shows " 8 " 20 ∧
      ∀ default, Cvar.valueOr (some c) default = ⟨0x41000000⟩) ∧
    ((Recorder.afterSteps [.preset "maxclients" " 8 ", .withhold]).perform
      (.register "maxclients" "4" 4)).1 = none := by
  obtain ⟨given, -, -, withheld, -⟩ := cvar_store_follows_history
  obtain ⟨c, text, hc, -, ht, hshows⟩ :=
    given [.preset "maxclients" " 8 ", .register "maxclients" "4" 16]
      (.register "maxclients" "4" 4) "maxclients" (by decide) (by decide) rfl rfl
  obtain rfl : " 8 " = text := Option.some.inj ht
  have hv : ((Number.Numeral.read .single (trim " 8 ".toList)).map Single.ofValue).getD 0 =
      ⟨0x41000000⟩ := by
    decide +kernel
  refine ⟨⟨c, hc, hshows, fun default => ?_⟩, (withheld _ _ (by decide) rfl).1⟩
  rw [hshows.value default, hv]

end GameModule
