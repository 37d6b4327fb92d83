import GameModule.Host.Canned
import GameModule.Host.Recorder
import GameModule.Proofs.Text.RoundTrip
import Mathlib.Data.List.Basic

/-!
# Texts of console variables

A host is given the text of a variable as one byte per character and shows it in the same way. A
recorder keeps the text in UTF-8 instead, and the game reads that one character per byte. The two
agree on ASCII; every other narrow character comes back from the recorder as the two characters
that its two bytes stand for.
-/
namespace GameModule

open Text

/-! ## UTF-8 read one character per byte -/

/-- Every character is in ASCII, and none is zero. -/
def IsAscii (s : String) : Prop := ∀ c ∈ s.toList, 0 < c.toNat ∧ c.toNat < 0x80

instance (s : String) : Decidable (IsAscii s) :=
  List.decidableBAll (fun c : Char => 0 < c.toNat ∧ c.toNat < 0x80) s.toList

theorem IsAscii.isNarrow {s : String} (h : IsAscii s) : IsNarrow s := fun c hc =>
  ⟨(h c hc).1, Nat.lt_trans (h c hc).2 (by decide)⟩

theorem utf8EncodeChar_ascii {c : Char} (h : c.toNat < 0x80) :
    String.utf8EncodeChar c = [lowByte c] := if_pos (Nat.le_of_lt_succ h)

theorem utf8EncodeChar_accented {c : Char} (h : 0x80 ≤ c.toNat) (h' : c.toNat < 256) :
    String.utf8EncodeChar c =
      [UInt8.ofNat (0xC0 + c.toNat / 64), UInt8.ofNat (0x80 + c.toNat % 64)] := by
  have hv : c.val.toNat = c.toNat := rfl
  have hq : c.toNat / 64 % 32 + 192 = 0xC0 + c.toNat / 64 := by omega
  simp only [String.utf8EncodeChar, hv]
  rw [if_neg (by omega), if_pos (by omega), hq, Nat.add_comm (c.toNat % 64)]

/-- The characters that the UTF-8 bytes of a narrow character stand for. -/
def spelled (c : Char) : List Char :=
  if c.toNat < 0x80 then [c]
  else [Char.ofNat (0xC0 + c.toNat / 64), Char.ofNat (0x80 + c.toNat % 64)]

theorem ofByte_ofNat {n : Nat} (h : n < 256) : ofByte (UInt8.ofNat n) = Char.ofNat n := by
  rw [ofByte, UInt8.toNat_ofNat_of_lt' h]

theorem map_utf8EncodeChar {c : Char} (h : c.toNat < 256) :
    (String.utf8EncodeChar c).map ofByte = spelled c := by
  unfold spelled
  split
  · next ha => rw [utf8EncodeChar_ascii ha, List.map_singleton, ofByte_lowByte h]
  · next ha =>
    rw [utf8EncodeChar_accented (Nat.le_of_not_lt ha) h, List.map_cons, List.map_singleton,
      ofByte_ofNat (by omega), ofByte_ofNat (by omega)]

theorem nulFree_utf8EncodeChar {c : Char} (h0 : 0 < c.toNat) (h : c.toNat < 256) :
    NulFree (String.utf8EncodeChar c) := by
  have hne : ∀ n, 0 < n → n < 256 → UInt8.ofNat n ≠ 0 := by
    intro n hpos hlt hz
    have hn : n = 0 := by rw [← UInt8.toNat_ofNat_of_lt' hlt, hz]; rfl
    omega
  intro b hb
  by_cases ha : c.toNat < 0x80
  · rw [utf8EncodeChar_ascii ha, List.mem_singleton] at hb
    exact hb ▸ hne _ h0 h
  · rw [utf8EncodeChar_accented (Nat.le_of_not_lt ha) h, List.mem_cons, List.mem_singleton] at hb
    rcases hb with rfl | rfl
    · exact hne _ (by omega) (by omega)
    · exact hne _ (by omega) (by omega)

variable {s : String}

theorem ofNarrow_storedText (h : IsNarrow s) :
    ofNarrow (storedText s) = String.ofList (s.toList.flatMap spelled) := by
  have hz : ¬ s.toList.any (·.toNat = 0) = true := by
    rw [List.any_eq_true]
    rintro ⟨c, hc, h0⟩
    exact absurd (of_decide_eq_true h0) (Nat.ne_of_gt (h c hc).1)
  have hn : NulFree (s.toList.flatMap String.utf8EncodeChar) := by
    intro b hb
    obtain ⟨c, hc, hb⟩ := List.mem_flatMap.mp hb
    exact nulFree_utf8EncodeChar (h c hc).1 (h c hc).2 b hb
  rw [storedText, if_neg hz, ofNarrow, untilZero_eq_self hn, List.map_flatMap]
  congr 1
  exact List.flatMap_congr fun c hc => map_utf8EncodeChar (h c hc).2

/-- Every character outside ASCII makes the text one longer. -/
theorem length_flatMap_spelled (cs : List Char) :
    (cs.flatMap spelled).length = cs.length + cs.countP (0x80 ≤ ·.toNat) := by
  induction cs with
  | nil => rfl
  | cons c cs ih =>
    rw [List.flatMap_cons, List.length_append, ih, List.countP_cons, List.length_cons]
    unfold spelled
    split
    · next ha =>
      rw [if_neg (by simpa using ha), List.length_singleton]
      omega
    · next ha =>
      rw [if_pos (by simpa using ha)]
      show 2 + _ = _
      omega

theorem ofList_flatMap_spelled_eq_iff :
    String.ofList (s.toList.flatMap spelled) = s ↔ ∀ c ∈ s.toList, c.toNat < 0x80 := by
  constructor
  · intro h
    have hl := length_flatMap_spelled s.toList
    have he : s.toList.flatMap spelled = s.toList := by
      rw [← String.toList_ofList (l := s.toList.flatMap spelled), h]
    rw [he] at hl
    have h0 : s.toList.countP (0x80 ≤ ·.toNat) = 0 := by omega
    intro c hc
    simpa using List.countP_eq_zero.mp h0 c hc
  · intro h
    have he : s.toList.flatMap spelled = s.toList := by
      refine (List.flatMap_congr fun c hc => if_pos (h c hc)).trans ?_
      exact List.flatMap_singleton' s.toList
    rw [he, String.ofList_toList]

/-- ASCII comes back as it was stored. -/
theorem ofNarrow_storedText_ascii (h : IsAscii s) : ofNarrow (storedText s) = s := by
  rw [ofNarrow_storedText h.isNarrow, ofList_flatMap_spelled_eq_iff]
  exact fun c hc => (h c hc).2

/-! ## The two ways to a variable -/

/-- The host registers a variable with the bytes it is given. -/
def KeepsText (reply : (c : HostCall Bytes) → c.Reply) : Prop :=
  ∀ name value flags, ∃ c : Cvar, reply (.cvar name value flags) = some c ∧ c.string = some value

section

variable {σ : Type} (state : σ) (name : String) (flags : Int32)

theorem cvarString_converse {reply : (c : HostCall Bytes) → c.Reply} (h : KeepsText reply) :
    ((Activity.cvarString name s flags state).converse reply).2 = ofNarrow (toNarrow s) := by
  obtain ⟨c, hr, hs⟩ := h (toNarrow name) (toNarrow s) flags
  show Cvar.stringOr (reply (.cvar (toNarrow name) (toNarrow s) flags)) s = _
  rw [hr, Cvar.stringOr, Option.bind_some, hs]

theorem cvarString_record :
    ((Activity.cvarString name s flags state).record .fresh).result = ofNarrow (storedText s) := rfl

/-- Registered with a host that keeps its bytes, a narrow text is read back as it is. Registered
with a recorder it is read back with its characters outside ASCII spelled in two, so as it is only
if it has none. -/
theorem cvar_text_read_back (hs : IsNarrow s) :
    (∀ reply, KeepsText reply →
      ((Activity.cvarString name s flags state).converse reply).2 = s) ∧
    ((Activity.cvarString name s flags state).record .fresh).result =
      String.ofList (s.toList.flatMap spelled) ∧
    (((Activity.cvarString name s flags state).record .fresh).result = s ↔
      ∀ c ∈ s.toList, c.toNat < 0x80) := by
  refine ⟨fun reply h => ?_, ?_, ?_⟩
  · rw [cvarString_converse state name flags h, ofNarrow_toNarrow_eq_iff]
    exact hs
  · rw [cvarString_record, ofNarrow_storedText hs]
  · rw [cvarString_record, ofNarrow_storedText hs, ofList_flatMap_spelled_eq_iff]

end

/-- A host that registers every variable as it is told. -/
def keeper : (c : HostCall Bytes) → c.Reply
  | .cvar name value flags => some ⟨some name, some value, flags, 1, 0⟩
  | c => CannedHost.reply ⟨0, 0, 0, .miss, [], 0, 0, [], 0, none, []⟩ c

theorem cvar_text_read_back_plain :
    ((Activity.cvarString "hostname" "café" 0 ()).converse keeper).2 = "café" ∧
    ((Activity.cvarString "hostname" "cafe" 0 ()).record .fresh).result = "cafe" := by
  have hk : KeepsText keeper := fun _ _ _ => ⟨_, rfl, rfl⟩
  have ha : IsAscii "cafe" := by decide
  exact ⟨(cvar_text_read_back () "hostname" 0 (by decide)).1 keeper hk,
    (cvar_text_read_back () "hostname" 0 (by decide)).2.2.mpr fun c hc => (ha c hc).2⟩

/-- A recorder does not give back an accented letter. -/
theorem cvar_text_of_accented_letter :
    IsNarrow "é" ∧ ((Activity.cvarString "hostname" "é" 0 ()).record .fresh).result = "Ã©" ∧
      "Ã©" ≠ "é" := by
  refine ⟨by decide, ?_, by decide⟩
  rw [cvarString_record]
  decide +kernel

end GameModule
