import GameModule.Proofs.Text.RoundTrip

/-!
# A buffer holds its last text and nothing else

Whatever a buffer held, one step leaves in it the characters of the step's text that fit, each as
its low byte, and zeros behind them. So the bytes after any steps are those of the last one. The
length, the test for emptiness and the text are three views of the bytes up to the first zero
byte, and agree on every buffer, also on one that is full and has no zero byte, or that holds bytes
behind its first one.
-/
namespace GameModule.Text

/-! ## Steps -/

inductive BufferStep where
  | store (s : String)
  /-- A new buffer made from a text takes the place of the old one. -/
  | replace (s : String)
  | clear

/-- The text that a step leaves in a buffer, as far as it fits. -/
def BufferStep.text : BufferStep → String
  | .store s => s
  | .replace s => s
  | .clear => ""

namespace Buffer

variable {n : Nat}

def step (b : Buffer n) : BufferStep → Buffer n
  | .store s => b.store s
  | .replace s => ofText s
  | .clear => b.clear

def run (b : Buffer n) (steps : List BufferStep) : Buffer n := steps.foldl step b

theorem run_concat (b : Buffer n) (steps : List BufferStep) (last : BufferStep) :
    b.run (steps ++ [last]) = (b.run steps).step last := by
  rw [run, List.foldl_append]
  rfl

theorem eq_of_bytes {b c : Buffer n} (h : b.bytes = c.bytes) : b = c := by
  cases b
  cases c
  cases h
  rfl

/-! ## The bytes after a step -/

/-- The low bytes of these characters, filled up with zeros to `n` bytes. -/
def filled (n : Nat) (cs : List Char) : Bytes :=
  cs.map lowByte ++ List.replicate (n - cs.length) 0

theorem bytes_store_eq (b : Buffer n) (s : String) :
    (b.store s).bytes = filled n (s.toList.take n) := by
  have hz : n - fitting n s = n - (s.toList.take n).length := by
    rw [List.length_take, String.length_toList, fitting]
  rw [bytes_store, ascii, ← List.map_take, hz, filled]

theorem bytes_step (b : Buffer n) (step : BufferStep) :
    (b.step step).bytes = filled n (step.text.toList.take n) := by
  cases step with
  | store s => exact bytes_store_eq b s
  | replace s => exact bytes_store_eq empty s
  | clear =>
    show b.bytes.map (fun _ => 0) = filled n ([].take n)
    rw [List.map_const', b.length_eq, List.take_nil]
    rfl

/-- Every step is as good as storing its text. -/
theorem step_eq_store (b c : Buffer n) (step : BufferStep) : b.step step = c.store step.text :=
  eq_of_bytes ((bytes_step b step).trans (bytes_store_eq c step.text).symm)

/-! ## The views -/

theorem findIdx?_zero (bs : Bytes) :
    (bs.findIdx? (· = 0)).getD bs.length = (untilZero bs).length := by
  induction bs with
  | nil => rfl
  | cons b bs ih =>
    by_cases hb : b = 0
    · simp [untilZero, List.findIdx?_cons, hb]
    · have hu : untilZero (b :: bs) = b :: untilZero bs :=
        List.takeWhile_cons_of_pos (decide_eq_true hb)
      rw [hu, List.findIdx?_cons, if_neg (by simpa using hb), List.length_cons, List.length_cons,
        ← ih]
      cases bs.findIdx? (· = 0) <;> rfl

theorem length_eq_untilZero (b : Buffer n) : b.length = (untilZero b.bytes).length := by
  rw [length, ← findIdx?_zero, b.length_eq]

theorem length_text (b : Buffer n) : b.text.length = b.length := by
  rw [text, ofNarrow, String.length_ofList, List.length_map, length_eq_untilZero]

theorem length_le (b : Buffer n) : b.length ≤ n := by
  have hp : untilZero b.bytes <+: b.bytes := List.takeWhile_prefix _
  have hle := hp.length_le
  rwa [b.length_eq, ← length_eq_untilZero] at hle

theorem isEmpty_iff (b : Buffer n) : b.isEmpty = true ↔ b.text = "" := by
  rw [isEmpty, decide_eq_true_iff, ← length_text, String.length_eq_zero_iff]

/-- The characters that fit, up to the first one with a zero low byte, folded into bytes. -/
theorem text_store_eq (b : Buffer n) (s : String) :
    (b.store s).text = String.ofList ((sent (s.toList.take n)).map fold) := by
  have hf : ofByte ∘ lowByte = fold := funext ofByte_lowByte_eq_fold
  rw [text_store, ofNarrow, ascii, ← List.map_take, untilZero_map_lowByte, List.map_map, hf]

theorem store_text (b c : Buffer n) : (c.store b.text).text = b.text := by
  have hl : b.text.toList.length ≤ n := by
    rw [String.length_toList, length_text]
    exact b.length_le
  have hn : IsNarrow b.text := isNarrow_ofNarrow b.bytes
  rw [text_store_narrow c hn, List.take_of_length_le hl, String.ofList_toList]

/-- Narrow texts can be told apart as far as they fit. -/
theorem store_eq_iff {s t : String} (hs : IsNarrow s) (ht : IsNarrow t) (b c : Buffer n) :
    b.store s = c.store t ↔ (b.store s).text = (c.store t).text := by
  constructor
  · exact congrArg text
  · intro h
    rw [text_store_narrow b hs, text_store_narrow c ht, String.ofList_inj] at h
    apply eq_of_bytes
    rw [bytes_store_eq, bytes_store_eq, h]

end Buffer

/-- A buffer has no memory of earlier texts, and its views agree. On every buffer the length is the
number of characters of the text and at most the capacity, emptiness means the empty text, and
storing the text back changes neither of them. A new buffer holds zeros. After any steps the bytes
and the text are those of the last step alone; and of two buffers last given narrow texts, equal
texts mean equal bytes. -/
theorem buffer_holds_last_step (n : Nat) :
    (∀ b : Buffer n, b.length = b.text.length ∧ b.length ≤ n ∧ (b.isEmpty = true ↔ b.text = "") ∧
      (b.store b.text).text = b.text ∧ (b.store b.text).length = b.length) ∧
    (Buffer.empty : Buffer n).bytes = List.replicate n 0 ∧
    ∀ (b : Buffer n) (steps : List BufferStep) (last : BufferStep),
      (b.run (steps ++ [last])).bytes = (last.text.toList.take n).map lowByte ++
        List.replicate (n - min n last.text.length) 0 ∧
      (b.run (steps ++ [.clear])).bytes = List.replicate n 0 ∧
      (b.run (steps ++ [last])).text = String.ofList ((sent (last.text.toList.take n)).map fold) ∧
      ∀ (c : Buffer n) (others : List BufferStep) (final : BufferStep),
        IsNarrow last.text → IsNarrow final.text →
        (b.run (steps ++ [last]) = c.run (others ++ [final]) ↔
          (b.run (steps ++ [last])).text = (c.run (others ++ [final])).text) := by
  refine ⟨fun b => ⟨b.length_text.symm, b.length_le, b.isEmpty_iff, b.store_text b, ?_⟩, rfl,
    fun b steps last => ⟨?_, ?_, ?_, fun c others final hl hf => ?_⟩⟩
  · rw [← Buffer.length_text, b.store_text b, b.length_text]
  · rw [Buffer.run_concat, Buffer.bytes_step, Buffer.filled, List.length_take,
      String.length_toList]
  · rw [Buffer.run_concat, Buffer.bytes_step, BufferStep.text, Buffer.filled]
    simp
  · rw [Buffer.run_concat, Buffer.step_eq_store _ .empty, Buffer.text_store_eq]
  · rw [Buffer.run_concat, Buffer.run_concat, Buffer.step_eq_store _ .empty,
      Buffer.step_eq_store (c.run others) .empty]
    exact Buffer.store_eq_iff hl hf _ _

/-- Two full buffers with different pasts and different texts that agree as far as they fit. -/
theorem buffer_holds_last_step_full :
    let b : Buffer 4 := Buffer.empty.run ([.store "longer", .clear] ++ [.store "éabcde"])
    let c : Buffer 4 := Buffer.empty.run ([.store "x"] ++ [.replace "éabcXYZ"])
    IsNarrow "éabcde" ∧ IsNarrow "éabcXYZ" ∧ b.bytes = [0xe9, 0x61, 0x62, 0x63] ∧
      b.length = 4 ∧ b.text = "éabc" ∧ b = c := by
  intro b c
  have hb : IsNarrow "éabcde" := by decide
  have hc : IsNarrow "éabcXYZ" := by decide
  obtain ⟨hviews, -, hrun⟩ := buffer_holds_last_step 4
  obtain ⟨hbytes, -, htext, hsame⟩ :=
    hrun .empty [.store "longer", .clear] (.store "éabcde")
  have ht : b.text = "éabc" := htext.trans (by decide)
  have ht' : c.text = "éabc" :=
    (hrun .empty [.store "x"] (.replace "éabcXYZ")).2.2.1.trans (by decide)
  refine ⟨hb, hc, hbytes.trans (by decide), ?_, ht, ?_⟩
  · exact (hviews b).1.trans (by rw [ht]; decide)
  · exact (hsame .empty [.store "x"] (.replace "éabcXYZ") hb hc).mpr (ht.trans ht'.symm)

end GameModule.Text
