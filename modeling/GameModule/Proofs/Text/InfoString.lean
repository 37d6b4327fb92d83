import GameModule.Text.InfoString

/-!
# The fields of an info string

`Info.write` puts fields down as `\key\value\key\value`. As long as no key and no value has a
separator in it, reading finds exactly these fields again: a value is never taken for a key,
whatever stands where, and an empty key or value keeps its place. A lookup is therefore decided by
the list of fields alone. A last key without a value adds a field with the empty value, which is
what a missing key gives as well, so it changes no lookup.
-/
namespace GameModule.Text

/-! ## Pieces -/

section Pieces

variable {separator : Char} {piece : List Char}

theorem splitAt_of_not_mem (h : separator ∉ piece) : splitAt separator piece = [piece] := by
  induction piece with
  | nil => rfl
  | cons c cs ih =>
    have hc : c ≠ separator := Ne.symm (List.ne_of_not_mem_cons h)
    rw [splitAt, if_neg hc, ih (List.not_mem_of_not_mem_cons h)]

theorem splitAt_append (h : separator ∉ piece) (rest : List Char) :
    splitAt separator (piece ++ separator :: rest) = piece :: splitAt separator rest := by
  induction piece with
  | nil => rw [List.nil_append, splitAt, if_pos rfl]
  | cons c cs ih =>
    have hc : c ≠ separator := Ne.symm (List.ne_of_not_mem_cons h)
    rw [List.cons_append, splitAt, if_neg hc, ih (List.not_mem_of_not_mem_cons h)]

end Pieces

namespace Info

/-! ## Writing fields -/

/-- The notation of some fields. -/
def write : List (String × String) → String
  | [] => ""
  | (key, value) :: fields => "\\" ++ key ++ "\\" ++ value ++ write fields

/-- No key and no value has a separator in it. -/
def Plain (fields : List (String × String)) : Prop :=
  ∀ field ∈ fields, '\\' ∉ field.1.toList ∧ '\\' ∉ field.2.toList

instance (fields : List (String × String)) : Decidable (Plain fields) :=
  inferInstanceAs (Decidable (∀ field ∈ fields, _))

/-- What follows the fields: nothing, or one more key without a value. -/
def ending : Option String → List Char
  | none => []
  | some key => '\\' :: key.toList

/-- The pieces of some fields. -/
def pieces (fields : List (String × String)) : List (List Char) :=
  fields.flatMap fun field => [field.1.toList, field.2.toList]

/-- The fields as a reader sees them. -/
def seen (fields : List (String × String)) : List (List Char × List Char) :=
  fields.map fun field => (field.1.toList, field.2.toList)

section Write

variable {fields : List (String × String)} {last : Option String}

theorem toList_write_cons (field : String × String) (fields : List (String × String)) :
    (write (field :: fields)).toList =
      '\\' :: (field.1.toList ++ '\\' :: (field.2.toList ++ (write fields).toList)) := by
  simp [write]

/-- A piece, all fields after it and a last key come apart again. -/
theorem splitAt_write (hf : Plain fields) (hl : ∀ key ∈ last, '\\' ∉ key.toList)
    {piece : List Char} (hp : '\\' ∉ piece) :
    splitAt '\\' (piece ++ ((write fields).toList ++ ending last)) =
      piece :: (pieces fields ++ last.toList.map String.toList) := by
  induction fields generalizing piece with
  | nil =>
    cases last with
    | none =>
      have ht : piece ++ ((write []).toList ++ ending none) = piece := by simp [write, ending]
      rw [ht, splitAt_of_not_mem hp]
      rfl
    | some key =>
      have ht : piece ++ ((write []).toList ++ ending (some key)) =
          piece ++ '\\' :: key.toList := by
        simp [write, ending]
      rw [ht, splitAt_append hp, splitAt_of_not_mem (hl key rfl)]
      rfl
  | cons field fields ih =>
    obtain ⟨⟨hk, hv⟩, hrest⟩ := List.forall_mem_cons.mp hf
    have ht : piece ++ ((write (field :: fields)).toList ++ ending last) = piece ++ '\\' ::
        (field.1.toList ++ '\\' :: (field.2.toList ++ ((write fields).toList ++ ending last))) := by
      rw [toList_write_cons]
      simp
    rw [ht, splitAt_append hp, splitAt_append hk, ih hrest hv]
    rfl

theorem pairs_pieces (fields : List (String × String)) (last : Option String) :
    pairs (pieces fields ++ last.toList.map String.toList) =
      seen fields ++ last.toList.map fun key => (key.toList, []) := by
  induction fields with
  | nil => cases last <;> rfl
  | cons field fields ih =>
    show pairs (_ :: _ :: (pieces fields ++ _)) = _ :: (seen fields ++ _)
    rw [pairs, ih]

/-- What is read are the fields written; nothing at all reads as one empty field. -/
theorem fields_write (hf : Plain fields) (hl : ∀ key ∈ last, '\\' ∉ key.toList) (info : String)
    (hi : info.toList = (write fields).toList ++ ending last) :
    Info.fields info = seen fields ++ last.toList.map (fun key => (key.toList, [])) ∨
      Info.fields info = [([], [])] ∧ fields = [] := by
  rw [Info.fields, hi]
  cases fields with
  | cons field fields =>
    obtain ⟨⟨hk, hv⟩, hrest⟩ := List.forall_mem_cons.mp hf
    have hb : body ((write (field :: fields)).toList ++ ending last) =
        field.1.toList ++ '\\' :: (field.2.toList ++ ((write fields).toList ++ ending last)) := by
      rw [toList_write_cons]
      simp [body]
    refine Or.inl ?_
    rw [hb, splitAt_append hk, splitAt_write hrest hl hv]
    exact pairs_pieces (field :: fields) last
  | nil =>
    cases last with
    | none => exact Or.inr ⟨rfl, rfl⟩
    | some key =>
      have hb : body ((write []).toList ++ ending (some key)) = key.toList := by
        simp [write, ending, body]
      refine Or.inl ?_
      rw [hb, splitAt_of_not_mem (hl key rfl)]
      rfl

end Write

/-! ## Looking up -/

/-- The value of the first field with this key, empty if there is none. -/
def valueIn (fields : List (List Char × List Char)) (key : List Char) : List Char :=
  ((fields.find? (·.1 = key)).map (·.2)).getD []

theorem lookup_eq (info key : String) :
    lookup info key = String.ofList (valueIn (fields info) key.toList) := by
  unfold lookup valueIn
  cases (fields info).find? (·.1 = key.toList) <;> rfl

/-- A field with the empty value behind all others does not show. -/
theorem valueIn_append_empty (fields : List (List Char × List Char)) (keys : List (List Char))
    (key : List Char) :
    valueIn (fields ++ keys.map fun key => (key, [])) key = valueIn fields key := by
  unfold valueIn
  rw [List.find?_append]
  cases fields.find? (·.1 = key) with
  | some field => rfl
  | none =>
    rw [Option.none_or, Option.map_none, Option.getD_none]
    cases hk : (keys.map fun key => (key, ([] : List Char))).find? (·.1 = key) with
    | none => rfl
    | some field =>
      obtain ⟨k, -, rfl⟩ := List.mem_map.mp (List.mem_of_find?_eq_some hk)
      rfl

section Lookup

variable {fields : List (String × String)}

theorem lookup_write (hf : Plain fields) (last : Option String)
    (hl : ∀ key ∈ last, '\\' ∉ key.toList) {info : String}
    (hi : info.toList = (write fields).toList ++ ending last) (key : String) :
    lookup info key = String.ofList (valueIn (seen fields) key.toList) := by
  rw [lookup_eq]
  rcases fields_write hf hl info hi with h | ⟨h, rfl⟩
  · have ha := valueIn_append_empty (seen fields) (last.toList.map String.toList) key.toList
    rw [List.map_map] at ha
    rw [h]
    exact congrArg String.ofList ha
  · rw [h]
    exact congrArg String.ofList (valueIn_append_empty [] [[]] key.toList)

theorem valueIn_of_first {i : Nat} {key value : String} (h : fields[i]? = some (key, value))
    (hfirst : ∀ j < i, ∀ field, fields[j]? = some field → field.1 ≠ key) :
    valueIn (seen fields) key.toList = value.toList := by
  induction fields generalizing i with
  | nil => cases h
  | cons field fields ih =>
    cases i with
    | zero =>
      obtain rfl := Option.some.inj h
      simp [valueIn, seen]
    | succ i =>
      have hne : ¬ field.1.toList = key.toList := fun he =>
        hfirst 0 (Nat.succ_pos i) field rfl (String.toList_inj.mp he)
      have hrest := ih h fun j hj f hfj => hfirst (j + 1) (Nat.succ_lt_succ hj) f hfj
      rw [← hrest]
      simp [valueIn, seen, hne]

theorem valueIn_of_absent {key : String} (h : ∀ field ∈ fields, field.1 ≠ key) :
    valueIn (seen fields) key.toList = [] := by
  have hn : (seen fields).find? (·.1 = key.toList) = none := by
    refine List.find?_eq_none.mpr fun pair hp => ?_
    obtain ⟨field, hm, rfl⟩ := List.mem_map.mp hp
    rw [decide_eq_true_iff]
    exact fun he => h field hm (String.toList_inj.mp he)
  rw [valueIn, hn]
  rfl

end Lookup

/-- One leading separator is no part of the fields. -/
theorem lookup_separator {info : String} (h : info.toList.head? ≠ some '\\') (key : String) :
    lookup ("\\" ++ info) key = lookup info key := by
  have hb : body info.toList = info.toList := by
    unfold body
    split
    · next cs hcs => exact absurd (congrArg List.head? hcs) h
    · rfl
  have hs : body ("\\" ++ info).toList = info.toList := by simp [body]
  rw [lookup_eq, lookup_eq, fields, fields, hb, hs]

/-- A lookup gives the value of the first matching key and never takes a value for a key. Take any
fields without separators in them, in the notation. A key that some field has gives the value of
the first such field; any other key, one with a separator in it among them, gives the empty text. A
last key without a value changes no lookup, and is itself empty unless a field before it has this
key. A text without a leading separator reads the same with one. -/
theorem lookup_first_match (fields : List (String × String)) (last key : String)
    (hf : Plain fields) (hl : '\\' ∉ last.toList) :
    (∀ (i : Nat) (value : String), fields[i]? = some (key, value) →
      (∀ j < i, ∀ field, fields[j]? = some field → field.1 ≠ key) →
      lookup (write fields) key = value) ∧
    ((∀ field ∈ fields, field.1 ≠ key) → lookup (write fields) key = "") ∧
    ('\\' ∈ key.toList → lookup (write fields) key = "") ∧
    lookup (write fields ++ "\\" ++ last) key = lookup (write fields) key ∧
    ((∀ field ∈ fields, field.1 ≠ last) → lookup (write fields ++ "\\" ++ last) last = "") ∧
    ∀ info : String, info.toList.head? ≠ some '\\' →
      lookup ("\\" ++ info) key = lookup info key := by
  have hplain : ∀ k, lookup (write fields) k = String.ofList (valueIn (seen fields) k.toList) :=
    lookup_write hf none nofun (by simp [ending])
  have hlast : ∀ k, lookup (write fields ++ "\\" ++ last) k =
      String.ofList (valueIn (seen fields) k.toList) :=
    lookup_write hf (some last) (by simpa using hl) (by simp [ending])
  have habsent : ∀ k : String, (∀ field ∈ fields, field.1 ≠ k) →
      String.ofList (valueIn (seen fields) k.toList) = "" :=
    fun k hk => congrArg String.ofList (valueIn_of_absent hk)
  refine ⟨?_, ?_, ?_, (hlast key).trans (hplain key).symm, ?_,
    fun info hi => lookup_separator hi key⟩
  · intro i value hi hfirst
    rw [hplain, valueIn_of_first hi hfirst, String.ofList_toList]
  · intro hk
    rw [hplain, habsent key hk]
  · intro hk
    rw [hplain, habsent key fun field hm he => (hf field hm).1 (he ▸ hk)]
  · intro hk
    rw [hlast, habsent last hk]

/-- Among these fields `name` is a value, then a key twice, then a last key without a value. -/
theorem lookup_first_match_doubled :
    let fields := [("team", "name"), ("", "x"), ("name", "Ann"), ("name", "Bob")]
    Plain fields ∧ lookup (write fields) "name" = "Ann" ∧
      lookup (write fields ++ "\\name") "name" = "Ann" ∧ lookup (write fields) "x" = "" ∧
      lookup (write fields) "name\\Ann" = "" ∧ lookup ("\\" ++ "name\\Cy") "name" = "Cy" := by
  intro fields
  have hf : Plain fields := by decide
  obtain ⟨hname, -, -, hlast, -, hlead⟩ := lookup_first_match fields "name" "name" hf (by decide)
  have hfirst := hname 2 "Ann" rfl (by decide)
  refine ⟨hf, hfirst, ?_, ?_, ?_, ?_⟩
  · exact hlast.trans hfirst
  · exact (lookup_first_match fields "" "x" hf (by decide)).2.1 (by decide)
  · exact (lookup_first_match fields "" "name\\Ann" hf (by decide)).2.2.1 (by decide)
  · exact (hlead "name\\Cy" (by decide)).trans (by decide)

end Info

end GameModule.Text
