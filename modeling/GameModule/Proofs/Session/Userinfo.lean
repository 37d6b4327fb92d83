import GameModule.Proofs.Game.ClientCall
import GameModule.Proofs.Lifecycle.Journal
import GameModule.Proofs.Session.History
import GameModule.Proofs.Text.Narrow

/-!
# Stored settings are the last ones accepted

A session keeps the text of its client's settings and the name among them, in two buffers of
different size. Only valid settings are accepted, and a valid text is shorter than its buffer, so
it is stored whole; the name is a part of it and may be cut. Both buffers are filled up with zeros,
so nothing of earlier and longer texts remains. A refused call stores nothing.
-/
namespace GameModule

open Text (Bytes IsNarrow)

/-! ## The characters of a value -/

namespace Text

theorem mem_splitAt {separator : Char} {cs piece : List Char} (h : piece ∈ splitAt separator cs) :
    piece ⊆ cs := by
  induction cs generalizing piece with
  | nil =>
    obtain rfl := List.mem_singleton.mp h
    exact List.Subset.refl _
  | cons c cs ih =>
    rw [splitAt] at h
    split at h
    · rcases List.mem_cons.mp h with rfl | h
      · exact List.nil_subset _
      · exact List.subset_cons_of_subset c (ih h)
    · split at h
      · obtain rfl := List.mem_singleton.mp h
        exact List.cons_subset_cons c (List.nil_subset _)
      · next first pieces hs =>
        rcases List.mem_cons.mp h with rfl | h
        · exact List.cons_subset_cons c (ih (hs ▸ List.mem_cons_self))
        · exact List.subset_cons_of_subset c (ih (hs ▸ List.mem_cons_of_mem _ h))

namespace Info

theorem body_subset (cs : List Char) : body cs ⊆ cs := by
  unfold body
  split
  · exact List.subset_cons_self _ _
  · exact List.Subset.refl _

/-- A value is one of the pieces, or empty behind a last key. -/
theorem value_of_mem_pairs {pieces : List (List Char)} {field : List Char × List Char}
    (h : field ∈ pairs pieces) : field.2 ∈ pieces ∨ field.2 = [] := by
  fun_induction pairs pieces with
  | case1 key value rest ih =>
    rcases List.mem_cons.mp h with rfl | h
    · exact Or.inl (by simp)
    · exact (ih h).imp_left fun hm => by simp [hm]
  | case2 key =>
    obtain rfl := List.mem_singleton.mp h
    exact Or.inr rfl
  | case3 => cases h

theorem lookup_subset (info key : String) : (lookup info key).toList ⊆ info.toList := by
  unfold lookup
  split
  · next value hf =>
    rw [String.toList_ofList]
    rcases value_of_mem_pairs (List.mem_of_find?_eq_some hf) with hm | he
    · exact List.Subset.trans (mem_splitAt hm) (body_subset _)
    · change value = [] at he
      rw [he]
      exact List.nil_subset _
  · exact List.nil_subset _

theorem isNarrow_lookup {info : String} (h : IsNarrow info) (key : String) :
    IsNarrow (lookup info key) :=
  fun c hc => h c (lookup_subset info key hc)

end Info

end Text

/-! ## One session -/

/-- The settings of the last accepted call that brought any, empty if there was none. -/
def Accepted.userinfo (calls : Accepted) : String := (calls.findSome? ClientCall.info?).getD ""

/-- The buffers of a session hold these settings, and as much of the name among them as fits. -/
structure Session.Holds (s : Session) (info : String) : Prop where
  valid : Text.Info.isValid info = true
  userinfo : s.userinfo.text = info
  netname : s.netname.text = String.ofList ((Text.Info.lookup info "name").toList.take 16)

section Holds

variable {s s' : Session} {slot : Nat} {calls : Accepted}

theorem holds_blank : Session.blank.Holds "" where
  valid := by decide
  userinfo := Text.text_empty _
  netname := Text.text_empty _

/-- Valid settings are shorter than their buffer. -/
theorem length_of_isValid {info : String} (h : Text.Info.isValid info = true) :
    info.toList.length < Limits.infoString := by
  unfold Text.Info.isValid at h
  rw [Bool.and_eq_true, decide_eq_true_iff, ← String.length_toList] at h
  exact h.2

theorem holds_withUserinfo (s : Session) {info : String} (hn : IsNarrow info)
    (hv : Text.Info.isValid info = true) : (s.withUserinfo info).Holds info where
  valid := hv
  userinfo := by
    change (s.userinfo.store info).text = info
    rw [Text.text_store_narrow _ hn, List.take_of_length_le (Nat.le_of_lt (length_of_isValid hv)),
      String.ofList_toList]
  netname := Text.text_store_narrow _ (Text.Info.isNarrow_lookup hn "name")

theorem Session.after_of_ok {call : ClientCall String UserCommand}
    (ha : s.apply slot call = .ok s') :
    s' = s.after call ∧ ∀ info, call.info? = some info → Text.Info.isValid info = true := by
  rw [Session.apply_eq] at ha
  split at ha
  · split at ha
    · next hv =>
      cases ha
      refine ⟨rfl, fun info hi => ?_⟩
      rwa [hi, Option.all_some] at hv
    · cases ha
  · cases ha

/-- An accepted call stores the settings it brings, and leaves them alone if it brings none. -/
theorem Session.Holds.apply (h : s.Holds calls.userinfo) {call : ClientCall String UserCommand}
    (hn : ∀ info, call.info? = some info → IsNarrow info) (ha : s.apply slot call = .ok s') :
    s'.Holds (Accepted.userinfo (call :: calls)) := by
  obtain ⟨rfl, hv⟩ := Session.after_of_ok ha
  cases call with
  | connect info => exact holds_withUserinfo _ (hn info rfl) (hv info rfl)
  | userinfo info => exact holds_withUserinfo _ (hn info rfl) (hv info rfl)
  | _ => exact ⟨h.valid, h.userinfo, h.netname⟩

end Holds

/-! ## Along a log -/

/-- The userinfo a request carries. -/
def Request.info? {ε τ κ : Type} : Request ε τ κ → Option τ
  | .client _ call => call.info?
  | _ => none

theorem info?_of_acceptedCall? {config : Config} {place : Placement} {k : Nat} {r : GameRequest}
    {ok : Bool} {call : ClientCall String UserCommand}
    (h : acceptedCall? config place k (r, ok) = some call) : r.info? = call.info? := by
  unfold acceptedCall? at h
  split at h
  · next hr =>
    obtain ⟨rfl, -⟩ := Prod.mk.inj hr
    split at h
    · obtain rfl := Option.some.inj h
      rfl
    · cases h
  · cases h

theorem logged_holds {config : Config} {place : Placement} {log : List (GameRequest × Bool)}
    {g : Game} (h : Logged config place log g)
    (hn : ∀ entry ∈ log, ∀ info, entry.1.info? = some info → IsNarrow info) {k : Nat}
    (hk : k < config.maxClients) :
    ∃ s, g.sessions[k]? = some s ∧ s.Holds (acceptedFor config place k log).userinfo := by
  induction h with
  | opened => exact ⟨.blank, List.getElem?_replicate_of_lt hk, holds_blank⟩
  | wrote w _ ih =>
    rw [Game.written_sessions (.single ⟨w, rfl⟩)]
    exact ih hn
  | @carried log g g' ok r hl hc ih =>
    rw [List.forall_mem_cons] at hn
    obtain ⟨s, hs, hh⟩ := ih hn.2
    rcases hc with ⟨rfl, he⟩ | ⟨rfl, rfl⟩
    · rcases session_effect hl.shaped he hs with ⟨hs', hnone⟩ | ⟨call, s', hcall, ha, hs'⟩
      · rw [acceptedFor, List.filterMap_cons_none hnone]
        exact ⟨s, hs', hh⟩
      · rw [acceptedFor, List.filterMap_cons_some hcall]
        refine ⟨s', hs', hh.apply (fun info hi => ?_) ha⟩
        exact hn.1 info ((info?_of_acceptedCall? hcall).trans hi)
    · have hnone : acceptedCall? config place k (r, false) = none := by cases r <;> rfl
      rw [acceptedFor, List.filterMap_cons_none hnone]
      exact ⟨s, hs, hh⟩

/-- Texts of the host are narrow once they are decoded. -/
theorem isNarrow_decoded {r : HostRequest} {id : GameId} {place : Placement} {info : String}
    (h : (r.decode id place).info? = some info) : IsNarrow info := by
  cases r with
  | client ent call =>
    change (call.map _ _).info? = some info at h
    rw [ClientCall.info?_map] at h
    obtain ⟨text, -, rfl⟩ := Option.map_eq_some_iff.mp h
    exact Text.isNarrow_ofNarrow? text
  | _ => cases h

/-- Stored settings are valid, complete and in step with the name. At any moment of a run at which
the host has control, for every game it has made and every session of it: the stored settings are
valid, they are those of the last accepted call that brought any to the slot, character for
character, and empty if there was none, and the stored name is the first 16 characters of the name
among them. -/
theorem userinfo_of_last_accepted (exported : List String) (moves : List Move) (m : Machine)
    (id : GameId) (res : Resident) (k : Nat) (s : Session)
    (h : (Machine.initial exported).run moves = some m) (hi : m.games[id]? = some res)
    (hs : res.game.sessions[k]? = some s) :
    Text.Info.isValid s.userinfo.text = true ∧
    s.userinfo.text = (acceptedFor res.game.config res.game.place k
      ((Machine.initial exported).journal id moves)).userinfo ∧
    s.netname.text =
      String.ofList ((Text.Info.lookup s.userinfo.text "name").toList.take 16) := by
  obtain ⟨config, hl⟩ := run_logged h hi
  have hsh := hl.shaped
  have hk : k < config.maxClients := hsh.sessions ▸ (List.getElem?_eq_some_iff.mp hs).1
  have hn : ∀ entry ∈ (Machine.initial exported).journal id moves, ∀ info,
      entry.1.info? = some info → IsNarrow info := by
    intro entry he info hinfo
    obtain ⟨r, id', place, hd⟩ := Machine.journal_decoded he
    rw [hd] at hinfo
    exact isNarrow_decoded hinfo
  obtain ⟨s', hs', hh⟩ := logged_holds hl hn hk
  obtain rfl := Option.some.inj (hs'.symm.trans hs)
  rw [hsh.config_eq, hsh.place_eq, hh.userinfo]
  exact ⟨hh.valid, rfl, hh.netname⟩

/-- A client connects with a name that does not fit its buffer, and a change of its settings is
then refused because of a quote. -/
def longName : List Move :=
  let ent : HostHandle := .fromTable 0 280
  nestedRetirement.take 5 ++
    [.enter (.request (.client ent (.connect
        (some (Text.ascii "\\rate\\9\\name\\" ++ 0xff :: Text.ascii "ABCDEFGHIJKLMNOPQ"))))),
      .answer obligingHost,
      .enter (.request (.client ent (.userinfo (some (Text.ascii "\\name\\\""))))),
      .answer obligingHost, .answer obligingHost]

theorem userinfo_of_last_accepted_longName :
    ∃ (m : Machine) (res : Resident) (s : Session),
      (Machine.initial symbols).run longName = some m ∧ m.games[0]? = some res ∧
      res.game.sessions[0]? = some s ∧
      s.userinfo.text = "\\rate\\9\\name\\ÿABCDEFGHIJKLMNOPQ" ∧
      s.netname.text = "ÿABCDEFGHIJKLMNO" := by
  have hr : ((Machine.initial symbols).run longName).any fun m => m.games[0]?.any fun res =>
      res.game.sessions.length = 1 ∧ (acceptedFor res.game.config res.game.place 0
        ((Machine.initial symbols).journal 0 longName)).userinfo =
          "\\rate\\9\\name\\ÿABCDEFGHIJKLMNOPQ" := by
    decide +kernel
  obtain ⟨m, hm, hd⟩ := (Option.any_eq_true _ _).mp hr
  obtain ⟨res, hi, hd⟩ := (Option.any_eq_true _ _).mp hd
  obtain ⟨hlen, hinfo⟩ := of_decide_eq_true hd
  have hs := List.getElem?_eq_getElem (l := res.game.sessions) (i := 0) (by omega)
  obtain ⟨-, hu, hname⟩ := userinfo_of_last_accepted _ _ m 0 res 0 _ hm hi hs
  rw [hinfo] at hu
  rw [hu] at hname
  exact ⟨m, res, _, hm, hi, hs, hu, hname.trans (by decide)⟩

end GameModule
