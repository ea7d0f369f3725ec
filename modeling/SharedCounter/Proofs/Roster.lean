import Mathlib.Data.List.Induction
import Mathlib.Data.List.Sort
import Mathlib.Tactic.Common
import SharedCounter.Roster

/-!
# A roster has the names whose last word is that they start

* `nameBytes` : a name as it is compared. The order of names is the order of their UTF-8 bytes
  (`nameBytes_lt`);
* `lastWord` : what the events say last of a name, of the two words that count: that it starts, or
  that it has finished;
* `Roster.mem_ofEvents` : a name is on the roster if its last word is that it starts;
* `Roster.pairwise_ofEvents` : the names are increasing, so none of them is there twice;
* `Roster.ofEvents_congr` : the last words decide the roster. So it is the same for all histories in
  which each name comes to the same (`Roster.alive_of_history`).
-/

namespace SharedCounter

/-! ## Names as bytes -/

/-- The UTF-8 bytes of a name. -/
def nameBytes (name : String) : List UInt8 := name.toUTF8.data.toList

theorem nameBytes_eq (name : String) :
    nameBytes name = name.toList.flatMap String.utf8EncodeChar := by
  have bytes : (String.ofList name.toList).toByteArray.data.toList
      = name.toList.flatMap String.utf8EncodeChar := by
    rw [String.toByteArray_ofList, List.utf8Encode, List.data_toByteArray]
  rw [String.ofList_toList] at bytes
  exact bytes

/-- The bytes of the smaller character are smaller, whatever follows. The ranges of the leading bytes
do not overlap, and within a range the digits to the base 64 decide. -/
theorem encode_append_lt {c d : Char} (h : c < d) (s t : List UInt8) :
    String.utf8EncodeChar c ++ s < String.utf8EncodeChar d ++ t := by
  have less : c.val.toNat < d.val.toNat := h
  have small : d.val.toNat < 0x110000 := d.valid.elim (by omega) (by omega)
  have third : ∀ k : Nat, k / 4096 = k / 64 / 64 := fun k =>
    (Nat.div_div_eq_div_mul k 64 64).symm
  have fourth : ∀ k : Nat, k / 262144 = k / 64 / 64 / 64 := fun k => by
    rw [Nat.div_div_eq_div_mul, Nat.div_div_eq_div_mul]
  unfold String.utf8EncodeChar
  dsimp only
  generalize c.val.toNat = m at *
  generalize d.val.toNat = n at *
  repeat' split
  all_goals
    simp only [List.cons_append, List.nil_append, List.cons_lt_cons_iff, UInt8.lt_iff_toNat_lt,
      ← UInt8.toNat_inj, UInt8.toNat_ofNat', third, fourth]
    omega

theorem flatMap_encode_lt {as bs : List Char} (h : as < bs) :
    as.flatMap String.utf8EncodeChar < bs.flatMap String.utf8EncodeChar := by
  induction h with
  | @nil b bs =>
    rw [List.flatMap_cons]
    cases bytes : String.utf8EncodeChar b with
    | nil => exact absurd bytes String.utf8EncodeChar_ne_nil
    | cons x xs => exact List.nil_lt_cons _ _
  | rel less => exact encode_append_lt less _ _
  | cons _ ih =>
    rw [List.flatMap_cons, List.flatMap_cons]
    exact List.append_left_lt ih

/-- The order of names is the order of their bytes. -/
theorem nameBytes_lt {a b : String} (h : a < b) : nameBytes a < nameBytes b := by
  rw [nameBytes_eq, nameBytes_eq]
  have chars : a.toList < b.toList := h
  exact flatMap_encode_lt chars

/-! ## Last words -/

/-- The event says of a name that it starts or that it has finished. -/
def Event.SpeaksOf (name : String) (e : Event) : Prop :=
  e.producer = some name ∧ (e.kind = .producerStarting ∨ e.kind = .producerFinished)

instance (name : String) (e : Event) : Decidable (e.SpeaksOf name) :=
  inferInstanceAs (Decidable (_ ∧ _))

theorem Event.not_speaksOf_iff {name : String} {e : Event} : ¬ e.SpeaksOf name ↔
    (e.producer = some name → e.kind ≠ .producerStarting ∧ e.kind ≠ .producerFinished) := by
  simp only [SpeaksOf, not_and, not_or, ne_eq]

/-- What the events say last of a name. -/
def lastWord (name : String) (es : List Event) : Option EventKind :=
  (es.filter (·.SpeaksOf name)).getLast?.map Event.kind

variable {name : String} {es new : List Event} {e : Event} {r : Roster}

theorem lastWord_concat (name : String) (es : List Event) (e : Event) :
    lastWord name (es ++ [e]) = if e.SpeaksOf name then some e.kind else lastWord name es := by
  unfold lastWord
  rw [List.filter_append]
  by_cases speaks : e.SpeaksOf name
  · simp [speaks]
  · simp [speaks]

/-- Events of other kinds, and events about others, do not count. -/
theorem lastWord_append_of_silent (silent : ∀ e ∈ new, ¬ e.SpeaksOf name) :
    lastWord name (es ++ new) = lastWord name es := by
  have none_left : new.filter (·.SpeaksOf name) = [] :=
    List.filter_eq_nil_iff.mpr fun e he => by simpa using silent e he
  rw [lastWord, List.filter_append, none_left, List.append_nil, lastWord]

/-- The last word is spoken by an event after which nothing more is said of the name. -/
theorem lastWord_eq_some_iff {kind : EventKind} : lastWord name es = some kind ↔
    ∃ before e after, es = before ++ e :: after ∧ e.SpeaksOf name ∧ e.kind = kind ∧
      ∀ f ∈ after, ¬ f.SpeaksOf name := by
  constructor
  · intro said
    induction es using List.reverseRecOn with
    | nil => simp [lastWord] at said
    | append_singleton es e ih =>
      rw [lastWord_concat] at said
      split at said
      next speaks => exact ⟨es, e, [], rfl, speaks, Option.some.inj said, by simp⟩
      next silent =>
        obtain ⟨before, f, after, rfl, speaks, kind, rest⟩ := ih said
        refine ⟨before, f, after ++ [e], by simp, speaks, kind, fun g hg => ?_⟩
        rcases List.mem_append.mp hg with old | new
        · exact rest g old
        · exact List.mem_singleton.mp new ▸ silent
  · rintro ⟨before, e, after, rfl, speaks, rfl, silent⟩
    rw [List.append_cons, lastWord_append_of_silent silent, lastWord_concat, if_pos speaks]

namespace Roster

/-- An event about a name decides whether the name is on the roster, and no other event does. -/
theorem mem_update : name ∈ (r.update e).names ↔
    if e.SpeaksOf name then e.kind = .producerStarting else name ∈ r.names := by
  unfold update
  split
  next other about kind =>
    by_cases same : name = other
    · subst same
      have speaks : e.SpeaksOf name := ⟨about, .inl kind⟩
      simp [speaks, mem_enter, kind]
    · have silent : ¬ e.SpeaksOf name := fun speaks =>
        same (Option.some.inj (speaks.1.symm.trans about))
      simp [silent, mem_enter, same]
  next other about kind =>
    by_cases same : name = other
    · subst same
      have speaks : e.SpeaksOf name := ⟨about, .inr kind⟩
      simp [speaks, kind]
    · have silent : ¬ e.SpeaksOf name := fun speaks =>
        same (Option.some.inj (speaks.1.symm.trans about))
      simp [silent, same]
  next not_starting not_finished =>
    have silent : ¬ e.SpeaksOf name := by
      rintro ⟨about, kind | kind⟩
      · exact not_starting name about kind
      · exact not_finished name about kind
    rw [if_neg silent]

/-- A roster has the names whose last word is that they start. -/
theorem mem_ofEvents : name ∈ (ofEvents es).names ↔ lastWord name es = some .producerStarting := by
  induction es using List.reverseRecOn with
  | nil => simp [ofEvents, lastWord]
  | append_singleton es e ih =>
    have step : ofEvents (es ++ [e]) = (ofEvents es).update e := List.foldl_append ..
    rw [step, mem_update, lastWord_concat]
    split
    · simp
    · exact ih

theorem pairwise_enter {names : List String} (h : names.Pairwise (· < ·)) (name : String) :
    (enter name names).Pairwise (· < ·) := by
  induction names with
  | nil => exact List.pairwise_singleton ..
  | cons n ns ih =>
    obtain ⟨above, rest⟩ := List.pairwise_cons.mp h
    unfold enter
    split
    next before =>
      refine List.pairwise_cons.mpr ⟨fun x hx => ?_, h⟩
      rcases List.mem_cons.mp hx with rfl | later
      · exact before
      · exact String.lt_trans before (above x later)
    next not_before =>
      split
      · exact h
      next other =>
        refine List.pairwise_cons.mpr ⟨fun x hx => ?_, ih rest⟩
        rcases mem_enter.mp hx with rfl | later
        · exact String.not_le.mp fun le => other (String.le_antisymm le not_before)
        · exact above x later

theorem pairwise_update (h : r.names.Pairwise (· < ·)) (e : Event) :
    (r.update e).names.Pairwise (· < ·) := by
  unfold update
  split
  · exact pairwise_enter h _
  · exact h.filter _
  · exact h

/-- The names of a roster are increasing. -/
theorem pairwise_ofEvents (es : List Event) : (ofEvents es).names.Pairwise (· < ·) := by
  induction es using List.reverseRecOn with
  | nil => exact .nil
  | append_singleton es e ih =>
    have step : ofEvents (es ++ [e]) = (ofEvents es).update e := List.foldl_append ..
    rw [step]
    exact pairwise_update ih e

/-! ## Histories -/

variable {before after fs : List Event}

/-- An increasing list has no choice but its members, so last words are all that a roster keeps. -/
theorem ofEvents_congr (same : ∀ name, lastWord name es = lastWord name fs) :
    ofEvents es = ofEvents fs := by
  have names : (ofEvents es).names = (ofEvents fs).names := by
    refine (pairwise_ofEvents es).eq_of_mem_iff (pairwise_ofEvents fs) fun name => ?_
    rw [mem_ofEvents, mem_ofEvents, same]
  exact congrArg Roster.mk names

/-- The last word on a name is the last of the events that carry it. -/
theorem lastWord_filter (name : String) (es : List Event) :
    lastWord name (es.filter (·.producer = some name)) = lastWord name es := by
  have speaks : (es.filter (·.producer = some name)).filter (·.SpeaksOf name)
      = es.filter (·.SpeaksOf name) := by
    rw [List.filter_filter]
    refine List.filter_congr fun e _ => ?_
    by_cases about : e.producer = some name
    · simp [about]
    · simp [Event.SpeaksOf, about]
  rw [lastWord, speaks, lastWord]

/-- An event that speaks of nobody can be left out. -/
theorem ofEvents_of_silent (silent : ∀ name, ¬ e.SpeaksOf name) :
    ofEvents (before ++ e :: after) = ofEvents (before ++ after) := by
  refine ofEvents_congr fun name => ?_
  unfold lastWord
  rw [List.filter_append, List.filter_append, List.filter_cons_of_neg (by simpa using silent name)]

/-- A roster lists names in the increasing order of their bytes, none of them twice, and these are
the names of which some event tells that they start or have finished, the last one that they start.
Events that tell neither, or tell it of nobody, do not count, and neither does the order of events
about different names. -/
theorem alive_of_history (es : List Event) :
    (ofEvents es).names.Pairwise (nameBytes · < nameBytes ·) ∧
    (ofEvents es).names.Nodup ∧
    (∀ name, name ∈ (ofEvents es).names ↔
      ∃ before e after, es = before ++ e :: after ∧ e.producer = some name ∧
        e.kind = .producerStarting ∧ ∀ f ∈ after, f.producer = some name →
          f.kind ≠ .producerStarting ∧ f.kind ≠ .producerFinished) ∧
    (∀ before e after, es = before ++ e :: after →
      e.producer = none ∨ e.kind ≠ .producerStarting ∧ e.kind ≠ .producerFinished →
      ofEvents es = ofEvents (before ++ after)) ∧
    ∀ fs : List Event,
      (∀ name, fs.filter (·.producer = some name) = es.filter (·.producer = some name)) →
      ofEvents fs = ofEvents es := by
  refine ⟨(pairwise_ofEvents es).imp nameBytes_lt, (pairwise_ofEvents es).nodup, fun name => ?_, ?_,
    fun fs same => ofEvents_congr fun name => ?_⟩
  · rw [mem_ofEvents, lastWord_eq_some_iff]
    simp only [Event.not_speaksOf_iff]
    constructor
    · rintro ⟨before, e, after, split, speaks, kind, rest⟩
      exact ⟨before, e, after, split, speaks.1, kind, rest⟩
    · rintro ⟨before, e, after, split, about, kind, rest⟩
      exact ⟨before, e, after, split, ⟨about, .inl kind⟩, kind, rest⟩
  · rintro before e after rfl unspoken
    refine ofEvents_of_silent fun name speaks => ?_
    rcases unspoken with nobody | ⟨not_starting, not_finished⟩
    · exact nomatch nobody.symm.trans speaks.1
    · exact speaks.2.elim not_starting not_finished
  · rw [← lastWord_filter name fs, same name, lastWord_filter]

end Roster

end SharedCounter
