import Mathlib.Algebra.GroupWithZero.Nat
import Mathlib.Data.List.Basic
import Mathlib.Data.List.Forall2
import SharedCounter.Desk
import SharedCounter.LogLine

/-!
# The lines of a log

* `Text.lines` : the lines that a text is read as. Texts that end with a newline are read one after
  the other (`Text.lines_append_newline`);
* `Event.entry` : what is written of an event before its last newline. It begins with the tag
  (`Event.tag_prefix_entry`), and its newlines are those of the texts that it shows
  (`Event.breaks_entry`);
* `log` : all that a log writer has written of a history;
* `lines_log`, `reads_as_written` : the lines of a log are those of its entries, and every event has
  one line of its own exactly when no text that is shown has a newline;
* `forges_line` : the message of a panic can look like a line about another event.
-/

namespace SharedCounter

namespace Text

/-- The newlines in a text. -/
def breaks (s : String) : Nat := s.toList.count '\n'

@[simp]
theorem breaks_append (s t : String) : breaks (s ++ t) = breaks s + breaks t := by
  simp [breaks]

/-- The finished lines of a text, each without the newline that ends it. -/
def lines (s : String) : List (List Char) := (s.toList.splitOn '\n').dropLast

theorem length_splitOn (c : Char) (cs : List Char) :
    (cs.splitOn c).length = cs.count c + 1 := by
  induction cs with
  | nil => rfl
  | cons d cs ih =>
    rw [List.splitOn_cons_eq_if_modifyHead, List.count_cons]
    split <;> simp [ih]

theorem length_lines (s : String) : (lines s).length = breaks s := by
  rw [lines, List.length_dropLast, length_splitOn, breaks, Nat.add_sub_cancel]

/-- A text that ends with a newline is read without regard to what follows. -/
theorem lines_append_newline {s : String} {cs : List Char} (ends : s.toList = cs ++ ['\n'])
    (t : String) : lines (s ++ t) = cs.splitOn '\n' ++ lines t := by
  have split : (s ++ t).toList = cs ++ '\n' :: t.toList := by simp [ends]
  rw [lines, split, List.splitOn_append_cons_self,
    List.dropLast_append_of_ne_nil (List.splitOn_ne_nil _ _), lines]

@[simp]
theorem breaks_repr (n : Nat) : breaks n.repr = 0 := by
  refine List.count_eq_zero.mpr fun h => ?_
  rw [Nat.toList_repr] at h
  exact absurd (Nat.isDigit_of_mem_toDigits (by decide) (by decide) h) (by decide)

@[simp]
theorem breaks_int (i : Int) : breaks i.repr = 0 := by
  cases i with
  | ofNat n => exact breaks_repr n
  | negSucc n =>
    rw [Int.repr, breaks_append, breaks_repr]
    decide

@[simp]
theorem breaks_phase (p : Phase) : breaks p.name = 0 := by cases p <;> decide

end Text

open Text

namespace Event

/-- The texts of an event that its line shows as they stand. -/
def texts (e : Event) : List String :=
  match e.kind with
  | .producerStarting | .producerFinished => e.producer.toList
  | .subscriberOverflow | .subscriberPanicked => e.producer.toList ++ e.reason.toList
  | _ => []

/-- What is written of an event before the newline that ends it: its tag and its two details. -/
def entry (e : Event) : String :=
  e.kind.tag ++ (" " ++ e.details.1.1 ++ "=" ++ detail e.details.1.2
    ++ " " ++ e.details.2.1 ++ "=" ++ detail e.details.2.2)

theorem logLine_eq (e : Event) : e.logLine = e.entry ++ "\n" := by
  simp only [logLine, entry, String.append_assoc]

theorem toList_logLine (e : Event) : e.logLine.toList = e.entry.toList ++ ['\n'] := by
  rw [logLine_eq, String.toList_append]
  rfl

theorem tag_prefix_entry (e : Event) : e.kind.tag.toList <+: e.entry.toList := by
  rw [entry, String.toList_append]
  exact List.prefix_append _ _

@[simp]
theorem breaks_tag (k : EventKind) : breaks k.tag = 0 := by cases k <;> decide

theorem breaks_labels (e : Event) :
    breaks e.details.1.1 = 0 ∧ breaks e.details.2.1 = 0 := by
  unfold details
  cases e.kind <;> simp [breaks]

theorem breaks_detail (o : Option String) : breaks (detail o) = (o.toList.map breaks).sum := by
  cases o with
  | none => decide
  | some s => simp [detail]

theorem breaks_details (e : Event) :
    breaks (detail e.details.1.2) + breaks (detail e.details.2.2) = (e.texts.map breaks).sum := by
  rw [breaks_detail, breaks_detail]
  unfold texts details
  cases e.kind with
  | producerStarting | producerFinished => cases e.count <;> simp
  | completionObserved => cases e.count <;> cases e.remaining <;> simp
  | drainStarted | drainFinished => cases e.count <;> cases e.phase <;> simp
  | counterReported => cases e.count <;> cases e.value <;> simp
  | subscriberOverflow | subscriberPanicked => simp

/-- The newlines in an entry are those of the texts that it shows. -/
theorem breaks_entry (e : Event) : breaks e.entry = (e.texts.map breaks).sum := by
  obtain ⟨label₁, label₂⟩ := e.breaks_labels
  have between : breaks " " = 0 ∧ breaks "=" = 0 := by decide
  rw [← breaks_details]
  simp only [entry, breaks_append, breaks_tag, label₁, label₂, between, Nat.zero_add, Nat.add_zero]

/-- No text that the line of an event shows has a newline. -/
def Plain (e : Event) : Prop := ∀ t ∈ e.texts, '\n' ∉ t.toList

theorem plain_iff {e : Event} : e.Plain ↔ breaks e.entry = 0 := by
  rw [breaks_entry, List.sum_eq_zero_iff_forall_eq_nat]
  simp [Plain, breaks, List.count_eq_zero]

end Event

open Event

/-- All that a log writer has written of a history. -/
def log (es : List Event) : String := String.join (es.map Event.logLine)

variable {es : List Event}

/-- The lines of a log are those of its entries: no line holds parts of two of them. -/
theorem lines_log (es : List Event) :
    lines (log es) = es.flatMap fun e => e.entry.toList.splitOn '\n' := by
  induction es with
  | nil => rfl
  | cons e es ih =>
    have first : log (e :: es) = e.logLine ++ log es := String.join_cons ..
    rw [first, lines_append_newline e.toList_logLine, ih, List.flatMap_cons]

theorem breaks_log (es : List Event) :
    breaks (log es) = es.length + ((es.flatMap texts).map breaks).sum := by
  rw [← length_lines, lines_log]
  induction es with
  | nil => rfl
  | cons e es ih =>
    have entry := e.breaks_entry
    rw [List.flatMap_cons, List.length_append, ih, length_splitOn, List.length_cons,
      List.flatMap_cons, List.map_append, List.sum_append]
    rw [breaks] at entry
    omega

/-- Each event of a history has a line of its own, when no text in it has a newline. -/
theorem lines_log_of_plain (plain : ∀ e ∈ es, e.Plain) :
    lines (log es) = es.map fun e => e.entry.toList := by
  rw [lines_log, List.map_eq_flatMap]
  refine List.flatMap_congr fun e he => ?_
  exact List.splitOn_eq_singleton (List.count_eq_zero.mp (plain_iff.mp (plain e he)))

/-- Otherwise there are more lines than events. -/
theorem plain_of_length (same : (lines (log es)).length = es.length) : ∀ e ∈ es, e.Plain := by
  rw [length_lines, breaks_log] at same
  have sum : ((es.flatMap texts).map breaks).sum = 0 := by omega
  have still := List.sum_eq_zero_iff_forall_eq_nat.mp sum
  intro e he t ht
  exact List.count_eq_zero.mp (still _ (List.mem_map_of_mem (List.mem_flatMap.mpr ⟨e, he, ht⟩)))

/-- What is written of an event begins with the tag of its kind and ends with a newline, and no line
holds parts of two events. The other newlines of a log are those of the texts that it shows: there
are as many lines as events, and the line of each event begins with its tag, exactly when there is
none. -/
theorem reads_as_written (es : List Event) :
    (∀ e : Event, e.logLine.toList = e.entry.toList ++ ['\n'] ∧
      e.kind.tag.toList <+: e.entry.toList) ∧
    lines (log es) = es.flatMap (fun e => e.entry.toList.splitOn '\n') ∧
    breaks (log es) = es.length + ((es.flatMap texts).map breaks).sum ∧
    ((lines (log es)).length = es.length ↔ ∀ e ∈ es, e.Plain) ∧
    (List.Forall₂ (fun e line => e.kind.tag.toList <+: line) es (lines (log es))
      ↔ ∀ e ∈ es, e.Plain) := by
  refine ⟨fun e => ⟨e.toList_logLine, e.tag_prefix_entry⟩, lines_log es, breaks_log es,
    ⟨plain_of_length, fun plain => ?_⟩, ⟨fun tagged => ?_, fun plain => ?_⟩⟩
  · rw [lines_log_of_plain plain, List.length_map]
  · exact plain_of_length tagged.length_eq.symm
  · rw [lines_log_of_plain plain, List.forall₂_map_right_iff, List.forall₂_same]
    exact fun e _ => e.tag_prefix_entry

/-- A subscriber that panics with a newline in its message has the log tell of an event that did not
happen. -/
theorem forges_line :
    let message := "boom\n[counter-reported] value=7 applied=0"
    let subscriber : Subscriber :=
      { name := "s", panicsOn := [.drainStarted], panicMode := .saying message }
    let report := Event.panicked "s" message
    Desk.State.step ⟨{ subscriber, queue := [⟨0, { kind := .drainStarted }⟩] }, []⟩
        = some ⟨{ subscriber }, [report]⟩ ∧
      log [report] = log [.panicked "s" "boom",
        { kind := .counterReported, value := some 7, count := some 0 }] ∧
      (lines (log [report])).length = 2 ∧ ¬ report.Plain := by
  refine ⟨by decide, by decide, ?_, ?_⟩
  · rw [length_lines]
    decide
  · rw [Event.plain_iff]
    decide

end SharedCounter
