import Mathlib.Data.List.Infix
import Mathlib.Logic.Function.Basic
import SharedCounter.Failure
import SharedCounter.Proofs.Text.Quoted

/-!
# What is reported of failures can be read back

* `CrashWording.Tells` : the message of a panic can be told from the words for it. With any numbers of
  tasks it can (`CrashWording.tells_numbered`);
* `Text.readLoss?` : the number and the names in a text that frames them with fixed words
  (`Text.readLoss?_frame`);
* `RunError.readMessage?`, `RunError.readDisplay?` : the two texts that tell of lost completions;
* `RunError.completionLost_readable` : either of them tells how many completions are missing and
  who is pending, so no two losses share a text.
-/

namespace SharedCounter

namespace CrashWording

/-- The message of a panic can be told from the words for it. -/
def Tells (wording : CrashWording) : Prop := ∀ e, Function.Injective (wording e)

theorem tells_numbered (task : Effect → String) : (numbered task).Tells := by
  intro e m m' same
  cases m with
  | some m =>
    cases m' with
    | some m' =>
      have quoted : Text.quote m = Text.quote m' := by
        simpa [numbered, ← String.toList_inj] using same
      rw [Text.quote_injective quoted]
    | none => simp [numbered, ← String.toList_inj] at same
  | none =>
    cases m' with
    | some m' => simp [numbered, ← String.toList_inj] at same
    | none => rfl

end CrashWording

/-- The number and the names in a text that begins with `opening` and has `middle` between them. -/
def Text.readLoss? (opening middle text : String) : Option (Nat × List String) :=
  (text.toList.dropPrefix? opening.toList).bind fun cs =>
    let count := readDigits 10 0 cs
    (count.2.dropPrefix? middle.toList).bind fun cs =>
      (readList? cs).bind fun names => if names.2 = [] then some (count.1, names.1) else none

/-- The number ends where the words after it begin. -/
theorem Text.readLoss?_frame {opening middle : String}
    (stops : ∃ c words, middle.toList = c :: words ∧ digit? 10 c = none) (n : Nat)
    (names : List String) :
    readLoss? opening middle (opening ++ toString n ++ middle ++ quoteList names)
      = some (n, names) := by
  obtain ⟨c, words, begins, stop⟩ := stops
  have digits := readDigits_toDigits (b := 10) (by decide) (by decide) n
    (middle.toList ++ (quoteList names).toList)
  rw [begins, List.cons_append, readDigits_of_none stop, ← List.cons_append, ← begins] at digits
  have list := readList?_quoteList names []
  rw [List.append_nil] at list
  unfold readLoss?
  simp only [String.toList_append, List.append_assoc, Nat.toString_eq_repr, Nat.toList_repr,
    List.dropPrefix?_append_of_beq _ (BEq.refl _), Option.bind_some, digits, list, if_true]

namespace RunError

/-- What a message tells of lost completions. -/
def readMessage? : String → Option (Nat × List String) :=
  Text.readLoss? "completion lost: remaining=" " pending="

/-- What a sentence tells of lost completions. -/
def readDisplay? : String → Option (Nat × List String) :=
  Text.readLoss? "completion channel closed with " " producer(s) outstanding; pending: "

theorem readMessage?_message (n : Nat) (names : List String) :
    readMessage? (completionLost n names).message = some (n, names) :=
  Text.readLoss?_frame ⟨' ', "pending=".toList, by decide, by decide⟩ n names

theorem readDisplay?_display (n : Nat) (names : List String) :
    readDisplay? (completionLost n names).display = some (n, names) :=
  Text.readLoss?_frame
    ⟨' ', "producer(s) outstanding; pending: ".toList, by decide, by decide⟩ n names

/-- Both the message and the sentence tell how many completions are missing and who is pending,
whatever stands in the names, and are therefore different for different losses. -/
theorem completionLost_readable (n m : Nat) (names others : List String) :
    readMessage? (completionLost n names).message = some (n, names) ∧
    readDisplay? (completionLost n names).display = some (n, names) ∧
    ((completionLost n names).message = (completionLost m others).message
      ↔ n = m ∧ names = others) ∧
    ((completionLost n names).display = (completionLost m others).display
      ↔ n = m ∧ names = others) := by
  refine ⟨readMessage?_message n names, readDisplay?_display n names, ⟨fun same => ?_, ?_⟩,
    ⟨fun same => ?_, ?_⟩⟩
  · have read := readMessage?_message m others
    rw [← same, readMessage?_message] at read
    simpa using read
  · rintro ⟨rfl, rfl⟩
    rfl
  · have read := readDisplay?_display m others
    rw [← same, readDisplay?_display] at read
    simpa using read
  · rintro ⟨rfl, rfl⟩
    rfl

end RunError

end SharedCounter
