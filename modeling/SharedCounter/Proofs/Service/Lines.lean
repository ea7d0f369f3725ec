import SharedCounter.Proofs.Coordinator.Books
import SharedCounter.Proofs.Service.Line

/-!
# The lines to a coordinator

* `Lines`, `Lines.inlets` : two signal lines and a completion line, handed over to a coordinator in
  one order or in the other (`flipped`);
* `Lines.signals` : a sum over the signal lines of one effect. It changes with one of the lines by
  what that line adds (`Lines.signals_setLine`);
* `Lines.buffered`, `Lines.acknowledged` : the signals of an effect that wait in buffers, and the
  sends of it that have come through. Acts balance them (`Lines.buffered_setLine`);
* `Lines.intake` : what was in the buffers at the hand-over, and what has been acknowledged since.
-/

namespace SharedCounter

namespace Side

/-- The other side, if the sides are flipped. -/
def flip (flipped : Bool) : Side → Side
  | .first => if flipped then .second else .first
  | .second => if flipped then .first else .second

end Side

namespace Branch

def flip (flipped : Bool) : Branch → Branch
  | .signals side => .signals (side.flip flipped)
  | .completions => .completions

@[simp]
theorem flip_flip (flipped : Bool) (b : Branch) : (b.flip flipped).flip flipped = b := by
  rcases b with (_ | _) | _ <;> cases flipped <;> rfl

end Branch

/-! ## Lines -/

/-- The lines to a coordinator, and what the signals on two of them stand for. -/
structure Lines where
  first : Line
  second : Line
  completions : Line
  firstEffect : Effect := .increment
  secondEffect : Effect := .decrement
  deriving DecidableEq, Repr

namespace Lines

def line (l : Lines) : Branch → Line
  | .signals .first => l.first
  | .signals .second => l.second
  | .completions => l.completions

def setLine (l : Lines) (b : Branch) (m : Line) : Lines :=
  match b with
  | .signals .first => { l with first := m }
  | .signals .second => { l with second := m }
  | .completions => { l with completions := m }

def effect (l : Lines) : Side → Effect
  | .first => l.firstEffect
  | .second => l.secondEffect

/-- The channels in the order in which a coordinator has them. -/
def inlets (l : Lines) (flipped : Bool) : Inlets where
  first := (l.line (.signals (Side.first.flip flipped))).channel
  second := (l.line (.signals (Side.second.flip flipped))).channel
  completions := l.completions.channel

/-- The lines after a coordinator has left its channels as they are in `i`. -/
def putInlets (l : Lines) (flipped : Bool) (i : Inlets) : Lines :=
  { l with
    first := { l.first with channel := i.signals (Side.first.flip flipped) }
    second := { l.second with channel := i.signals (Side.second.flip flipped) }
    completions := { l.completions with channel := i.completions } }

/-- What a line of branch `b` adds to a sum of `f` over the signal lines of effect `e`. -/
def share (f : Line → Nat) (l : Lines) (e : Effect) (b : Branch) (m : Line) : Nat :=
  match b with
  | .signals side => if l.effect side = e then f m else 0
  | .completions => 0

/-- The sum of `f` over the signal lines of effect `e`. -/
def signals (f : Line → Nat) (l : Lines) (e : Effect) : Nat :=
  l.share f e (.signals .first) l.first + l.share f e (.signals .second) l.second

/-- The signals of effect `e` that are buffered. -/
def buffered (l : Lines) (e : Effect) : Nat := l.signals (·.channel.buffered) e

/-- The sends of effect `e` that have come through. -/
def acknowledged (l : Lines) (e : Effect) : Nat := l.signals (·.acknowledged) e

/-- At the hand-over nothing is acknowledged yet. -/
def handOver (l : Lines) : Lines :=
  { l with
    first := { l.first with acknowledged := 0 }
    second := { l.second with acknowledged := 0 }
    completions := { l.completions with acknowledged := 0 } }

def Sound (l : Lines) : Prop := ∀ b, (l.line b).Sound

variable {l : Lines} {flipped : Bool}

@[simp]
theorem channel_inlets (l : Lines) (flipped : Bool) (b : Branch) :
    (l.inlets flipped).channel b = (l.line (b.flip flipped)).channel := by
  rcases b with (_ | _) | _ <;> rfl

@[simp]
theorem inlets_putInlets (l : Lines) (flipped : Bool) (i : Inlets) :
    (l.putInlets flipped i).inlets flipped = i := by
  cases flipped <;> rfl

@[simp]
theorem putInlets_inlets (l : Lines) (flipped : Bool) :
    l.putInlets flipped (l.inlets flipped) = l := by
  cases flipped <;> rfl

@[simp]
theorem line_putInlets (l : Lines) (flipped : Bool) (i : Inlets) (b : Branch) :
    (l.putInlets flipped i).line b = { l.line b with channel := i.channel (b.flip flipped) } := by
  rcases b with (_ | _) | _ <;> rfl

@[simp]
theorem line_setLine_self (l : Lines) (b : Branch) (m : Line) : (l.setLine b m).line b = m := by
  rcases b with (_ | _) | _ <;> rfl

theorem line_setLine_of_ne (l : Lines) {b c : Branch} (m : Line) (h : c ≠ b) :
    (l.setLine b m).line c = l.line c := by
  rcases b with (_ | _) | _ <;> rcases c with (_ | _) | _ <;> first | rfl | exact absurd rfl h

@[simp]
theorem effect_setLine (l : Lines) (b : Branch) (m : Line) : (l.setLine b m).effect = l.effect := by
  funext side
  rcases b with (_ | _) | _ <;> cases side <;> rfl

/-! ## What acts change -/

variable {b : Branch} {m : Line}

theorem share_setLine (f : Line → Nat) (l : Lines) (b c : Branch) (m n : Line) (e : Effect) :
    (l.setLine b m).share f e c n = l.share f e c n := by
  unfold share
  rw [effect_setLine]

theorem signals_setLine (f : Line → Nat) (l : Lines) (b : Branch) (m : Line) (e : Effect) :
    (l.setLine b m).signals f e + l.share f e b (l.line b) = l.signals f e + l.share f e b m := by
  unfold signals
  rw [share_setLine, share_setLine]
  rcases b with (_ | _) | _
  · show l.share f e _ m + l.share f e _ l.second + l.share f e _ l.first
      = l.share f e _ l.first + l.share f e _ l.second + l.share f e _ m
    omega
  · show l.share f e _ l.first + l.share f e _ m + l.share f e _ l.second
      = l.share f e _ l.first + l.share f e _ l.second + l.share f e _ m
    omega
  · rfl

/-- An act on one line balances what is buffered with what is acknowledged. -/
theorem buffered_setLine (keeps : (l.line b).Keeps m) (e : Effect) :
    (l.setLine b m).buffered e + l.acknowledged e
      = l.buffered e + (l.setLine b m).acknowledged e := by
  have balance := keeps.buffered
  have buffered := signals_setLine (·.channel.buffered) l b m e
  have acknowledged := signals_setLine (·.acknowledged) l b m e
  have shares : l.share (·.channel.buffered) e b m + l.share (·.acknowledged) e b (l.line b)
      = l.share (·.channel.buffered) e b (l.line b) + l.share (·.acknowledged) e b m := by
    unfold share
    split
    · split
      · exact balance
      · rfl
    · rfl
  unfold Lines.buffered Lines.acknowledged
  omega

theorem acknowledged_le_setLine (keeps : (l.line b).Keeps m) (e : Effect) :
    l.acknowledged e ≤ (l.setLine b m).acknowledged e := by
  have acknowledged := signals_setLine (·.acknowledged) l b m e
  have shares : l.share (·.acknowledged) e b (l.line b) ≤ l.share (·.acknowledged) e b m := by
    unfold share
    split
    · split
      · exact keeps.more
      · exact Nat.le_refl _
    · exact Nat.le_refl _
  unfold Lines.acknowledged
  omega

/-- Nothing is acknowledged on a line that nobody receives from. -/
theorem acknowledged_setLine_of_deaf (keeps : (l.line b).Keeps m)
    (deaf : (l.line b).channel.listening = false) (e : Effect) :
    (l.setLine b m).acknowledged e = l.acknowledged e := by
  have acknowledged := signals_setLine (·.acknowledged) l b m e
  have shares : l.share (·.acknowledged) e b (l.line b) = l.share (·.acknowledged) e b m := by
    simp only [share, keeps.deaf deaf]
  rw [shares] at acknowledged
  exact Nat.add_right_cancel acknowledged

theorem channel_buffered_setLine_of_deaf (keeps : (l.line b).Keeps m)
    (deaf : (l.line b).channel.listening = false) (c : Branch) :
    ((l.setLine b m).line c).channel.buffered = (l.line c).channel.buffered := by
  by_cases hc : c = b
  · subst hc
    have balance := keeps.buffered
    rw [keeps.deaf deaf] at balance
    rw [line_setLine_self]
    exact Nat.add_right_cancel balance
  · rw [line_setLine_of_ne _ _ hc]

theorem completions_setLine (keeps : (l.line b).Keeps m) :
    (l.setLine b m).completions.channel.buffered + l.completions.acknowledged
      = l.completions.channel.buffered + (l.setLine b m).completions.acknowledged := by
  rcases b with (_ | _) | _
  · rfl
  · rfl
  · exact keeps.buffered

theorem completions_le_setLine (keeps : (l.line b).Keeps m) :
    l.completions.acknowledged ≤ (l.setLine b m).completions.acknowledged := by
  rcases b with (_ | _) | _
  · exact Nat.le_refl _
  · exact Nat.le_refl _
  · exact keeps.more

/-! ## What was sent -/

/-- What was in the buffers when the lines were `given`, and what has been acknowledged by `now`. -/
def intake (given : Lines) (initial : Int) (producers : Nat) (now : Lines) :
    Coordinator.Intake where
  initial := initial
  producers := producers
  signals e := given.buffered e + now.acknowledged e
  completions := given.completions.channel.buffered + now.completions.acknowledged

theorem acknowledged_handOver (l : Lines) (e : Effect) : l.handOver.acknowledged e = 0 := by
  show (if l.firstEffect = e then 0 else 0) + (if l.secondEffect = e then 0 else 0) = 0
  rw [ite_self, ite_self]

end Lines

end SharedCounter
