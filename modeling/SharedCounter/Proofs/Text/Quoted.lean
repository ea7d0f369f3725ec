import Mathlib.Tactic.Common
import SharedCounter.Text.Quoted

/-!
# Quoted text can be read back

* `readDigits` : a number up to the first character that is no digit (`readDigits_toDigits`);
* `readChar?` : the character that a written form stands for. No form begins another one, so it
  does not matter what follows (`readChar?_escape`);
* `readQuoted?` : a text up to the quote that closes it, which no form of a character looks like
  (`readQuoted?_flatMap_escape`), so no two texts are quoted alike (`quote_injective`);
* `readList?` : the texts of a list up to its closing bracket (`readList?_quoteList`).
-/

namespace SharedCounter.Text

variable {b n d : Nat} {c : Char} {cs rest : List Char}

/-! ## Numbers -/

/-- The value of a digit of base `b`. -/
def digit? (b : Nat) (c : Char) : Option Nat := (List.range b).find? fun d => d.digitChar = c

/-- The number that goes on with the digits of base `b` in a text, after those whose value is `n`,
and what follows them. -/
def readDigits (b n : Nat) : List Char → Nat × List Char
  | [] => (n, [])
  | c :: cs =>
    match digit? b c with
    | some d => readDigits b (b * n + d) cs
    | none => (n, c :: cs)

theorem digitChar_injOn : ∀ d < 16, ∀ e < d, e.digitChar ≠ d.digitChar := by decide

theorem digit?_digitChar (hb : b ≤ 16) (hd : d < b) : digit? b d.digitChar = some d := by
  refine List.find?_range_eq_some.mpr ⟨by simp, List.mem_range.mpr hd, fun e he => ?_⟩
  simpa using digitChar_injOn d (by omega) e he

theorem readDigits_of_digit (hb : b ≤ 16) (hd : d < b) :
    readDigits b n (d.digitChar :: cs) = readDigits b (b * n + d) cs := by
  simp only [readDigits, digit?_digitChar hb hd]

/-- The digits of a number are read back, and reading goes on after them. -/
theorem readDigits_toDigits (h₁ : 1 < b) (h₂ : b ≤ 16) (n : Nat) (cs : List Char) :
    readDigits b 0 (Nat.toDigits b n ++ cs) = readDigits b n cs := by
  induction n using Nat.strongRecOn generalizing cs with
  | ind n ih =>
    rcases Nat.lt_or_ge n b with small | large
    · rw [Nat.toDigits_of_lt_base small, List.singleton_append, readDigits_of_digit h₂ small,
        Nat.mul_zero, Nat.zero_add]
    · have less : n / b < n := Nat.div_lt_self (by omega) h₁
      rw [Nat.toDigits_of_base_le h₁ large, List.append_assoc, ih _ less, List.singleton_append,
        readDigits_of_digit h₂ (Nat.mod_lt _ (by omega)), Nat.div_add_mod]

theorem readDigits_of_none (stop : digit? b c = none) :
    readDigits b n (c :: cs) = (n, c :: cs) := by
  simp only [readDigits, stop]

theorem length_readDigits_le (b n : Nat) (cs : List Char) :
    (readDigits b n cs).2.length ≤ cs.length := by
  induction cs generalizing n with
  | nil => exact Nat.le_refl _
  | cons c cs ih =>
    unfold readDigits
    split
    · exact Nat.le_succ_of_le (ih _)
    · exact Nat.le_refl _

/-! ## Characters -/

/-- The character behind a short escape. -/
def shortUnescape? : Char → Option Char
  | '0' => some '\x00'
  | 't' => some '\t'
  | 'n' => some '\n'
  | 'r' => some '\r'
  | '"' => some '"'
  | '\\' => some '\\'
  | _ => none

/-- The character whose written form a text begins with, and what follows it. -/
def readChar? : List Char → Option (Char × List Char)
  | '\\' :: 'u' :: '\x7b' :: cs =>
    match readDigits 16 0 cs with
    | (n, '\x7d' :: rest) => some (Char.ofNat n, rest)
    | _ => none
  | '\\' :: c :: cs => (shortUnescape? c).map fun d => (d, cs)
  | ['\\'] => none
  | c :: cs => some (c, cs)
  | [] => none

theorem length_lt_of_readChar? (h : readChar? cs = some (c, rest)) : rest.length < cs.length := by
  unfold readChar? at h
  split at h
  next cs =>
    have le := length_readDigits_le 16 0 cs
    split at h
    next n rest' hr =>
      rw [hr] at le
      cases h
      simp only [List.length_cons] at le ⊢
      omega
    next => cases h
  next c' cs' _ =>
    obtain ⟨d, -, hd⟩ := Option.map_eq_some_iff.mp h
    cases hd
    simp only [List.length_cons]
    omega
  next => cases h
  next =>
    cases h
    exact Nat.lt_succ_self _
  next => cases h

theorem readChar?_of_ne (plain : c ≠ '\\') : readChar? (c :: cs) = some (c, cs) := by
  unfold readChar?
  split <;> simp_all

/-- A short escape is undone, whatever follows. -/
theorem readChar?_of_shortEscape? {s : Char} (h : shortEscape? c = some s) :
    readChar? ('\\' :: s :: cs) = some (c, cs) := by
  unfold shortEscape? at h
  split at h <;> cases h <;> rfl

/-- The written form of a character is read back, whatever follows. -/
theorem readChar?_escape (c : Char) (cs : List Char) :
    readChar? (escape c ++ cs) = some (c, cs) := by
  unfold escape
  split
  next s hs => exact readChar?_of_shortEscape? hs
  next long =>
    split
    · refine readChar?_of_ne ?_
      rintro rfl
      cases long
    · have digits := readDigits_toDigits (b := 16) (by decide) (by decide) c.toNat ('\x7d' :: cs)
      rw [readDigits_of_none (by decide)] at digits
      simp only [List.cons_append, List.nil_append, List.append_assoc, readChar?, digits,
        Char.ofNat_toNat]

/-- No written form begins like the end of a quoted text. -/
theorem escape_append_ne (c : Char) (cs ds : List Char) : escape c ++ cs ≠ '"' :: ds := by
  unfold escape
  split
  · simp
  next long =>
    split
    · intro h
      cases h
      cases long
    · simp

/-! ## Texts and lists of texts -/

/-- The text up to the quote that closes it, and what follows that. -/
def readQuoted? (cs : List Char) : Option (List Char × List Char) :=
  match cs with
  | '"' :: rest => some ([], rest)
  | cs =>
    match _read : readChar? cs with
    | some (c, rest) => (readQuoted? rest).map fun (s, rest) => (c :: s, rest)
    | none => none
termination_by cs.length
decreasing_by exact length_lt_of_readChar? _read

/-- A quoted text is read back up to its end, whatever follows. -/
theorem readQuoted?_flatMap_escape (s rest : List Char) :
    readQuoted? (s.flatMap escape ++ '"' :: rest) = some (s, rest) := by
  induction s with
  | nil => rw [List.flatMap_nil, List.nil_append, readQuoted?]
  | cons c s ih =>
    have read := readChar?_escape c (s.flatMap escape ++ '"' :: rest)
    rw [List.flatMap_cons, List.append_assoc, readQuoted?]
    · split
      next d ds h =>
        rw [read] at h
        cases h
        rw [ih]
        rfl
      next h =>
        rw [read] at h
        cases h
    · exact escape_append_ne c _

theorem length_lt_of_readQuoted? {s : List Char} (h : readQuoted? cs = some (s, rest)) :
    rest.length < cs.length := by
  fun_induction readQuoted? cs generalizing s with
  | case1 =>
    cases h
    exact Nat.lt_succ_self _
  | case2 cs _ c rest' read ih =>
    obtain ⟨⟨t, u⟩, inner, ht⟩ := Option.map_eq_some_iff.mp h
    cases ht
    have := length_lt_of_readChar? read
    have := ih inner
    omega
  | case3 => cases h

/-- The texts that follow the first one of a list, up to the closing bracket. -/
def readTail? (cs : List Char) : Option (List String × List Char) :=
  match cs with
  | ']' :: rest => some ([], rest)
  | ',' :: ' ' :: '"' :: cs =>
    match _read : readQuoted? cs with
    | some (s, rest) => (readTail? rest).map fun (ss, rest) => (String.ofList s :: ss, rest)
    | none => none
  | _ => none
termination_by cs.length
decreasing_by
  have := length_lt_of_readQuoted? _read
  simp only [List.length_cons]
  omega

/-- The texts of a list, and what follows its closing bracket. -/
def readList? : List Char → Option (List String × List Char)
  | '[' :: ']' :: rest => some ([], rest)
  | '[' :: '"' :: cs =>
    match readQuoted? cs with
    | some (s, rest) => (readTail? rest).map fun (ss, rest) => (String.ofList s :: ss, rest)
    | none => none
  | _ => none

theorem toList_quote (s : String) :
    (quote s).toList = '"' :: (s.toList.flatMap escape ++ ['"']) := by
  simp [quote]

theorem quote_injective : Function.Injective quote := by
  intro s t same
  have written := congrArg String.toList same
  rw [toList_quote, toList_quote, List.cons.injEq] at written
  have read := readQuoted?_flatMap_escape s.toList []
  rw [written.2, readQuoted?_flatMap_escape, Option.some.injEq, Prod.mk.injEq] at read
  exact String.toList_injective read.1.symm

/-- A list as it is written: the first text, then a comma and a space before each of the others. -/
theorem toList_quoteList_cons (s : String) (ss : List String) :
    (quoteList (s :: ss)).toList
      = '[' :: ((quote s).toList
        ++ ss.flatMap (fun t => ',' :: ' ' :: (quote t).toList) ++ [']']) := by
  have rest : (", ".intercalate ((s :: ss).map quote)).toList
      = (quote s).toList ++ ss.flatMap fun t => ',' :: ' ' :: (quote t).toList := by
    induction ss generalizing s with
    | nil => simp
    | cons t ss ih =>
      have tail := ih t
      simp only [List.map_cons] at tail
      simp only [List.map_cons, String.intercalate_cons_cons, String.toList_append, tail]
      simp
  simp only [quoteList, String.toList_append, rest]
  simp

theorem readTail?_flatMap (ss : List String) (rest : List Char) :
    readTail? (ss.flatMap (fun t => ',' :: ' ' :: (quote t).toList) ++ ']' :: rest)
      = some (ss, rest) := by
  induction ss with
  | nil => rw [List.flatMap_nil, List.nil_append, readTail?]
  | cons t ss ih =>
    rw [List.flatMap_cons, toList_quote]
    simp only [List.cons_append, List.append_assoc, List.nil_append]
    rw [readTail?]
    split
    next s rest' h =>
      rw [readQuoted?_flatMap_escape] at h
      cases h
      rw [ih, Option.map_some, String.ofList_toList]
    next h =>
      rw [readQuoted?_flatMap_escape] at h
      cases h

/-- A list of quoted texts is read back up to its end, whatever follows. -/
theorem readList?_quoteList (ss : List String) (rest : List Char) :
    readList? ((quoteList ss).toList ++ rest) = some (ss, rest) := by
  cases ss with
  | nil => rfl
  | cons s ss =>
    rw [toList_quoteList_cons, toList_quote]
    simp only [List.cons_append, List.append_assoc, List.nil_append, readList?,
      readQuoted?_flatMap_escape, readTail?_flatMap, Option.map_some, String.ofList_toList]

end SharedCounter.Text
