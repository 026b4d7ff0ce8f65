import Mathlib

/-!
# Go strings as the registry reads them

The registry parses its configuration and its seed list with a few functions
of Go's `strings` and `strconv` packages and of the project's `stringutils`
toolkit. They are modelled on Unicode strings, character by character and by
structural recursion, so every one of them can be evaluated. The separators the
registry looks for, `:` and `,`, are ASCII and never occur inside a multi-byte
UTF-8 sequence, so character positions cut a string into the same pieces as
Go's byte positions.

`strconv.Atoi` is the 64-bit platform's: an optional sign, at least one decimal
digit, no underscores, and a value in the range of `int`.
-/

namespace DoudouRegistry.Strings

/-- `unicode.IsSpace`: the Latin-1 spaces and the other `White_Space` code points. -/
def isSpace (c : Char) : Bool :=
  let n := c.toNat
  (9 ≤ n && n ≤ 13) || n == 32 || n == 0x85 || n == 0xA0 || n == 0x1680 ||
    (0x2000 ≤ n && n ≤ 0x200A) || n == 0x2028 || n == 0x2029 || n == 0x202F ||
    n == 0x205F || n == 0x3000

/-- `stringutils.IsEmpty`: nothing is left once `strings.TrimSpace` has cut the
white space from both ends. -/
def isEmpty (s : String) : Bool := s.data.all isSpace

/-- `stringutils.IsNotEmpty`. -/
def isNotEmpty (s : String) : Bool := !isEmpty s

/-- A decimal digit is never white space. -/
theorem isSpace_of_isDigit {c : Char} (digit : c.isDigit = true) : isSpace c = false := by
  simp only [Char.isDigit, Bool.and_eq_true, decide_eq_true_eq] at digit
  have bounds : 48 ≤ c.toNat ∧ c.toNat ≤ 57 := ⟨digit.1, digit.2⟩
  simp only [isSpace, Bool.or_eq_false_iff, Bool.and_eq_false_imp, beq_eq_false_iff_ne,
    decide_eq_true_eq, decide_eq_false_iff_not]
  omega

/-- Two strings joined are blank exactly when both are. -/
@[simp] theorem isEmpty_append (s t : String) :
    isEmpty (s ++ t) = (isEmpty s && isEmpty t) := by
  simp [isEmpty, String.data, List.all_append]

/-- `strings.LastIndex` for a one-character separator: the position of its last
occurrence, if any. -/
def lastIndex (sep : Char) : List Char → Option Nat
  | [] => none
  | c :: cs =>
    match lastIndex sep cs with
    | some i => some (i + 1)
    | none => if c = sep then some 0 else none

/-- `strings.Split` on a one-character separator: the fields between separators,
empty ones included; the empty string is one empty field. -/
def split (sep : Char) : List Char → List (List Char)
  | [] => [[]]
  | c :: cs => if c = sep then [] :: split sep cs else (split sep cs).modifyHead (c :: ·)

/-- The optional sign that `strconv` and `time` read first: whether it is `-`, and
what follows it. -/
def splitSign : List Char → Bool × List Char
  | [] => (false, [])
  | c :: rest => if c = '-' then (true, rest) else if c = '+' then (false, rest) else (false, c :: rest)

/-- The value of a run of decimal digits read from the left onto `acc`; `none` at
any other character. -/
def decimalValue (acc : Nat) : List Char → Option Nat
  | [] => some acc
  | c :: cs => if c.isDigit then decimalValue (acc * 10 + (c.toNat - 48)) cs else none

/-- The digits after the sign: at least one, all of them decimal. -/
def unsignedValue (digits : List Char) : Option Nat :=
  if digits = [] then none else decimalValue 0 digits

/-- The signed value that `strconv.Atoi` returns for digits of value `v`, if it lies
in the range of a 64-bit `int`. -/
def signedValue (negative : Bool) (v : Nat) : Option Int :=
  if negative then (if v ≤ 2 ^ 63 then some (-(v : Int)) else none)
  else if v < 2 ^ 63 then some v else none

/-- `strconv.Atoi` with a 64-bit `int`: an optional sign, then decimal digits whose
signed value lies in `[-2^63, 2^63)`. -/
def atoi (s : String) : Option Int :=
  (unsignedValue (splitSign s.data).2).bind (signedValue (splitSign s.data).1)

example : atoi "-0042" = some (-42) := by decide
example : atoi "9223372037" = some 9223372037 := by decide
example : atoi "1_000" = none := by decide

/-- `strconv.ParseBool`. -/
def parseBool (s : String) : Option Bool :=
  if s ∈ ["1", "t", "T", "TRUE", "true", "True"] then some true
  else if s ∈ ["0", "f", "F", "FALSE", "false", "False"] then some false
  else none

/-- The sign is read from the front, so text after a nonempty start stays in the digits. -/
theorem splitSign_append {xs : List Char} (nonempty : xs ≠ []) (ys : List Char) :
    splitSign (xs ++ ys) = ((splitSign xs).1, (splitSign xs).2 ++ ys) := by
  cases xs with
  | nil => exact absurd rfl nonempty
  | cons c rest => by_cases minus : c = '-' <;> by_cases plus : c = '+' <;> simp [splitSign, *]

/-- The sign is cut from the front, so the digits are characters of the input. -/
theorem mem_of_mem_splitSign {d : Char} {xs : List Char} (member : d ∈ (splitSign xs).2) :
    d ∈ xs := by
  cases xs with
  | nil => simp [splitSign] at member
  | cons c rest =>
    by_cases minus : c = '-' <;> by_cases plus : c = '+' <;>
      simp only [splitSign, minus, plus, if_true, if_false] at member <;>
      first | exact List.mem_cons_of_mem c member | exact member

/-- A signed value that fits in `int64` is the digits' value with its sign. -/
theorem signedValue_bound {negative : Bool} {v : Nat} {n : Int}
    (signed : signedValue negative v = some n) :
    n = (if negative then -(v : Int) else v) ∧ v ≤ 2 ^ 63 ∧ (negative = false → v < 2 ^ 63) := by
  unfold signedValue at signed
  cases negative <;> simp only [Bool.false_eq_true, if_true, if_false] at signed ⊢ <;>
    split_ifs at signed with bound <;> cases signed
  · exact ⟨rfl, bound.le, fun _ => bound⟩
  · exact ⟨rfl, bound, nofun⟩

/-- A number starts with a digit. -/
theorem decimalValue_head_isDigit {acc v : Nat} {c : Char} {cs : List Char}
    (value : decimalValue acc (c :: cs) = some v) : c.isDigit = true := by
  by_contra other
  simp [decimalValue, other] at value

/-- An accepted unsigned number has a digit. -/
theorem unsignedValue_digit {digits : List Char} {v : Nat} (value : unsignedValue digits = some v) :
    ∃ d ∈ digits, d.isDigit = true := by
  rcases digits with _ | ⟨c, cs⟩
  · simp [unsignedValue] at value
  · exact ⟨c, List.mem_cons_self c cs, decimalValue_head_isDigit (by simpa [unsignedValue] using value)⟩

/-- A string `strconv.Atoi` accepts holds a digit, so it is never blank. -/
theorem isEmpty_of_atoi {s : String} {n : Int} (accepted : atoi s = some n) :
    isEmpty s = false := by
  obtain ⟨v, value, -⟩ := Option.bind_eq_some.mp accepted
  obtain ⟨d, member, digit⟩ := unsignedValue_digit value
  rw [Bool.eq_false_iff]
  intro blank
  have space := List.all_eq_true.mp blank d (mem_of_mem_splitSign member)
  rw [isSpace_of_isDigit digit] at space
  exact Bool.false_ne_true space

/-! ## Reading back what is written

`fmt` writes an `int` as `Nat.repr` writes its magnitude, after a `-` when it is
negative. `strconv.Atoi` reads that text back exactly when the value is an `int`
of 64 bits, and `strings.Split` undoes `strings.Join` when no piece holds the
separator.
-/

/-- A digit below ten prints as the digit character of its value. -/
theorem digitChar_value {d : Nat} (small : d < 10) :
    (Nat.digitChar d).isDigit = true ∧ (Nat.digitChar d).toNat - 48 = d := by
  interval_cases d <;> decide

/-- Printing a number onto a nonempty start gives a nonempty text. -/
theorem toDigitsCore_ne_nil (fuel n : Nat) {ds : List Char} (nonempty : ds ≠ []) :
    Nat.toDigitsCore 10 fuel n ds ≠ [] := by
  induction fuel generalizing n ds with
  | zero => exact nonempty
  | succ fuel ih =>
    simp only [Nat.toDigitsCore]
    split
    · simp
    · exact ih _ (List.cons_ne_nil _ _)

/-- The digits `Nat.toDigitsCore` puts in front of `ds` shift the accumulator by
their count and add `n`. -/
theorem decimalValue_toDigitsCore (fuel n : Nat) (ds : List Char) (acc : Nat) (enough : n < fuel) :
    ∃ k, decimalValue acc (Nat.toDigitsCore 10 fuel n ds) = decimalValue (acc * 10 ^ k + n) ds := by
  induction fuel generalizing n ds acc with
  | zero => omega
  | succ fuel ih =>
    obtain ⟨digit, value⟩ := digitChar_value (Nat.mod_lt n (by decide : 10 > 0))
    simp only [Nat.toDigitsCore]
    split
    · refine ⟨1, ?_⟩
      simp only [decimalValue, digit, if_true, value]
      congr 1
      omega
    · obtain ⟨k, read⟩ := ih (n / 10) (Nat.digitChar (n % 10) :: ds) acc (by omega)
      refine ⟨k + 1, ?_⟩
      rw [read]
      simp only [decimalValue, digit, if_true, value]
      rw [pow_succ, ← mul_assoc]
      generalize acc * 10 ^ k = shifted
      congr 1
      omega

/-- A number's decimal text reads back as the number. -/
theorem decimalValue_repr (n : Nat) : decimalValue 0 (Nat.repr n).data = some n := by
  obtain ⟨k, read⟩ := decimalValue_toDigitsCore (n + 1) n [] 0 (by omega)
  simpa [decimalValue] using read

/-- A text read as a number is made of digits. -/
theorem isDigit_of_decimalValue {acc v : Nat} {xs : List Char} (value : decimalValue acc xs = some v) :
    ∀ c ∈ xs, c.isDigit = true := by
  induction xs generalizing acc with
  | nil => simp
  | cons c cs ih =>
    have digit := decimalValue_head_isDigit value
    simp only [decimalValue, digit, if_true] at value
    simpa [digit] using ih value

/-- `Nat.repr` writes at least one character, all of them digits. -/
theorem repr_data (n : Nat) : ∃ c cs, (Nat.repr n).data = c :: cs ∧ ∀ d ∈ c :: cs, d.isDigit = true := by
  have nonempty : (Nat.repr n).data ≠ [] := by
    show Nat.toDigitsCore 10 (n + 1) n [] ≠ []
    simp only [Nat.toDigitsCore]
    split
    · simp
    · exact toDigitsCore_ne_nil _ _ (List.cons_ne_nil _ _)
  obtain ⟨c, cs, split⟩ := List.exists_cons_of_ne_nil nonempty
  exact ⟨c, cs, split, split ▸ isDigit_of_decimalValue (decimalValue_repr n)⟩

/-- The text of an `int`: not empty, and nothing but digits and a minus sign. -/
theorem toString_data (n : Int) :
    (toString n).data ≠ [] ∧ ∀ c ∈ (toString n).data, c.isDigit = true ∨ c = '-' := by
  cases n with
  | ofNat m =>
    obtain ⟨c, cs, split, digits⟩ := repr_data m
    have text : (toString (Int.ofNat m)).data = c :: cs := split
    rw [text]
    exact ⟨List.cons_ne_nil _ _, fun d member => .inl (digits d member)⟩
  | negSucc m =>
    obtain ⟨c, cs, split, digits⟩ := repr_data (m + 1)
    have text : (toString (Int.negSucc m)).data = '-' :: c :: cs := by rw [← split]; rfl
    rw [text]
    refine ⟨List.cons_ne_nil _ _, fun d member => ?_⟩
    rcases List.mem_cons.mp member with minus | rest
    · exact .inr minus
    · exact .inl (digits d rest)

/-- `strconv.Atoi` reads back the decimal text of every `int` of 64 bits, and of
no other integer. -/
theorem atoi_toString (n : Int) :
    atoi (toString n) = if -2 ^ 63 ≤ n ∧ n < 2 ^ 63 then some n else none := by
  have unsigned (m : Nat) : splitSign (Nat.repr m).data = (false, (Nat.repr m).data) ∧
      unsignedValue (Nat.repr m).data = some m := by
    obtain ⟨c, cs, split, digits⟩ := repr_data m
    have digit := digits c (List.mem_cons_self c cs)
    have unsigned : c ≠ '-' ∧ c ≠ '+' := by
      constructor <;> (rintro rfl; revert digit; decide)
    refine ⟨?_, ?_⟩
    · rw [split]
      simp [splitSign, unsigned.1, unsigned.2]
    · rw [unsignedValue, if_neg (by rw [split]; exact List.cons_ne_nil _ _), decimalValue_repr]
  cases n with
  | ofNat m =>
    have text : (toString (Int.ofNat m)).data = (Nat.repr m).data := rfl
    rw [atoi, text, (unsigned m).1, (unsigned m).2, Option.some_bind, signedValue,
      if_neg Bool.false_ne_true]
    exact if_congr (by simp only [Int.ofNat_eq_coe]; omega) rfl rfl
  | negSucc m =>
    have text : (toString (Int.negSucc m)).data = '-' :: (Nat.repr (m + 1)).data := rfl
    rw [atoi, text]
    simp only [splitSign, if_true, (unsigned (m + 1)).2, Option.some_bind, signedValue,
      Int.negSucc_eq]
    exact if_congr (by omega) (by push_cast; rfl) rfl

/-- Whatever `strconv.Atoi` reads, it reads again from its decimal text. -/
theorem atoi_toString_of_atoi {s : String} {n : Int} (accepted : atoi s = some n) :
    atoi (toString n) = some n := by
  obtain ⟨v, -, signed⟩ := Option.bind_eq_some.mp accepted
  obtain ⟨rfl, bound, positive⟩ := signedValue_bound signed
  rw [atoi_toString, if_pos]
  revert bound positive
  cases (splitSign s.data).1 <;> intro bound positive
  · simp only [Bool.false_eq_true, if_false]
    have := positive rfl
    omega
  · simp only [if_true]
    omega

/-- `strings.Split` on one character is the library's `splitOn`. -/
theorem split_eq_splitOn (sep : Char) (xs : List Char) : split sep xs = xs.splitOn sep := by
  induction xs with
  | nil => rfl
  | cons c cs ih =>
    simp only [split, ih, List.splitOn, List.splitOnP_cons, beq_iff_eq]

/-- `strings.Join` with a one-character separator. -/
def join (sep : Char) (pieces : List String) : String :=
  ⟨List.intercalate [sep] (pieces.map String.data)⟩

/-- `strings.Split` undoes `strings.Join` when no piece holds the separator. -/
theorem split_join {sep : Char} {pieces : List String} (nonempty : pieces ≠ [])
    (separated : ∀ piece ∈ pieces, sep ∉ piece.data) :
    split sep (join sep pieces).data = pieces.map String.data := by
  rw [split_eq_splitOn, join]
  exact List.splitOn_intercalate _ sep (by simpa using separated) (by simpa using nonempty)

/-- `strings.TrimSpace`: the white space cut from both ends. -/
def trimSpace (s : String) : String :=
  ⟨((s.data.dropWhile isSpace).reverse.dropWhile isSpace).reverse⟩

/-- `strings.TrimPrefix`: the prefix cut off when the string starts with it. -/
def trimPrefix (s pre : String) : String :=
  if pre.data.isPrefixOf s.data then ⟨s.data.drop pre.data.length⟩ else s

/-- Trimming a text that starts with no space leaves it whole. -/
theorem dropWhile_isSpace_of_head {x : List Char} (first : ∀ c ∈ x.head?, isSpace c = false) :
    x.dropWhile isSpace = x := by
  rcases x with _ | ⟨c, x⟩
  · rfl
  · exact List.dropWhile_cons_of_neg (by simp [first c rfl])

/-- `strings.TrimSpace` cuts the white space around a text that neither starts
nor ends with white space, and nothing of the text. -/
theorem trimSpace_ends {ws₁ x ws₂ : List Char} (before : ∀ c ∈ ws₁, isSpace c = true)
    (after : ∀ c ∈ ws₂, isSpace c = true) (first : ∀ c ∈ x.head?, isSpace c = false)
    (last : ∀ c ∈ x.getLast?, isSpace c = false) : trimSpace ⟨ws₁ ++ x ++ ws₂⟩ = ⟨x⟩ := by
  rcases x with _ | ⟨c, x⟩
  · have blank : (ws₁ ++ ws₂).dropWhile isSpace = [] :=
      List.dropWhile_eq_nil_iff.mpr fun c member => (List.mem_append.mp member).elim (before c) (after c)
    simp only [trimSpace, List.append_nil, blank]
    rfl
  · have front : (ws₁ ++ (c :: x) ++ ws₂).dropWhile isSpace = c :: x ++ ws₂ := by
      rw [List.append_assoc, List.dropWhile_append_of_pos before, List.cons_append,
        List.dropWhile_cons_of_neg (by simp [first c rfl])]
    have back : (c :: x ++ ws₂).reverse.dropWhile isSpace = (c :: x).reverse := by
      rw [List.reverse_append,
        List.dropWhile_append_of_pos fun c member => after c (List.mem_reverse.mp member),
        dropWhile_isSpace_of_head (by rw [List.head?_reverse]; exact last)]
    simp only [trimSpace, front, back, List.reverse_reverse]

/-- Trimming a prefix that is there gives what follows it. -/
theorem trimPrefix_append (pre s : String) : trimPrefix (pre ++ s) pre = s := by
  simp [trimPrefix, List.isPrefixOf_iff_prefix]

/-! ## Scanning to a character -/

/-- Every character of a text without `c` differs from `c`. -/
theorem forall_decide_ne_of_not_mem {c : Char} {a : List Char} (h : c ∉ a) :
    ∀ x ∈ a, decide (x ≠ c) = true :=
  fun _ member => decide_eq_true fun same => h (same ▸ member)

/-- Reading up to the first `c` gives the text before it. -/
theorem takeWhile_ne_append {c : Char} {a : List Char} (h : c ∉ a) (b : List Char) :
    (a ++ c :: b).takeWhile (· ≠ c) = a := by
  rw [List.takeWhile_append_of_pos (forall_decide_ne_of_not_mem h)]
  simp

/-- Dropping up to the first `c` leaves `c` and what follows it. -/
theorem dropWhile_ne_append {c : Char} {a : List Char} (h : c ∉ a) (b : List Char) :
    (a ++ c :: b).dropWhile (· ≠ c) = c :: b := by
  rw [List.dropWhile_append_of_pos (forall_decide_ne_of_not_mem h)]
  simp [List.dropWhile]

end DoudouRegistry.Strings
