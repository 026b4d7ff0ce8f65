import DoudouRegistry.Strings

/-!
# `time.Duration` and `time.ParseDuration`

A `time.Duration` is a signed 64-bit count of nanoseconds, so it is a
`BitVec 64` here: Go's `time.Duration(n) * time.Second` wraps modulo `2^64`
exactly as the bit-vector product does.

`parseDuration` follows the loop of Go's `time.ParseDuration` component by
component: an optional sign, the special case `"0"`, then
`[0-9]*(\.[0-9]*)?unit` repeated, with the magnitude kept as an unsigned count
that may not pass `2^63`, summed in 64 bits as Go's `uint64` does. The
fractional part is computed in `float64` as Go does; that arithmetic is Lean's
binary64 `Float`, which only evaluation, and no proof here, looks into.
-/

namespace DoudouRegistry.Time

open Strings

/-- `time.Duration`: nanoseconds in a signed 64-bit word. -/
abbrev Duration := BitVec 64

/-- `time.Millisecond`. -/
def millisecond : Duration := 1000000

/-- `time.Second`. -/
def second : Duration := 1000000000

/-- `time.Duration(n)` for a Go `int`, which is 64 bits wide. -/
def ofInt (n : Int) : Duration := BitVec.ofInt 64 n

/-- A mathematical integer that a signed 64-bit word holds without wrapping. -/
def FitsInt64 (z : Int) : Prop := -2 ^ 63 ≤ z ∧ z < 2 ^ 63

/-- Whether an integer fits in `int64` can be decided. -/
instance : DecidablePred FitsInt64 := fun z => inferInstanceAs (Decidable (-2 ^ 63 ≤ z ∧ z < 2 ^ 63))

/-- `leadingInt`: the leading decimal digits read onto `x`; the read fails once the
value passes `2^63`. Returns the value and what follows the digits. -/
def leadingInt (x : Nat) : List Char → Option (Nat × List Char)
  | [] => some (x, [])
  | c :: cs =>
    if c.isDigit then
      if x > 2 ^ 63 / 10 then none
      else if x * 10 + (c.toNat - 48) > 2 ^ 63 then none
      else leadingInt (x * 10 + (c.toNat - 48)) cs
    else some (x, c :: cs)

/-- `leadingFraction`: the digits after a decimal point. Past `2^63` they are
consumed without adding precision. Returns the value, the power of ten that
scales it, and what follows the digits. -/
def leadingFraction (x scale : Nat) (overflow : Bool) : List Char → Nat × Nat × List Char
  | [] => (x, scale, [])
  | c :: cs =>
    if c.isDigit then
      if overflow || x > (2 ^ 63 - 1) / 10 || x * 10 + (c.toNat - 48) > 2 ^ 63 then
        leadingFraction x scale true cs
      else leadingFraction (x * 10 + (c.toNat - 48)) (scale * 10) false cs
    else (x, scale, c :: cs)

/-- The unit names `time.ParseDuration` knows, in nanoseconds; `µs` is written
both with the micro sign and with the Greek mu. -/
def unitMap : List Char → Option Nat
  | ['n', 's'] => some 1
  | ['u', 's'] => some 1000
  | ['µ', 's'] => some 1000
  | ['μ', 's'] => some 1000
  | ['m', 's'] => some 1000000
  | ['s'] => some 1000000000
  | ['m'] => some 60000000000
  | ['h'] => some 3600000000000
  | _ => none

/-- The characters a unit name runs over: anything but a digit or a point. -/
def isUnitChar (c : Char) : Bool := !(c = '.' || c.isDigit)

/-- The optional fraction after the integer digits: its digits' value, their
scale, the rest, and whether any digit was consumed. -/
def fraction : List Char → Nat × Nat × List Char × Bool
  | '.' :: after =>
    let (f, scale, rest) := leadingFraction 0 1 false after
    (f, scale, rest, rest.length ≠ after.length)
  | rest => (0, 1, rest, false)

/-- `uint64(float64(f) * (float64(unit) / scale))`: the nanoseconds a fraction adds. -/
def fractionNanos (f scale unit : Nat) : Nat :=
  (Float.ofNat f * (Float.ofNat unit / Float.ofNat scale)).toUInt64.toNat

/-- A component's nanoseconds once its fraction is added; the sum may not pass
`2^63`. Without a fraction nothing is added and nothing is checked. -/
def addFraction (v f scale unit : Nat) : Option Nat :=
  if f > 0 then
    if v + fractionNanos f scale unit > 2 ^ 63 then none else some (v + fractionNanos f scale unit)
  else some v

/-- One pass of the loop of `time.ParseDuration`: the component
`[0-9]*(\.[0-9]*)?unit` at the front of `s`, in nanoseconds, and the rest. -/
def component (s : List Char) : Option (Nat × List Char) :=
  match s with
  | [] => none
  | c :: _ =>
    if isUnitChar c then none else
    match leadingInt 0 s with
    | none => none
    | some (v, rest) =>
      let pre := rest.length ≠ s.length
      let (f, scale, rest, post) := fraction rest
      if !pre && !post then none else
      let (u, rest) := rest.span isUnitChar
      if u = [] then none else
      match unitMap u with
      | none => none
      | some unit =>
        if v > 2 ^ 63 / unit then none else
        (addFraction (v * unit) f scale unit).map fun v => (v, rest)

/-- The loop of `time.ParseDuration`, adding component after component onto `d`
as the `uint64` sum `d += v`, which may not pass `2^63`: two components of `2^63`
nanoseconds wrap to zero and pass. Every pass consumes characters, so the
input's length is enough fuel. -/
def components : Nat → Nat → List Char → Option Nat
  | _, d, [] => some d
  | 0, _, _ :: _ => none
  | fuel + 1, d, c :: cs =>
    (component (c :: cs)).bind fun (v, rest) =>
      if (d + v) % 2 ^ 64 > 2 ^ 63 then none else components fuel ((d + v) % 2 ^ 64) rest

/-- `time.ParseDuration`, with `none` for its error. -/
def parseDuration (str : String) : Option Duration :=
  let (negative, s) := splitSign str.data
  if s = ['0'] then some 0
  else if s = [] then none
  else (components s.length 0 s).bind fun d =>
    if negative then some (-(BitVec.ofNat 64 d))
    else if d > 2 ^ 63 - 1 then none else some (BitVec.ofNat 64 d)

example : parseDuration "1h30m" = some 5400000000000 := by decide
example : parseDuration "9223372037s" = none := by decide
example : parseDuration "9223372036854775808ns9223372036854775808ns" = some 0 := by decide

/-! ## Integer digits followed by a unit -/

/-- Reading more digits never lowers the value. -/
theorem decimalValue_le {acc v : Nat} {digits : List Char} (value : decimalValue acc digits = some v) :
    acc ≤ v := by
  induction digits generalizing acc with
  | nil => simp only [decimalValue, Option.some.injEq] at value; omega
  | cons c cs ih =>
    by_cases digit : c.isDigit
    · simp only [decimalValue, digit, if_true] at value
      have := ih value
      omega
    · simp [decimalValue, digit] at value

/-- `leadingInt` reads the same digits as `strconv.Atoi` and stops where they end,
as long as their value does not pass `2^63`. -/
theorem leadingInt_digits {acc v : Nat} {digits rest : List Char}
    (value : decimalValue acc digits = some v) (bound : v ≤ 2 ^ 63)
    (stop : ∀ c ∈ rest.head?, c.isDigit = false) :
    leadingInt acc (digits ++ rest) = some (v, rest) := by
  induction digits generalizing acc with
  | nil =>
    simp only [decimalValue, Option.some.injEq] at value
    subst value
    rcases rest with _ | ⟨c, cs⟩
    · rfl
    · simp [leadingInt, stop c rfl]
  | cons c cs ih =>
    by_cases digit : c.isDigit
    · simp only [decimalValue, digit, if_true] at value
      have next := decimalValue_le value
      simp only [List.cons_append, leadingInt, digit, if_true]
      rw [if_neg (by omega), if_neg (by omega)]
      exact ih value
    · simp [decimalValue, digit] at value

/-- A unit name: a known one, made of unit characters only. -/
structure UnitName (u : List Char) (unit : Nat) : Prop where
  known : unitMap u = some unit
  letters : u.all isUnitChar = true
  positive : 0 < unit

/-- A unit name is not empty. -/
theorem UnitName.nonempty {u : List Char} {unit : Nat} (name : UnitName u unit) : u ≠ [] := by
  rintro rfl
  exact Option.noConfusion (name.known.symm.trans (rfl : unitMap [] = none))

/-- A unit name does not start with a digit. -/
theorem UnitName.head_not_digit {u : List Char} {unit : Nat} (name : UnitName u unit) :
    ∀ c ∈ u.head?, c.isDigit = false := by
  intro c head
  have := List.all_eq_true.mp name.letters c (List.mem_of_mem_head? head)
  simp only [isUnitChar, Bool.not_eq_true', Bool.or_eq_false_iff] at this
  exact this.2

/-- A unit name has no fraction to read. -/
theorem UnitName.fraction {u : List Char} {unit : Nat} (name : UnitName u unit) :
    fraction u = (0, 1, u, false) := by
  unfold DoudouRegistry.Time.fraction
  split
  · have := List.all_eq_true.mp name.letters '.' (List.mem_cons_self _ _)
    simp [isUnitChar] at this
  · rfl

/-- A unit name is read whole as the unit. -/
theorem UnitName.span {u : List Char} {unit : Nat} (name : UnitName u unit) :
    u.span isUnitChar = (u, []) := by
  rw [List.span_eq_take_drop, List.takeWhile_eq_self_iff.mpr,
    List.dropWhile_eq_nil_iff.mpr] <;> simpa using name.letters

/-- One component made of decimal digits and a unit name: the digits times the
unit, unless that passes `2^63`. -/
theorem component_digits_unit {c : Char} {cs u : List Char} {v unit : Nat}
    (value : decimalValue 0 (c :: cs) = some v) (bound : v ≤ 2 ^ 63) (name : UnitName u unit) :
    component (c :: cs ++ u) = if v > 2 ^ 63 / unit then none else some (v * unit, []) := by
  have digit : isUnitChar c = false := by simp [isUnitChar, decimalValue_head_isDigit value]
  have read := leadingInt_digits value bound name.head_not_digit
  have longer : u.length ≠ (c :: cs ++ u).length := by
    simp only [List.cons_append, List.length_cons, List.length_append]
    omega
  simp only [List.cons_append] at read longer ⊢
  simp only [component, digit, read, longer, name.fraction, name.span, name.nonempty, name.known,
    Bool.false_eq_true, if_false, ne_eq, not_false_eq_true, decide_True, Bool.not_true,
    Bool.false_and, addFraction, gt_iff_lt, lt_self_iff_false, Option.map_some']

/-- Digits and a unit read as one component: their product, unless it overflows. -/
theorem components_digits_unit {c : Char} {cs u : List Char} {v unit : Nat}
    (value : decimalValue 0 (c :: cs) = some v) (bound : v ≤ 2 ^ 63) (name : UnitName u unit) :
    components (c :: cs ++ u).length 0 (c :: cs ++ u) =
      if v * unit > 2 ^ 63 then none else some (v * unit) := by
  have once := component_digits_unit value bound name
  have exact : v ≤ 2 ^ 63 / unit ↔ v * unit ≤ 2 ^ 63 := Nat.le_div_iff_mul_le name.positive
  simp only [List.cons_append, List.length_cons] at once ⊢
  simp only [components, once]
  by_cases over : v * unit > 2 ^ 63
  · rw [if_pos (by by_contra le; exact absurd (exact.mp (by omega)) (by omega)), if_pos over]
    rfl
  · rw [if_neg (by intro gt; exact absurd (exact.mpr (by omega)) (by omega)), if_neg over]
    simp only [Option.some_bind]
    rw [if_neg (by omega)]
    simp [components]
    omega

/-- Negating the bits of a natural number gives the bits of its negation. -/
theorem neg_ofNat (m : Nat) : -(BitVec.ofNat 64 m) = ofInt (-(m : Int)) := by
  apply BitVec.eq_of_toNat_eq
  simp only [ofInt, BitVec.toNat_neg, BitVec.toNat_ofNat, BitVec.toNat_ofInt]
  omega

/-- Integer digits followed by a unit name: `time.ParseDuration` returns the
signed product exactly when it fits in 64 bits. -/
theorem parseDuration_integer_unit {t : String} {n : Int} {u : List Char} {unit : Nat}
    (accepted : atoi t = some n) (name : UnitName u unit) :
    parseDuration (t ++ String.mk u) =
      if FitsInt64 (n * unit) then some (ofInt (n * unit)) else none := by
  obtain ⟨v, value, signed⟩ := Option.bind_eq_some.mp accepted
  obtain ⟨rfl, bound, positive⟩ := signedValue_bound signed
  obtain ⟨c, cs, digits⟩ : ∃ c cs, (splitSign t.data).2 = c :: cs := by
    rcases split : (splitSign t.data).2 with _ | ⟨c, cs⟩
    · simp [split, unsignedValue] at value
    · exact ⟨c, cs, rfl⟩
  have nonempty : t.data ≠ [] := by
    rintro empty
    simp [empty, splitSign] at digits
  have decimal : decimalValue 0 (c :: cs) = some v := by
    simpa [unsignedValue, digits] using value
  have notZero : c :: cs ++ u ≠ ['0'] := by
    intro zero
    rcases u with _ | ⟨d, ds⟩
    · exact name.nonempty rfl
    · have letter := name.head_not_digit d rfl
      simp only [List.cons_append, List.cons.injEq, List.append_eq_nil, reduceCtorEq,
        and_false] at zero
  simp only [parseDuration, String.data_append, splitSign_append nonempty, digits]
  rw [if_neg notZero, if_neg (by simp), components_digits_unit decimal bound name]
  cases negative : (splitSign t.data).1
  · simp only [negative, Bool.false_eq_true, if_false, forall_const] at positive ⊢
    rw [show (v : Int) * unit = ((v * unit : Nat) : Int) by push_cast; rfl]
    generalize v * unit = product
    by_cases fits : product < 2 ^ 63
    · rw [if_neg (show ¬ product > 2 ^ 63 by omega), Option.some_bind,
        if_neg (show ¬ product > 2 ^ 63 - 1 by omega),
        if_pos (show FitsInt64 product from ⟨by omega, by omega⟩)]
      rfl
    · rw [if_neg (fun fit : FitsInt64 product => by unfold FitsInt64 at fit; omega)]
      by_cases beyond : product > 2 ^ 63
      · rw [if_pos beyond]
        rfl
      · rw [if_neg beyond, Option.some_bind, if_pos (show product > 2 ^ 63 - 1 by omega)]
  · simp only [negative, if_true]
    rw [show -(v : Int) * unit = -((v * unit : Nat) : Int) by push_cast; rw [Int.neg_mul]]
    generalize v * unit = product
    by_cases over : product > 2 ^ 63
    · rw [if_pos over, if_neg (fun fit : FitsInt64 _ => by unfold FitsInt64 at fit; omega)]
      rfl
    · rw [if_neg over, Option.some_bind, neg_ofNat,
        if_pos (show FitsInt64 (-(product : Int)) from ⟨by omega, by omega⟩)]

/-! ## A number without a unit

`time.ParseDuration` asks every component for a unit; only the special case
`"0"`, after an optional sign, stands alone. So of the texts `strconv.Atoi`
accepts it takes the zeros `0`, `+0` and `-0` and refuses every other. -/

/-- Reading the leading integer of a text of digits leaves nothing. -/
theorem leadingInt_all_digits {x v : Nat} {s rest : List Char} (digits : ∀ c ∈ s, c.isDigit = true)
    (read : leadingInt x s = some (v, rest)) : rest = [] := by
  induction s generalizing x with
  | nil => exact (Prod.mk.inj (Option.some.inj read)).2.symm
  | cons c cs ih =>
    simp only [leadingInt, digits c (List.mem_cons_self c cs), if_true] at read
    split_ifs at read
    exact ih (fun d member => digits d (List.mem_cons_of_mem c member)) read

/-- Digits alone are no component: the unit is missing. -/
theorem component_all_digits {s : List Char} (digits : ∀ c ∈ s, c.isDigit = true) :
    component s = none := by
  rcases s with _ | ⟨c, cs⟩
  · rfl
  · have digit : isUnitChar c = false := by simp [isUnitChar, digits c (List.mem_cons_self c cs)]
    simp only [component, digit, Bool.false_eq_true, if_false]
    split
    · rfl
    · rename_i v rest read
      rw [leadingInt_all_digits digits read]
      rfl

/-- A numeral that `strconv.Atoi` accepts parses as a duration only when it is zero. -/
theorem parseDuration_of_atoi {t : String} {n : Int} (accepted : atoi t = some n) :
    parseDuration t = if (splitSign t.data).2 = ['0'] then some 0 else none := by
  obtain ⟨v, value, -⟩ := Option.bind_eq_some.mp accepted
  rcases sign : splitSign t.data with ⟨negative, _ | ⟨c, cs⟩⟩
  · simp [sign, unsignedValue] at value
  · have digits := isDigit_of_decimalValue (by simpa [sign, unsignedValue] using value)
    simp only [parseDuration, sign]
    by_cases zero : c :: cs = ['0']
    · rw [if_pos zero, if_pos zero]
    · simp [zero, components, component_all_digits digits]

end DoudouRegistry.Time
