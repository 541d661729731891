import ShapeTables.Decimal.Shortest

/-! Texts of doubles. A layout says which powers of ten are written positionally and how the values that
are not finite are named; a decimal always shows a point or an exponent, so that it cannot be taken for an
integer. Reading is the rounding of an exact decimal to the nearest double. -/
namespace ShapeTables.Decimal

/-- A double is written positionally when the power of ten of its first digit is at least `least` and
below `bound`, and with an exponent of at least two digits elsewhere. -/
structure Layout where
  least : Int
  bound : Int
  infinity : String
  notANumber : String

/-- Positional from 0.0001 up to below 10 ^ 16, as numbers stand in statements. -/
def Layout.plain : Layout := ⟨-4, 16, "inf", "nan"⟩

private def zeros (n : Int) : List Char := List.replicate n.toNat '0'

/-- Digits with the point after the place of `power`, filled up with zeros. -/
def positional (digits : List Char) (power : Int) : List Char :=
  if power < 0 then '0' :: '.' :: zeros (-power - 1) ++ digits
  else
    let whole := digits.take (power + 1).toNat ++ zeros (power + 1 - digits.length)
    let part := digits.drop (power + 1).toNat
    whole ++ '.' :: (if part.isEmpty then ['0'] else part)

/-- One digit before the point, the others after it, then the signed power of ten. -/
def exponential (digits : List Char) (power : Int) : List Char :=
  let mantissa := match digits with
    | [] => []
    | [d] => [d]
    | d :: rest => d :: '.' :: rest
  let size := Nat.toDigits 10 power.natAbs
  mantissa ++ 'e' :: (if power < 0 then '-' else '+') :: (if size.length < 2 then '0' :: size else size)

/-- The text of the magnitude of a finite double. -/
def Layout.magnitude (layout : Layout) (b : Binary) : List Char :=
  if b.significand = 0 then ['0', '.', '0']
  else
    let d := b.shortest
    let digits := Nat.toDigits 10 d.digits
    let power := d.exponent + digits.length - 1
    if layout.least ≤ power ∧ power < layout.bound then positional digits power
    else exponential digits power

/-- The text of a double; only what is not a number has no sign. -/
def Layout.text (layout : Layout) (x : Float) : String :=
  let sign := if isNegative x then ['-'] else []
  match Binary.ofFloat? x with
  | some b => String.ofList (sign ++ layout.magnitude b)
  | none =>
    if x.isNaN then layout.notANumber else String.ofList (sign ++ layout.infinity.toList)

/-! ### Characters -/

/-- The characters of numbers. -/
def isNumeric (c : Char) : Bool := c.isDigit || c == '.' || c == 'e' || c == '+' || c == '-'

theorem isNumeric_of_mem_toDigits {n : Nat} {c : Char} (h : c ∈ Nat.toDigits 10 n) : isNumeric c := by
  simp [isNumeric, Nat.isDigit_of_mem_toDigits (by decide) (by decide) h]

theorem isNumeric_of_mem_zeros {n : Int} {c : Char} (h : c ∈ zeros n) : isNumeric c := by
  rw [List.eq_of_mem_replicate h]
  rfl

theorem isNumeric_of_mem_positional {digits : List Char} {power : Int} (h : ∀ c ∈ digits, isNumeric c) :
    ∀ c ∈ positional digits power, isNumeric c := by
  intro c hc
  unfold positional at hc
  split at hc
  · simp only [List.cons_append, List.mem_cons, List.mem_append] at hc
    rcases hc with rfl | rfl | hc | hc
    · rfl
    · rfl
    · exact isNumeric_of_mem_zeros hc
    · exact h c hc
  · simp only [List.mem_append, List.mem_cons] at hc
    rcases hc with (hc | hc) | rfl | hc
    · exact h c (List.mem_of_mem_take hc)
    · exact isNumeric_of_mem_zeros hc
    · rfl
    · split at hc
      · rw [List.mem_singleton.mp hc]
        rfl
      · exact h c (List.mem_of_mem_drop hc)

theorem isNumeric_of_mem_exponential {digits : List Char} {power : Int} (h : ∀ c ∈ digits, isNumeric c) :
    ∀ c ∈ exponential digits power, isNumeric c := by
  intro c hc
  unfold exponential at hc
  simp only [List.mem_append, List.mem_cons] at hc
  rcases hc with hc | rfl | rfl | hc
  · split at hc
    · cases hc
    · exact h c hc
    · next d rest =>
      simp only [List.mem_cons] at hc
      rcases hc with rfl | rfl | hc
      · exact h _ List.mem_cons_self
      · rfl
      · exact h c (List.mem_cons_of_mem _ hc)
  · rfl
  · split <;> rfl
  · split at hc
    · rcases List.mem_cons.mp hc with rfl | hc
      · rfl
      · exact isNumeric_of_mem_toDigits hc
    · exact isNumeric_of_mem_toDigits hc

theorem Layout.isNumeric_of_mem_magnitude {layout : Layout} {b : Binary} :
    ∀ c ∈ layout.magnitude b, isNumeric c := by
  unfold Layout.magnitude
  split
  · exact List.all_eq_true.mp (by decide)
  · dsimp only
    split
    · exact isNumeric_of_mem_positional fun c => isNumeric_of_mem_toDigits
    · exact isNumeric_of_mem_exponential fun c => isNumeric_of_mem_toDigits

/-- The text of a double holds nothing but characters of numbers and of the names of what is not finite. -/
theorem Layout.of_mem_text {layout : Layout} {x : Float} {c : Char} (h : c ∈ (layout.text x).toList) :
    isNumeric c ∨ c ∈ layout.infinity.toList ∨ c ∈ layout.notANumber.toList := by
  have hsign : c ∈ (if isNegative x then ['-'] else []) → isNumeric c := by
    intro hc
    split at hc
    · rw [List.mem_singleton.mp hc]
      rfl
    · cases hc
  unfold Layout.text at h
  dsimp only at h
  split at h
  · rw [String.toList_ofList, List.mem_append] at h
    exact .inl (h.elim hsign (isNumeric_of_mem_magnitude c))
  · split at h
    · exact .inr (.inr h)
    · rw [String.toList_ofList, List.mem_append] at h
      exact h.imp hsign .inl

/-- The double nearest to `digits · 10 ^ power`. Beyond 400 places on either side of the point the result
is an infinity or zero whatever the digits are. -/
def toFloat (digits : Nat) (power : Int) : Float :=
  if digits = 0 then 0.0
  else
    let top := (digitCount digits : Int) + power
    if 400 < top then 1.0 / 0.0
    else if top < -400 then 0.0
    else if power < 0 then Float.ofScientific digits true power.natAbs
    else Float.ofScientific digits false power.natAbs

end ShapeTables.Decimal
