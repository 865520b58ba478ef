import TabTools.Proofs.Debug.Breakpoint
import TabTools.Proofs.Debug.Request

/-!
# Line numbers in 64 bits

Numbers of lines have no bounds here. Clients and files count in 64 bits, signed and unsigned, so a
conversion between them takes steps that may leave the range of their result: a checked step then
has no result (`signed?`, `unsigned?`), and a saturating one takes the end of the range
(`saturated`).

**Conversions** (`toInternal64_eq`, `toClient64_eq`). Taken step by step in 64 bits, the conversions
of a `LineBase` give what they give without bounds, for every client number and every line.

**Theorem (`conversions_inverse`).** So they undo each other up to the largest client number, which is
the number of all lines beyond it, and the numbers of lines ascend up to there.
-/

namespace TabTools

instance (n : Int) : Decidable (IsInt64 n) := inferInstanceAs (Decidable (_ ∧ _))

/-- A signed number of 64 bits. -/
def signed? (n : Int) : Option Int := if IsInt64 n then some n else none

/-- An unsigned number of 64 bits. -/
def unsigned? (n : Int) : Option Nat :=
  if 0 ≤ n ∧ n < 0x10000000000000000 then some n.toNat else none

/-- The signed number of 64 bits that is nearest to `n`. -/
def saturated (n : Int) : Int := max (-0x8000000000000000) (min n 0x7FFFFFFFFFFFFFFF)

theorem signed?_of_mem {n : Int} (h : IsInt64 n) : signed? n = some n := if_pos h

theorem signed?_eq_none_iff {n : Int} : signed? n = none ↔ ¬IsInt64 n := by
  rw [signed?, ite_eq_right_iff]
  simp only [reduceCtorEq, imp_false]

theorem isInt64_of_signed? {n m : Int} (h : signed? n = some m) : IsInt64 m := by
  unfold signed? at h
  split at h
  · cases h
    assumption
  · cases h

theorem unsigned?_of_lt {n : Nat} (h : n < 0x10000000000000000) : unsigned? n = some n := by
  rw [unsigned?, if_pos (by omega), Int.toNat_natCast]

theorem lt_of_unsigned? {n : Int} {m : Nat} (h : unsigned? n = some m) :
    m < 0x10000000000000000 := by
  unfold unsigned? at h
  split at h
  · cases h
    omega
  · cases h

theorem isInt64_saturated (n : Int) : IsInt64 (saturated n) := by
  unfold IsInt64 saturated
  omega

namespace LineBase

variable {base : LineBase} {client : Int} {line : Nat}

/-! ## Without bounds -/

/-- The line that a client number denotes has that number. -/
theorem toClient_of_toInternal (h : IsInt64 client) (hline : base.toInternal client = some line) :
    base.toClient line = client := by
  have hclient := toInternal_eq_some_iff.1 hline
  unfold toClient maxClient
  unfold IsInt64 at h
  omega

/-- The number of a line denotes it, if there are that many client numbers. -/
theorem toInternal_toClient (h : line + base.first ≤ maxClient) :
    base.toInternal (base.toClient line) = some line :=
  toInternal_eq_some_iff.2 (Int.min_eq_left h)

theorem first_le_toClient (base : LineBase) (line : Nat) : base.first ≤ base.toClient line := by
  have hfirst := base.first_cases
  unfold toClient maxClient
  omega

theorem toClient_le_toClient {later : Nat} (h : line ≤ later) :
    base.toClient line ≤ base.toClient later := by
  unfold toClient
  omega

theorem toClient_lt_toClient {later : Nat} (h : line < later)
    (hmax : later + base.first ≤ maxClient) : base.toClient line < base.toClient later := by
  unfold toClient
  omega

/-! ## In 64 bits -/

/-- `toInternal` in 64 bits: a checked difference, then a checked conversion. -/
def toInternal64 (base : LineBase) (client : Int) : Option Nat :=
  (signed? (client - base.first)).bind unsigned?

/-- `toClient` in 64 bits: a conversion that falls back to the largest number, then a saturating
sum. -/
def toClient64 (base : LineBase) (line : Nat) : Int :=
  saturated ((signed? line).getD maxClient + base.first)

theorem toInternal64_eq (base : LineBase) {client : Int} (h : IsInt64 client) :
    base.toInternal64 client = base.toInternal client := by
  have hfirst := base.first_cases
  unfold toInternal64 toInternal
  by_cases hmem : IsInt64 (client - base.first)
  · rw [signed?_of_mem hmem, Option.bind_some, unsigned?]
    unfold IsInt64 at hmem
    split
    · rw [if_pos (by omega)]
    · rw [if_neg (by omega)]
  · -- Only the smallest number has no predecessor.
    rw [signed?_eq_none_iff.2 hmem, Option.bind_none]
    unfold IsInt64 at h hmem
    rw [if_neg (by omega)]

theorem toClient64_eq (base : LineBase) (line : Nat) :
    base.toClient64 line = base.toClient line := by
  have hfirst := base.first_cases
  unfold toClient64 toClient
  by_cases hmem : IsInt64 line
  · rw [signed?_of_mem hmem, Option.getD_some]
    unfold IsInt64 at hmem
    unfold saturated maxClient
    omega
  · rw [signed?_eq_none_iff.2 hmem, Option.getD_none]
    unfold IsInt64 at hmem
    unfold saturated maxClient
    omega

/-- The difference leaves the range only below the smallest number, which the check finds. -/
theorem signed?_sub_first_eq_none_iff (base : LineBase) (h : IsInt64 client) :
    signed? (client - base.first) = none ↔
      client = -0x8000000000000000 ∧ base.startAtOne = true := by
  rw [signed?_eq_none_iff]
  unfold IsInt64 at h ⊢
  unfold first
  cases base.startAtOne with
  | false =>
    simp only [Bool.false_eq_true, if_false, and_false, iff_false, not_not]
    omega
  | true =>
    simp only [if_true, and_true]
    omega

/-- The sum adds to a signed number. -/
theorem isInt64_getD_signed? (line : Nat) : IsInt64 ((signed? line).getD maxClient) := by
  cases hsigned : signed? line with
  | none => decide
  | some n => exact isInt64_of_signed? hsigned

/-- **Line numbers are inverse** to each other over all 64 bits. A client number that is not before the
first line denotes a line that has this number. The number of a line is a client number; it denotes
the line up to the largest one, and is the largest one from there on. Later lines have no smaller
numbers, and larger ones up to there. No step overflows: the difference is checked where it leaves the
range of its type, the sum of a signed number and the offset ends at its bound, and the results are
those without bounds. -/
theorem conversions_inverse (base : LineBase) :
    (∀ client, IsInt64 client →
      (base.toInternal64 client = none ↔ client < base.first) ∧
      (∀ line, base.toInternal64 client = some line →
        line < 0x10000000000000000 ∧ base.toClient64 line = client) ∧
      (signed? (client - base.first) = none ↔
        client = -0x8000000000000000 ∧ base.startAtOne = true) ∧
      base.toInternal64 client = base.toInternal client) ∧
    ∀ line < 0x10000000000000000,
      IsInt64 (base.toClient64 line) ∧ base.first ≤ base.toClient64 line ∧
      (line + base.first ≤ maxClient → base.toInternal64 (base.toClient64 line) = some line) ∧
      (maxClient < line + base.first → base.toClient64 line = maxClient) ∧
      (∀ later, line ≤ later → base.toClient64 line ≤ base.toClient64 later) ∧
      (∀ later, line < later → later + base.first ≤ maxClient →
        base.toClient64 line < base.toClient64 later) ∧
      IsInt64 ((signed? line).getD maxClient) ∧
      base.toClient64 line = base.toClient line := by
  have hclient : base.toClient64 = base.toClient := funext base.toClient64_eq
  have hrange (line : Nat) : IsInt64 (base.toClient line) :=
    base.toClient64_eq line ▸ isInt64_saturated _
  rw [hclient]
  constructor
  · intro client h
    rw [base.toInternal64_eq h]
    refine ⟨toInternal_eq_none_iff, fun line hline => ⟨?_, toClient_of_toInternal h hline⟩,
      base.signed?_sub_first_eq_none_iff h, rfl⟩
    rw [← base.toInternal64_eq h] at hline
    obtain ⟨n, -, hn⟩ := Option.bind_eq_some_iff.1 hline
    exact lt_of_unsigned? hn
  · intro line _
    rw [base.toInternal64_eq (hrange line)]
    exact ⟨hrange line, base.first_le_toClient line, toInternal_toClient,
      fun h => Int.min_eq_right (Int.le_of_lt h), fun _ => toClient_le_toClient,
      fun _ => toClient_lt_toClient, isInt64_getD_signed? line, rfl⟩

end LineBase

end TabTools
