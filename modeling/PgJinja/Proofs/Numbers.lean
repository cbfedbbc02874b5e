import PgJinja.Json.Value

/-! Texts of integers: which integers have one, and that different integers have different ones. -/
namespace PgJinja

/-- Powers of ten, which are never computed here. -/
@[irreducible]
def powerOfTen (k : Nat) : Nat := Nat.pow 10 k

theorem length_toDigits_le {n k : Nat} (positive : 0 < k) : (Nat.toDigits 10 n).length ≤ k ↔ n < powerOfTen k := by
  unfold powerOfTen
  exact Nat.length_toDigits_le_iff (by decide) positive

theorem isShort_iff {n : Int} : isShort n = true ↔ n.natAbs < powerOfTen maxDigits := by
  rw [isShort, decide_eq_true_iff]
  exact length_toDigits_le (by decide)

def firstLong : Nat := powerOfTen maxDigits

theorem firstLong_long : isShort firstLong = false := by
  rw [Bool.eq_false_iff, Ne, isShort_iff, Int.natAbs_natCast, firstLong]
  exact Nat.lt_irrefl _

theorem natText_inj {m n : Nat} (same : natText m = natText n) : m = n := by
  have digits : Nat.toDigits 10 m = Nat.toDigits 10 n := by
    simpa [natText] using congrArg String.toList same
  -- The digits of a number give it back.
  have read := congrArg (fun ds => Nat.ofDigitChars 10 ds 0) digits
  simpa using read

theorem natText_ne_minus (m n : Nat) : natText m ≠ "-" ++ natText n := by
  intro same
  have minus : '-' ∈ Nat.toDigits 10 m := by
    have listed := congrArg String.toList same
    simp only [natText, String.toList_ofList, String.toList_append] at listed
    simp [listed]
  have digit := Nat.isDigit_of_mem_toDigits (by decide) (by decide) minus
  cases digit

theorem intText_inj {m n : Int} (same : intText m = intText n) : m = n := by
  match m, n with
  | .ofNat m, .ofNat n => rw [natText_inj same]
  | .ofNat m, .negSucc n => exact absurd same (natText_ne_minus m (n + 1))
  | .negSucc m, .ofNat n => exact absurd same.symm (natText_ne_minus n (m + 1))
  | .negSucc m, .negSucc n =>
    have digits : natText (m + 1) = natText (n + 1) := by
      simpa [intText, ← String.toList_inj] using same
    rw [Nat.succ.inj (natText_inj digits)]

namespace Json

theorem shortItems_iff {vs : List Json} : shortItems vs = true ↔ ∀ v ∈ vs, v.isShort = true := by
  induction vs with
  | nil => simp [shortItems]
  | cons v vs ih => simp [shortItems, ih]

theorem shortFields_iff {fs : List (String × Json)} : shortFields fs = true ↔ ∀ f ∈ fs, f.2.isShort = true := by
  induction fs with
  | nil => simp [shortFields]
  | cons f fs ih => simp [shortFields, ih]

end Json
end PgJinja
