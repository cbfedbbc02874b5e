import Mathlib.Data.List.Sort
import PgJinja.Proofs.Storage

/-! The order of paths. A set of paths has one increasing list. -/
namespace PgJinja.Path

def Before (p q : Path) : Prop := p.key < q.key

theorem key_injective {p q : Path} (first : p.Proper) (second : q.Proper) (same : p.key = q.key) : p = q := by
  -- The root is the first component of an absolute path, and no relative path has a component with a slash.
  have relative {r : Path} (proper : r.Proper) {rest : List String} {root : String} (slash : '/' ∈ root.toList) :
      r.parts ≠ root :: rest := by
    intro parts
    apply proper root
    · rw [parts]
      exact List.mem_cons_self
    · exact slash
  obtain ⟨a, parts⟩ := p
  obtain ⟨b, others⟩ := q
  cases a <;> cases b <;> simp only [key] at same
  · rw [same]
  · exact absurd same (relative first (by decide))
  · exact absurd same (relative first (by decide))
  · exact absurd same.symm (relative second (by decide))
  · rw [(List.cons.inj same).2]
  · exact absurd (List.cons.inj same).1 (by decide)
  · exact absurd same.symm (relative second (by decide))
  · exact absurd (List.cons.inj same).1 (by decide)
  · rw [(List.cons.inj same).2]

theorem mem_insertSorted {p q : Path} {qs : List Path} : q ∈ insertSorted p qs ↔ q = p ∨ q ∈ qs := by
  induction qs with
  | nil => simp [insertSorted]
  | cons r qs ih =>
    rw [insertSorted]
    split
    · rename_i here
      subst here
      simp
    · split
      · simp
      · rw [List.mem_cons, List.mem_cons, ih]
        exact or_left_comm

theorem mem_sorted {p : Path} {ps : List Path} : p ∈ sorted ps ↔ p ∈ ps := by
  induction ps with
  | nil => rfl
  | cons q ps ih =>
    rw [sorted, List.foldr_cons, ← sorted, mem_insertSorted, ih, List.mem_cons]

theorem insertSorted_increasing {p : Path} {qs : List Path} (apart : ∀ q ∈ qs, p.key = q.key → p = q)
    (increasing : qs.Pairwise Before) : (insertSorted p qs).Pairwise Before := by
  induction qs with
  | nil => exact List.pairwise_singleton Before p
  | cons q qs ih =>
    obtain ⟨first, later⟩ := List.pairwise_cons.mp increasing
    obtain ⟨here, others⟩ := List.forall_mem_cons.mp apart
    rw [insertSorted]
    split
    · exact increasing
    · rename_i other
      split
      · rename_i before
        refine List.pairwise_cons.mpr ⟨?_, increasing⟩
        intro r member
        rcases List.mem_cons.mp member with rfl | member
        · exact before
        · exact List.lt_trans before (first r member)
      · rename_i not_before
        have after : q.Before p := by
          by_contra not_after
          apply other
          exact here (List.le_antisymm (List.not_lt.mp not_after) (List.not_lt.mp not_before))
        refine List.pairwise_cons.mpr ⟨?_, ih others later⟩
        intro r member
        rcases mem_insertSorted.mp member with rfl | member
        · exact after
        · exact first r member

theorem sorted_increasing {ps : List Path} (proper : ∀ p ∈ ps, p.Proper) : (sorted ps).Pairwise Before := by
  induction ps with
  | nil => exact .nil
  | cons p ps ih =>
    obtain ⟨first, others⟩ := List.forall_mem_cons.mp proper
    apply insertSorted_increasing
    · intro q member
      exact key_injective first (others q (mem_sorted.mp member))
    · exact ih others

theorem increasing_unique {ps qs : List Path} (first : ps.Pairwise Before) (second : qs.Pairwise Before)
    (same : ∀ p, p ∈ ps ↔ p ∈ qs) : ps = qs := by
  have : Std.Irrefl Before := ⟨fun p => List.lt_irrefl p.key⟩
  have : Std.Antisymm Before := ⟨fun p q before after => absurd after (List.lt_asymm before)⟩
  exact first.eq_of_mem_iff second same

end PgJinja.Path
