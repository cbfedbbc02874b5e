import PgJinja.Text.Pattern

/-! What a search finds. A match is described here without giving characters back: each piece takes the
longest run after which the other pieces still fit, and the match is the leftmost one. -/
namespace PgJinja.Text

def Count.Allows : Count → Nat → Prop
  | one, n => n = 1
  | some, n => 0 < n
  | any, _ => True

structure Piece.Takes (p : Piece) (run : List Char) : Prop where
  accepted : ∀ c ∈ run, p.accepts c = true
  count : p.count.Allows run.length

namespace Pattern

def Accepts : Pattern → List Char → Prop
  | [], _ => True
  | p :: ps, cs => ∃ run rest, cs = run ++ rest ∧ p.Takes run ∧ Accepts ps rest

/-- The pieces fit at the start of a text, each with the longest run, and these are the kept runs. -/
def Greedy : Pattern → List Char → List (List Char) → Prop
  | [], _, kept => kept = []
  | p :: ps, cs, kept =>
    ∃ run rest others, cs = run ++ rest ∧ p.Takes run ∧ Greedy ps rest others ∧
      kept = (if p.kept then run :: others else others) ∧
      ∀ longer after, cs = longer ++ after → p.Takes longer → Accepts ps after → longer.length ≤ run.length

end Pattern

section Runs

variable {α : Type} {accepts : Char → Bool} {rest : List Char → Option α} {cs : List Char}

theorem takeRun_none (failed : takeRun accepts rest cs = none) {run after : List Char}
    (split : cs = run ++ after) (accepted : ∀ c ∈ run, accepts c = true) : rest after = none := by
  induction cs generalizing run with
  | nil =>
    obtain ⟨rfl, rfl⟩ := List.append_eq_nil_iff.mp split.symm
    simpa [takeRun] using failed
  | cons c cs ih =>
    rw [takeRun] at failed
    split at failed
    · cases failed
    · rename_i inner
      cases run with
      | nil =>
        rw [List.nil_append] at split
        rw [← split]
        simpa using failed
      | cons d run =>
        obtain ⟨rfl, tail⟩ := List.cons.inj split
        obtain ⟨first, others⟩ := List.forall_mem_cons.mp accepted
        rw [if_pos first] at inner
        exact ih inner tail others

theorem takeRun_some {run : List Char} {a : α} (taken : takeRun accepts rest cs = some (run, a)) :
    ∃ after, cs = run ++ after ∧ (∀ c ∈ run, accepts c = true) ∧ rest after = some a ∧
      ∀ longer tail, cs = longer ++ tail → (∀ c ∈ longer, accepts c = true) → (rest tail).isSome = true →
        longer.length ≤ run.length := by
  induction cs generalizing run with
  | nil =>
    obtain ⟨b, done, same⟩ := Option.map_eq_some_iff.mp taken
    cases same
    refine ⟨[], rfl, by simp, done, ?_⟩
    intro longer tail split _ _
    simp [(List.append_eq_nil_iff.mp split.symm).1]
  | cons c cs ih =>
    rw [takeRun] at taken
    split at taken
    · rename_i inner b found
      cases taken
      split at found
      · rename_i first
        obtain ⟨after, split, accepted, done, longest⟩ := ih found
        refine ⟨after, by rw [split, List.cons_append], List.forall_mem_cons.mpr ⟨first, accepted⟩, done, ?_⟩
        intro longer tail parts all fits
        cases longer with
        | nil => exact Nat.zero_le _
        | cons d longer =>
          have shorter := longest longer tail (List.cons.inj parts).2 (List.forall_mem_cons.mp all).2 fits
          exact Nat.succ_le_succ shorter
      · cases found
    · rename_i failed
      obtain ⟨b, done, same⟩ := Option.map_eq_some_iff.mp taken
      cases same
      refine ⟨c :: cs, rfl, by simp, done, ?_⟩
      intro longer tail parts all fits
      cases longer with
      | nil => exact Nat.le_refl _
      | cons d longer =>
        -- One more character would have been taken, if the rest fitted after it.
        obtain ⟨rfl, inner⟩ := List.cons.inj parts
        obtain ⟨first, others⟩ := List.forall_mem_cons.mp all
        rw [if_pos first] at failed
        rw [takeRun_none failed inner others] at fits
        cases fits

namespace Piece

variable {p : Piece}

theorem take_none (failed : p.take rest cs = none) {run after : List Char} (split : cs = run ++ after)
    (takes : p.Takes run) : rest after = none := by
  obtain ⟨accepted, count⟩ := takes
  unfold take at failed
  cases counted : p.count with
  | any =>
    rw [counted] at failed
    exact takeRun_none failed split accepted
  | one =>
    rw [counted] at count failed
    obtain ⟨c, rfl⟩ := List.length_eq_one_iff.mp count
    rw [split] at failed
    simpa [accepted c List.mem_cons_self] using failed
  | some =>
    rw [counted] at count failed
    cases run with
    | nil => cases count
    | cons c run =>
      obtain ⟨first, others⟩ := List.forall_mem_cons.mp accepted
      rw [split] at failed
      simp only [List.cons_append, if_pos first, Option.map_eq_none_iff] at failed
      exact takeRun_none failed rfl others

theorem take_some {run : List Char} {a : α} (taken : p.take rest cs = some (run, a)) :
    ∃ after, cs = run ++ after ∧ p.Takes run ∧ rest after = some a ∧
      ∀ longer tail, cs = longer ++ tail → p.Takes longer → (rest tail).isSome = true →
        longer.length ≤ run.length := by
  unfold take at taken
  cases counted : p.count with
  | any =>
    rw [counted] at taken
    obtain ⟨after, split, accepted, done, longest⟩ := takeRun_some taken
    refine ⟨after, split, ⟨accepted, by rw [counted]; trivial⟩, done, ?_⟩
    intro longer tail parts takes
    exact longest longer tail parts takes.accepted
  | one =>
    cases cs with
    | nil =>
      rw [counted] at taken
      cases taken
    | cons c cs =>
      simp only [counted] at taken
      split at taken
      · rename_i first
        obtain ⟨b, done, same⟩ := Option.map_eq_some_iff.mp taken
        cases same
        refine ⟨cs, rfl, ⟨by simpa using first, by rw [counted]; rfl⟩, done, ?_⟩
        intro longer tail _ takes _
        have single := takes.count
        rw [counted] at single
        exact Nat.le_of_eq single
      · cases taken
  | some =>
    cases cs with
    | nil =>
      rw [counted] at taken
      cases taken
    | cons c cs =>
      simp only [counted] at taken
      split at taken
      · rename_i first
        obtain ⟨⟨inner, b⟩, found, same⟩ := Option.map_eq_some_iff.mp taken
        cases same
        obtain ⟨after, split, accepted, done, longest⟩ := takeRun_some found
        refine ⟨after, by rw [split, List.cons_append],
          ⟨List.forall_mem_cons.mpr ⟨first, accepted⟩, by rw [counted]; exact Nat.succ_pos _⟩, done, ?_⟩
        intro longer tail parts takes fits
        cases longer with
        | nil => exact Nat.zero_le _
        | cons d longer =>
          have shorter := longest longer tail (List.cons.inj parts).2
            (List.forall_mem_cons.mp takes.accepted).2 fits
          exact Nat.succ_le_succ shorter
      · cases taken

end Piece

end Runs

namespace Pattern

theorem matchStart_none {p : Pattern} {cs : List Char} (failed : p.matchStart cs = none) :
    ¬ p.Accepts cs := by
  induction p generalizing cs with
  | nil => cases failed
  | cons piece ps ih =>
    rintro ⟨run, rest, split, takes, fits⟩
    rw [matchStart, Option.map_eq_none_iff] at failed
    exact ih (piece.take_none failed split takes) fits

theorem Greedy.accepts {p : Pattern} {cs : List Char} {kept : List (List Char)}
    (greedy : p.Greedy cs kept) : p.Accepts cs := by
  induction p generalizing cs kept with
  | nil => trivial
  | cons piece ps ih =>
    obtain ⟨run, rest, others, split, takes, inner, -⟩ := greedy
    exact ⟨run, rest, split, takes, ih inner⟩

theorem matchStart_some {p : Pattern} {cs : List Char} {kept : List (List Char)}
    (found : p.matchStart cs = some kept) : p.Greedy cs kept := by
  induction p generalizing cs kept with
  | nil =>
    cases found
    rfl
  | cons piece ps ih =>
    obtain ⟨⟨run, others⟩, taken, same⟩ := Option.map_eq_some_iff.mp found
    obtain ⟨rest, split, takes, inner, longest⟩ := piece.take_some taken
    refine ⟨run, rest, others, split, takes, ih inner, same.symm, ?_⟩
    intro longer after parts fits accepts
    apply longest longer after parts fits
    rw [Option.isSome_iff_ne_none]
    intro failed
    exact matchStart_none failed accepts

theorem Greedy.unique {p : Pattern} {cs : List Char} {kept kept' : List (List Char)}
    (first : p.Greedy cs kept) (second : p.Greedy cs kept') : kept = kept' := by
  induction p generalizing cs kept kept' with
  | nil => exact Eq.trans first (Eq.symm second)
  | cons piece ps ih =>
    obtain ⟨run, rest, others, split, takes, inner, rfl, longest⟩ := first
    obtain ⟨run', rest', others', split', takes', inner', rfl, longest'⟩ := second
    have same : run.length = run'.length :=
      Nat.le_antisymm (longest' run rest split takes inner.accepts)
        (longest run' rest' split' takes' inner'.accepts)
    obtain ⟨rfl, rfl⟩ := List.append_inj (split.symm.trans split') same
    rw [ih inner inner']

theorem matchStart_eq_some_iff {p : Pattern} {cs : List Char} {kept : List (List Char)} :
    p.matchStart cs = some kept ↔ p.Greedy cs kept := by
  constructor
  · exact matchStart_some
  · intro greedy
    cases found : p.matchStart cs with
    | none => exact absurd greedy.accepts (matchStart_none found)
    | some kept' => rw [greedy.unique (matchStart_some found)]

/-- A search finds the kept runs of the greedy match at the first place where the pattern fits. -/
theorem search_eq_some_iff {p : Pattern} {cs : List Char} {kept : List (List Char)} :
    p.search cs = some kept ↔
      ∃ before rest, cs = before ++ rest ∧ p.Greedy rest kept ∧
        ∀ earlier later, before = earlier ++ later → later ≠ [] → ¬ p.Accepts (later ++ rest) := by
  induction cs with
  | nil =>
    rw [search, matchStart_eq_some_iff]
    constructor
    · intro greedy
      refine ⟨[], [], rfl, greedy, ?_⟩
      intro earlier later split visible
      exact absurd (List.append_eq_nil_iff.mp split.symm).2 visible
    · rintro ⟨before, rest, split, greedy, -⟩
      obtain ⟨rfl, rfl⟩ := List.append_eq_nil_iff.mp split.symm
      exact greedy
  | cons c cs ih =>
    rw [search]
    split
    · rename_i runs found
      have here := matchStart_some found
      constructor
      · intro same
        cases same
        refine ⟨[], c :: cs, rfl, here, ?_⟩
        intro earlier later split visible
        exact absurd (List.append_eq_nil_iff.mp split.symm).2 visible
      · rintro ⟨before, rest, split, greedy, first⟩
        cases before with
        | nil =>
          rw [List.nil_append] at split
          rw [here.unique (split ▸ greedy)]
        | cons d before =>
          have refused := first [] (d :: before) rfl (List.cons_ne_nil _ _)
          rw [← split] at refused
          exact absurd here.accepts refused
    · rename_i failed
      have refused := matchStart_none failed
      rw [ih]
      constructor
      · rintro ⟨before, rest, split, greedy, first⟩
        refine ⟨c :: before, rest, by rw [split, List.cons_append], greedy, ?_⟩
        intro earlier later parts visible
        cases earlier with
        | nil =>
          rw [List.nil_append] at parts
          rw [← parts, List.cons_append, ← split]
          exact refused
        | cons d earlier => exact first earlier later (List.cons.inj parts).2 visible
      · rintro ⟨before, rest, split, greedy, first⟩
        cases before with
        | nil =>
          rw [List.nil_append] at split
          exact absurd (split ▸ greedy.accepts) refused
        | cons d before =>
          refine ⟨before, rest, (List.cons.inj split).2, greedy, ?_⟩
          intro earlier later parts visible
          exact first (d :: earlier) later (by rw [parts, List.cons_append]) visible

theorem search_eq_none_iff {p : Pattern} {cs : List Char} :
    p.search cs = none ↔ ∀ i, ¬ p.Accepts (cs.drop i) := by
  constructor
  · intro failed
    induction cs with
    | nil =>
      intro i
      rw [List.drop_nil]
      exact matchStart_none failed
    | cons c cs ih =>
      rw [search] at failed
      split at failed
      · cases failed
      · rename_i here
        intro i
        cases i with
        | zero => exact matchStart_none here
        | succ i => exact ih failed i
  · intro nowhere
    cases found : p.search cs with
    | none => rfl
    | some kept =>
      obtain ⟨before, rest, rfl, greedy, -⟩ := search_eq_some_iff.mp found
      have fits := greedy.accepts
      rw [← @List.drop_left _ before rest] at fits
      exact absurd fits (nowhere before.length)

theorem search_least {p : Pattern} {cs : List Char} {kept : List (List Char)} {i : Nat}
    (greedy : p.Greedy (cs.drop i) kept) (least : ∀ j < i, ¬ p.Accepts (cs.drop j)) : p.search cs = some kept := by
  apply search_eq_some_iff.mpr
  refine ⟨cs.take i, cs.drop i, (List.take_append_drop i cs).symm, greedy, ?_⟩
  intro earlier later split visible
  have ahead : earlier.length < i := by
    have bound := List.length_take_le i cs
    have more := List.length_pos_iff.mpr visible
    rw [split, List.length_append] at bound
    omega
  have rest : cs.drop earlier.length = later ++ cs.drop i := by
    calc cs.drop earlier.length = (earlier ++ (later ++ cs.drop i)).drop earlier.length := by
          rw [← List.append_assoc, ← split, List.take_append_drop]
      _ = later ++ cs.drop i := List.drop_left
  rw [← rest]
  exact least earlier.length ahead

end Pattern

@[simp] theorem Piece.takes_only {c : Char} {run : List Char} : (Piece.only c).Takes run ↔ run = [c] := by
  constructor
  · rintro ⟨accepted, count⟩
    obtain ⟨d, rfl⟩ := List.length_eq_one_iff.mp count
    simpa [Piece.only] using accepted d List.mem_cons_self
  · rintro rfl
    exact ⟨by simp [Piece.only], rfl⟩

@[simp] theorem Piece.takes_blanks {run : List Char} :
    Piece.blanks.Takes run ↔ ∀ c ∈ run, isBlank c = true :=
  ⟨fun takes => takes.accepted, fun blank => ⟨blank, trivial⟩⟩

theorem Piece.takes_some {accepts : Char → Bool} {kept : Bool} {run : List Char} :
    (⟨accepts, .some, kept⟩ : Piece).Takes run ↔ run ≠ [] ∧ ∀ c ∈ run, accepts c = true := by
  constructor
  · rintro ⟨accepted, count⟩
    exact ⟨List.length_pos_iff.mp count, accepted⟩
  · rintro ⟨given, accepted⟩
    exact ⟨accepted, List.length_pos_iff.mpr given⟩

theorem run_length_le {accepts : Char → Bool} {run rest longer after : List Char}
    (same : run ++ rest = longer ++ after) (accepted : ∀ c ∈ longer, accepts c = true)
    (stops : ∀ c ∈ rest.head?, accepts c = false) : longer.length ≤ run.length := by
  rcases List.append_eq_append_iff.mp same with ⟨more, rfl, tail⟩ | ⟨more, rfl, -⟩
  · cases more with
    | nil => simp
    | cons c more =>
      have refused := stops c (by simp [tail])
      rw [accepted c (by simp)] at refused
      cases refused
  · simp

theorem run_unique {accepts : Char → Bool} {run run' rest rest' : List Char}
    (same : run ++ rest = run' ++ rest') (accepted : ∀ c ∈ run, accepts c = true)
    (accepted' : ∀ c ∈ run', accepts c = true) (stops : ∀ c ∈ rest.head?, accepts c = false)
    (stops' : ∀ c ∈ rest'.head?, accepts c = false) : run = run' ∧ rest = rest' := by
  have shorter := run_length_le same accepted' stops
  have longer := run_length_le same.symm accepted stops'
  exact List.append_inj same (Nat.le_antisymm longer shorter)

theorem dropWhile_run {accepts : Char → Bool} {run rest : List Char} (accepted : ∀ c ∈ run, accepts c = true)
    (stops : ∀ c ∈ rest.head?, accepts c = false) : (run ++ rest).dropWhile accepts = rest := by
  rw [List.dropWhile_append_of_pos accepted]
  cases rest with
  | nil => rfl
  | cons c rest => simp [stops c rfl]

theorem takeWhile_run {accepts : Char → Bool} {run rest : List Char} (accepted : ∀ c ∈ run, accepts c = true)
    (stops : ∀ c ∈ rest.head?, accepts c = false) : (run ++ rest).takeWhile accepts = run := by
  rw [List.takeWhile_append_of_pos accepted]
  cases rest with
  | nil => simp
  | cons c rest => simp [stops c rfl]

namespace Pattern

variable {p : Piece} {ps : Pattern} {c : Char} {cs rest : List Char} {kept : List (List Char)}

theorem accepts_only : Accepts (Piece.only c :: ps) cs ↔ ∃ rest, cs = c :: rest ∧ ps.Accepts rest := by
  simp only [Accepts, Piece.takes_only]
  constructor
  · rintro ⟨run, rest, split, rfl, fits⟩
    exact ⟨rest, split, fits⟩
  · rintro ⟨rest, split, fits⟩
    exact ⟨[c], rest, split, rfl, fits⟩

theorem greedy_only :
    Greedy (Piece.only c :: ps) cs kept ↔ ∃ rest, cs = c :: rest ∧ ps.Greedy rest kept := by
  simp only [Greedy, Piece.takes_only]
  constructor
  · rintro ⟨run, rest, others, split, rfl, inner, same, -⟩
    exact ⟨rest, split, same ▸ inner⟩
  · rintro ⟨rest, split, inner⟩
    refine ⟨[c], rest, kept, split, rfl, inner, rfl, ?_⟩
    rintro longer after - rfl -
    exact Nat.le_refl _

/-- A run that the next character cannot lengthen is the longest one. -/
theorem Greedy.stops {run : List Char} (inner : ps.Greedy rest kept) (takes : p.Takes run)
    (stops : ∀ c ∈ rest.head?, p.accepts c = false) :
    Greedy (p :: ps) (run ++ rest) (if p.kept then run :: kept else kept) := by
  refine ⟨run, rest, kept, rfl, takes, inner, rfl, ?_⟩
  intro longer after split fits _
  exact run_length_le split fits.accepted stops

end Pattern
end PgJinja.Text
