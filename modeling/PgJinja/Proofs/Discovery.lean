import PgJinja.Files.Discovery
import PgJinja.Proofs.PathOrder

/-! Finding files. In a well-formed file system a search lists, in increasing order, the files that it is for,
unless it has to ask for a path that is too long. -/
namespace PgJinja

def IsFileName (name : String) : Prop :=
  name ≠ "" ∧ name ≠ "." ∧ name ≠ ".." ∧ '/' ∉ name.toList ∧ Char.ofNat 0 ∉ name.toList ∧
    name.utf8ByteSize ≤ Disk.maxName

namespace Glob

theorem someEnd_iff {α : Type} {test : List α → Bool} {cs : List α} :
    someEnd test cs = true ↔ ∃ rest, rest <:+ cs ∧ test rest = true := by
  induction cs with
  | nil => simp [someEnd]
  | cons c cs ih =>
    simp only [someEnd, Bool.or_eq_true, ih, List.suffix_cons_iff]
    constructor
    · rintro (here | ⟨rest, ends, fits⟩)
      · exact ⟨_, .inl rfl, here⟩
      · exact ⟨rest, .inr ends, fits⟩
    · rintro ⟨rest, rfl | ends, fits⟩
      · exact .inl fits
      · exact .inr ⟨rest, ends, fits⟩

theorem matchesChars_literal {text cs : List Char} : matchesChars (text.map .lit) cs = true ↔ cs = text := by
  induction text generalizing cs with
  | nil => simp [matchesChars]
  | cons t text ih =>
    cases cs with
    | nil => simp [matchesChars]
    | cons c cs =>
      rw [List.map_cons, matchesChars, Bool.and_eq_true, beq_iff_eq, ih, List.cons.injEq, @eq_comm _ t c]

theorem fits_sql {name : String} : (ofText "*.sql").fits name = true ↔ ".sql".toList <:+ name.toList := by
  have tokens : ofText "*.sql" = .star :: ".sql".toList.map .lit := by rfl
  rw [fits, tokens, matchesChars, someEnd_iff]
  constructor
  · rintro ⟨rest, ends, whole⟩
    exact matchesChars_literal.mp whole ▸ ends
  · intro ends
    exact ⟨_, ends, matchesChars_literal.mpr rfl⟩

end Glob

namespace Path

variable {p : Path} {parts : List String}

theorem below_nil (p : Path) : p.below [] = p := by
  rw [below, List.append_nil]

theorem name_below (p : Path) (first : List String) (last : String) : (p.below (first ++ [last])).name = last := by
  rw [name, below, ← List.append_assoc, List.getLast?_concat]
  rfl

theorem below_proper (proper : p.Proper) (named : ∀ part ∈ parts, '/' ∉ part.toList) : (p.below parts).Proper := by
  intro part member
  rcases List.mem_append.mp member with member | member
  · exact proper part member
  · exact named part member

end Path

def sqlFiles : PathGlob := PathGlob.ofText "*.sql"

theorem sqlFiles_eq : sqlFiles = ⟨.relative, ["*.sql"], false⟩ := by rfl

theorem fitsEnd_sqlFiles {p : Path} : sqlFiles.fitsEnd p = true ↔ ".sql".toList <:+ p.name.toList := by
  have last (first : List String) (part : String) :
      PathGlob.fitsEach ["*.sql"] ((first ++ [part]).drop ((first ++ [part]).length - 1)) =
        (Glob.ofText "*.sql").fits part := by
    simp [PathGlob.fitsEach]
  obtain ⟨anchor, parts⟩ := p
  rw [sqlFiles_eq, PathGlob.fitsEnd, if_pos rfl]
  rcases List.eq_nil_or_concat parts with rfl | ⟨first, part, rfl⟩
  · cases anchor <;> decide
  · rw [List.concat_eq_append]
    have name : (Path.mk anchor (first ++ [part])).name = part := by
      simp [Path.name]
    obtain ⟨before, key⟩ : ∃ before, (Path.mk anchor (first ++ [part])).key = before ++ [part] := by
      cases anchor
      · exact ⟨first, rfl⟩
      · exact ⟨"/" :: first, rfl⟩
      · exact ⟨"//" :: first, rfl⟩
    rw [key, name]
    simp only [List.length_singleton, last, Glob.fits_sql, Bool.and_eq_true, decide_eq_true_iff, and_iff_right_iff_imp]
    intro _
    rw [List.length_append, List.length_singleton]
    omega

theorem fitsBelow_sqlFiles {parts : List String} :
    sqlFiles.fitsBelow parts = true ↔ ∃ first last, parts = first ++ [last] ∧ ".sql".toList <:+ last.toList := by
  have single (rest : List String) :
      PathGlob.fitsFile ["*.sql"] rest = true ↔ ∃ last, rest = [last] ∧ ".sql".toList <:+ last.toList := by
    cases rest with
    | nil => simp [PathGlob.fitsFile]
    | cons part rest =>
      have step : PathGlob.fitsFile ["*.sql"] (part :: rest) = ((Glob.ofText "*.sql").fits part && rest.isEmpty) := by
        rfl
      rw [step, Bool.and_eq_true, Glob.fits_sql, List.isEmpty_iff]
      simp [and_comm]
  have opened : sqlFiles.fitsBelow parts = Glob.someEnd (PathGlob.fitsFile ["*.sql"]) parts := by rfl
  rw [opened, Glob.someEnd_iff]
  constructor
  · rintro ⟨rest, ⟨first, split⟩, fits⟩
    obtain ⟨last, rfl, ends⟩ := (single rest).mp fits
    exact ⟨first, last, split.symm, ends⟩
  · rintro ⟨first, last, rfl, ends⟩
    exact ⟨[last], List.suffix_append first [last], (single _).mpr ⟨last, rfl, ends⟩⟩

namespace Disk

variable {d : Disk} {base p : Path} {loc : Location} {parts : List String} {e : Entry}

/-- Every location is listed once, under names that files can have, and what stands above it is a directory. -/
structure WellFormed (d : Disk) : Prop where
  distinct : (d.entries.map (·.1)).Nodup
  named : ∀ entry ∈ d.entries, ∀ name ∈ entry.1, IsFileName name
  parents : ∀ entry ∈ d.entries, ∀ n < entry.1.length, d.entry? (entry.1.take n) = some .directory

theorem below_iff {place : Location} :
    (loc.isPrefixOf place && decide (loc.length < place.length)) = true ↔ ∃ rest, rest ≠ [] ∧ place = loc ++ rest := by
  rw [Bool.and_eq_true, List.isPrefixOf_iff_prefix, decide_eq_true_iff]
  constructor
  · rintro ⟨⟨rest, rfl⟩, longer⟩
    refine ⟨rest, ?_, rfl⟩
    rintro rfl
    simp at longer
  · rintro ⟨rest, filled, rfl⟩
    have longer := List.length_pos_iff.mpr filled
    rw [List.length_append]
    exact ⟨List.prefix_append loc rest, by omega⟩

/-- Where a component leads to does not depend on what follows it. -/
theorem walk_step {here : Location} {part : String} {rest : List String}
    (reached : d.walk here (part :: rest) = .ok loc) (more : List String) :
    d.walk here (part :: more) = d.walk (if part = ".." then here.dropLast else here ++ [part]) more := by
  cases found : d.entry? here with
  | none => simp [walk, found] at reached
  | some entry =>
    cases entry with
    | file content => simp [walk, found] at reached
    | directory =>
      simp only [walk, found] at reached ⊢
      split at reached
      · rename_i up
        rw [if_pos up, if_pos up]
      · rename_i down
        rw [if_neg down, if_neg down]
        split at reached
        · cases reached
        · rename_i short
          rw [if_neg short]

theorem walk_append {here : Location} {first : List String} (reached : d.walk here first = .ok loc)
    (second : List String) : d.walk here (first ++ second) = d.walk loc second := by
  induction first generalizing here with
  | nil =>
    cases reached
    rfl
  | cons part rest ih => rw [List.cons_append, walk_step reached, ih (walk_cons reached)]

theorem walk_names {place : Location} (plain : ".." ∉ parts) (reached : d.walk loc parts = .ok place) :
    place = loc ++ parts := by
  induction parts generalizing loc with
  | nil =>
    rw [List.append_nil]
    exact (Except.ok.inj reached).symm
  | cons part rest ih =>
    obtain ⟨first, others⟩ : ".." ≠ part ∧ ".." ∉ rest := by simpa using plain
    have next := walk_cons reached
    rw [if_neg (Ne.symm first)] at next
    rw [ih others next, List.append_assoc]
    rfl

theorem locate_eq_ok_iff : d.locate p = .ok loc ↔
    p.hasNull = false ∧ p.text.utf8ByteSize ≤ maxPath ∧
      d.walk (if p.isAbsolute then [] else d.current) p.parts = .ok loc := by
  rw [locate]
  cases p.hasNull with
  | true => simp
  | false =>
    by_cases long : maxPath < p.text.utf8ByteSize
    · simp [long]
    · simp [long, Nat.not_lt.mp long]

theorem locate_below (located : d.locate base = .ok loc) (clean : ∀ part ∈ parts, Char.ofNat 0 ∉ part.toList) :
    d.locate (base.below parts) =
      if maxPath < (base.below parts).text.utf8ByteSize then .error .tooLong else d.walk loc parts := by
  obtain ⟨named, -, reached⟩ := locate_eq_ok_iff.mp located
  have still : (base.below parts).hasNull = false := by
    simp only [Path.hasNull, Path.below, List.any_append, Bool.or_eq_false_iff] at named ⊢
    refine ⟨named, ?_⟩
    simpa using clean
  rw [locate, still]
  simp only [Bool.false_eq_true, if_false]
  split
  · rfl
  · exact walk_append reached parts

namespace WellFormed

variable (sound : d.WellFormed)

include sound

theorem mem_entries (below : loc ≠ []) : (loc, e) ∈ d.entries ↔ d.entry? loc = some e := by
  unfold entry?
  rw [if_neg below, List.lookup_eq_some_iff]
  constructor
  · intro member
    obtain ⟨before, after, split⟩ := List.append_of_mem member
    refine ⟨before, after, split, ?_⟩
    intro other earlier
    have distinct := sound.distinct
    rw [split, List.map_append, List.nodup_append] at distinct
    have apart := distinct.2.2 other.1 (List.mem_map_of_mem earlier) loc (by simp)
    exact bne_iff_ne.mpr apart.symm
  · rintro ⟨before, after, split, -⟩
    simp [split]

theorem names (filled : parts ≠ []) (here : d.entry? (loc ++ parts) = some e) : ∀ part ∈ parts, IsFileName part := by
  intro part member
  have listed := (sound.mem_entries (by simp [filled])).mpr here
  exact sound.named _ listed part (List.mem_append_right loc member)

theorem above (filled : parts ≠ []) (here : d.entry? (loc ++ parts) = some e) : d.entry? loc = some .directory := by
  have listed := (sound.mem_entries (by simp [filled])).mpr here
  have shorter : loc.length < (loc ++ parts).length := by
    rw [List.length_append]
    have := List.length_pos_iff.mpr filled
    omega
  simpa using sound.parents _ listed loc.length shorter

theorem walk_entry (here : d.entry? (loc ++ parts) = some e) : d.walk loc parts = .ok (loc ++ parts) := by
  induction parts generalizing loc with
  | nil => simp [walk]
  | cons part rest ih =>
    have directory := sound.above (by simp) here
    obtain ⟨-, -, down, -, -, short⟩ := sound.names (by simp) here part List.mem_cons_self
    have next : loc ++ part :: rest = (loc ++ [part]) ++ rest := by simp
    rw [next] at here
    simp only [walk, directory, if_neg down, if_neg (Nat.not_lt.mpr short), ih here, next]

theorem mem_filesBelow :
    parts ∈ d.filesBelow loc ↔ parts ≠ [] ∧ ∃ content, d.entry? (loc ++ parts) = some (.file content) := by
  simp only [filesBelow, List.mem_filterMap]
  constructor
  · rintro ⟨⟨place, entry⟩, listed, kept⟩
    cases entry with
    | directory => cases kept
    | file content =>
      obtain ⟨lower, same⟩ := Option.ite_none_right_eq_some.mp kept
      obtain ⟨rest, filled, rfl⟩ := below_iff.mp lower
      obtain rfl : rest = parts := by simpa using same
      exact ⟨filled, content, (sound.mem_entries (by simp [filled])).mp listed⟩
  · rintro ⟨filled, content, here⟩
    refine ⟨(loc ++ parts, .file content), (sound.mem_entries (by simp [filled])).mpr here, ?_⟩
    simp only [if_pos (below_iff.mpr ⟨parts, filled, rfl⟩), List.drop_left]

theorem mem_directoriesFrom (top : d.entry? loc = some .directory) {place : Location} :
    place ∈ d.directoriesFrom loc ↔ ∃ parts, place = loc ++ parts ∧ d.entry? place = some .directory := by
  simp only [directoriesFrom, List.mem_cons, List.mem_filterMap]
  constructor
  · rintro (rfl | ⟨⟨other, entry⟩, listed, kept⟩)
    · exact ⟨[], by simp, top⟩
    · cases entry with
      | file content => cases kept
      | directory =>
        obtain ⟨lower, same⟩ := Option.ite_none_right_eq_some.mp kept
        obtain rfl := Option.some.inj same
        obtain ⟨rest, filled, rfl⟩ := below_iff.mp lower
        exact ⟨rest, rfl, (sound.mem_entries (by simp [filled])).mp listed⟩
  · rintro ⟨parts, rfl, here⟩
    cases parts with
    | nil => exact .inl (List.append_nil loc)
    | cons part rest =>
      refine .inr ⟨(loc ++ part :: rest, .directory), (sound.mem_entries (by simp)).mpr here, ?_⟩
      simp only [if_pos (below_iff.mpr ⟨part :: rest, by simp, rfl⟩)]

theorem stat_below (located : d.locate base = .ok loc) (here : d.entry? (loc ++ parts) = some e) :
    d.stat (base.below parts) =
      if maxPath < (base.below parts).text.utf8ByteSize then .error .tooLong else .ok e := by
  have clean : ∀ part ∈ parts, Char.ofNat 0 ∉ part.toList := by
    intro part member
    obtain ⟨-, -, -, -, clean, -⟩ := sound.names (List.ne_nil_of_mem member) here part member
    exact clean
  rw [stat, locate_below located clean]
  split
  · rfl
  · simp only [sound.walk_entry here, bind, Except.bind, here]

theorem stat_entry (located : d.locate base = .ok loc) (here : d.entry? (loc ++ parts) = some e)
    (short : d.stat (base.below parts) ≠ .error .tooLong) : d.stat (base.below parts) = .ok e := by
  have answer := sound.stat_below located here
  split at answer
  · contradiction
  · exact answer

theorem mem_enter (located : d.locate base = .ok loc) (top : d.entry? loc = some .directory) :
    p ∈ d.enter "**" base ↔ ∃ parts, p = base.below parts ∧ d.entry? (loc ++ parts) = some .directory := by
  have entered : d.enter "**" base = (d.directoriesFrom loc).map fun place => base.below (place.drop loc.length) := by
    simp [enter, located]
  rw [entered, List.mem_map]
  constructor
  · rintro ⟨place, listed, rfl⟩
    obtain ⟨parts, rfl, here⟩ := (sound.mem_directoriesFrom top).mp listed
    exact ⟨parts, by rw [List.drop_left], here⟩
  · rintro ⟨parts, rfl, here⟩
    exact ⟨loc ++ parts, (sound.mem_directoriesFrom top).mpr ⟨parts, rfl, here⟩, by rw [List.drop_left]⟩

end WellFormed

theorem stat_eq_ok_iff : d.stat p = .ok e ↔ ∃ loc, d.locate p = .ok loc ∧ d.entry? loc = some e := by
  rw [stat]
  cases d.locate p with
  | error fault => simp [bind, Except.bind]
  | ok loc =>
    simp only [bind, Except.bind, Except.ok.injEq, exists_eq_left']
    cases d.entry? loc <;> simp

theorem isFile_iff : d.isFile p = true ↔ ∃ loc content, d.locate p = .ok loc ∧ d.entry? loc = some (.file content) := by
  have answer : d.isFile p = true ↔ ∃ content, d.stat p = .ok (.file content) := by
    rw [isFile]
    split <;> simp_all
  rw [answer]
  simp only [stat_eq_ok_iff]
  exact exists_comm

theorem isDirectory_iff : d.isDirectory p = true ↔ ∃ loc, d.locate p = .ok loc ∧ d.entry? loc = some .directory := by
  rw [← stat_eq_ok_iff, isDirectory]
  split <;> simp_all

def Shown (ignored parts : List String) : Prop := ∀ part ∈ parts, part.toList.head? ≠ some '.' ∧ part ∉ ignored

theorem all_visible_iff {ignored : List String} : parts.all (visible ignored) = true ↔ Shown ignored parts := by
  simp [visible, Shown]

theorem Shown.plain {ignored : List String} (shown : Shown ignored parts) : ".." ∉ parts := by
  intro member
  exact absurd rfl (shown ".." member).1

/-- What a search is for: files with the right ending that were given themselves, or that lie below a given
directory without a hidden or ignored component in between. -/
structure Sought (d : Disk) (bases : List Path) (ignored : List String) (p : Path) : Prop where
  file : d.isFile p = true
  ending : ".sql".toList <:+ p.name.toList
  origin : p ∈ bases ∨ ∃ base ∈ bases, d.isDirectory base = true ∧
    ∃ parts, parts ≠ [] ∧ p = base.below parts ∧ Shown ignored parts

def ListedBelow (d : Disk) (ignored : List String) (base p : Path) : Prop :=
  ∃ loc parts content, d.locate base = .ok loc ∧ d.entry? loc = some .directory ∧
    d.entry? (loc ++ parts) = some (.file content) ∧ p = base.below parts ∧
    ".sql".toList <:+ p.name.toList ∧ Shown ignored parts

/-- The paths that a search asks the file system for: the given ones, all directories below them, and the files
that it lists. -/
inductive Asked (d : Disk) (bases : List Path) (ignored : List String) : Path → Prop where
  | given {base : Path} (member : base ∈ bases) : Asked d bases ignored base
  | directory {base : Path} {loc : Location} {parts : List String} (member : base ∈ bases)
      (located : d.locate base = .ok loc) (top : d.entry? loc = some .directory)
      (here : d.entry? (loc ++ parts) = some .directory) : Asked d bases ignored (base.below parts)
  | file {base p : Path} (member : base ∈ bases) (listed : d.ListedBelow ignored base p) : Asked d bases ignored p

section

variable {bases : List Path} {ignored : List String}

theorem search_file {content : Content} (answer : d.stat base = .ok (.file content)) :
    p ∈ d.search sqlFiles ignored base ↔ p = base ∧ ".sql".toList <:+ p.name.toList := by
  obtain ⟨loc, located, -⟩ := stat_eq_ok_iff.mp answer
  simp only [search, located, answer]
  split
  · rename_i fits
    rw [List.mem_singleton]
    constructor
    · rintro rfl
      exact ⟨rfl, fitsEnd_sqlFiles.mp fits⟩
    · exact And.left
  · rename_i other
    constructor
    · intro member
      cases member
    · rintro ⟨rfl, ends⟩
      exact absurd (fitsEnd_sqlFiles.mpr ends) other

theorem search_absent {fault : PathError} (answer : d.stat base = .error fault) :
    d.search sqlFiles ignored base = [] := by
  rw [search, answer]
  cases d.locate base <;> rfl

theorem ne_nil_of_file {content : Content} (top : d.entry? loc = some .directory)
    (here : d.entry? (loc ++ parts) = some (.file content)) : parts ≠ [] := by
  rintro rfl
  rw [List.append_nil, top] at here
  cases here

namespace WellFormed

variable (sound : d.WellFormed)

include sound

theorem search_directory (located : d.locate base = .ok loc) (top : d.entry? loc = some .directory) :
    p ∈ d.search sqlFiles ignored base ↔ d.ListedBelow ignored base p := by
  have answer := stat_eq_ok_iff.mpr ⟨loc, located, top⟩
  simp only [search, located, answer, List.mem_filterMap]
  constructor
  · rintro ⟨parts, listed, kept⟩
    obtain ⟨fits, same⟩ := Option.ite_none_right_eq_some.mp kept
    obtain ⟨-, content, here⟩ := sound.mem_filesBelow.mp listed
    rw [Bool.and_eq_true, fitsBelow_sqlFiles, all_visible_iff] at fits
    obtain ⟨⟨first, last, rfl, ends⟩, shown⟩ := fits
    obtain rfl := Option.some.inj same
    refine ⟨loc, first ++ [last], content, located, top, here, rfl, ?_, shown⟩
    rwa [Path.name_below]
  · rintro ⟨place, parts, content, reached, -, here, rfl, ends, shown⟩
    obtain rfl : loc = place := Except.ok.inj (located.symm.trans reached)
    have filled := ne_nil_of_file top here
    refine ⟨parts, sound.mem_filesBelow.mpr ⟨filled, content, here⟩, if_pos ?_⟩
    rw [Bool.and_eq_true, fitsBelow_sqlFiles, all_visible_iff]
    rcases List.eq_nil_or_concat parts with rfl | ⟨first, last, rfl⟩
    · contradiction
    · rw [List.concat_eq_append] at ends ⊢
      rw [Path.name_below] at ends
      exact ⟨⟨first, last, rfl, ends⟩, by simpa using shown⟩

/-- A file is listed below a directory exactly if it is a file by its own path and the components in between are
shown, provided that its path is not too long. -/
theorem listedBelow_iff (short : d.stat p ≠ .error .tooLong) : d.ListedBelow ignored base p ↔
    d.isFile p = true ∧ ".sql".toList <:+ p.name.toList ∧ d.isDirectory base = true ∧
      ∃ parts, parts ≠ [] ∧ p = base.below parts ∧ Shown ignored parts := by
  constructor
  · rintro ⟨loc, parts, content, located, top, here, rfl, ends, shown⟩
    have answer := sound.stat_entry located here short
    obtain ⟨place, reached, stands⟩ := stat_eq_ok_iff.mp answer
    exact ⟨isFile_iff.mpr ⟨place, content, reached, stands⟩, ends, isDirectory_iff.mpr ⟨loc, located, top⟩, parts,
      ne_nil_of_file top here, rfl, shown⟩
  · rintro ⟨file, ends, directory, parts, filled, rfl, shown⟩
    obtain ⟨place, content, reached, here⟩ := isFile_iff.mp file
    obtain ⟨loc, located, top⟩ := isDirectory_iff.mp directory
    obtain ⟨-, -, whole⟩ := locate_eq_ok_iff.mp reached
    obtain ⟨-, -, first⟩ := locate_eq_ok_iff.mp located
    -- The path goes through the place of the directory, and then down.
    have later : d.walk loc parts = .ok place := (walk_append first parts).symm.trans whole
    rw [walk_names shown.plain later] at here
    exact ⟨loc, parts, content, located, top, here, rfl, ends, shown⟩

theorem mem_search : p ∈ d.search sqlFiles ignored base ↔
    (d.isFile base = true ∧ p = base ∧ ".sql".toList <:+ p.name.toList) ∨ d.ListedBelow ignored base p := by
  -- Only a directory has files listed below it.
  have directory (listed : d.ListedBelow ignored base p) : d.stat base = .ok .directory := by
    obtain ⟨loc, -, -, located, top, -⟩ := listed
    exact stat_eq_ok_iff.mpr ⟨loc, located, top⟩
  cases answer : d.stat base with
  | error fault => simp [search_absent answer, isFile, answer, mt directory (by simp [answer])]
  | ok entry =>
    cases entry with
    | file content => simp [search_file answer, isFile, answer, mt directory (by simp [answer])]
    | directory =>
      obtain ⟨loc, located, top⟩ := stat_eq_ok_iff.mp answer
      simp [sound.search_directory located top, isFile, answer]

theorem mem_find (short : ∀ p, Asked d bases ignored p → d.stat p ≠ .error .tooLong) :
    p ∈ d.find bases sqlFiles ignored ↔ Sought d bases ignored p := by
  rw [find, Path.mem_sorted, List.mem_flatMap]
  constructor
  · rintro ⟨base, member, found⟩
    rcases sound.mem_search.mp found with ⟨file, rfl, ends⟩ | listed
    · exact ⟨file, ends, .inl member⟩
    · obtain ⟨file, ends, directory, below⟩ := (sound.listedBelow_iff (short p (.file member listed))).mp listed
      exact ⟨file, ends, .inr ⟨base, member, directory, below⟩⟩
  · rintro ⟨file, ends, member | ⟨base, member, directory, below⟩⟩
    · exact ⟨p, member, sound.mem_search.mpr (.inl ⟨file, rfl, ends⟩)⟩
    · have answered : d.stat p ≠ .error .tooLong := by
        intro answer
        simp [isFile, answer] at file
      exact ⟨base, member, sound.mem_search.mpr
        (.inr ((sound.listedBelow_iff answered).mpr ⟨file, ends, directory, below⟩))⟩

theorem find_increasing (proper : ∀ base ∈ bases, base.Proper) :
    (d.find bases sqlFiles ignored).Pairwise Path.Before := by
  apply Path.sorted_increasing
  intro p member
  obtain ⟨base, given, found⟩ := List.mem_flatMap.mp member
  rcases sound.mem_search.mp found with ⟨-, rfl, -⟩ | ⟨loc, parts, content, located, top, here, rfl, -⟩
  · exact proper p given
  · apply Path.below_proper (proper base given)
    intro part inside
    obtain ⟨-, -, -, single, -⟩ := sound.names (ne_nil_of_file top here) here part inside
    exact single

end WellFormed

theorem lookupFault?_eq_some_iff {fault : FileFault} :
    d.lookupFault? p = some fault ↔ d.stat p = .error .tooLong ∧ fault = ⟨.tooLong, p⟩ := by
  rw [lookupFault?]
  split
  · rename_i answer
    simp [answer, eq_comm]
  · rename_i other
    constructor
    · intro none
      cases none
    · rintro ⟨answer, -⟩
      exact absurd answer other

def probes (d : Disk) (base : Path) : List Path := if d.isDirectory base then d.enter "**" base else [base]

theorem searchFault?_sqlFiles (d : Disk) (base : Path) :
    d.searchFault? sqlFiles base = ((d.probes base).findSome? d.lookupFault?).map .file := by
  cases answer : d.stat base with
  | error fault => cases fault <;> simp [searchFault?, probes, isDirectory, lookupFault?, answer]
  | ok entry =>
    cases entry with
    | file content =>
      have usable : sqlFiles.fileFault? = none := by rfl
      simp [searchFault?, probes, isDirectory, lookupFault?, answer, usable]
    | directory =>
      have usable : sqlFiles.directoryFault? = none := by rfl
      have first (p : Path) : d.asked "**" p = d.enter "**" p := if_pos rfl
      have second : d.asked "*.sql" = fun p => [p] := by
        funext p
        rw [asked, if_neg (by decide), if_neg (by decide)]
      have walked : d.patternFault? [base] ("**" :: sqlFiles.parts) = (d.enter "**" base).findSome? d.lookupFault? := by
        rw [sqlFiles_eq]
        simp only [patternFault?, List.flatMap_singleton, first, second, List.flatMap_singleton', Option.or_none]
        exact Option.or_self
      simp [searchFault?, probes, isDirectory, answer, usable, walked]

theorem findFiles_sqlFiles (d : Disk) (bases : List Path) (ignored : List String) :
    d.findFiles bases sqlFiles ignored =
      match (bases.flatMap d.probes ++ d.find bases sqlFiles ignored).findSome? d.lookupFault? with
      | some fault => .error (.file fault)
      | none => .ok (d.find bases sqlFiles ignored) := by
  have gathered : bases.findSome? (d.searchFault? sqlFiles) =
      ((bases.flatMap d.probes).findSome? d.lookupFault?).map .file := by
    induction bases with
    | nil => rfl
    | cons base rest ih =>
      rw [List.findSome?_cons, searchFault?_sqlFiles, ih, List.flatMap_cons, List.findSome?_append]
      cases (d.probes base).findSome? d.lookupFault? <;> rfl
  rw [findFiles, gathered, List.findSome?_append]
  cases (bases.flatMap d.probes).findSome? d.lookupFault? with
  | some fault => rfl
  | none => cases (d.find bases sqlFiles ignored).findSome? d.lookupFault? <;> rfl

theorem WellFormed.mem_asked (sound : d.WellFormed) :
    p ∈ bases.flatMap d.probes ++ d.find bases sqlFiles ignored ↔ Asked d bases ignored p := by
  rw [List.mem_append, List.mem_flatMap, find, Path.mem_sorted, List.mem_flatMap]
  constructor
  · rintro (⟨base, member, probed⟩ | ⟨base, member, found⟩)
    · rw [probes] at probed
      split at probed
      · rename_i directory
        obtain ⟨loc, located, top⟩ := isDirectory_iff.mp directory
        obtain ⟨parts, rfl, here⟩ := (sound.mem_enter located top).mp probed
        exact .directory member located top here
      · rw [List.mem_singleton.mp probed]
        exact .given member
    · rcases sound.mem_search.mp found with ⟨-, rfl, -⟩ | listed
      · exact .given member
      · exact .file member listed
  · intro asked
    cases asked with
    | given member =>
      refine .inl ⟨p, member, ?_⟩
      rw [probes]
      split
      · rename_i directory
        obtain ⟨loc, located, top⟩ := isDirectory_iff.mp directory
        exact (sound.mem_enter located top).mpr ⟨[], p.below_nil.symm, by rwa [List.append_nil]⟩
      · exact List.mem_singleton_self p
    | @directory base loc parts member located top here =>
      refine .inl ⟨base, member, ?_⟩
      rw [probes, if_pos (isDirectory_iff.mpr ⟨loc, located, top⟩)]
      exact (sound.mem_enter located top).mpr ⟨parts, rfl, here⟩
    | @file base _ member listed => exact .inr ⟨base, member, sound.mem_search.mpr (.inr listed)⟩

theorem WellFormed.findFiles_cases (sound : d.WellFormed) (bases : List Path) (ignored : List String) :
    (d.findFiles bases sqlFiles ignored = .ok (d.find bases sqlFiles ignored) ∧
      ∀ p, Asked d bases ignored p → d.stat p ≠ .error .tooLong) ∨
    ∃ p, Asked d bases ignored p ∧ d.stat p = .error .tooLong ∧
      d.findFiles bases sqlFiles ignored = .error (.file ⟨.tooLong, p⟩) := by
  rw [findFiles_sqlFiles]
  cases faults : (bases.flatMap d.probes ++ d.find bases sqlFiles ignored).findSome? d.lookupFault? with
  | some fault =>
    obtain ⟨p, member, found⟩ := List.exists_of_findSome?_eq_some faults
    obtain ⟨long, rfl⟩ := lookupFault?_eq_some_iff.mp found
    exact .inr ⟨p, sound.mem_asked.mp member, long, rfl⟩
  | none =>
    refine .inl ⟨rfl, ?_⟩
    intro p asked long
    have none := List.findSome?_eq_none_iff.mp faults p (sound.mem_asked.mpr asked)
    rw [lookupFault?_eq_some_iff.mpr ⟨long, rfl⟩] at none
    cases none

def SameExisting (d : Disk) (first second : List Path) : Prop :=
  ∀ p, d.exists? p = true → (p ∈ first ↔ p ∈ second)

theorem exists_of_entry (located : d.locate p = .ok loc) (here : d.entry? loc = some e) : d.exists? p = true := by
  rw [exists?, stat_eq_ok_iff.mpr ⟨loc, located, here⟩]
  rfl

theorem Sought.transfer {others : List Path} (same : SameExisting d bases others)
    (sought : Sought d bases ignored p) : Sought d others ignored p := by
  refine ⟨sought.file, sought.ending, ?_⟩
  rcases sought.origin with given | ⟨base, given, directory, below⟩
  · obtain ⟨loc, content, located, here⟩ := isFile_iff.mp sought.file
    exact .inl ((same p (exists_of_entry located here)).mp given)
  · obtain ⟨loc, located, top⟩ := isDirectory_iff.mp directory
    exact .inr ⟨base, (same base (exists_of_entry located top)).mp given, directory, below⟩

theorem Asked.transfer {others : List Path} (same : SameExisting d bases others) (asked : Asked d others ignored p) :
    p ∈ others ∨ Asked d bases ignored p := by
  cases asked with
  | given member => exact .inl member
  | directory member located top here =>
    exact .inr (.directory ((same _ (exists_of_entry located top)).mpr member) located top here)
  | file member listed =>
    obtain ⟨loc, -, -, located, top, -⟩ := id listed
    exact .inr (.file ((same _ (exists_of_entry located top)).mpr member) listed)

structure Listing (d : Disk) (bases : List Path) (ignored : List String) (found : List Path) : Prop where
  increasing : found.Pairwise Path.Before
  distinct : found.Nodup
  members (p : Path) : p ∈ found ↔ Sought d bases ignored p

theorem WellFormed.find_listing (sound : d.WellFormed) (proper : ∀ base ∈ bases, base.Proper)
    (short : ∀ p, Asked d bases ignored p → d.stat p ≠ .error .tooLong) :
    Listing d bases ignored (d.find bases sqlFiles ignored) := by
  have increasing : (d.find bases sqlFiles ignored).Pairwise Path.Before := sound.find_increasing proper
  refine ⟨increasing, increasing.imp ?_, fun p => sound.mem_find short⟩
  rintro p q before rfl
  exact List.lt_irrefl p.key before

theorem Listing.unique {others found found' : List Path} (first : Listing d bases ignored found)
    (second : Listing d others ignored found') (same : SameExisting d bases others) : found' = found := by
  apply Path.increasing_unique second.increasing first.increasing
  intro p
  rw [second.members, first.members]
  constructor
  · exact Sought.transfer fun p here => (same p here).symm
  · exact Sought.transfer same

/-- A search for sources lists them unless it has to ask for a path that is too long. The list does not change when
paths are given in another order or more than once, or when missing ones are added. -/
theorem findFiles_listing (d : Disk) (sound : d.WellFormed) (texts ignored : List String) :
    (∃ found, d.findFiles (texts.map Path.ofText) sqlFiles ignored = .ok found ∧
      (∀ p, Asked d (texts.map Path.ofText) ignored p → d.stat p ≠ .error .tooLong) ∧
      Listing d (texts.map Path.ofText) ignored found ∧
      ∀ others : List String, SameExisting d (texts.map Path.ofText) (others.map Path.ofText) →
        (∀ p ∈ others.map Path.ofText, d.stat p ≠ .error .tooLong) →
        d.findFiles (others.map Path.ofText) sqlFiles ignored = .ok found) ∨
    ∃ p, Asked d (texts.map Path.ofText) ignored p ∧ d.stat p = .error .tooLong ∧
      d.findFiles (texts.map Path.ofText) sqlFiles ignored = .error (.file ⟨.tooLong, p⟩) := by
  have proper (given : List String) : ∀ base ∈ given.map Path.ofText, base.Proper := by
    intro base member
    obtain ⟨text, -, rfl⟩ := List.mem_map.mp member
    exact Path.ofText_proper text
  rcases sound.findFiles_cases (texts.map Path.ofText) ignored with ⟨result, short⟩ | failed
  · have listing := sound.find_listing (proper texts) short
    refine .inl ⟨_, result, short, listing, ?_⟩
    intro others same answered
    rcases sound.findFiles_cases (others.map Path.ofText) ignored with ⟨again, short'⟩ | ⟨p, asked, long, -⟩
    · rw [again, listing.unique (sound.find_listing (proper others) short') same]
    · rcases asked.transfer same with given | asked
      · exact absurd long (answered p given)
      · exact absurd long (short p asked)
  · exact .inr failed

end
end Disk

namespace Sample

def shelf : Disk where
  entries := [(["w"], .directory), (["w", "d"], .directory), (["w", "d", "b.sql"], .file (.text "")),
    (["w", "a.sql"], .file (.text "")), (["w", ".h"], .directory), (["w", ".h", "c.sql"], .file (.text ""))]
  current := ["w"]

theorem shelf_wellFormed : shelf.WellFormed := by
  refine ⟨by decide, ?_, ?_⟩
  · simp [shelf, IsFileName]
    decide
  · simp [shelf]
    decide

end Sample

namespace Disk

theorem findFiles_listing_shelf :
    Sample.shelf.WellFormed ∧
      ∃ found, Sample.shelf.findFiles (["d", ".", "nope", "d"].map Path.ofText) sqlFiles ignoredNames = .ok found ∧
        found = [⟨.relative, ["a.sql"]⟩, ⟨.relative, ["d", "b.sql"]⟩] ∧
        Listing Sample.shelf (["d", ".", "nope", "d"].map Path.ofText) ignoredNames found ∧
        SameExisting Sample.shelf (["d", ".", "nope", "d"].map Path.ofText) ([".", "d"].map Path.ofText) ∧
        Sample.shelf.findFiles ([".", "d"].map Path.ofText) sqlFiles ignoredNames = .ok found := by
  have sound := Sample.shelf_wellFormed
  have result : Sample.shelf.findFiles (["d", ".", "nope", "d"].map Path.ofText) sqlFiles ignoredNames =
      .ok [⟨.relative, ["a.sql"]⟩, ⟨.relative, ["d", "b.sql"]⟩] := by rfl
  have same : SameExisting Sample.shelf (["d", ".", "nope", "d"].map Path.ofText) ([".", "d"].map Path.ofText) := by
    intro p here
    have missing : p ≠ Path.ofText "nope" := by
      rintro rfl
      cases here
    simp only [List.map_cons, List.map_nil, List.mem_cons, List.not_mem_nil, missing, or_false, false_or]
    tauto
  rcases findFiles_listing Sample.shelf sound ["d", ".", "nope", "d"] ignoredNames with
    ⟨found, again, -, listing, stable⟩ | ⟨p, -, -, failed⟩
  · obtain rfl := Except.ok.inj (result.symm.trans again)
    refine ⟨sound, _, result, rfl, listing, same, stable [".", "d"] same ?_⟩
    intro p member long
    simp only [List.map_cons, List.map_nil, List.mem_cons, List.not_mem_nil, or_false] at member
    rcases member with rfl | rfl <;> cases long
  · rw [result] at failed
    cases failed

theorem stat_longName {d : Disk} {name : String} (here : d.entry? d.current = some .directory)
    (clean : Char.ofNat 0 ∉ name.toList) (down : name ≠ "..") (long : maxName < name.utf8ByteSize) :
    d.stat ⟨.relative, [name]⟩ = .error .tooLong := by
  have named : (Path.mk .relative [name]).hasNull = false := by simpa [Path.hasNull] using clean
  have located : d.locate ⟨.relative, [name]⟩ = .error .tooLong := by
    simp only [locate, named, Bool.false_eq_true, if_false]
    split
    · rfl
    · simp [Path.isAbsolute, walk, here, down, long]
  rw [stat, located]
  rfl

end Disk

theorem Path.ofText_name {name : String} (single : '/' ∉ name.toList) (filled : name ≠ "") (named : name ≠ ".") :
    Path.ofText name = ⟨.relative, [name]⟩ := by
  have parts : components name.toList = [name] := by
    simp [components, Text.splitAtChar_of_not_mem single, filled, named]
  rw [ofText, parts]
  congr 1
  split <;> simp_all

namespace Sample

def letters (n : Nat) : String := String.ofList (List.replicate n 'a')

theorem letters_size (n : Nat) : (letters n).utf8ByteSize = n := by
  induction n with
  | zero => rfl
  | succ n ih =>
    rw [letters] at ih ⊢
    rw [List.replicate_succ, String.ofList_cons, String.utf8ByteSize_append, ih, String.utf8ByteSize_singleton,
      Nat.add_comm]
    rfl

theorem letters_free {c : Char} (other : c ≠ 'a') (n : Nat) : c ∉ (letters n).toList := by
  rw [letters, String.toList_ofList]
  exact fun member => other (List.eq_of_mem_replicate member)

theorem letters_stat {n : Nat} (long : Disk.maxName < n) :
    shelf.stat (Path.ofText (letters n)) = .error .tooLong := by
  have size := letters_size n
  have other {name : String} (short : name.utf8ByteSize ≤ Disk.maxName) : letters n ≠ name := by
    rintro rfl
    omega
  rw [Path.ofText_name (letters_free (by decide) n) (other (by decide)) (other (by decide))]
  exact Disk.stat_longName rfl (letters_free (by decide) n) (other (by decide)) (by omega)

end Sample

/-- A missing path with a name of 256 letters keeps a search from listing anything. -/
theorem Disk.findFiles_long_name :
    Sample.shelf.WellFormed ∧ Sample.shelf.exists? (Path.ofText (Sample.letters 256)) = false ∧
      Sample.shelf.findFiles (["a.sql"].map Path.ofText) sqlFiles ignoredNames = .ok [⟨.relative, ["a.sql"]⟩] ∧
      ∃ p, Sample.shelf.findFiles (["a.sql", Sample.letters 256].map Path.ofText) sqlFiles ignoredNames =
        .error (.file ⟨.tooLong, p⟩) := by
  have sound := Sample.shelf_wellFormed
  have long := Sample.letters_stat (n := 256) (by decide)
  refine ⟨sound, ?_, by rfl, ?_⟩
  · rw [exists?, long]
    rfl
  · rcases sound.findFiles_cases (["a.sql", Sample.letters 256].map Path.ofText) ignoredNames with
      ⟨-, short⟩ | ⟨p, -, -, failed⟩
    · exact absurd long (short _ (.given (by simp)))
    · exact ⟨p, failed⟩

end PgJinja
