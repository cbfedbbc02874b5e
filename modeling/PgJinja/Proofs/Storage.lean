import PgJinja.Files.Disk

/-! What writing does to a file system. Directories stay where they are and may be added; the content of a file
changes only at the location of a path to which a text was written. -/
namespace PgJinja

theorem Assoc.lookup_set {κ α : Type} [BEq κ] [LawfulBEq κ] (key other : κ) (value : α)
    (entries : List (κ × α)) :
    (Assoc.set key value entries).lookup other =
      if other == key then some value else entries.lookup other := by
  induction entries with
  | nil =>
    rw [Assoc.set, List.lookup_cons]
    cases other == key <;> rfl
  | cons entry rest ih =>
    obtain ⟨k, v⟩ := entry
    rw [Assoc.set]
    by_cases same : k = key
    · subst same
      rw [if_pos (beq_self_eq_true k), List.lookup_cons, List.lookup_cons]
      cases other == k <;> rfl
    · rw [if_neg (by simpa using same), List.lookup_cons, List.lookup_cons, ih]
      by_cases here : other = k
      · subst here
        have elsewhere : (other == key) = false := by simpa using same
        simp [elsewhere]
      · have skipped : (other == k) = false := by simpa using here
        simp [skipped]

namespace Disk

variable {d d' : Disk}

def content? (d : Disk) (loc : Location) : Option Content :=
  match d.entry? loc with
  | some (.file content) => some content
  | _ => none

theorem lookup_set {loc : Location} (below : loc ≠ []) (e : Entry) (other : Location) :
    entry? (d.set loc e) other = if other = loc then some e else d.entry? other := by
  unfold entry? set
  by_cases root : other = []
  · subst root
    rw [if_pos rfl, if_neg below.symm, if_pos rfl]
  · rw [if_neg root, if_neg root, Assoc.lookup_set]
    simp

/-- A later state of a file system in which every directory is still there. -/
structure Grows (d d' : Disk) : Prop where
  current : d'.current = d.current
  directory (loc : Location) (here : d.entry? loc = some .directory) : d'.entry? loc = some .directory

theorem Grows.refl (d : Disk) : Grows d d := ⟨rfl, fun _ here => here⟩

theorem Grows.trans {e : Disk} (first : Grows d d') (second : Grows d' e) : Grows d e :=
  ⟨second.current.trans first.current,
    fun loc here => second.directory loc (first.directory loc here)⟩

theorem Grows.walk (grows : Grows d d') {here loc : Location} {parts : List String}
    (reached : d.walk here parts = .ok loc) : d'.walk here parts = .ok loc := by
  induction parts generalizing here with
  | nil => exact reached
  | cons part rest ih =>
    cases found : d.entry? here with
    | none => simp [Disk.walk, found] at reached
    | some entry =>
      cases entry with
      | file content => simp [Disk.walk, found] at reached
      | directory =>
        simp only [Disk.walk, found, grows.directory here found] at reached ⊢
        split at reached
        · rename_i up
          rw [if_pos up]
          exact ih reached
        · rename_i down
          rw [if_neg down]
          split at reached
          · cases reached
          · rename_i short
            rw [if_neg short]
            exact ih reached

theorem Grows.locate (grows : Grows d d') {p : Path} {loc : Location} (reached : d.locate p = .ok loc) :
    d'.locate p = .ok loc := by
  unfold Disk.locate at reached ⊢
  rw [grows.current]
  split at reached
  · cases reached
  · rename_i named
    rw [if_neg named]
    split at reached
    · cases reached
    · rename_i short
      rw [if_neg short]
      exact grows.walk reached

structure Prepares (d d' : Disk) : Prop extends Grows d d' where
  content (loc : Location) : d'.content? loc = d.content? loc

theorem Prepares.refl (d : Disk) : Prepares d d := ⟨.refl d, fun _ => rfl⟩

theorem Prepares.trans {e : Disk} (first : Prepares d d') (second : Prepares d' e) : Prepares d e :=
  ⟨first.toGrows.trans second.toGrows, fun loc => (second.content loc).trans (first.content loc)⟩

theorem ne_root_of_entry {loc : Location} (free : d.entry? loc ≠ some .directory) : loc ≠ [] := by
  rintro rfl
  exact free rfl

theorem set_grows {loc : Location} (free : d.entry? loc ≠ some .directory) (e : Entry) :
    Grows d (d.set loc e) := by
  refine ⟨rfl, ?_⟩
  intro other here
  rw [lookup_set (ne_root_of_entry free)]
  split
  · rename_i same
    rw [same] at here
    contradiction
  · exact here

theorem makeDirectory_prepares {p : Path} (made : d.makeDirectory p = .ok d') : Prepares d d' := by
  unfold makeDirectory at made
  cases located : d.locate p with
  | error e =>
    rw [located] at made
    cases made
  | ok loc =>
    rw [located] at made
    simp only [bind, Except.bind] at made
    split at made
    · cases made
    · rename_i free
      cases made
      have no_directory : d.entry? loc ≠ some .directory := by simp [free]
      refine ⟨set_grows no_directory .directory, ?_⟩
      intro other
      unfold content?
      rw [lookup_set (ne_root_of_entry no_directory)]
      by_cases same : other = loc
      · rw [if_pos same, same, free]
      · rw [if_neg same]

theorem ensureDirectory_prepares {p : Path} (made : d.ensureDirectory p = .ok d') : Prepares d d' := by
  unfold ensureDirectory at made
  split at made
  · rename_i new
    cases made
    exact makeDirectory_prepares new
  · split at made
    · cases made
      exact .refl d
    · cases made

theorem ensureAbove_prepares (anchor : Anchor) (parts : List String) :
    Prepares d (d.ensureAbove anchor parts).1 := by
  induction parts generalizing d with
  | nil =>
    unfold ensureAbove
    split
    · exact ensureDirectory_prepares (by assumption)
    · exact .refl d
  | cons part above ih =>
    rw [ensureAbove]
    split
    · exact ensureDirectory_prepares (by assumption)
    · split
      · have upper : Prepares d (d.ensureAbove anchor above).1 := ih
        split
        · rename_i failed
          rw [failed] at upper
          exact upper
        · rename_i made
          rw [made] at upper
          split
          · exact upper.trans (ensureDirectory_prepares (by assumption))
          · exact upper
      · exact .refl d

/-- A text was written to a path: it stands where the path leads, and other files are as before. -/
structure Stores (d : Disk) (p : Path) (s : String) (d' : Disk) (loc : Location) : Prop extends Grows d d' where
  located : d'.locate p = .ok loc
  held : d'.content? loc = some (.text s)
  elsewhere (other : Location) (apart : other ≠ loc) : d'.content? other = d.content? other

theorem writeFile_stores {p : Path} {s : String} (written : d.writeFile p s = .ok d') :
    ∃ loc, Stores d p s d' loc := by
  unfold writeFile at written
  cases located : d.locate p with
  | error e => simp [located] at written
  | ok loc =>
    have free : d.entry? loc ≠ some .directory := by
      intro directory
      simp [located, directory] at written
    have stored : d' = d.set loc (.file (.text s)) := by
      simp only [located] at written
      exact (Except.ok.inj written).symm
    have grows : Grows d d' := stored ▸ set_grows free _
    have entry (other : Location) := lookup_set (d := d) (ne_root_of_entry free) (.file (.text s)) other
    refine ⟨loc, grows, grows.locate located, ?_, ?_⟩
    · rw [stored, content?, entry, if_pos rfl]
    · intro other apart
      rw [stored, content?, content?, entry, if_neg apart]

theorem write_stores {p : Path} {s : String} (written : d.write p s = (d', none)) :
    ∃ loc, Stores d p s d' loc := by
  have prepared : Prepares d (d.ensureDirectories p.parent).1 := ensureAbove_prepares _ _
  unfold write at written
  split at written
  · cases written
  · rename_i middle ready
    rw [ready] at prepared
    split at written
    · rename_i stored
      cases written
      obtain ⟨loc, stores⟩ := writeFile_stores stored
      refine ⟨loc, prepared.toGrows.trans stores.toGrows, stores.located, stores.held, ?_⟩
      intro other apart
      exact (stores.elsewhere other apart).trans (prepared.content other)
    · cases written

theorem write_failed {p : Path} {s : String} {fault : FileFault} (failed : d.write p s = (d', some fault)) :
    Prepares d d' := by
  have prepared : Prepares d (d.ensureDirectories p.parent).1 := ensureAbove_prepares _ _
  unfold write at failed
  split at failed
  · rename_i ready
    rw [ready] at prepared
    cases failed
    exact prepared
  · rename_i ready
    rw [ready] at prepared
    split at failed
    · cases failed
    · cases failed
      exact prepared

theorem readRaw_of_content {p : Path} {loc : Location} {s : String} (located : d.locate p = .ok loc)
    (held : d.content? loc = some (.text s)) : d.readRaw p = .ok s := by
  have entry : d.entry? loc = some (.file (.text s)) := by
    unfold content? at held
    split at held
    · rename_i found
      cases held
      exact found
    · cases held
  have found : d.stat p = .ok (.file (.text s)) := by
    simp only [stat, located, bind, Except.bind, entry]
  rw [readRaw, found]

def Holds (d : Disk) (p : Path) (s : String) : Prop :=
  ∃ loc, d.locate p = .ok loc ∧ d.content? loc = some (.text s)

theorem Holds.readRaw {p : Path} {s : String} (held : d.Holds p s) : d.readRaw p = .ok s := by
  obtain ⟨loc, located, held⟩ := held
  exact readRaw_of_content located held

theorem Holds.kept {p : Path} {s : String} (held : d.Holds p s) (grows : Grows d d')
    (same : ∀ loc, d'.locate p = .ok loc → d'.content? loc = d.content? loc) : d'.Holds p s := by
  obtain ⟨loc, located, held⟩ := held
  have later := grows.locate located
  exact ⟨loc, later, (same loc later).trans held⟩

def writeAll (d : Disk) : List (Path × String) → Disk × Option FileFault
  | [] => (d, none)
  | (p, s) :: rest =>
    match d.write p s with
    | (d, none) => writeAll d rest
    | (d, some fault) => (d, some fault)

theorem writeAll_single (p : Path) (s : String) : d.writeAll [(p, s)] = d.write p s := by
  rw [writeAll]
  split
  · rename_i written
    exact written.symm
  · rename_i failed
    exact failed.symm

theorem writeAll_append (first second : List (Path × String)) :
    d.writeAll (first ++ second) =
      match d.writeAll first with
      | (d', none) => d'.writeAll second
      | (d', some fault) => (d', some fault) := by
  induction first generalizing d with
  | nil => rfl
  | cons w rest ih =>
    rw [List.cons_append, writeAll, writeAll]
    split
    · exact ih
    · rfl

theorem writeAll_grows (ws : List (Path × String)) : Grows d (d.writeAll ws).1 := by
  induction ws generalizing d with
  | nil => exact .refl d
  | cons w rest ih =>
    rw [writeAll]
    split
    · rename_i written
      obtain ⟨loc, stores⟩ := write_stores written
      exact stores.toGrows.trans ih
    · rename_i failed
      exact (write_failed failed).toGrows

theorem writeAll_elsewhere {ws : List (Path × String)} (done : (d.writeAll ws).2 = none) {loc : Location}
    (apart : ∀ w ∈ ws, (d.writeAll ws).1.locate w.1 ≠ .ok loc) :
    (d.writeAll ws).1.content? loc = d.content? loc := by
  induction ws generalizing d with
  | nil => rfl
  | cons w rest ih =>
    obtain ⟨p, s⟩ := w
    rw [writeAll] at done apart ⊢
    cases step : d.write p s with
    | mk middle fault =>
      cases fault with
      | some fault => simp [step] at done
      | none =>
        simp only [step] at done apart ⊢
        obtain ⟨first, others⟩ := List.forall_mem_cons.mp apart
        obtain ⟨place, stores⟩ := write_stores step
        -- The first path still leads to `place` when the others have been written.
        have other : loc ≠ place := by
          rintro rfl
          exact first ((writeAll_grows rest).locate stores.located)
        exact (ih done others).trans (stores.elsewhere loc other)

/-- When some text could not be written, only those before the last one can have been. -/
theorem writeAll_failed {ws : List (Path × String)} {fault : FileFault}
    (failed : (d.writeAll ws).2 = some fault) {loc : Location}
    (apart : ∀ w ∈ ws.dropLast, (d.writeAll ws).1.locate w.1 ≠ .ok loc) :
    (d.writeAll ws).1.content? loc = d.content? loc := by
  induction ws generalizing d with
  | nil => cases failed
  | cons w rest ih =>
    obtain ⟨p, s⟩ := w
    rw [writeAll] at failed apart ⊢
    cases step : d.write p s with
    | mk middle stopped =>
      cases stopped with
      -- A text that cannot be written may leave directories behind, but no file.
      | some stopped => exact (write_failed step).content loc
      | none =>
        simp only [step] at failed apart ⊢
        have more : rest ≠ [] := by
          rintro rfl
          cases failed
        rw [List.dropLast_cons_of_ne_nil more] at apart
        obtain ⟨first, others⟩ := List.forall_mem_cons.mp apart
        obtain ⟨place, stores⟩ := write_stores step
        have other : loc ≠ place := by
          rintro rfl
          exact first ((writeAll_grows rest).locate stores.located)
        exact (ih failed others).trans (stores.elsewhere loc other)

/-- Paths that never lead to the same place. -/
def Apart (p q : Path) : Prop := ∀ (d : Disk) (loc : Location), d.locate p = .ok loc → d.locate q ≠ .ok loc

theorem writeAll_holds {ws : List (Path × String)} (distinct : ws.Pairwise fun v w => Apart v.1 w.1)
    (done : (d.writeAll ws).2 = none) : ∀ w ∈ ws, (d.writeAll ws).1.Holds w.1 w.2 := by
  induction ws generalizing d with
  | nil => simp
  | cons w rest ih =>
    obtain ⟨p, s⟩ := w
    obtain ⟨apart, distinct⟩ := List.pairwise_cons.mp distinct
    rw [writeAll] at done ⊢
    cases step : d.write p s with
    | mk middle fault =>
      cases fault with
      | some fault => simp [step] at done
      | none =>
        simp only [step] at done ⊢
        obtain ⟨place, stores⟩ := write_stores step
        have located := (writeAll_grows rest).locate stores.located
        have kept := writeAll_elsewhere done fun w member => apart w member _ place located
        exact List.forall_mem_cons.mpr ⟨⟨place, located, kept.trans stores.held⟩, ih distinct done⟩

/-! Where a path leads: its last name is the last name of the location. -/

theorem walk_cons {here loc : Location} {part : String} {rest : List String}
    (reached : d.walk here (part :: rest) = .ok loc) :
    d.walk (if part = ".." then here.dropLast else here ++ [part]) rest = .ok loc := by
  rw [walk] at reached
  split at reached
  · cases reached
  · cases reached
  · split at reached
    · rename_i up
      rw [if_pos up]
      exact reached
    · rename_i down
      rw [if_neg down]
      split at reached
      · cases reached
      · exact reached

theorem walk_last {here loc : Location} {parts : List String} {part : String} (name : part ≠ "..")
    (reached : d.walk here (parts ++ [part]) = .ok loc) : loc.getLast? = some part := by
  induction parts generalizing here with
  | nil =>
    have step := walk_cons reached
    rw [if_neg name] at step
    cases step
    exact List.getLast?_concat
  | cons first rest ih => exact ih (walk_cons reached)

theorem locate_last {p : Path} {loc : Location} {part : String} (last : p.parts.getLast? = some part)
    (name : part ≠ "..") (reached : d.locate p = .ok loc) : loc.getLast? = some part := by
  obtain ⟨parts, split⟩ := List.getLast?_eq_some_iff.mp last
  unfold locate at reached
  split at reached
  · cases reached
  · split at reached
    · cases reached
    · rw [split] at reached
      exact walk_last name reached

end Disk

theorem Text.splitAtChar_of_not_mem {cut : Char} {cs : List Char} (whole : cut ∉ cs) :
    Text.splitAtChar cut cs = [cs] := by
  induction cs with
  | nil => rfl
  | cons c cs ih =>
    obtain ⟨other, rest⟩ : cut ≠ c ∧ cut ∉ cs := by simpa using whole
    rw [splitAtChar, if_neg other.symm, ih rest]

theorem Text.splitAtChar_cut {cut : Char} {cs piece : List Char} (member : piece ∈ Text.splitAtChar cut cs) :
    cut ∉ piece := by
  induction cs generalizing piece with
  | nil =>
    rw [List.mem_singleton.mp member]
    exact List.not_mem_nil
  | cons c cs ih =>
    rw [splitAtChar] at member
    split at member
    · rcases List.mem_cons.mp member with rfl | later
      · exact List.not_mem_nil
      · exact ih later
    · rename_i other
      split at member
      · rw [List.mem_singleton.mp member]
        simpa using Ne.symm other
      · rename_i first rest split
        rcases List.mem_cons.mp member with rfl | later
        · have whole : cut ∉ first := ih (split ▸ List.mem_cons_self)
          simp [Ne.symm other, whole]
        · exact ih (split ▸ List.mem_cons_of_mem first later)

theorem Text.splitAtChar_append (cut : Char) (cs : List Char) :
    ∃ pieces last, ∀ ext, cut ∉ ext → Text.splitAtChar cut (cs ++ ext) = pieces ++ [last ++ ext] := by
  induction cs with
  | nil => exact ⟨[], [], fun ext whole => splitAtChar_of_not_mem whole⟩
  | cons c cs ih =>
    obtain ⟨pieces, last, split⟩ := ih
    by_cases here : c = cut
    · refine ⟨[] :: pieces, last, ?_⟩
      intro ext whole
      rw [List.cons_append, splitAtChar, if_pos here, split ext whole, List.cons_append]
    · cases pieces with
      | nil =>
        refine ⟨[], c :: last, ?_⟩
        intro ext whole
        rw [List.cons_append, splitAtChar, if_neg here, split ext whole]
        rfl
      | cons piece pieces =>
        refine ⟨(c :: piece) :: pieces, last, ?_⟩
        intro ext whole
        rw [List.cons_append, splitAtChar, if_neg here, split ext whole]
        rfl

namespace Path

def Suffix (ext : String) : Prop := '/' ∉ ext.toList ∧ 2 < ext.toList.length

theorem ne_of_suffix {ext name : String} (suffix : Suffix ext) (ends : ext.toList <:+ name.toList) :
    name ≠ "" ∧ name ≠ "." ∧ name ≠ ".." := by
  -- Each of the three names is shorter than the ending.
  have long : 2 < name.toList.length := Nat.lt_of_lt_of_le suffix.2 ends.length_le
  refine ⟨?_, ?_, ?_⟩
  all_goals
    rintro rfl
    exact absurd long (by decide)

theorem components_last (cs : List Char) {ext : String} (suffix : Suffix ext) :
    ∃ part, (components (cs ++ ext.toList)).getLast? = some part ∧ ext.toList <:+ part.toList ∧
      ('/' ∉ cs → part = String.ofList (cs ++ ext.toList)) := by
  obtain ⟨pieces, last, split⟩ := Text.splitAtChar_append '/' cs
  have cut := split ext.toList suffix.1
  have ends : ext.toList <:+ (String.ofList (last ++ ext.toList)).toList := by
    rw [String.toList_ofList]
    exact List.suffix_append last ext.toList
  refine ⟨String.ofList (last ++ ext.toList), ?_, ends, ?_⟩
  · obtain ⟨filled, named, -⟩ := ne_of_suffix suffix ends
    rw [components, cut, List.map_append, List.filter_append, List.map_singleton]
    generalize String.ofList (last ++ ext.toList) = part at filled named ⊢
    simp [filled, named]
  · intro whole
    have plain : '/' ∉ cs ++ ext.toList := by simp [whole, suffix.1]
    have single := Text.splitAtChar_of_not_mem plain
    rw [cut] at single
    cases pieces with
    | nil => rw [List.singleton_inj.mp single]
    | cons piece pieces => simp at single

theorem child_last (dir : Path) (name : String) {ext : String} (suffix : Suffix ext) :
    ∃ part, (dir.child (name ++ ext)).parts.getLast? = some part ∧ ext.toList <:+ part.toList ∧
      ('/' ∉ name.toList → part = name ++ ext) := by
  obtain ⟨part, last, ends, whole⟩ := components_last name.toList suffix
  have parts : (ofText (name ++ ext)).parts.getLast? = some part := by
    simpa [ofText] using last
  refine ⟨part, ?_, ends, ?_⟩
  · unfold child under
    split
    · exact parts
    · rw [List.getLast?_append, parts]
      rfl
  · intro single
    rw [whole single, String.ofList_append, String.ofList_toList, String.ofList_toList]

theorem child_located {d : Disk} {dir : Path} {name ext : String} {loc : Location} (suffix : Suffix ext)
    (reached : d.locate (dir.child (name ++ ext)) = .ok loc) :
    ∃ part, loc.getLast? = some part ∧ ext.toList <:+ part.toList ∧
      ('/' ∉ name.toList → part = name ++ ext) := by
  obtain ⟨part, last, ends, whole⟩ := child_last dir name suffix
  obtain ⟨-, -, named⟩ := ne_of_suffix suffix ends
  exact ⟨part, Disk.locate_last last named reached, ends, whole⟩

def Proper (p : Path) : Prop := ∀ part ∈ p.parts, '/' ∉ part.toList

theorem ofText_proper (s : String) : (ofText s).Proper := by
  intro part member
  obtain ⟨piece, cut, rfl⟩ := List.mem_map.mp (List.mem_filter.mp member).1
  rw [String.toList_ofList]
  exact Text.splitAtChar_cut cut

theorem mem_of_mem_stemChars {c : Char} {cs : List Char} (member : c ∈ stemChars cs) : c ∈ cs := by
  simp only [stemChars] at member
  split at member
  · exact member
  · have dropped := List.mem_of_mem_drop (List.mem_reverse.mp member)
    exact List.mem_reverse.mp (List.dropWhile_subset _ dropped)

theorem Proper.stem {p : Path} (proper : p.Proper) : '/' ∉ p.stem.toList := by
  rw [Path.stem, String.toList_ofList]
  intro member
  have named := mem_of_mem_stemChars member
  rw [name] at named
  cases last : p.parts.getLast? with
  | none => simp [last] at named
  | some part =>
    rw [last] at named
    exact proper part (List.mem_of_getLast? last) named

end Path
end PgJinja
