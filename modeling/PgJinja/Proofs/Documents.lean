import PgJinja.Json.Reader
import PgJinja.Json.Writer
import PgJinja.Proofs.Numbers
import PgJinja.Source

/-! Documents are read back as they were written: the reader undoes the escapes, the separators and the
indentation of the writer, with either set of characters. -/
namespace PgJinja

theorem Text.hexValue?_hexDigit : ∀ d < 16, Text.hexValue? (Text.hexDigit d) = some d := by decide

namespace Json

/-- Values without fractions in which no object names a field twice. -/
inductive Plain : Json → Prop where
  | null : Plain null
  | bool (b : Bool) : Plain (bool b)
  | int (n : Int) : Plain (int n)
  | str (s : String) : Plain (str s)
  | arr {vs : List Json} (items : ∀ v ∈ vs, Plain v) : Plain (arr vs)
  | obj {fs : List (String × Json)} (distinct : (fs.map (·.1)).Nodup)
      (values : ∀ f ∈ fs, Plain f.2) : Plain (obj fs)

attribute [simp] Plain.null Plain.bool Plain.int Plain.str

@[simp] theorem plain_arr {vs : List Json} : (arr vs).Plain ↔ ∀ v ∈ vs, v.Plain := by
  constructor
  · rintro ⟨⟩
    assumption
  · exact .arr

@[simp] theorem plain_obj {fs : List (String × Json)} :
    (obj fs).Plain ↔ (fs.map (·.1)).Nodup ∧ ∀ f ∈ fs, f.2.Plain := by
  constructor
  · rintro ⟨⟩
    exact ⟨by assumption, by assumption⟩
  · exact fun ⟨distinct, values⟩ => .obj distinct values

/-- What can stand after a value in a written document. -/
inductive Ending : List Char → Prop where
  | nothing : Ending []
  | comma (rest : List Char) : Ending (',' :: rest)
  | line (rest : List Char) : Ending ('\n' :: rest)

/-! Numbers -/

theorem toDigits_cons (n : Nat) : ∃ c cs, Nat.toDigits 10 n = c :: cs ∧ c.isDigit = true := by
  obtain ⟨c, cs, digits⟩ := List.exists_cons_of_ne_nil (Nat.toDigits_ne_nil (n := n) (b := 10))
  have member : c ∈ Nat.toDigits 10 n := by
    rw [digits]
    exact List.mem_cons_self
  exact ⟨c, cs, digits, Nat.isDigit_of_mem_toDigits (by decide) (by decide) member⟩

theorem toDigits_head {n : Nat} (positive : 0 < n) : (Nat.toDigits 10 n).head? ≠ some '0' := by
  induction n using Nat.strongRecOn with
  | ind n ih =>
    rw [Nat.toDigits_eq_if (by decide)]
    split
    · rename_i small
      have digits : ∀ d < 10, 0 < d → Nat.digitChar d ≠ '0' := by decide
      simpa using digits n small positive
    · have shorter := ih (n / 10) (by omega) (by omega)
      obtain ⟨c, cs, digits, -⟩ := toDigits_cons (n / 10)
      rw [digits] at shorter ⊢
      exact shorter

theorem digitsValue_toDigits (n : Nat) : digitsValue (Nat.toDigits 10 n) = n := by
  have read : Nat.ofDigitChars 10 (Nat.toDigits 10 n) 0 = n := Nat.ofDigitChars_ten_toDigits
  rw [Nat.ofDigitChars_eq_foldl] at read
  simpa [digitsValue, Nat.mul_comm] using read

theorem spanDigits_toDigits (n : Nat) {rest : List Char} (ending : Ending rest) :
    spanDigits (Nat.toDigits 10 n ++ rest) = (Nat.toDigits 10 n, rest) := by
  have digits : ∀ c ∈ Nat.toDigits 10 n, c.isDigit = true := by
    intro c member
    exact Nat.isDigit_of_mem_toDigits (by decide) (by decide) member
  have after : rest.takeWhile Char.isDigit = [] ∧ rest.dropWhile Char.isDigit = rest := by
    cases ending <;> exact ⟨rfl, rfl⟩
  rw [spanDigits, List.takeWhile_append_of_pos digits, List.dropWhile_append_of_pos digits, after.1,
    after.2, List.append_nil]

theorem readMagnitude?_toDigits (negative : Bool) (n : Nat) {rest : List Char} (ending : Ending rest) :
    readMagnitude? negative (Nat.toDigits 10 n ++ rest) =
      some (int (if negative then -(n : Int) else n), rest) := by
  have shape : ((Nat.toDigits 10 n).isEmpty ||
      ((Nat.toDigits 10 n).head? = some '0' && (Nat.toDigits 10 n).length != 1)) = false := by
    have some_digit : Nat.toDigits 10 n ≠ [] := Nat.toDigits_ne_nil
    rcases Nat.eq_zero_or_pos n with zero | positive
    · simp [zero]
    · simp [some_digit, toDigits_head positive]
  have fraction : readFraction? rest = some ([], rest) := by cases ending <;> rfl
  have exponent : readExponent? rest = some (none, rest) := by cases ending <;> rfl
  simp only [readMagnitude?, spanDigits_toDigits n ending, shape, fraction, exponent, digitsValue_toDigits,
    Option.bind_eq_bind, Option.bind_some, Bool.false_eq_true, if_false]
  rfl

theorem readNumber?_digits {c : Char} (digit : c.isDigit = true) (cs : List Char) :
    readNumber? (c :: cs) = readMagnitude? false (c :: cs) := by
  unfold readNumber?
  split
  · rename_i same
    cases same
    cases digit
  · rename_i same
    cases same
    cases digit
  · rename_i same
    cases same
    cases digit
  · rename_i same
    cases same
    cases digit
  · rfl

theorem readNumber?_minus {c : Char} (digit : c.isDigit = true) (cs : List Char) :
    readNumber? ('-' :: c :: cs) = readMagnitude? true (c :: cs) := by
  unfold readNumber?
  split
  · rename_i same
    cases same
  · rename_i same
    cases same
  · rename_i same
    cases same
    cases digit
  · rename_i rest _ same
    cases same
    rfl
  · rename_i other
    exact absurd rfl (other (c :: cs))

/-! Strings -/

theorem readUnit?_hex {n : Nat} (small : n < 0x10000) (rest : List Char) :
    readUnit? (Text.hex 4 n ++ rest) = some (n, rest) := by
  have digit (m : Nat) : Text.hexValue? (Text.hexDigit (m % 16)) = some (m % 16) :=
    Text.hexValue?_hexDigit (m % 16) (Nat.mod_lt m (by decide))
  have value : ((n / 16 / 16 / 16 % 16 * 16 + n / 16 / 16 % 16) * 16 + n / 16 % 16) * 16 + n % 16 = n := by
    omega
  simp only [Text.hex, List.nil_append, List.cons_append, readUnit?, digit, Option.bind_eq_bind,
    Option.bind_some, value]
  rfl

theorem readEscape?_unit {n : Nat} (small : n < 0x10000) (valid : n < 0xD800 ∨ 0xDFFF < n)
    (rest : List Char) : readEscape? ('u' :: (Text.hex 4 n ++ rest)) = some (Char.ofNat n, rest) := by
  have high : ¬ (0xD800 ≤ n ∧ n < 0xDC00) := by omega
  have low : ¬ (0xDC00 ≤ n ∧ n < 0xE000) := by omega
  simp only [readEscape?, readUnit?_hex small, Option.bind_eq_bind, Option.bind_some, high, low, if_false]

theorem readEscape?_pair {high low : Nat} (first : 0xD800 ≤ high ∧ high < 0xDC00)
    (second : 0xDC00 ≤ low ∧ low < 0xE000) (rest : List Char) :
    readEscape? ('u' :: (Text.hex 4 high ++ (unitEscape low ++ rest))) =
      some (Char.ofNat (0x10000 + (high - 0xD800) * 0x400 + (low - 0xDC00)), rest) := by
  have high_read := readUnit?_hex (n := high) (by omega)
  have low_read := readUnit?_hex (n := low) (by omega)
  simp only [readEscape?, unitEscape, List.cons_append, high_read, low_read, first, second,
    Option.bind_eq_bind, Option.bind_some, and_self, if_true]

theorem readChars?_escape {cs rest : List Char} {c : Char} (read : readEscape? cs = some (c, rest))
    (fuel : Nat) :
    readChars? (fuel + 1) ('\\' :: cs) = (readChars? fuel rest).map fun r => (c :: r.1, r.2) := by
  have quote : ¬ '\\' = '"' := by decide
  simp only [readChars?, if_neg quote, if_true, read, Option.bind_eq_bind, Option.bind_some]
  cases readChars? fuel rest <;> rfl

theorem readEscape?_scalar (c : Char) (rest : List Char) :
    ∃ cs, scalarEscape c.toNat ++ rest = '\\' :: cs ∧ readEscape? cs = some (c, rest) := by
  have same : Char.ofNat c.toNat = c := Char.ofNat_toNat c
  have valid : c.toNat < 0xD800 ∨ 0xDFFF < c.toNat ∧ c.toNat < 0x110000 := c.valid
  rw [scalarEscape]
  split
  · rename_i small
    refine ⟨'u' :: (Text.hex 4 c.toNat ++ rest), rfl, ?_⟩
    rw [readEscape?_unit small (by omega), same]
  · rename_i large
    generalize high_eq : 0xD800 + (c.toNat - 0x10000) / 0x400 = high
    generalize low_eq : 0xDC00 + (c.toNat - 0x10000) % 0x400 = low
    have joined : 0x10000 + (high - 0xD800) * 0x400 + (low - 0xDC00) = c.toNat := by omega
    refine ⟨'u' :: (Text.hex 4 high ++ (unitEscape low ++ rest)), ?_, ?_⟩
    · rw [List.append_assoc]
      rfl
    · rw [readEscape?_pair (by omega) (by omega), joined, same]

theorem readChars?_plain {c : Char} (quote : c ≠ '"') (mark : c ≠ '\\') (visible : ¬ c.toNat < 0x20)
    (fuel : Nat) (rest : List Char) :
    readChars? (fuel + 1) (c :: rest) = (readChars? fuel rest).map fun r => (c :: r.1, r.2) := by
  simp only [readChars?, if_neg quote, if_neg mark, if_neg visible, Option.bind_eq_bind]
  cases readChars? fuel rest <;> rfl

theorem readChars?_writeChar (charset : Charset) (c : Char) (fuel : Nat) (rest : List Char) :
    readChars? (fuel + 1) (writeChar charset c ++ rest) =
      (readChars? fuel rest).map fun r => (c :: r.1, r.2) := by
  -- A short escape, else a numbered one for controls and for what is outside the set, else the character.
  by_cases named : c ∈ ['"', '\\', '\n', '\r', '\t', Char.ofNat 8, Char.ofNat 12]
  · simp only [List.mem_cons, List.not_mem_nil, or_false] at named
    rcases named with rfl | rfl | rfl | rfl | rfl | rfl | rfl
    all_goals exact readChars?_escape rfl fuel
  · simp only [List.mem_cons, List.not_mem_nil, or_false, not_or] at named
    obtain ⟨quote, mark, newline, ret, tab, back, feed⟩ := named
    rw [writeChar, if_neg quote, if_neg mark, if_neg newline, if_neg ret, if_neg tab, if_neg back,
      if_neg feed]
    split
    · rename_i control
      have read := readEscape?_unit (n := c.toNat) (by omega) (by omega) rest
      rw [Char.ofNat_toNat] at read
      exact readChars?_escape read fuel
    · rename_i visible
      split
      · obtain ⟨cs, escape, read⟩ := readEscape?_scalar c rest
        rw [escape]
        exact readChars?_escape read fuel
      · exact readChars?_plain quote mark visible fuel rest

theorem readChars?_write (charset : Charset) (s : List Char) {fuel : Nat} (enough : s.length < fuel)
    (rest : List Char) :
    readChars? fuel (s.flatMap (writeChar charset) ++ '"' :: rest) = some (s, rest) := by
  induction s generalizing fuel with
  | nil =>
    cases fuel with
    | zero => cases enough
    | succ fuel => rfl
  | cons c s ih =>
    cases fuel with
    | zero => cases enough
    | succ fuel =>
      have shorter : s.length < fuel := by simpa using enough
      rw [List.flatMap_cons, List.append_assoc, readChars?_writeChar, ih shorter]
      rfl

theorem writeChar_ne_nil (charset : Charset) (c : Char) : writeChar charset c ≠ [] := by
  intro none
  have read := readChars?_writeChar charset c 0 ['"']
  rw [none] at read
  cases read

theorem length_le_flatMap_writeChar (charset : Charset) (s : List Char) :
    s.length ≤ (s.flatMap (writeChar charset)).length := by
  induction s with
  | nil => exact Nat.le_refl 0
  | cons c s ih =>
    have some_char := List.length_pos_iff.mpr (writeChar_ne_nil charset c)
    rw [List.flatMap_cons, List.length_append, List.length_cons]
    omega

theorem readString?_write (charset : Charset) (s : String) (rest : List Char) :
    readString? (writeString charset s ++ rest) = some (s, rest) := by
  have enough := length_le_flatMap_writeChar charset s.toList
  have text : writeString charset s ++ rest =
      '"' :: (s.toList.flatMap (writeChar charset) ++ '"' :: rest) := by
    simp [writeString]
  rw [text, readString?, readChars?_write charset s.toList (by rw [List.length_append]; omega)]
  simp

/-! Values -/

theorem skipSpace_newLine (depth : Nat) {c : Char} (visible : isSpace c = false) (rest : List Char) :
    skipSpace (newLine depth ++ c :: rest) = c :: rest := by
  have blank : ∀ d ∈ newLine depth, isSpace d = true := by
    intro d member
    rcases List.mem_cons.mp member with rfl | space
    · rfl
    · rw [(List.mem_replicate.mp space).2]
      rfl
  rw [skipSpace, List.dropWhile_append_of_pos blank, List.dropWhile_cons_of_neg (by simp [visible])]

theorem skipSpace_comma (rest : List Char) : skipSpace (',' :: rest) = ',' :: rest := rfl

theorem skipSpace_colon (rest : List Char) : skipSpace (':' :: rest) = ':' :: rest := rfl

theorem skipSpace_string (outer : Nat) (charset : Charset) (s : String) (rest : List Char) :
    skipSpace (newLine outer ++ (writeString charset s ++ rest)) = writeString charset s ++ rest :=
  skipSpace_newLine outer rfl _

/-- A value can be told from what stands around it, and it is read back up to where its text ends. -/
structure Readable (charset : Charset) (v : Json) : Prop where
  start (depth : Nat) : ∃ c cs, writeAt charset depth v = c :: cs ∧ isSpace c = false ∧ c ≠ ']'
  read (depth fuel : Nat) (enough : (writeAt charset depth v).length ≤ fuel) (rest : List Char)
    (ending : Ending rest) : readValue? (fuel + 1) (writeAt charset depth v ++ rest) = some (v, rest)

theorem Readable.skipSpace {charset : Charset} {v : Json} (readable : Readable charset v)
    (outer depth : Nat) (rest : List Char) :
    skipSpace (newLine outer ++ (writeAt charset depth v ++ rest)) = writeAt charset depth v ++ rest := by
  obtain ⟨c, cs, text, visible, -⟩ := readable.start depth
  rw [text]
  exact skipSpace_newLine outer visible (cs ++ rest)

theorem Readable.skipSpace_space {charset : Charset} {v : Json} (readable : Readable charset v)
    (depth : Nat) (rest : List Char) :
    Json.skipSpace (' ' :: (writeAt charset depth v ++ rest)) = writeAt charset depth v ++ rest := by
  obtain ⟨c, cs, text, visible, -⟩ := readable.start depth
  rw [text]
  have first : Json.skipSpace (c :: (cs ++ rest)) = c :: (cs ++ rest) :=
    List.dropWhile_cons_of_neg (by simp [visible])
  exact first

theorem readItems?_write {charset : Charset} {v : Json} {vs : List Json}
    (first : Readable charset v) (others : ∀ w ∈ vs, Readable charset w) (depth outer fuel : Nat)
    (enough : (writeAt charset depth v).length + (writeItems charset depth vs).length ≤ fuel)
    (rest : List Char) :
    readItems? (fuel + 2) (writeAt charset depth v
      ++ (writeItems charset depth vs ++ (newLine outer ++ ']' :: rest))) = some (v :: vs, rest) := by
  induction vs generalizing v fuel with
  | nil =>
    have read := first.read depth fuel (by omega) (newLine outer ++ ']' :: rest) (.line _)
    have close := skipSpace_newLine outer (c := ']') rfl rest
    rw [writeItems, List.nil_append, readItems?, read]
    simp only [Option.bind_eq_bind, Option.bind_some, close]
  | cons w ws ih =>
    have next : Readable charset w := others w List.mem_cons_self
    have text : writeItems charset depth (w :: ws) ++ (newLine outer ++ ']' :: rest) =
        ',' :: (newLine depth ++ (writeAt charset depth w
          ++ (writeItems charset depth ws ++ (newLine outer ++ ']' :: rest)))) := by
      simp [writeItems]
    have longer : (writeAt charset depth w).length + (writeItems charset depth ws).length + 2 ≤
        (writeItems charset depth (w :: ws)).length := by
      simp only [writeItems, newLine, List.length_cons, List.length_append]
      omega
    -- The comma pays for the step from one item to the next.
    obtain ⟨fuel, rfl⟩ : ∃ less, fuel = less + 1 := ⟨fuel - 1, by omega⟩
    have items := ih next (fun u member => others u (List.mem_cons_of_mem w member)) fuel (by omega)
    rw [text, readItems?, first.read depth (fuel + 1) (by omega) _ (.comma _)]
    simp only [Option.bind_eq_bind, Option.bind_some, skipSpace_comma, next.skipSpace, items]
    rfl

theorem readMembers?_write {charset : Charset} {k : String} {v : Json} {fs : List (String × Json)}
    (first : Readable charset v) (others : ∀ f ∈ fs, Readable charset f.2) (depth outer fuel : Nat)
    (enough : (writeAt charset depth v).length + (writeFields charset depth fs).length ≤ fuel)
    (rest : List Char) :
    readMembers? (fuel + 2) (writeString charset k ++ (':' :: ' ' :: (writeAt charset depth v
      ++ (writeFields charset depth fs ++ (newLine outer ++ '\x7d' :: rest))))) =
        some ((k, v) :: fs, rest) := by
  induction fs generalizing k v fuel with
  | nil =>
    have read := first.read depth fuel (by omega) (newLine outer ++ '\x7d' :: rest) (.line _)
    have close := skipSpace_newLine outer (c := '\x7d') rfl rest
    rw [writeFields, List.nil_append, readMembers?, readString?_write]
    simp only [Option.bind_eq_bind, Option.bind_some, skipSpace_colon, first.skipSpace_space, read, close]
  | cons f fs ih =>
    obtain ⟨l, w⟩ := f
    have next : Readable charset w := others (l, w) List.mem_cons_self
    have text : writeFields charset depth ((l, w) :: fs) ++ (newLine outer ++ '\x7d' :: rest) =
        ',' :: (newLine depth ++ (writeString charset l ++ (':' :: ' ' :: (writeAt charset depth w
          ++ (writeFields charset depth fs ++ (newLine outer ++ '\x7d' :: rest)))))) := by
      simp [writeFields]
    have longer : (writeAt charset depth w).length + (writeFields charset depth fs).length + 2 ≤
        (writeFields charset depth ((l, w) :: fs)).length := by
      simp only [writeFields, newLine, List.length_cons, List.length_append]
      omega
    obtain ⟨fuel, rfl⟩ : ∃ less, fuel = less + 1 := ⟨fuel - 1, by omega⟩
    have members := ih (k := l) next (fun f member => others f (List.mem_cons_of_mem _ member)) fuel
      (by omega)
    have short : (writeAt charset depth v).length ≤ fuel + 1 := by omega
    rw [text, readMembers?, readString?_write]
    simp only [Option.bind_eq_bind, Option.bind_some, skipSpace_colon, first.skipSpace_space,
      first.read depth (fuel + 1) short _ (.comma _), skipSpace_comma, skipSpace_string, members]
    rfl

theorem digit_visible {c : Char} (digit : c.isDigit = true) : isSpace c = false ∧ c ≠ ']' := by
  refine ⟨?_, ?_⟩
  · cases space : isSpace c with
    | false => rfl
    | true =>
      simp only [isSpace, Bool.or_eq_true, decide_eq_true_eq] at space
      rcases space with ((rfl | rfl) | rfl) | rfl <;> cases digit
  · rintro rfl
    cases digit

theorem readValue?_digit {c : Char} (digit : c.isDigit = true) (fuel : Nat) (cs : List Char) :
    readValue? (fuel + 1) (c :: cs) = readNumber? (c :: cs) := by
  rw [readValue?]
  all_goals
    intro tail same
    cases same
    cases digit

theorem readValue?_int (n : Int) (fuel : Nat) {rest : List Char} (ending : Ending rest) :
    readValue? (fuel + 1) ((intText n).toList ++ rest) = some (int n, rest) := by
  cases n with
  | ofNat k =>
    obtain ⟨c, cs, text, digit⟩ := toDigits_cons k
    have read := readMagnitude?_toDigits false k ending
    rw [text] at read
    rw [intText, natText, String.toList_ofList, text, List.cons_append, readValue?_digit digit,
      readNumber?_digits digit]
    exact read
  | negSucc k =>
    obtain ⟨c, cs, text, digit⟩ := toDigits_cons (k + 1)
    have read := readMagnitude?_toDigits true (k + 1) ending
    rw [text] at read
    have written : (intText (.negSucc k)).toList ++ rest = '-' :: c :: (cs ++ rest) := by
      simp [intText, natText, text]
    rw [written]
    exact (readNumber?_minus digit (cs ++ rest)).trans read

theorem readValue?_list {c : Char} {text cs : List Char} (skipped : skipSpace text = c :: cs)
    (item : c ≠ ']') (fuel : Nat) :
    readValue? (fuel + 1) ('[' :: text) = (readItems? fuel (c :: cs)).map fun r => (arr r.1, r.2) := by
  simp only [readValue?, skipped]
  split
  · rename_i same
    cases same
    contradiction
  · rfl

theorem readValue?_object {c : Char} {text cs : List Char} (skipped : skipSpace text = c :: cs)
    (member : c ≠ '\x7d') (fuel : Nat) :
    readValue? (fuel + 1) ('\x7b' :: text) =
      (readMembers? fuel (c :: cs)).map fun r => (obj (Assoc.merge [] r.1), r.2) := by
  simp only [readValue?, skipped]
  split
  · rename_i same
    cases same
    contradiction
  · rfl

theorem set_fresh {acc : List (String × Json)} {k : String} (fresh : k ∉ acc.map (·.1)) (v : Json) :
    Assoc.set k v acc = acc ++ [(k, v)] := by
  induction acc with
  | nil => rfl
  | cons f acc ih =>
    obtain ⟨other, after⟩ : k ≠ f.1 ∧ k ∉ acc.map (·.1) := by simpa using fresh
    have kept : (f.1 == k) = false := by simpa using other.symm
    simp only [Assoc.set, kept, Bool.false_eq_true, if_false, ih after, List.cons_append]

theorem merge_distinct {acc fs : List (String × Json)} (distinct : ((acc ++ fs).map (·.1)).Nodup) :
    Assoc.merge acc fs = acc ++ fs := by
  induction fs generalizing acc with
  | nil => simp [Assoc.merge]
  | cons f fs ih =>
    have fresh : f.1 ∉ acc.map (·.1) := by
      intro member
      rw [List.map_append, List.nodup_append] at distinct
      exact distinct.2.2 f.1 member f.1 (by simp) rfl
    have next : Assoc.merge (acc ++ [f]) fs = acc ++ [f] ++ fs := ih (by simpa using distinct)
    simpa [Assoc.merge, set_fresh fresh f.2] using next

theorem intText_start (n : Int) : ∃ c cs, (intText n).toList = c :: cs ∧ isSpace c = false ∧ c ≠ ']' := by
  cases n with
  | ofNat k =>
    obtain ⟨c, cs, text, digit⟩ := toDigits_cons k
    exact ⟨c, cs, by simp [intText, natText, text], digit_visible digit⟩
  | negSucc k => exact ⟨'-', Nat.toDigits 10 (k + 1), by simp [intText, natText], rfl, by decide⟩

theorem readable_str (charset : Charset) (s : String) : Readable charset (str s) := by
  refine ⟨fun _ => ⟨_, _, rfl, rfl, by decide⟩, ?_⟩
  intro depth fuel enough rest ending
  have read := readString?_write charset s rest
  rw [writeAt]
  change (readString? (writeString charset s ++ rest)).map _ = _
  rw [read]
  rfl

theorem readable_arr {charset : Charset} {v : Json} {vs : List Json} (first : Readable charset v)
    (others : ∀ w ∈ vs, Readable charset w) : Readable charset (arr (v :: vs)) := by
  refine ⟨fun _ => ⟨_, _, rfl, rfl, by decide⟩, ?_⟩
  intro depth fuel enough rest ending
  obtain ⟨c, cs, start, -, item⟩ := first.start (depth + 1)
  have text : writeAt charset depth (arr (v :: vs)) ++ rest =
      '[' :: (newLine (depth + 1) ++ (writeAt charset (depth + 1) v
        ++ (writeItems charset (depth + 1) vs ++ (newLine depth ++ ']' :: rest)))) := by
    simp [writeAt]
  have longer : (writeAt charset (depth + 1) v).length + (writeItems charset (depth + 1) vs).length + 2 ≤
      (writeAt charset depth (arr (v :: vs))).length := by
    simp only [writeAt, newLine, List.length_cons, List.length_append]
    omega
  obtain ⟨fuel, rfl⟩ : ∃ less, fuel = less + 2 := ⟨fuel - 2, by omega⟩
  have read := readItems?_write first others (depth + 1) depth fuel (by omega) rest
  have skipped := first.skipSpace (depth + 1) (depth + 1)
    (writeItems charset (depth + 1) vs ++ (newLine depth ++ ']' :: rest))
  rw [start] at read skipped
  rw [text, start, readValue?_list skipped item]
  exact congrArg (Option.map _) read

theorem readable_obj {charset : Charset} {k : String} {v : Json} {fs : List (String × Json)}
    (distinct : (((k, v) :: fs).map (·.1)).Nodup) (first : Readable charset v)
    (others : ∀ f ∈ fs, Readable charset f.2) : Readable charset (obj ((k, v) :: fs)) := by
  refine ⟨fun _ => ⟨_, _, rfl, rfl, by decide⟩, ?_⟩
  intro depth fuel enough rest ending
  have text : writeAt charset depth (obj ((k, v) :: fs)) ++ rest =
      '\x7b' :: (newLine (depth + 1) ++ (writeString charset k ++ (':' :: ' ' ::
        (writeAt charset (depth + 1) v
          ++ (writeFields charset (depth + 1) fs ++ (newLine depth ++ '\x7d' :: rest)))))) := by
    simp [writeAt]
  have longer : (writeAt charset (depth + 1) v).length + (writeFields charset (depth + 1) fs).length + 2 ≤
      (writeAt charset depth (obj ((k, v) :: fs))).length := by
    simp only [writeAt, newLine, List.length_cons, List.length_append]
    omega
  obtain ⟨fuel, rfl⟩ : ∃ less, fuel = less + 2 := ⟨fuel - 2, by omega⟩
  have read := readMembers?_write (k := k) first others (depth + 1) depth fuel (by omega) rest
  have merged : Assoc.merge [] ((k, v) :: fs) = (k, v) :: fs := merge_distinct distinct
  rw [text, readValue?_object (skipSpace_string (depth + 1) charset k _) (by decide)]
  refine (congrArg (Option.map _) read).trans ?_
  simp only [Option.map_some, merged]

theorem Plain.readable {v : Json} (plain : Plain v) (charset : Charset) : Readable charset v := by
  -- By induction on the value; an empty list or object is written without a line of its own.
  induction plain with
  | null => exact ⟨fun _ => ⟨_, _, rfl, rfl, by decide⟩, fun _ _ _ _ _ => rfl⟩
  | bool b => cases b <;> exact ⟨fun _ => ⟨_, _, rfl, rfl, by decide⟩, fun _ _ _ _ _ => rfl⟩
  | int n => exact ⟨fun _ => intText_start n, fun _ fuel _ _ ending => readValue?_int n fuel ending⟩
  | str s => exact readable_str charset s
  | @arr vs items ih =>
    cases vs with
    | nil => exact ⟨fun _ => ⟨_, _, rfl, rfl, by decide⟩, fun _ _ _ _ _ => rfl⟩
    | cons v vs =>
      exact readable_arr (ih v List.mem_cons_self) (fun w member => ih w (List.mem_cons_of_mem v member))
  | @obj fs distinct values ih =>
    cases fs with
    | nil => exact ⟨fun _ => ⟨_, _, rfl, rfl, by decide⟩, fun _ _ _ _ _ => rfl⟩
    | cons f fs =>
      exact readable_obj distinct (ih f List.mem_cons_self)
        (fun g member => ih g (List.mem_cons_of_mem f member))

theorem read?_layout {v : Json} (plain : Plain v) (charset : Charset) (trail : String)
    (blank : trail = "" ∨ trail = "\n") : read? (v.layout charset ++ trail) = some v := by
  have readable := plain.readable charset
  obtain ⟨c, cs, start, visible, -⟩ := readable.start 0
  have ending : Ending trail.toList ∧ skipSpace trail.toList = [] := by
    rcases blank with rfl | rfl
    · exact ⟨.nothing, rfl⟩
    · exact ⟨.line [], rfl⟩
  have read := readable.read 0 (writeAt charset 0 v ++ trail.toList).length
    (by rw [List.length_append]; omega) trail.toList ending.1
  have flush : skipSpace (writeAt charset 0 v ++ trail.toList) = writeAt charset 0 v ++ trail.toList := by
    rw [start]
    exact List.dropWhile_cons_of_neg (by simp [visible])
  simp only [read?, layout, String.toList_append, String.toList_ofList, flush, read, ending.2,
    Option.bind_eq_bind, Option.bind_some]
  rfl

end Json

/-- A tree has a text exactly if its integers are all short. The text is read back as that tree, to its last character
and with the fields of objects in their order. So no two trees have the same text. -/
theorem treeText_read (tree : Json) (plain : tree.Plain) :
    (tree.isShort = true → ∃ text, treeText tree = .ok text ∧ Json.read? text = some tree ∧
      ∀ other : Json, other.Plain → treeText other = .ok text → other = tree) ∧
    (tree.isShort = false → treeText tree = .error .digits) := by
  have read (v : Json) (plain : v.Plain) : Json.read? (v.layout .unicode) = some v := by
    simpa using Json.read?_layout plain .unicode "" (.inl rfl)
  have written {v : Json} {text : String} (made : treeText v = .ok text) : v.layout .unicode = text := by
    simp only [treeText, Json.write] at made
    split at made
    · exact Except.ok.inj made
    · cases made
  refine ⟨fun short => ?_, fun long => by simp [treeText, Json.write, long]⟩
  refine ⟨tree.layout .unicode, by simp [treeText, Json.write, short], read tree plain, ?_⟩
  intro other shaped same
  have again := read other shaped
  rw [written same, read tree plain] at again
  exact (Option.some.inj again).symm

theorem treeText_read_nested :
    let tree : Json := .arr [.obj [("say \"hi\"\\", .arr [.null, .bool false, .int (-907)]), ("é𝄞\t\u0001", .obj [])],
      .arr [], .str "a\nb\r"]
    tree.Plain ∧ tree.isShort = true ∧ ∃ text, treeText tree = .ok text ∧ Json.read? text = some tree := by
  intro tree
  have plain : tree.Plain := by simp [tree]
  have short : tree.isShort = true := by decide
  obtain ⟨text, made, read, -⟩ := (treeText_read tree plain).1 short
  exact ⟨plain, short, text, made, read⟩

theorem treeText_long : (Json.arr [.int firstLong]).Plain ∧ treeText (.arr [.int firstLong]) = .error .digits := by
  refine ⟨by simp, ?_⟩
  simp [treeText, Json.write, Json.isShort, Json.shortItems, firstLong_long]

end PgJinja
