import SenderPolicy.Proofs.Record.Reading

/-!
The strings of a zone file. Each stands in quotes, with blanks around it, and read together they are the record that is
published in these strings. The scan does not tell opening quotes from closing ones: it is the first visible character
behind the first quote that puts the pairs in step.
-/
namespace SenderPolicy.Record
open Text
variable {t u behind : Text} {domain : Text}

/-- A string of a zone file: the blanks in front of it, and the text between its quotes. -/
structure ZoneString where
  gap : Text
  text : Text
  blank : ∀ c ∈ gap, isBlank c = true
  plain : '"' ∉ text

namespace ZoneString

def written (s : ZoneString) : Text := s.gap ++ '"' :: s.text ++ ['"']

end ZoneString

def written (strings : List ZoneString) : Text := strings.flatMap ZoneString.written

def contents (strings : List ZoneString) : Text := (strings.map ZoneString.text).flatten

theorem written_cons (s : ZoneString) (rest : List ZoneString) :
    written (s :: rest) = s.gap ++ '"' :: (s.text ++ '"' :: written rest) := by
  simp [written, ZoneString.written]

theorem contents_cons (s : ZoneString) (rest : List ZoneString) :
    contents (s :: rest) = s.text ++ contents rest := rfl

theorem plain_contents (strings : List ZoneString) : '"' ∉ contents strings := by
  intro h
  obtain ⟨t, ht, hmem⟩ := List.mem_flatten.mp h
  obtain ⟨s, -, rfl⟩ := List.mem_map.mp ht
  exact s.plain hmem

/-! The scan -/

theorem joinStringsFrom_quote (t : Text) : joinStringsFrom none ('"' :: t) = joinStringsFrom (some []) t := rfl

theorem joinStringsFrom_pair (blanks t : Text) : joinStringsFrom (some blanks) ('"' :: t) = joinStringsFrom none t := rfl

theorem joinStringsFrom_plain (h : '"' ∉ t) (u : Text) :
    joinStringsFrom none (t ++ u) = t ++ joinStringsFrom none u := by
  induction t with
  | nil => rfl
  | cons c r ih =>
    rw [List.mem_cons, not_or] at h
    obtain ⟨hc, hr⟩ := h
    simp only [List.cons_append, joinStringsFrom, if_neg (Ne.symm hc), ih hr]

theorem joinStringsFrom_blanks (h : ∀ c ∈ t, isBlank c = true) (held u : Text) :
    joinStringsFrom (some held) (t ++ u) = joinStringsFrom (some (t.reverse ++ held)) u := by
  induction t generalizing held with
  | nil => rfl
  | cons c r ih =>
    obtain ⟨hc, hr⟩ := List.forall_mem_cons.mp h
    have hquote : c ≠ '"' := by
      rintro rfl
      exact absurd hc (by decide)
    rw [List.cons_append, joinStringsFrom]
    simp only [if_neg hquote, if_pos hc]
    rw [ih hr, List.reverse_cons, List.append_assoc, List.singleton_append]

/-- Behind a visible character the quote that was held back stays. -/
theorem joinStringsFrom_visible (hplain : '"' ∉ t) (hvisible : ∃ c ∈ t, isBlank c = false) (held u : Text) :
    joinStringsFrom (some held) (t ++ u) = '"' :: held.reverse ++ t ++ joinStringsFrom none u := by
  induction t generalizing held with
  | nil =>
    obtain ⟨c, hc, -⟩ := hvisible
    cases hc
  | cons c r ih =>
    rw [List.mem_cons, not_or] at hplain
    obtain ⟨hc, hr⟩ := hplain
    rw [List.cons_append, joinStringsFrom]
    simp only [if_neg (Ne.symm hc)]
    cases hblank : isBlank c with
    | false => simp [joinStringsFrom_plain hr]
    | true =>
      obtain ⟨d, hd, hdvisible⟩ := hvisible
      have hrest : d ∈ r := (List.mem_cons.mp hd).resolve_left fun he => by rw [he, hblank] at hdvisible; cases hdvisible
      simp [ih hr ⟨d, hrest, hdvisible⟩]

/-- Behind a closing quote each string that follows gives its text, and the last closing quote stays. -/
theorem joinStringsFrom_closed (strings : List ZoneString) :
    joinStringsFrom (some []) (written strings) = contents strings ++ ['"'] := by
  induction strings with
  | nil => rfl
  | cons s rest ih =>
    rw [written_cons, joinStringsFrom_blanks s.blank, joinStringsFrom_pair, joinStringsFrom_plain s.plain,
      joinStringsFrom_quote, ih, contents_cons, List.append_assoc]

/-! Reading -/

theorem getLast?_written (strings : List ZoneString) : ('"' :: written strings).getLast? = some '"' := by
  induction strings with
  | nil => rfl
  | cons s rest ih =>
    rw [written_cons, ← List.cons_append, List.getLast?_append, ← List.cons_append, List.getLast?_append, ih]
    rfl

theorem trim_written (s : ZoneString) (rest : List ZoneString) (hbehind : ∀ c ∈ behind, isBlank c = true) :
    trim (written (s :: rest) ++ behind) = '"' :: (s.text ++ '"' :: written rest) := by
  rw [written_cons, trim_around s.blank hbehind]
  refine trim_eq_self (fun c hc => ?_) fun c hc => ?_
  · cases hc
    decide
  · rw [← List.cons_append, List.getLast?_append, getLast?_written] at hc
    cases hc
    decide

theorem joinStrings_written (s : ZoneString) (rest : List ZoneString) (hvisible : ∃ c ∈ s.text, isBlank c = false) :
    joinStrings ('"' :: (s.text ++ '"' :: written rest)) = '"' :: (contents (s :: rest) ++ ['"']) := by
  rw [joinStrings, joinStringsFrom_quote, joinStringsFrom_visible s.plain hvisible, joinStringsFrom_quote,
    joinStringsFrom_closed, contents_cons]
  simp

theorem trimmed_quotes (h : '"' ∉ t) : trimmed (· == '"') ('"' :: (t ++ ['"'])) = t := by
  cases t with
  | nil => rfl
  | cons c r =>
    have hne (d : Char) (hd : d ∈ c :: r) : (d == '"') = false := beq_false_of_ne fun he => h (he ▸ hd)
    rw [trimmed, List.dropWhile_cons_of_pos (by rfl), List.cons_append,
      List.dropWhile_cons_of_neg (by simp [hne c List.mem_cons_self]), ← List.cons_append, dropTrailing,
      List.reverse_append, List.reverse_singleton, List.singleton_append, List.dropWhile_cons_of_pos (by rfl)]
    exact dropTrailing_eq_self fun d hd => hne d (List.mem_of_getLast? hd)

theorem unquoted_written (s : ZoneString) (rest : List ZoneString) (hvisible : ∃ c ∈ s.text, isBlank c = false)
    (hbehind : ∀ c ∈ behind, isBlank c = true) :
    unquoted (written (s :: rest) ++ behind) = contents (s :: rest) := by
  rw [unquoted, trim_written s rest hbehind]
  simp only [List.head?_cons, if_true]
  rw [joinStrings_written s rest hvisible, trimmed_quotes (plain_contents _)]

theorem unquoted_of_plain (h : '"' ∉ t) : unquoted t = trim t := by
  refine if_neg fun hquote => h ?_
  exact of_mem_trimmed (List.mem_of_head? hquote)

/-- A record is the same read from the strings of a zone file and from their texts put together. -/
theorem parse?_written (s : ZoneString) (rest : List ZoneString) (hvisible : ∃ c ∈ s.text, isBlank c = false)
    (hbehind : ∀ c ∈ behind, isBlank c = true) :
    parse? (written (s :: rest) ++ behind) = parse? (contents (s :: rest)) := by
  rw [parse?, parse?, unquoted_written s rest hvisible hbehind, unquoted_of_plain (plain_contents _), words_trim]

theorem split_record_reads_alike :
    let first : ZoneString := ⟨" ", "v=spf1 ip4:147.75.8.208 ", List.all_eq_true.mp (by decide), by decide⟩
    let second : ZoneString := ⟨" \t", "include:_spf.salesforce.com -all", List.all_eq_true.mp (by decide), by decide⟩
    (∃ c ∈ first.text, isBlank c = false) ∧ (∀ c ∈ ("\n" : Text), isBlank c = true) ∧
      parse? (written [first, second] ++ "\n") = parse? (contents [first, second]) ∧
      (parse? (contents [first, second])).isSome = true := by
  intro first second
  have hvisible : ∃ c ∈ first.text, isBlank c = false := ⟨'v', by decide, by decide⟩
  have hbehind : ∀ c ∈ ("\n" : Text), isBlank c = true := List.all_eq_true.mp (by decide)
  exact ⟨hvisible, hbehind, parse?_written first [second] hvisible hbehind, by decide +kernel⟩

end SenderPolicy.Record
