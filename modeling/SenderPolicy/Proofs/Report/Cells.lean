import SenderPolicy.Report.Table

/-!
Reading tables. A cell in quotes ends at a quote that is not doubled, and any other cell at a comma or at an end of line;
rows end with a carriage return and a line feed. Rows that were written are read as they were, whatever stands in their
cells.
-/
namespace SenderPolicy.Table
variable {c : Char} {t rest : Text} {cells : List Text} {rows : List (List Text)}

/-! The reader -/

def isPlain (c : Char) : Bool := c != ',' && c != '"' && c != '\r' && c != '\n'

/-- The text before the closing quote, and what follows it. A doubled quote stands for one. -/
def quotedCell? : Text → Option (Text × Text)
  | [] => none
  | c :: r =>
    if c ≠ '"' then (quotedCell? r).map fun (t, rest) => (c :: t, rest)
    else
      match r with
      | '"' :: r => (quotedCell? r).map fun (t, rest) => ('"' :: t, rest)
      | r => some ([], r)

def cell? (t : Text) : Option (Text × Text) :=
  match t with
  | '"' :: r => quotedCell? r
  | t => some (t.takeWhile isPlain, t.dropWhile isPlain)

theorem length_of_quotedCell? {u : Text} (h : quotedCell? t = some (u, rest)) : rest.length ≤ t.length := by
  fun_induction quotedCell? t generalizing u with
  | case1 => cases h
  | case2 c r hc ih =>
    obtain ⟨⟨v, w⟩, hv, hw⟩ := Option.map_eq_some_iff.mp h
    cases hw
    exact Nat.le_succ_of_le (ih hv)
  | case3 c hc r ih =>
    obtain ⟨⟨v, w⟩, hv, hw⟩ := Option.map_eq_some_iff.mp h
    cases hw
    exact Nat.le_succ_of_le (Nat.le_succ_of_le (ih hv))
  | case4 c r hc =>
    cases h
    exact Nat.le_succ _

theorem length_of_cell? {u : Text} (h : cell? t = some (u, rest)) : rest.length ≤ t.length := by
  unfold cell? at h
  split at h
  · exact Nat.le_succ_of_le (length_of_quotedCell? h)
  · cases h
    exact (List.dropWhile_sublist _).length_le

def withCell (cell : Text) : List (List Text) → List (List Text)
  | [] => [[cell]]
  | row :: rows => (cell :: row) :: rows

/-- The rows of a text. The last row may stand without an end of line; outside of quotes there is no other quote, and no
other part of an end of line. -/
def read (t : Text) : Option (List (List Text)) :=
  match _h : cell? t with
  | none => none
  | some (cell, []) => some [[cell]]
  | some (cell, ',' :: r) => (read r).map (withCell cell)
  | some (cell, ['\r', '\n']) => some [[cell]]
  | some (cell, '\r' :: '\n' :: r) => (read r).map ([cell] :: ·)
  | some _ => none
termination_by t.length
decreasing_by
  all_goals
    have hle := length_of_cell? _h
    simp only [List.length_cons] at hle
    omega

/-! Cells that are written -/

/-- What may follow a cell: nothing, a comma or an end of line. -/
def EndsCell (rest : Text) : Prop := ∀ c, rest.head? = some c → c = ',' ∨ c = '\r'

theorem endsCell_comma (t : Text) : EndsCell (',' :: t) := fun _ hc => .inl (Option.some.inj hc).symm

theorem endsCell_line (t : Text) : EndsCell ('\r' :: '\n' :: t) := fun _ hc => .inr (Option.some.inj hc).symm

theorem quotedCell?_doubled (t : Text) (h : EndsCell rest) :
    quotedCell? (t.flatMap (fun c => if c = '"' then ['"', '"'] else [c]) ++ '"' :: rest) = some (t, rest) := by
  induction t with
  | nil =>
    cases rest with
    | nil => rfl
    | cons c r =>
      obtain rfl | rfl := h c rfl <;> rfl
  | cons c r ih =>
    rw [List.flatMap_cons, List.append_assoc]
    by_cases hquote : c = '"'
    · rw [hquote, if_pos rfl, List.cons_append, List.cons_append, List.nil_append, quotedCell?, if_neg (by simp)]
      simp only [ih, Option.map_some]
    · rw [if_neg hquote, List.cons_append, List.nil_append]
      unfold quotedCell?
      rw [if_pos hquote, ih, Option.map_some]

theorem cell?_plain (ht : ∀ c ∈ t, isPlain c = true) (h : EndsCell rest) : cell? (t ++ rest) = some (t, rest) := by
  have hfront : ∀ r, t ++ rest ≠ '"' :: r := by
    intro r heq
    cases t with
    | nil =>
      obtain hc | hc := h '"' (congrArg List.head? heq)
      all_goals exact absurd hc (by decide)
    | cons c u =>
      cases heq
      exact absurd (ht '"' List.mem_cons_self) (by decide)
  have hend : rest.takeWhile isPlain = [] ∧ rest.dropWhile isPlain = rest := by
    cases rest with
    | nil => exact ⟨rfl, rfl⟩
    | cons c r =>
      obtain rfl | rfl := h c rfl
      all_goals exact ⟨rfl, rfl⟩
  unfold cell?
  split
  · rename_i heq
    exact absurd heq (hfront _)
  · rw [List.takeWhile_append_of_pos ht, List.dropWhile_append_of_pos ht, hend.1, hend.2, List.append_nil]

theorem cell?_cell (t : Text) (h : EndsCell rest) : cell? (cell t ++ rest) = some (t, rest) := by
  unfold cell
  split
  · rw [List.cons_append, List.cons_append, List.append_assoc, List.singleton_append]
    exact quotedCell?_doubled t h
  · rename_i hnone
    refine cell?_plain (fun c hc => ?_) h
    have hmarks := List.any_eq_false.mp (Bool.eq_false_iff.mpr hnone) c hc
    simp only [Bool.or_eq_true, beq_iff_eq, not_or] at hmarks
    simp [isPlain, hmarks]

/-! Rows that are written -/

theorem read_of_comma {u : Text} (h : cell? t = some (u, ',' :: rest)) : read t = (read rest).map (withCell u) := by
  rw [read, h]
  rfl

theorem read_of_line {u : Text} (h : cell? t = some (u, '\r' :: '\n' :: rest)) :
    read t = if rest = [] then some [[u]] else (read rest).map ([u] :: ·) := by
  rw [read, h]
  cases rest <;> rfl

theorem row_cons (t : Text) (hcells : cells ≠ []) : row (t :: cells) = cell t ++ ',' :: row cells := by
  obtain ⟨u, rest, rfl⟩ := List.exists_cons_of_ne_nil hcells
  simp [row, Text.joined]

theorem read_row (hcells : cells ≠ []) (t : Text) :
    read (row cells ++ t) = if t = [] then some [cells] else (read t).map (cells :: ·) := by
  induction cells with
  | nil => exact absurd rfl hcells
  | cons u rest ih =>
    cases rest with
    | nil =>
      have hrow : row [u] ++ t = cell u ++ '\r' :: '\n' :: t := by simp [row, Text.joined]
      rw [hrow]
      exact read_of_line (cell?_cell u (endsCell_line t))
    | cons v rest =>
      have hrest : v :: rest ≠ [] := List.cons_ne_nil v rest
      rw [row_cons u hrest, List.append_assoc, List.cons_append, read_of_comma (cell?_cell u (endsCell_comma _)), ih hrest]
      split
      · rfl
      · rw [Option.map_map]
        rfl

theorem read_rows (hrows : rows ≠ []) (h : ∀ cells ∈ rows, cells ≠ []) : read (rows.map row).flatten = some rows := by
  induction rows with
  | nil => exact absurd rfl hrows
  | cons cells rest ih =>
    rw [List.forall_mem_cons] at h
    rw [List.map_cons, List.flatten_cons, read_row h.1]
    cases rest with
    | nil => rfl
    | cons below rest =>
      have hbelow : ((below :: rest).map row).flatten ≠ [] := by simp [row]
      rw [if_neg hbelow, ih (List.cons_ne_nil below rest) h.2, Option.map_some]

/-- Marks in cells shift nothing beside or below them, and a quote within a cell that is not quoted is refused. -/
example : (read (row ["a,\"b\"", "\r\n", ""] ++ row ["|", "c d"]) =
    some ([["a,\"b\"", "\r\n", ""], ["|", "c d"]] : List (List Text))) ∧ read "a\"b\",c" = none :=
  ⟨by cbv, by cbv⟩

end SenderPolicy.Table
