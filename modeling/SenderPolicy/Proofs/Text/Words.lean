import SenderPolicy.Text.Blank

/-!
Words of a text. A cut takes a text apart into the pieces before it and the pieces behind it; all that is
told of words here comes from this.
-/
namespace SenderPolicy.Text
variable {cuts : Char → Bool} {c : Char} {t u w : Text}

theorem takeWhile_append_of_stop {p : Char → Bool} {x y : Text} (hx : ∀ c ∈ x, p c)
    (hy : ∀ c, y.head? = some c → p c = false) :
    (x ++ y).takeWhile p = x ∧ (x ++ y).dropWhile p = y := by
  rw [List.takeWhile_append_of_pos hx, List.dropWhile_append_of_pos hx]
  cases y with
  | nil => simp
  | cons c r => simp [hy c rfl]

/-! Cuts -/

theorem ne_of_notin {mark : Char} (h : mark ∉ t) : ∀ c ∈ t, (!(c == mark)) = true := by
  intro c hc
  rw [beq_false_of_ne (by rintro rfl; exact h hc)]
  rfl

theorem cutAtFirst_of_mark {mark : Char} (h : mark ∉ t) (behind : Text) :
    cutAtFirst (· == mark) (t ++ mark :: behind) = (t, some behind) := by
  obtain ⟨htake, hdrop⟩ := takeWhile_append_of_stop (ne_of_notin h) fun c (hc : (mark :: behind).head? = some c) => by
    rw [← Option.some.inj hc, beq_self_eq_true]
    rfl
  simp only [cutAtFirst, htake, hdrop]

theorem cutAtFirst_of_notin {mark : Char} (h : mark ∉ t) : cutAtFirst (· == mark) t = (t, none) := by
  obtain ⟨-, hdrop⟩ := takeWhile_append_of_stop (y := []) (ne_of_notin h) fun c hc => nomatch hc
  rw [List.append_nil] at hdrop
  simp only [cutAtFirst, hdrop]

theorem cutAtLast_of_notin {mark : Char} (h : mark ∉ t) : cutAtLast mark t = (none, t) := by
  rw [cutAtLast, cutAtFirst_of_notin (by simpa using h)]

theorem cutAtLast_of_mark {mark : Char} (h : mark ∉ t) (before : Text) :
    cutAtLast mark (before ++ mark :: t) = (some before, t) := by
  have hreverse : (before ++ mark :: t).reverse = t.reverse ++ mark :: before.reverse := by simp
  rw [cutAtLast, hreverse, cutAtFirst_of_mark (by simpa using h)]
  simp only [List.reverse_reverse]

theorem exists_last_mark (mark : Char) (t : Text) :
    mark ∉ t ∨ ∃ before behind, t = before ++ mark :: behind ∧ mark ∉ behind := by
  by_cases h : mark ∈ t
  · obtain ⟨before, behind, heq, hnot⟩ := List.eq_append_cons_of_mem (List.mem_reverse.mpr h)
    refine .inr ⟨behind.reverse, before.reverse, ?_, by simpa using hnot⟩
    calc
      t = t.reverse.reverse := (List.reverse_reverse t).symm
      _ = behind.reverse ++ mark :: before.reverse := by rw [heq]; simp
  · exact .inl h

theorem pieces_append (h : cuts c) (t u : Text) :
    pieces cuts (t ++ c :: u) = pieces cuts t ++ pieces cuts u := by
  induction t with
  | nil => simp [pieces, h]
  | cons d r ih =>
    simp only [List.cons_append, pieces, ih]
    by_cases hd : cuts d
    · simp [hd]
    · simp only [hd]
      cases hr : pieces cuts r with
      | nil => exact absurd hr (pieces_ne_nil cuts r)
      | cons p ps => simp

theorem pieces_of_uncut (h : ∀ c ∈ t, cuts c = false) : pieces cuts t = [t] := by
  induction t with
  | nil => rfl
  | cons d r ih =>
    have hr := ih fun c hc => h c (List.mem_cons_of_mem d hc)
    simp [pieces, hr, h d List.mem_cons_self]

theorem of_mem_pieces (h : w ∈ pieces cuts t) : ∀ c ∈ w, cuts c = false ∧ c ∈ t := by
  induction t generalizing w with
  | nil =>
    rw [List.mem_singleton.mp h]
    exact fun c hc => nomatch hc
  | cons d r ih =>
    have behind {v : Text} (hv : v ∈ pieces cuts r) (c : Char) (hc : c ∈ v) :
        cuts c = false ∧ c ∈ d :: r :=
      ⟨(ih hv c hc).1, List.mem_cons_of_mem d (ih hv c hc).2⟩
    simp only [pieces] at h
    by_cases hd : cuts d
    · rw [if_pos hd] at h
      cases h with
      | head => exact fun c hc => nomatch hc
      | tail _ h => exact behind h
    · rw [if_neg hd] at h
      cases hr : pieces cuts r with
      | nil => exact absurd hr (pieces_ne_nil cuts r)
      | cons p ps =>
        rw [hr] at h
        cases h with
        | head =>
          intro c hc
          cases hc with
          | head => exact ⟨by simpa using hd, List.mem_cons_self⟩
          | tail _ hc => exact behind (hr ▸ List.mem_cons_self) c hc
        | tail _ h => exact behind (hr ▸ List.mem_cons_of_mem p h)

theorem mem_pieces_of_mem (cuts : Char → Bool) (h : c ∈ t) : cuts c = true ∨ ∃ w ∈ pieces cuts t, c ∈ w := by
  induction t with
  | nil => cases h
  | cons d r ih =>
    simp only [pieces]
    by_cases hd : cuts d
    · rw [if_pos hd]
      obtain rfl | hr := List.mem_cons.mp h
      · exact .inl hd
      · refine (ih hr).imp_right ?_
        rintro ⟨w, hw, hc⟩
        exact ⟨w, List.mem_cons_of_mem [] hw, hc⟩
    · rw [if_neg hd]
      cases hp : pieces cuts r with
      | nil => exact absurd hp (pieces_ne_nil cuts r)
      | cons p ps =>
        obtain rfl | hr := List.mem_cons.mp h
        · exact .inr ⟨c :: p, List.mem_cons_self, List.mem_cons_self⟩
        · refine (ih hr).imp_right ?_
          rw [hp]
          rintro ⟨w, hw, hc⟩
          obtain rfl | hw := List.mem_cons.mp hw
          · exact ⟨d :: w, List.mem_cons_self, List.mem_cons_of_mem d hc⟩
          · exact ⟨w, List.mem_cons_of_mem _ hw, hc⟩

theorem of_mem_joined {separator : Text} {parts : List Text} (h : c ∈ joined separator parts) :
    c ∈ separator ∨ ∃ p ∈ parts, c ∈ p := by
  induction parts with
  | nil => cases h
  | cons p rest ih =>
    cases rest with
    | nil => exact .inr ⟨p, List.mem_cons_self, h⟩
    | cons q rest =>
      rw [joined, List.mem_append, List.mem_append] at h
      obtain (hp | hs) | hr := h
      · exact .inr ⟨p, List.mem_cons_self, hp⟩
      · exact .inl hs
      · refine (ih hr).imp_right ?_
        rintro ⟨w, hw, hc⟩
        exact ⟨w, List.mem_cons_of_mem p hw, hc⟩

theorem pieces_joined {mark : Char} {parts : List Text} (hne : parts ≠ [])
    (h : ∀ p ∈ parts, ∀ c ∈ p, (c == mark) = false) : pieces (· == mark) (joined [mark] parts) = parts := by
  induction parts with
  | nil => exact absurd rfl hne
  | cons p rest ih =>
    rw [List.forall_mem_cons] at h
    cases rest with
    | nil => exact pieces_of_uncut h.1
    | cons q rest =>
      have hrest := ih (List.cons_ne_nil q rest) h.2
      rw [joined, List.append_assoc, List.singleton_append, pieces_append (by simp), hrest, pieces_of_uncut h.1]
      rfl

theorem filter_joined {mark : Char} {parts : List Text} (h : ∀ p ∈ parts, ∀ c ∈ p, (c == mark) = false) :
    (joined [mark] parts).filter (· != mark) = parts.flatten := by
  have hpart {p : Text} (hp : ∀ c ∈ p, (c == mark) = false) : p.filter (· != mark) = p :=
    List.filter_eq_self.mpr fun c hc => by rw [bne, hp c hc]; rfl
  induction parts with
  | nil => rfl
  | cons p rest ih =>
    rw [List.forall_mem_cons] at h
    cases rest with
    | nil => rw [joined, hpart h.1, List.flatten_singleton]
    | cons q rest =>
      rw [joined, List.filter_append, List.filter_append, hpart h.1, ih h.2, List.flatten_cons]
      simp

theorem joined_pieces {mark : Char} (h : ∀ c, cuts c = true ↔ c = mark) (t : Text) :
    joined [mark] (pieces cuts t) = t := by
  induction t with
  | nil => rfl
  | cons d r ih =>
    obtain ⟨p, ps, hp⟩ := List.exists_cons_of_ne_nil (pieces_ne_nil cuts r)
    rw [hp] at ih
    by_cases hd : cuts d
    · rw [pieces, if_pos hd, hp, joined, ih, (h d).mp hd]
      rfl
    · rw [pieces, if_neg hd, hp, ← ih]
      cases ps <;> rfl

/-! Words -/

/-- A text that is one word: it is not empty, and there is no blank in it. -/
def IsSolid (t : Text) : Prop := t ≠ [] ∧ ∀ c ∈ t, isBlank c = false

theorem of_mem_words (h : w ∈ words t) : IsSolid w ∧ ∀ c ∈ w, c ∈ t := by
  obtain ⟨hw, hne⟩ := List.mem_filter.mp h
  refine ⟨⟨by simpa using hne, fun c hc => (of_mem_pieces hw c hc).1⟩, fun c hc => ?_⟩
  exact (of_mem_pieces hw c hc).2

theorem words_append_blank (h : isBlank c) (t u : Text) : words (t ++ c :: u) = words t ++ words u := by
  rw [words, pieces_append h, List.filter_append]
  rfl

theorem words_blank_cons (h : isBlank c) (t : Text) : words (c :: t) = words t :=
  words_append_blank h [] t

theorem words_of_solid (h : IsSolid t) : words t = [t] := by
  simp [words, pieces_of_uncut h.2, h.1]

theorem words_of_blanks (h : ∀ c ∈ t, isBlank c) : words t = [] := by
  induction t with
  | nil => rfl
  | cons c r ih =>
    rw [words_blank_cons (h c List.mem_cons_self)]
    exact ih fun d hd => h d (List.mem_cons_of_mem c hd)

theorem words_append_blanks (t : Text) (h : ∀ c ∈ u, isBlank c) : words (t ++ u) = words t := by
  cases u with
  | nil => rw [List.append_nil]
  | cons c r =>
    rw [words_append_blank (h c List.mem_cons_self),
      words_of_blanks fun d hd => h d (List.mem_cons_of_mem c hd), List.append_nil]

theorem words_dropWhile_blank (t : Text) : words (t.dropWhile isBlank) = words t := by
  induction t with
  | nil => rfl
  | cons c r ih =>
    by_cases hc : isBlank c
    · rw [List.dropWhile_cons_of_pos hc, ih, words_blank_cons hc]
    · rw [List.dropWhile_cons_of_neg hc]

theorem dropTrailing_append (drops : Char → Bool) (t : Text) :
    ∃ u, t = dropTrailing drops t ++ u ∧ ∀ c ∈ u, drops c := by
  refine ⟨(t.reverse.takeWhile drops).reverse, ?_, fun c hc => ?_⟩
  · rw [dropTrailing, ← List.reverse_append, List.takeWhile_append_dropWhile, List.reverse_reverse]
  · exact List.all_eq_true.mp List.all_takeWhile c (List.mem_reverse.mp hc)

theorem of_mem_dropTrailing {drops : Char → Bool} (h : c ∈ dropTrailing drops t) : c ∈ t :=
  List.mem_reverse.mp ((List.dropWhile_sublist drops).subset (List.mem_reverse.mp h))

theorem of_mem_trimmed {drops : Char → Bool} (h : c ∈ trimmed drops t) : c ∈ t :=
  (List.dropWhile_sublist drops).subset (of_mem_dropTrailing h)

theorem not_drops_of_getLast? {drops : Char → Bool} (h : (dropTrailing drops t).getLast? = some c) :
    drops c = false := by
  rw [dropTrailing, List.getLast?_reverse] at h
  have hstop := List.head?_dropWhile_not drops t.reverse
  rwa [h] at hstop

theorem head?_of_dropTrailing {drops : Char → Bool} (h : (dropTrailing drops t).head? = some c) : t.head? = some c := by
  obtain ⟨u, hu, -⟩ := dropTrailing_append drops t
  rw [hu, List.head?_append, h]
  rfl

theorem dropTrailing_eq_self {drops : Char → Bool} (h : ∀ c, t.getLast? = some c → drops c = false) :
    dropTrailing drops t = t := by
  obtain ⟨u, hu, hdrops⟩ := dropTrailing_append drops t
  cases hlast : u.getLast? with
  | none => rwa [List.getLast?_eq_none_iff.mp hlast, List.append_nil, eq_comm] at hu
  | some c =>
    have htrue := hdrops c (List.mem_of_getLast? hlast)
    rw [h c (by rw [hu, List.getLast?_append, hlast]; rfl)] at htrue
    cases htrue

theorem dropTrailing_sublist (drops : Char → Bool) (t : Text) : (dropTrailing drops t).Sublist t := by
  obtain ⟨u, hu, -⟩ := dropTrailing_append drops t
  conv => rhs; rw [hu]
  exact List.sublist_append_left _ _

theorem trim_eq_self (hfirst : ∀ c, t.head? = some c → isBlank c = false)
    (hlast : ∀ c, t.getLast? = some c → isBlank c = false) : trim t = t := by
  have hdrop : t.dropWhile isBlank = t := by
    cases t with
    | nil => rfl
    | cons c r => exact List.dropWhile_cons_of_neg (by simp [hfirst c rfl])
  rw [trim, trimmed, hdrop, dropTrailing_eq_self hlast]

theorem trim_of_unbroken (h : ∀ c ∈ t, isBlank c = false) : trim t = t :=
  trim_eq_self (fun c hc => h c (List.mem_of_head? hc)) fun c hc => h c (List.mem_of_getLast? hc)

theorem trim_around (ht : ∀ c ∈ t, isBlank c = true) (hw : ∀ c ∈ w, isBlank c = true) (u : Text) :
    trim (t ++ u ++ w) = trim u := by
  have hend (v : Text) : dropTrailing isBlank (v ++ w) = dropTrailing isBlank v := by
    rw [dropTrailing, List.reverse_append, List.dropWhile_append_of_pos fun c hc => hw c (List.mem_reverse.mp hc)]
    rfl
  rw [trim, trimmed, List.append_assoc, List.dropWhile_append_of_pos ht, List.dropWhile_append]
  split
  · rename_i hempty
    have hnone : w.dropWhile isBlank = [] := by rw [← List.append_nil w, List.dropWhile_append_of_pos hw]; rfl
    rw [hnone, trim, trimmed, List.isEmpty_iff.mp hempty]
  · exact hend _

theorem isBlank_of_getLast?_trim (h : (trim t).getLast? = some c) : isBlank c = false := not_drops_of_getLast? h

theorem isBlank_of_head?_trim (h : (trim t).head? = some c) : isBlank c = false := by
  have hstop := List.head?_dropWhile_not isBlank t
  rwa [head?_of_dropTrailing h] at hstop

theorem words_trim (t : Text) : words (trim t) = words t := by
  obtain ⟨u, hu, hblank⟩ := dropTrailing_append isBlank (t.dropWhile isBlank)
  rw [← words_dropWhile_blank t]
  conv => rhs; rw [hu]
  exact (words_append_blanks _ hblank).symm

theorem words_joined {ws : List Text} (h : ∀ w ∈ ws, IsSolid w) : words (joined [' '] ws) = ws := by
  induction ws with
  | nil => rfl
  | cons w rest ih =>
    have hw : IsSolid w := h w List.mem_cons_self
    cases rest with
    | nil => exact words_of_solid hw
    | cons v rest =>
      have hblank : isBlank ' ' = true := by decide
      rw [joined, List.append_assoc, List.singleton_append, words_append_blank hblank, words_of_solid hw,
        ih fun v hv => h v (List.mem_cons_of_mem w hv), List.singleton_append]

end SenderPolicy.Text
