import SenderPolicy.Proofs.Text.Lowering
import SenderPolicy.Proofs.Text.Words
import SenderPolicy.Term

/-!
Reading and composing a term. A composed term is its qualifier, the name that it is written with, and what
stands behind the name; reading it takes the qualifier off again and then looks at the rest alone.
-/
namespace SenderPolicy.Term
open Text
variable {c d : Char} {q : Qualifier} {t body name value rest : Text} {u : Term}

/-! Names of modifiers -/

theorem ascii_of_isNameCharacter (h : isNameCharacter c) (hl : isLatin c = false) : c.toNat < 128 := by
  simp only [isNameCharacter, hl, Bool.false_or, Bool.or_eq_true, beq_iff_eq] at h
  rcases h with ((h | rfl) | rfl) | rfl
  · have hle := UInt32.le_iff_toNat_le.mp (of_decide_eq_true (Bool.and_eq_true_iff.mp h).2)
    change c.toNat ≤ 57 at hle
    omega
  all_goals decide

/-- A character of a name stays one where it is lowered, but for the mark of the dotted capital I. -/
theorem isNameCharacter_lowered (h : Becomes c d) (hc : isNameCharacter c) :
    isNameCharacter d ∨ c = 'İ' ∧ d = '\u0307' := by
  cases h with
  | mark => exact .inr ⟨rfl, rfl⟩
  | letter => exact .inl (by decide)
  | sigma | finalSigma => exact absurd hc (by decide)
  | plain hs hi =>
    obtain ⟨-, hlatin, hsame⟩ := (lowerLetter_low hs hi).2
    refine .inl ?_
    cases hl : isLatin c with
    | true => simp [isNameCharacter, hlatin, hl]
    | false =>
      rw [hl] at hlatin
      rwa [hsame (.inl (ascii_of_isNameCharacter hc hl)) hlatin]

theorem isNameCharacter_of_lowered (h : Becomes c d) (hd : isNameCharacter d) : isNameCharacter c := by
  cases hl : isLatin d with
  | false => rwa [h.eq_of_ascii (ascii_of_isNameCharacter hd hl) hl] at hd
  | true =>
    cases h with
    | letter | mark => decide
    | sigma | finalSigma => exact absurd hl (by decide)
    | plain hs hi =>
      have hlatin := (lowerLetter_low hs hi).2.2.1
      simp [isNameCharacter, ← hlatin, hl]

def IsName (name : Text) : Prop := (∀ c ∈ name, isNameCharacter c) ∧ name.head?.map isLatin = some true

theorem splitModifier?_of_name (hname : IsName name) (hvalue : singleLine? rest = some value) :
    splitModifier? (name ++ '=' :: rest) = some (name, value) := by
  obtain ⟨hall, hfirst⟩ := hname
  have htake : (name ++ '=' :: rest).takeWhile isNameCharacter = name := by
    rw [List.takeWhile_append_of_pos hall, List.takeWhile_cons_of_neg (by decide), List.append_nil]
  have hdrop : (name ++ '=' :: rest).dropWhile isNameCharacter = '=' :: rest := by
    rw [List.dropWhile_append_of_pos hall, List.dropWhile_cons_of_neg (by decide)]
  cases name with
  | nil => cases hfirst
  | cons first r =>
    have hlatin : isLatin first = true := by simpa using hfirst
    simp only [splitModifier?, htake, hdrop, hlatin, if_true, hvalue, Option.map_some]

theorem splitModifier?_eq_some (h : splitModifier? t = some (name, value)) :
    ∃ rest, t = name ++ '=' :: rest ∧ IsName name ∧ singleLine? rest = some value := by
  unfold splitModifier? at h
  dsimp only at h
  split at h
  · rename_i first r rest htake hdrop
    split at h
    · rename_i hlatin
      obtain ⟨line, hline, hpair⟩ := Option.map_eq_some_iff.mp h
      cases hpair
      refine ⟨rest, ?_, ⟨fun c hc => ?_, ?_⟩, hline⟩
      · rw [← hdrop, List.takeWhile_append_dropWhile]
      · exact List.all_eq_true.mp List.all_takeWhile c hc
      · rw [htake, List.head?_cons, Option.map_some, hlatin]
    · cases h
  · cases h

theorem not_isNameCharacter_of_isSeparator (h : isSeparator c = true) : isNameCharacter c = false := by
  rcases Bool.or_eq_true _ _ ▸ h with h | h <;> rw [beq_iff_eq.mp h] <;> decide

theorem splitModifier?_of_separator (hname : ∀ c ∈ name, isNameCharacter c)
    (hrest : ∀ c, rest.head? = some c → isSeparator c = true) : splitModifier? (name ++ rest) = none := by
  obtain ⟨htake, hdrop⟩ := takeWhile_append_of_stop hname fun c hc => not_isNameCharacter_of_isSeparator (hrest c hc)
  unfold splitModifier?
  simp only [htake, hdrop]
  split
  · exact absurd (hrest '=' rfl) (by decide)
  · rfl

theorem not_name_of_stopped (front : Text) (d : Char) {behind rest' : Text}
    (h : front ++ d :: behind = name ++ '=' :: rest') (hname : ∀ c ∈ name, isNameCharacter c)
    (hfront : '=' ∉ front) (hd : isNameCharacter d = false) (hne : d ≠ '=') : False := by
  induction front generalizing name with
  | nil =>
    cases name with
    | nil => exact hne (List.cons.inj h).1
    | cons e n =>
      have he := hname e List.mem_cons_self
      rw [← (List.cons.inj h).1, hd] at he
      cases he
  | cons c r ih =>
    cases name with
    | nil => exact hfront ((List.cons.inj h).1 ▸ List.mem_cons_self)
    | cons e n =>
      exact ih (List.cons.inj h).2 (fun x hx => hname x (List.mem_cons_of_mem e hx))
        fun hx => hfront (List.mem_cons_of_mem c hx)

/-- Where a text with its beginning lowered begins with name characters and an equals sign, the text itself
does: what lowering makes of other characters stops a name at something else. -/
theorem exists_name_of_lowered {b : Bool} {front behind rest' : Text}
    (h : lowerFrom b front ++ behind = name ++ '=' :: rest') (hname : ∀ c ∈ name, isNameCharacter c) :
    ∃ name₀ rest₀, front ++ behind = name₀ ++ '=' :: rest₀ ∧ (∀ c ∈ name₀, isNameCharacter c) ∧
      name₀.head?.map isLatin = name.head?.map isLatin := by
  induction front generalizing b name with
  | nil => exact ⟨name, rest', h, hname, rfl⟩
  | cons c r ih =>
    simp only [lowerFrom, List.append_assoc] at h
    by_cases hs : c = 'Σ'
    · rw [lowerForm, if_pos hs] at h
      split at h
      · exact (not_name_of_stopped [] 'ς' h hname (by decide) (by decide) (by decide)).elim
      · exact (not_name_of_stopped [] 'σ' h hname (by decide) (by decide) (by decide)).elim
    · by_cases hi : c = 'İ'
      · rw [lowerForm, if_neg hs, if_pos hi] at h
        exact (not_name_of_stopped ['i'] '\u0307' h hname (by decide) (by decide) (by decide)).elim
      · have hbecomes := Becomes.plain hs hi
        rw [lowerForm, if_neg hs, if_neg hi, List.singleton_append] at h
        cases name with
        | nil =>
          have hc : '=' = c := by
            rw [show lowerLetter c = '=' from (List.cons.inj h).1] at hbecomes
            exact hbecomes.eq_of_ascii (by decide) (by decide)
          exact ⟨[], r ++ behind, by rw [← hc]; rfl, hname, rfl⟩
        | cons e n =>
          obtain ⟨he, htail⟩ := List.cons.inj h
          subst he
          obtain ⟨name₀, rest₀, heq, hall, -⟩ := ih htail fun d hd => hname d (List.mem_cons_of_mem _ hd)
          have hc : isNameCharacter c := isNameCharacter_of_lowered hbecomes (hname _ List.mem_cons_self)
          refine ⟨c :: name₀, rest₀, by rw [List.cons_append, heq]; rfl, List.forall_mem_cons.mpr ⟨hc, hall⟩, ?_⟩
          simp only [List.head?_cons, Option.map_some, (lowerLetter_low hs hi).2.2.1]

end SenderPolicy.Term
