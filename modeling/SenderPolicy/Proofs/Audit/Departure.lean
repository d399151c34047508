import Mathlib.Data.List.TakeWhile
import SenderPolicy.Audit.Term
import SenderPolicy.Proofs.Term.RoundTrip
import SenderPolicy.Proofs.Text.Ascii

/-!
Where a term departs from the grammar of the audit. What an opening takes off consists of characters that may stand in
values; so a term is in order if it has an opening, and no other characters at all.
-/
namespace SenderPolicy.Audit
open Text
variable {c : Char} {t name behind value : Text} {u : Term} {kind : Kind} {link : Link}

/-! Characters -/

theorem isWord_of_isAlphanum (h : c.isAlphanum = true) : isWord c = true := by
  simp [isWord, ascii_of_isAlphanum h, h]

theorem isWord_of_folded (h : (folded c).isAlphanum = true) : isWord c = true := by
  unfold folded at h
  split at h
  · rename_i hi
    obtain rfl | rfl := hi <;> decide +kernel
  · split at h
    · rename_i hs
      rw [hs]
      decide +kernel
    · split at h
      · rename_i hk
        rw [hk]
        decide +kernel
      · exact isWord_of_isAlphanum (isAlphanum_of_toLower h)

theorem isValueCharacter_of_isWord (h : isWord c = true) : isValueCharacter c = true := by
  simp [isValueCharacter, h]

theorem isValueCharacter_of_isAlphanum (h : c.isAlphanum = true) : isValueCharacter c = true :=
  isValueCharacter_of_isWord (isWord_of_isAlphanum h)

theorem isValueCharacter_of_isNameCharacter (h : Term.isNameCharacter c = true) : isValueCharacter c = true := by
  simp only [Term.isNameCharacter, Bool.or_eq_true, beq_iff_eq] at h
  obtain (((hlatin | hdigit) | rfl) | rfl) | rfl := h
  · apply isValueCharacter_of_isWord
    apply isWord_of_folded
    exact isAlphanum_of_isAlpha (isAlpha_of_isLower hlatin)
  · exact isValueCharacter_of_isAlphanum (isAlphanum_of_isDigit hdigit)
  · decide
  · decide
  · decide

/-! Openings -/

def IsBehind (behind t : Text) : Prop := ∃ front, t = front ++ behind ∧ ∀ c ∈ front, isValueCharacter c = true

theorem IsBehind.trans {middle : Text} (h : IsBehind behind middle) (h' : IsBehind middle t) : IsBehind behind t := by
  obtain ⟨front, rfl, hfront⟩ := h
  obtain ⟨front', rfl, hfront'⟩ := h'
  refine ⟨front' ++ front, by simp, ?_⟩
  rw [List.forall_mem_append]
  exact ⟨hfront', hfront⟩

theorem isBehind_of_behindName? (hname : ∀ c ∈ name, c.isAlphanum = true) (h : behindName? name t = some behind) :
    IsBehind behind t := by
  induction name generalizing t with
  | nil =>
    cases h
    exact ⟨[], rfl, by simp⟩
  | cons n name ih =>
    rw [List.forall_mem_cons] at hname
    cases t with
    | nil => cases h
    | cons c r =>
      simp only [behindName?] at h
      split at h
      · rename_i hfolded
        have hword := isWord_of_folded (hfolded ▸ hname.1)
        refine (ih hname.2 h).trans ⟨[c], rfl, ?_⟩
        simpa using isValueCharacter_of_isWord hword
      · cases h

theorem isBehind_of_behindLink? (h : behindLink? link t = some behind) : IsBehind behind t := by
  unfold behindLink? at h
  split at h
  · cases h
    exact ⟨[':'], rfl, List.forall_mem_singleton.mpr (by decide)⟩
  · cases h
    exact ⟨[], rfl, by simp⟩
  · cases h
    exact ⟨[], rfl, by simp⟩
  · cases h
    exact ⟨['='], rfl, List.forall_mem_singleton.mpr (by decide)⟩
  · cases h

theorem isBehind_of_behindModifier? (h : behindModifier? t = some behind) : IsBehind behind t := by
  unfold behindModifier? at h
  split at h
  · rename_i first r
    split at h
    · refine (isBehind_of_behindLink? h).trans ⟨(first :: r).takeWhile Term.isNameCharacter, ?_, fun c hc => ?_⟩
      · exact List.takeWhile_append_dropWhile.symm
      · exact isValueCharacter_of_isNameCharacter (List.all_eq_true.mp List.all_takeWhile c hc)
    · cases h
  · cases h

theorem opening_names : openings.all (fun opening => opening.1.all Char.isAlphanum) = true := by decide

theorem isBehind_of_behindFirst? (h : behindFirst? t = some behind) : IsBehind behind t := by
  unfold behindFirst? at h
  split at h
  · rename_i r hr
    cases h
    obtain ⟨opening, hmem, hopening⟩ := List.exists_of_findSome?_eq_some hr
    obtain ⟨middle, hname, hlink⟩ := Option.bind_eq_some_iff.mp hopening
    have hletters := List.all_eq_true.mp (List.all_eq_true.mp opening_names opening hmem)
    exact (isBehind_of_behindLink? hlink).trans (isBehind_of_behindName? hletters hname)
  · exact isBehind_of_behindModifier? h

theorem departure?_eq_none_iff :
    departure? t = none ↔
      (behindFirst? (Qualifier.take t).2).isSome = true ∧ ∀ c ∈ (Qualifier.take t).2, isValueCharacter c = true := by
  unfold departure?
  cases hfirst : behindFirst? (Qualifier.take t).2 with
  | none => simp
  | some behind =>
    obtain ⟨front, hfront, hvalues⟩ := isBehind_of_behindFirst? hfirst
    have hdrop : behind.dropWhile isValueCharacter = [] ↔ ∀ c ∈ behind, isValueCharacter c = true :=
      List.dropWhile_eq_nil_iff
    rw [hfront, List.forall_mem_append, ← hdrop]
    cases hrest : behind.dropWhile isValueCharacter with
    | nil => simpa [hrest] using hvalues
    | cons c r => simp [hrest]

/-! Terms with an opening -/

theorem behindName?_of_folded (h : ∀ c ∈ name, folded c = c) (t : Text) : behindName? name (name ++ t) = some t := by
  induction name with
  | nil => cases t <;> rfl
  | cons c r ih =>
    rw [List.forall_mem_cons] at h
    rw [List.cons_append, behindName?, if_pos h.1, ih h.2]

theorem isSome_behindLink? (h : link ≠ .equals) (t : Text) : (behindLink? link t).isSome = true := by
  unfold behindLink?
  split
  · rfl
  · rfl
  · rfl
  · exact absurd rfl h
  · exact absurd rfl h

theorem mechanism_openings : (Kind.mechanisms.all fun kind =>
    (openings.contains (kind.name, .optionalColon) || openings.contains (kind.name, .nothing)) &&
      kind.name.all fun c => folded c == c) = true := by
  decide

theorem isSome_behindFirst?_of_mechanism (h : kind ∈ Kind.mechanisms) (t : Text) :
    (behindFirst? (kind.name ++ t)).isSome = true := by
  have hrow := List.all_eq_true.mp mechanism_openings kind h
  simp only [Bool.and_eq_true, Bool.or_eq_true, List.contains_iff_mem, List.all_eq_true, beq_iff_eq] at hrow
  have hname := behindName?_of_folded hrow.2 t
  have hopening : (openings.findSome? (behindOpening? (kind.name ++ t))).isSome = true := by
    rw [List.findSome?_isSome_iff]
    obtain hmem | hmem := hrow.1
    · exact ⟨_, hmem, by simpa [behindOpening?, hname] using isSome_behindLink? (by decide) t⟩
    · exact ⟨_, hmem, by simpa [behindOpening?, hname] using isSome_behindLink? (by decide) t⟩
  unfold behindFirst?
  split
  · rfl
  · rename_i hnone
    rw [hnone] at hopening
    cases hopening

theorem isSome_behindFirst?_of_modifier (h : Term.IsName name) (value : Text) :
    (behindFirst? (name ++ '=' :: value)).isSome = true := by
  have hmodifier : behindModifier? (name ++ '=' :: value) = some value := by
    obtain ⟨hall, hfirst⟩ := h
    cases name with
    | nil => cases hfirst
    | cons first r =>
      have hlatin : isLatin first = true := by simpa using hfirst
      have hdrop : (first :: r ++ '=' :: value).dropWhile Term.isNameCharacter = '=' :: value := by
        rw [List.dropWhile_append_of_pos hall, List.dropWhile_cons_of_neg (by decide)]
      rw [List.cons_append] at hdrop
      simp only [List.cons_append, behindModifier?, hlatin, if_true, hdrop, behindLink?]
  unfold behindFirst?
  split
  · rfl
  · rw [hmodifier]
    rfl

end SenderPolicy.Audit
