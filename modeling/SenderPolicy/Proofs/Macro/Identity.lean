import SenderPolicy.Macro.Expand
import SenderPolicy.Proofs.Text.Words

/-!
The letters of the message: its sender, the two parts of that, and the name of the client. What is missing of
them is filled in from the domain whose record is read, so that a letter is the same in the records of two
domains only if nothing is missing, or if the domains agree in what fills the gap.
-/
namespace SenderPolicy.Macro
open Text
variable {c : Context} {d d' template : Text} {letter : Char}

def messageLetters : List Char := ['s', 'l', 'o', 'h']

def IsGiven (t : Option Text) : Prop := t.getD [] ≠ []

/-- Does anything stand behind the last at sign of the sender? -/
def NamesDomain (sender : Option Text) : Prop := (cutAtLast '@' (sender.getD [])).2 ≠ []

instance (t : Option Text) : Decidable (IsGiven t) := inferInstanceAs (Decidable (_ ≠ _))

instance (sender : Option Text) : Decidable (NamesDomain sender) := inferInstanceAs (Decidable (_ ≠ _))

/-- The domain of the mail address that a name is: what stands behind the last at sign, if anything does. -/
def mailDomain (d : Text) : Text :=
  match (cutAtLast '@' d).2 with
  | [] => d
  | t => t

/-- Does the letter stand for one text in the records of the two domains? -/
def Keeps (sender helo : Option Text) (d d' : Text) : Char → Prop
  | 's' => NamesDomain sender ∨ d = d'
  | 'l' => IsGiven sender ∨ (cutAtLast '@' d).1 = (cutAtLast '@' d').1
  | 'o' => NamesDomain sender ∨ d = d' ∨ ¬ IsGiven sender ∧ mailDomain d = mailDomain d'
  | 'h' => IsGiven helo ∨ d = d'
  | _ => False

theorem eq_of_mem_messageLetters (h : letter ∈ messageLetters) :
    letter = 's' ∨ letter = 'l' ∨ letter = 'o' ∨ letter = 'h' := by
  simpa [messageLetters] using h

theorem NamesDomain.isGiven {sender : Option Text} (h : NamesDomain sender) : IsGiven sender := by
  intro hnot
  rw [NamesDomain, hnot] at h
  exact h rfl

/-! What the letters stand for -/

theorem senderText_of_given (h : IsGiven c.sender) : c.senderText = c.sender.getD [] := by
  unfold Context.senderText
  cases hs : c.sender with
  | none => exact absurd (by rw [hs]; rfl) h
  | some t =>
    cases t with
    | nil => exact absurd (by rw [hs]; rfl) h
    | cons x r => rfl

theorem senderText_of_missing (h : ¬ IsGiven c.sender) : c.senderText = "postmaster@" ++ c.domain := by
  unfold Context.senderText
  cases hs : c.sender with
  | none => rfl
  | some t =>
    have ht : t = [] := by simpa [IsGiven, hs] using h
    rw [ht]

/-- The last at sign of the postmaster of a name is the last one of the name, if that has one. -/
theorem cutAtLast_postmaster (d : Text) :
    cutAtLast '@' ("postmaster@" ++ d) =
      (some ("postmaster" ++ ((cutAtLast '@' d).1.map ('@' :: ·)).getD []), (cutAtLast '@' d).2) := by
  obtain h | ⟨before, behind, rfl, h⟩ := exists_last_mark '@' d
  · rw [cutAtLast_of_notin h]
    exact cutAtLast_of_mark h "postmaster"
  · rw [cutAtLast_of_mark h]
    exact cutAtLast_of_mark h ("postmaster@" ++ before)

theorem localPart_of_missing (h : ¬ IsGiven c.sender) :
    c.localPart = "postmaster" ++ ((cutAtLast '@' c.domain).1.map ('@' :: ·)).getD [] := by
  unfold Context.localPart
  rw [senderText_of_missing h, cutAtLast_postmaster]
  rfl

theorem senderDomain_of_missing (h : ¬ IsGiven c.sender) : c.senderDomain = mailDomain c.domain := by
  unfold Context.senderDomain
  rw [senderText_of_missing h, cutAtLast_postmaster]
  rfl

theorem senderDomain_of_named (h : NamesDomain c.sender) :
    c.senderDomain = (cutAtLast '@' (c.sender.getD [])).2 := by
  unfold Context.senderDomain
  rw [senderText_of_given h.isGiven]
  split
  · rename_i hnil
    exact absurd hnil h
  · rfl

theorem senderDomain_of_unnamed (hg : IsGiven c.sender) (h : ¬ NamesDomain c.sender) :
    c.senderDomain = c.domain := by
  unfold Context.senderDomain
  rw [senderText_of_given hg]
  have hnil : (cutAtLast '@' (c.sender.getD [])).2 = [] := Classical.not_not.mp h
  rw [hnil]

/-! Senders -/

/-- What stands behind the first at sign of a postmaster. A domain that ends in an at sign stands there twice, as its
own mail address has no domain. -/
def postmasterDomain (d : Text) : Text := if d.getLast? = some '@' then d ++ d else d

theorem postmasterDomain_inj : postmasterDomain d = postmasterDomain d' ↔ d = d' := by
  refine ⟨fun h => ?_, fun h => congrArg postmasterDomain h⟩
  have hlast (d : Text) : (postmasterDomain d).getLast? = d.getLast? := by
    unfold postmasterDomain
    split
    · simp only [List.getLast?_append, Option.or_self]
    · rfl
  have hends : d.getLast? = d'.getLast? := by rw [← hlast d, h, hlast d']
  unfold postmasterDomain at h
  rw [← hends] at h
  by_cases hat : d.getLast? = some '@'
  · rw [if_pos hat, if_pos hat] at h
    have hlength : d.length = d'.length := by
      have hdouble := congrArg List.length h
      simp only [List.length_append] at hdouble
      omega
    exact (List.append_inj h hlength).1
  · rwa [if_neg hat, if_neg hat] at h

theorem sender_of_missing (h : ¬ IsGiven c.sender) :
    c.localPart ++ '@' :: c.senderDomain = "postmaster@" ++ postmasterDomain c.domain := by
  rw [localPart_of_missing h, senderDomain_of_missing h, mailDomain, postmasterDomain]
  -- The at sign in front of the domain is the last one only if the domain has none.
  obtain hnot | ⟨before, behind, heq, hnot⟩ := exists_last_mark '@' c.domain
  · have hend : c.domain.getLast? ≠ some '@' := fun hlast => hnot (List.mem_of_getLast? hlast)
    rw [cutAtLast_of_notin hnot, if_neg hend]
    cases c.domain <;> rfl
  · rw [heq, cutAtLast_of_mark hnot]
    cases behind with
    | nil =>
      rw [if_pos (by simp)]
      simp
    | cons x rest =>
      have hend : (before ++ '@' :: x :: rest).getLast? ≠ some '@' := by
        have hlast : (before ++ '@' :: x :: rest).getLast? = (x :: rest).getLast? := by
          simp [List.getLast?_append, List.getLast?_cons]
        rw [hlast]
        exact fun hat => hnot (List.mem_of_getLast? hat)
      rw [if_neg hend]
      simp

/-! Letters -/

namespace Context

def inDomain (c : Context) (d : Text) : Context := { c with domain := d }

variable (c : Context) (d : Text)

@[simp] theorem inDomain_domain : (c.inDomain d).domain = d := rfl
@[simp] theorem inDomain_sender : (c.inDomain d).sender = c.sender := rfl
@[simp] theorem inDomain_helo : (c.inDomain d).helo = c.helo := rfl

theorem letterValue_of_toLower {letter lower : Char} (h : letter.toLower = lower.toLower) :
    c.letterValue letter = c.letterValue lower := by
  simp only [letterValue, h]

end Context

theorem localPart_inDomain (h : IsGiven c.sender) : (c.inDomain d).localPart = c.localPart := by
  unfold Context.localPart
  rw [senderText_of_given h, senderText_of_given (c := c.inDomain d) h, Context.inDomain_sender]

theorem sender_inDomain_iff :
    c.localPart ++ '@' :: c.senderDomain = (c.inDomain d).localPart ++ '@' :: (c.inDomain d).senderDomain ↔
      NamesDomain c.sender ∨ c.domain = d := by
  by_cases hg : IsGiven c.sender
  · rw [localPart_inDomain hg]
    by_cases hn : NamesDomain c.sender
    · rw [senderDomain_of_named hn, senderDomain_of_named (c := c.inDomain d) hn, Context.inDomain_sender]
      exact iff_of_true rfl (.inl hn)
    · rw [senderDomain_of_unnamed hg hn, senderDomain_of_unnamed (c := c.inDomain d) hg hn]
      simp [hn]
  · rw [sender_of_missing hg, sender_of_missing (c := c.inDomain d) hg, List.append_cancel_left_eq,
      postmasterDomain_inj]
    exact ⟨.inr, fun h => h.resolve_left fun hn => hg hn.isGiven⟩

theorem localPart_inDomain_iff :
    c.localPart = (c.inDomain d).localPart ↔
      IsGiven c.sender ∨ (cutAtLast '@' c.domain).1 = (cutAtLast '@' d).1 := by
  by_cases hg : IsGiven c.sender
  · exact iff_of_true (localPart_inDomain hg).symm (.inl hg)
  · rw [localPart_of_missing hg, localPart_of_missing (c := c.inDomain d) hg, List.append_cancel_left_eq,
      Context.inDomain_domain]
    simp only [hg, false_or]
    cases (cutAtLast '@' c.domain).1 <;> cases (cutAtLast '@' d).1 <;> simp

theorem senderDomain_inDomain_iff :
    c.senderDomain = (c.inDomain d).senderDomain ↔
      NamesDomain c.sender ∨ c.domain = d ∨ ¬ IsGiven c.sender ∧ mailDomain c.domain = mailDomain d := by
  by_cases hn : NamesDomain c.sender
  · rw [senderDomain_of_named hn, senderDomain_of_named (c := c.inDomain d) hn, Context.inDomain_sender]
    exact iff_of_true rfl (.inl hn)
  · by_cases hg : IsGiven c.sender
    · rw [senderDomain_of_unnamed hg hn, senderDomain_of_unnamed (c := c.inDomain d) hg hn]
      simp [hn, hg]
    · rw [senderDomain_of_missing hg, senderDomain_of_missing (c := c.inDomain d) hg, Context.inDomain_domain]
      simp only [hn, hg, false_or, not_false_eq_true, true_and]
      exact ⟨.inr, fun h => h.elim (congrArg mailDomain) id⟩

theorem heloName_inDomain_iff :
    c.heloName = (c.inDomain d).heloName ↔ IsGiven c.helo ∨ c.domain = d := by
  unfold Context.heloName
  rw [Context.inDomain_helo, Context.inDomain_domain, IsGiven]
  cases c.helo with
  | none => simp
  | some t => cases t <;> simp

theorem letterValue_of_message (hl : letter ∈ messageLetters) (c : Context) :
    ∃ value, c.letterValue letter = .ok value := by
  obtain rfl | rfl | rfl | rfl := eq_of_mem_messageLetters hl <;> exact ⟨_, rfl⟩

/-- In the records of two domains a letter of the message stands for one text exactly if nothing of it is filled in
from the domain, or the two fill in the same. -/
theorem letterValue_inDomain_iff (hl : letter ∈ messageLetters) :
    c.letterValue letter = (c.inDomain d).letterValue letter ↔ Keeps c.sender c.helo c.domain d letter := by
  obtain rfl | rfl | rfl | rfl := eq_of_mem_messageLetters hl
  · exact (Iff.of_eq (Except.ok.injEq _ _)).trans sender_inDomain_iff
  · exact (Iff.of_eq (Except.ok.injEq _ _)).trans localPart_inDomain_iff
  · exact (Iff.of_eq (Except.ok.injEq _ _)).trans senderDomain_inDomain_iff
  · exact (Iff.of_eq (Except.ok.injEq _ _)).trans heloName_inDomain_iff

/-! Templates -/

/-- The letter in braces alone, behind a percent sign. -/
def plain (letter : Char) : Text := ['%', '{', letter, '}']

theorem expand_plain (hl : letter ∈ messageLetters) (c : Context) : expand c (plain letter) = c.letterValue letter := by
  have hscan : scan (plain letter) = [.expansion ⟨letter, [], false, []⟩] ∧ isCapital letter = false := by
    obtain rfl | rfl | rfl | rfl := eq_of_mem_messageLetters hl <;> decide
  rw [expand, hscan.1, expandPieces, expandPieces, expandPiece]
  cases c.letterValue letter with
  | error f => rfl
  | ok value =>
    have hvalue : transformed ⟨letter, [], false, []⟩ value = .ok value :=
      calc
        transformed ⟨letter, [], false, []⟩ value =
            .ok (joined ['.'] (pieces (fun x => ['.'].contains x) value)) := by
          simp only [transformed, lastParts, hscan.2]
          rfl
        _ = .ok value := congrArg Except.ok (joined_pieces (by simp) value)
    change (do let t ← transformed ⟨letter, [], false, []⟩ value; pure (t ++ [])) = _
    rw [hvalue]
    exact congrArg Except.ok (List.append_nil value)

theorem expand_congr {c c' : Context}
    (h : ∀ m, .expansion m ∈ scan template → c.letterValue m.letter = c'.letterValue m.letter) :
    expand c template = expand c' template := by
  unfold expand
  generalize scan template = ps at h
  induction ps with
  | nil => rfl
  | cons piece rest ih =>
    have hpiece : expandPiece c piece = expandPiece c' piece := by
      cases piece with
      | expansion m => simp only [expandPiece, h m List.mem_cons_self]
      | _ => rfl
    rw [expandPieces, expandPieces, hpiece, ih fun m hm => h m (List.mem_cons_of_mem piece hm)]

end SenderPolicy.Macro
