import SenderPolicy.Dns.Zone
import SenderPolicy.Limits
import SenderPolicy.Published

/-!
Replies that differ only in what a server may choose: the order of the records, the strings that the text of
a record is cut into, and the reason of a failure. What is read of them as a whole is the same.
-/
namespace SenderPolicy.Dns
variable {α : Type} {r r' : Reply} {a b : Answer} {replies replies' : Query → Reply}

def Datum.whole : Datum → Datum
  | .strings parts => .text parts.flatten
  | d => d

/-- Replies of one kind with the same records, in any order and with each text in any strings. -/
inductive Reply.Rearranges : Reply → Reply → Prop
  | records {all all' : List Datum} : (all.map Datum.whole).Perm (all'.map Datum.whole) →
      Rearranges (.records all) (.records all')
  | nothing : Rearranges .nothing .nothing
  | noSuchDomain (name name' : Text) : Rearranges (.noSuchDomain name) (.noSuchDomain name')
  | failed (trouble trouble' : Trouble) (reason reason' : Text) :
      Rearranges (.failed trouble reason) (.failed trouble' reason')

/-- Every question has the same reply, rearranged; but where an address has more names than are looked at,
these stand as they are. -/
structure Rearranged (replies replies' : Query → Reply) : Prop where
  reply : ∀ q, (replies q).Rearranges (replies' q)
  names : ∀ address all, replies ⟨.names, address⟩ = .records all → maxReverseNames < all.length →
    replies' ⟨.names, address⟩ = .records all

theorem Reply.rearranges_refl (r : Reply) : r.Rearranges r := by
  cases r with
  | records all => exact .records (List.Perm.refl _)
  | nothing => exact .nothing
  | noSuchDomain name => exact .noSuchDomain name name
  | failed trouble reason => exact .failed trouble trouble reason reason

theorem rearranged_refl (replies : Query → Reply) : Rearranged replies replies where
  reply q := Reply.rearranges_refl (replies q)
  names _ _ h _ := h

/-! Records -/

@[simp] theorem Datum.asText_whole (d : Datum) : d.whole.asText = d.asText := by
  cases d <;> rfl

@[simp] theorem Datum.flatten_parts_whole (d : Datum) : d.whole.parts.flatten = d.parts.flatten := by
  cases d with
  | strings parts => exact List.append_nil parts.flatten
  | _ => rfl

theorem perm_map_of_whole {f : Datum → α} (hf : ∀ d, f d.whole = f d) {all all' : List Datum}
    (h : (all.map Datum.whole).Perm (all'.map Datum.whole)) : (all.map f).Perm (all'.map f) := by
  have hmap := h.map f
  simpa only [List.map_map, Function.comp_def, hf] using hmap

/-! Answers -/

structure Answer.Alike (a b : Answer) : Prop where
  failed : a.error.isSome = b.error.isSome
  missing : a.isMissing = b.isMissing
  records : (a.records.map Datum.whole).Perm (b.records.map Datum.whole)

theorem Reply.Rearranges.answer (h : r.Rearranges r') : (Answer.ofReply r).Alike (Answer.ofReply r') := by
  cases h with
  | records h => exact ⟨rfl, rfl, h⟩
  | nothing => exact ⟨rfl, rfl, .nil⟩
  | noSuchDomain => exact ⟨rfl, rfl, .nil⟩
  | failed => exact ⟨rfl, rfl, .nil⟩

namespace Answer.Alike

theorem texts (h : a.Alike b) :
    (a.records.map (·.asText)).Perm (b.records.map (·.asText)) :=
  perm_map_of_whole Datum.asText_whole h.records

theorem length_records (h : a.Alike b) : a.records.length = b.records.length := by
  simpa using h.records.length_eq

theorem isVoid (h : a.Alike b) : a.isVoid = b.isVoid := by
  have hempty : a.records.isEmpty = b.records.isEmpty := by
    rw [Bool.eq_iff_iff, List.isEmpty_iff_length_eq_zero, List.isEmpty_iff_length_eq_zero, h.length_records]
  rw [Answer.isVoid, Answer.isVoid, hempty, ← Option.not_isSome, ← Option.not_isSome, h.failed]

theorem singleton {d : Datum} (h : a.Alike b) (ha : a.records = [d]) :
    ∃ e, b.records = [e] ∧ e.asText = d.asText := by
  have hlength := h.length_records
  rw [ha] at hlength
  obtain ⟨e, he⟩ := List.length_eq_one_iff.mp hlength.symm
  have htexts := h.texts
  rw [ha, he] at htexts
  exact ⟨e, he, (List.singleton_perm_singleton.mp htexts).symm⟩

end Answer.Alike
end SenderPolicy.Dns

namespace SenderPolicy
open Dns

def SamePublication : Except Unpublished Publication → Except Unpublished Publication → Prop
  | .ok p, .ok q => p.record = q.record
  | .error u, .error v => u.verdict = v.verdict
  | _, _ => False

theorem flatten_policies (records : List Datum) :
    ((records.map Datum.parts).filter fun strings => Publication.isRecord strings.flatten).map
        List.flatten =
      (records.map fun d => d.parts.flatten).filter Publication.isRecord := by
  simp only [List.filter_map, List.map_map, Function.comp_def]

theorem Dns.Answer.Alike.publication {a b : Answer} (h : a.Alike b) (domain : Text) :
    SamePublication (Publication.ofAnswer domain a) (Publication.ofAnswer domain b) := by
  unfold Publication.ofAnswer
  rw [← h.missing]
  by_cases hm : a.isMissing = true
  · simp only [if_pos hm, SamePublication]
  · simp only [if_neg hm]
    have hfailed := h.failed
    cases ha : a.error with
    | some reason =>
      cases hb : b.error with
      | some reason' => rfl
      | none => simp [ha, hb] at hfailed
    | none =>
      cases hb : b.error with
      | some reason' => simp [ha, hb] at hfailed
      | none =>
        have htexts : (a.records.map fun d => d.parts.flatten).Perm (b.records.map fun d => d.parts.flatten) :=
          perm_map_of_whole Datum.flatten_parts_whole h.records
        have hperm := htexts.filter Publication.isRecord
        rw [← flatten_policies, ← flatten_policies] at hperm
        generalize (a.records.map Datum.parts).filter _ = policies at hperm ⊢
        generalize (b.records.map Datum.parts).filter _ = policies' at hperm ⊢
        have hlength : policies.length = policies'.length := by simpa using hperm.length_eq
        match policies, policies', hlength, hperm with
        | [], [], _, _ => rfl
        | [strings], [strings'], _, hperm => exact List.singleton_perm_singleton.mp hperm
        | _ :: _ :: _, _ :: _ :: _, _, _ => rfl

end SenderPolicy
