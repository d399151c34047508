import SenderPolicy.Dns.Zone
import SenderPolicy.Proofs.Evaluation.History
import SenderPolicy.Proofs.Macro.Identity

/-!
The identity of a message through an evaluation: which letters of it stand for one text in all records that are
read, however they are reached. A letter does so if the request leaves nothing of it open; what it leaves open
each record fills in with its own domain.
-/
namespace SenderPolicy.Evaluation
open Dns Macro
variable {limits : Limits} {now : Int} {request : Request} {e e' : Expansion} {letter : Char} {template : Text}

namespace Expansion.IsMadeFor

/-- Two expansions of one evaluation differ in their domains alone. -/
theorem context_eq (h : e.IsMadeFor limits now request) (h' : e'.IsMadeFor limits now request) :
    e'.context = e.context.inDomain e'.context.domain := by
  obtain ⟨address, hip, he⟩ := h
  obtain ⟨address', hip', he'⟩ := h'
  obtain rfl : address = address' := Option.some.inj (hip.symm.trans hip')
  calc
    e'.context = (Setting.ofRequest request address limits now).context e'.context.domain := he'
    _ = ((Setting.ofRequest request address limits now).context e.context.domain).inDomain e'.context.domain := rfl
    _ = e.context.inDomain e'.context.domain := by rw [← he]

theorem told_eq (h : e.IsMadeFor limits now request) :
    e.context.sender = request.sender ∧ e.context.helo = request.helo := by
  obtain ⟨address, -, he⟩ := h
  rw [he]
  exact ⟨rfl, rfl⟩

theorem letterValue_eq_iff (h : e.IsMadeFor limits now request) (h' : e'.IsMadeFor limits now request)
    (hl : letter ∈ messageLetters) :
    e.context.letterValue letter = e'.context.letterValue letter ↔
      Keeps request.sender request.helo e.context.domain e'.context.domain letter := by
  obtain ⟨hsender, hhelo⟩ := h.told_eq
  rw [h.context_eq h', letterValue_inDomain_iff hl, hsender, hhelo, Context.inDomain_domain]

end Expansion.IsMadeFor

/-- An evaluation that keeps its history is the evaluation. Whatever the resolver replies, in any two places where it
expands, at any depth, a letter of the message gives one text exactly if the request leaves nothing of it open, or
the domains of the two records fill in the same. So a text with such letters alone is expanded alike. -/
theorem expansions_agree_iff (limits : Limits) (now : Int) (request : Request) :
    Prod.fst <$> evaluateRecorded limits now request = evaluate limits now request ∧
    ∀ (σ : Type) (reply : Query → σ → Reply × σ) (start : σ),
      let history := ((evaluateRecorded limits now request).run reply start).1.2
      ∀ e ∈ history, ∀ e' ∈ history,
        (∀ letter ∈ messageLetters, ∃ text text', Macro.expand e.context (plain letter) = .ok text ∧
          Macro.expand e'.context (plain letter) = .ok text' ∧
          (text = text' ↔ Keeps request.sender request.helo e.context.domain e'.context.domain letter)) ∧
        ∀ template, (∀ m, .expansion m ∈ scan template → m.letter.toLower ∈ messageLetters ∧
            Keeps request.sender request.helo e.context.domain e'.context.domain m.letter.toLower) →
          Macro.expand e.context template = Macro.expand e'.context template := by
  refine ⟨evaluateRecorded_fst limits now request, fun σ reply start => ?_⟩
  intro history e he e' he'
  have hmade : ∀ e ∈ history, e.IsMadeFor limits now request :=
    (evaluateRecorded_contexts limits now request).of_run reply start
  have h := hmade e he
  have h' := hmade e' he'
  constructor
  · intro letter hl
    obtain ⟨text, htext⟩ := letterValue_of_message hl e.context
    obtain ⟨text', htext'⟩ := letterValue_of_message hl e'.context
    refine ⟨text, text', (expand_plain hl _).trans htext, (expand_plain hl _).trans htext', ?_⟩
    rw [← h.letterValue_eq_iff h' hl, htext, htext', Except.ok.injEq]
  · intro template hkeeps
    refine expand_congr fun m hm => ?_
    obtain ⟨hl, hkeep⟩ := hkeeps m hm
    have hlower : m.letter.toLower = m.letter.toLower.toLower := by
      obtain hl | hl | hl | hl := eq_of_mem_messageLetters hl <;> (rw [hl]; rfl)
    calc
      e.context.letterValue m.letter = e.context.letterValue m.letter.toLower :=
        Context.letterValue_of_toLower _ hlower
      _ = e'.context.letterValue m.letter.toLower := (h.letterValue_eq_iff h' hl).mpr hkeep
      _ = e'.context.letterValue m.letter := (Context.letterValue_of_toLower _ hlower).symm

/-- Two policies, one included in the other, that ask for the sender's domain among names of their own. -/
def vouchingZone : Zone := [
  (⟨.texts, "d.example"⟩, .records [.text "v=spf1 exists:%{o}.s.example include:b.example -all"]),
  (⟨.texts, "b.example"⟩, .records [.text "v=spf1 exists:%{o}.s.example -all"]),
  (⟨.shortAddresses, "b.example.s.example"⟩, .records [.text "127.0.0.2"])]

def expandedBy (zone : Zone) (request : Request) : List Expansion :=
  ((evaluateRecorded {} 0 request).run (fun q u => (zone.reply q, u)) ()).1.2

theorem told_sender_is_the_same_for_an_include :
    let request : Request :=
      { domain := "d.example", ip := "192.0.2.1", sender := some "u@m.example", helo := some "c.example" }
    let history := expandedBy vouchingZone request
    let template : Text := "%{L2r}.%{o}.%{h}"
    (history.map fun e => e.context.domain) = ["b.example".toList, "d.example".toList] ∧
      ∀ e ∈ history, ∀ e' ∈ history, Macro.expand e.context template = Macro.expand e'.context template := by
  intro request history template
  refine ⟨by decide +kernel, fun e he e' he' => ?_⟩
  obtain ⟨-, hrun⟩ := expansions_agree_iff {} 0 request
  obtain ⟨-, hagree⟩ := hrun Unit (fun q u => (vouchingZone.reply q, u)) () e he e' he'
  have hscan : scan template = [.expansion ⟨'L', ['2'], true, []⟩, .character '.', .expansion ⟨'o', [], false, []⟩,
      .character '.', .expansion ⟨'h', [], false, []⟩] := by decide
  refine hagree template fun m hm => ?_
  simp only [hscan, List.mem_cons, List.not_mem_nil, or_false, Piece.expansion.injEq, reduceCtorEq, false_or] at hm
  obtain rfl | rfl | rfl := hm
  · exact ⟨by decide, .inl (by decide)⟩
  · exact ⟨by decide, .inl (by decide)⟩
  · exact ⟨by decide, .inl (by decide)⟩

/-- Without a sender each record fills in its own domain. -/
theorem missing_sender_changes_with_an_include :
    ¬ ∀ (limits : Limits) (now : Int) (request : Request) (σ : Type) (reply : Query → σ → Reply × σ) (start : σ),
      let history := ((evaluateRecorded limits now request).run reply start).1.2
      ∀ e ∈ history, ∀ e' ∈ history, ∀ letter ∈ messageLetters,
        Macro.expand e.context (plain letter) = Macro.expand e'.context (plain letter) := by
  intro h
  let request : Request := { domain := "d.example", ip := "192.0.2.1" }
  let texts := (expandedBy vouchingZone request).map fun e => (Macro.expand e.context (plain 'o')).toOption
  have htexts : texts = [some "b.example".toList, some "d.example".toList] := by decide +kernel
  have hsame : ∀ x ∈ texts, ∀ y ∈ texts, x = y := by
    intro x hx y hy
    obtain ⟨e, he, rfl⟩ := List.mem_map.mp hx
    obtain ⟨e', he', rfl⟩ := List.mem_map.mp hy
    exact congrArg Except.toOption
      (h {} 0 request Unit (fun q u => (vouchingZone.reply q, u)) () e he e' he' 'o' (by decide))
  rw [htexts] at hsame
  exact absurd (hsame _ List.mem_cons_self _ (List.mem_cons_of_mem _ List.mem_cons_self)) (by decide)

end SenderPolicy.Evaluation
