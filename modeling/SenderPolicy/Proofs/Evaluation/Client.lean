import SenderPolicy.Evaluation
import SenderPolicy.Proofs.Address.RoundTrip
import SenderPolicy.Proofs.Macro.Identity

/-!
The client's address. An evaluation keeps the address that it has read, and matches and expands with its text. Nothing is
lost by that, since the text is read again as the address: what it is compared with and what macros stand for is the same
as with the text that the request gave.
-/
namespace SenderPolicy
open Text
variable {a : Address} {ip ip' : Text}

theorem Address.matchesNetwork_congr (h : parse? ip = parse? ip') (network : Text) :
    matchesNetwork ip network = matchesNetwork ip' network := by
  rw [matchesNetwork, matchesNetwork, h]

theorem Macro.Context.letterValue_of_address (c : Context) (h : Address.parse? ip = some a)
    (h' : Address.parse? ip' = some a) (letter : Char) :
    { c with ip := ip }.letterValue letter = { c with ip := ip' }.letterValue letter := by
  unfold letterValue
  simp only [h, h']
  rfl

theorem Macro.expand_of_address (c : Context) (h : Address.parse? ip = some a) (h' : Address.parse? ip' = some a)
    (template : Text) : expand { c with ip := ip } template = expand { c with ip := ip' } template :=
  expand_congr fun m _ => c.letterValue_of_address h h' m.letter

namespace Evaluation

theorem evaluate_of_address (limits : Limits) (now : Int) (request : Request) (h : Address.parse? ip = some a)
    (h' : Address.parse? ip' = some a) :
    evaluate limits now { request with ip := ip } = evaluate limits now { request with ip := ip' } := by
  unfold evaluate
  simp only [h, h']
  rfl

/-- An address that was read is read again from its text. So the text of the client's address, which is what an
evaluation goes on with, is in the same networks as the text that was given and stands for the same in all macros, and
the evaluation is the same for the one and for the other. -/
theorem client_is_told_by_its_text (h : Address.parse? ip = some a) :
    Address.parse? a.text = some a ∧
      (∀ network, Address.matchesNetwork a.text network = Address.matchesNetwork ip network) ∧
      (∀ s : Setting, s.address = a → ∀ domain template,
        Macro.expand (s.context domain) template = Macro.expand { s.context domain with ip := ip } template) ∧
      ∀ (limits : Limits) (now : Int) (request : Request),
        evaluate limits now { request with ip := a.text } = evaluate limits now { request with ip := ip } := by
  have htext := Address.parse?_text h
  refine ⟨htext, Address.matchesNetwork_congr (htext.trans h.symm), ?_, fun limits now request =>
    evaluate_of_address limits now request htext h⟩
  rintro s rfl domain template
  exact Macro.expand_of_address (s.context domain) htext h template

/-- Blanks around the address, capitals, zeros that could be left out, a dotted part and a zone with a blank in it. -/
theorem spelled_out_client_is_told :
    let ip : Text := " FE80:0:0:0:0:0:192.0.2.1%eth 0\n"
    let a : Address := .v6 0xFE8000000000000000000000C0000201 (some "eth 0")
    Address.parse? ip = some a ∧ a.text = "fe80::c000:201%eth 0" ∧ Address.parse? a.text = some a ∧
      ∀ (limits : Limits) (now : Int) (request : Request),
        evaluate limits now { request with ip := a.text } = evaluate limits now { request with ip := ip } := by
  intro ip a
  have hread : Address.parse? ip = some a := by decide +kernel
  obtain ⟨hagain, -, -, hsame⟩ := client_is_told_by_its_text hread
  exact ⟨hread, by decide +kernel, hagain, hsame⟩

end Evaluation
end SenderPolicy
