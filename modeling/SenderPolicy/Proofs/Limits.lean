import SenderPolicy.Dns.Zone
import SenderPolicy.Proofs.Audit.Limits
import SenderPolicy.Proofs.Evaluation.Limits

/-!
Limits only cut, they never steer. Evaluations and audits that keep their limits are the same under all higher ones, and
an audit that does not keep its limit is a beginning of the audits under higher ones.
-/
namespace SenderPolicy
open Dns Evaluation Audit

/-- Where every question has a fixed reply: an evaluation within its limits is the same under higher ones, in what it
comes to and in what it asks; so is an audit that finds no excess. An audit that finds one has counted one lookup more
than its limit allows; it is not valid, and ends with the excess; before that, it finds what the audits under higher
limits find first. -/
theorem limits_only_cut (replies : Query → Reply) :
    (∀ limits limits' now request, limits.AtMost limits' →
      (∀ result, (evaluate limits now request).value replies = .ok result → Fits limits result.tally) →
      (evaluate limits' now request).value replies = (evaluate limits now request).value replies ∧
        (evaluate limits' now request).queries replies = (evaluate limits now request).queries replies) ∧
    ∀ limits text domain,
      ((∀ a, (auditContent limits text domain).value replies = .ok a → ∀ f ∈ a.findings, ¬ f.IsExcess) →
        ∀ limits', limits.lookups ≤ limits'.lookups →
          (auditContent limits' text domain).value replies = (auditContent limits text domain).value replies) ∧
      ∀ a, (auditContent limits text domain).value replies = .ok a → (∃ f ∈ a.findings, f.IsExcess) →
        a.lookups = some (limits.lookups.toNat + 1) ∧ a.isValid = false ∧
        ∃ found term, (∀ f ∈ found, ¬ f.IsExcess) ∧
          a.findings = found ++ [.fatal (.excess (.lookups (limits.lookups.toNat + 1) limits.lookups term))] ∧
          ∀ limits' b, limits.lookups < limits'.lookups →
            (auditContent limits' text domain).value replies = .ok b →
            found <+: b.findings ∧ ∀ marker, (a.problems marker).dropLast <+: b.problems marker := by
  refine ⟨fun limits limits' now request h => evaluate_cut replies h now request, fun limits text domain => ⟨?_, ?_⟩⟩
  · intro hkept limits' h
    obtain ⟨hsame, -⟩ | ⟨found, term, hover, -⟩ := auditContent_cut replies h text domain
    · exact hsame
    · exact absurd ⟨_, rfl⟩ (hkept _ hover (.fatal (.excess _)) (List.mem_append_right found List.mem_cons_self))
  · intro a ha hexcess
    have hshort {limits' : Limits} (hle : limits.lookups ≤ limits'.lookups) :=
      (auditContent_cut replies hle text domain).resolve_left fun hkept => by
        obtain ⟨f, hf, hfe⟩ := hexcess
        exact hkept.2 a ha f hf hfe
    obtain ⟨found, term, hover, hclean, -⟩ := hshort (Int.le_refl _)
    obtain rfl : a = .overLimit found limits.lookups term := Except.ok.inj (ha.symm.trans hover)
    have hinvalid : (Assessment.overLimit found limits.lookups term).isValid = false := by
      simp [Assessment.isValid, Assessment.overLimit, Finding.fatal]
    refine ⟨rfl, hinvalid, found, term, hclean, rfl, ?_⟩
    intro limits' b hlt hb
    obtain ⟨found', term', hover', -, hlong⟩ := hshort (Int.le_of_lt hlt)
    obtain rfl : found = found' := Assessment.overLimit_found_inj (Except.ok.inj (ha.symm.trans hover'))
    refine ⟨hlong b hb, fun marker => ?_⟩
    have hproblems : (Assessment.problems marker (.overLimit found limits.lookups term)).dropLast =
        found.map fun f => f.problem.message marker := by
      simp [Assessment.problems, Assessment.overLimit]
    rw [hproblems]
    exact (hlong b hb).map _

def chainedZone : Zone := [
  (⟨.texts, "a.example"⟩, .records [.text "v=spf1 include:b.example include:b.example include:c.example -all"]),
  (⟨.texts, "b.example"⟩, .records [.text "v=spf1 ip4:192.0.2.0/24 -all"]),
  (⟨.texts, "c.example"⟩, .records [.text "v=spf1 redirect=d.example"]),
  (⟨.texts, "d.example"⟩, .records [.text "v=spf1 ptr -all"])]

theorem chainedZone_cut :
    let replies := chainedZone.reply
    let request : Request := { domain := "a.example", ip := "192.0.2.1" }
    let audit (lookups : Int) := (auditContent { lookups }
      "v=spf1 include:b.example include:b.example include:c.example -all" "a.example").value replies
    ((evaluate ⟨1, 0⟩ 0 request).value replies).toOption.map (·.tally) = some ⟨1, 0⟩ ∧
      (evaluate ⟨10, 2⟩ 0 request).value replies = (evaluate ⟨1, 0⟩ 0 request).value replies ∧
      audit 5 = .ok ⟨[.remark (.repeatedInclude "b.example")], some 5⟩ ∧ audit 9 = audit 5 ∧
      ∃ a b, audit 3 = .ok a ∧ audit 4 = .ok b ∧ a.lookups = some 4 ∧ b.lookups = some 5 ∧
        (a.problems defaultMarker).dropLast = [("Duplicate include: b.example" : Text)] ∧
        (a.problems defaultMarker).dropLast <+: b.problems defaultMarker := by
  intro replies request audit
  obtain ⟨hevaluate, haudit⟩ := limits_only_cut replies
  have htally : ((evaluate ⟨1, 0⟩ 0 request).value replies).toOption.map (·.tally) = some ⟨1, 0⟩ := by
    decide +kernel
  have hfits (result : Result) (hr : (evaluate ⟨1, 0⟩ 0 request).value replies = .ok result) :
      Fits ⟨1, 0⟩ result.tally := by
    rw [hr] at htally
    have hresult : result.tally = ⟨1, 0⟩ := Option.some.inj htally
    rw [hresult]
    exact ⟨by decide, by decide⟩
  have hkept : audit 5 = .ok ⟨[.remark (.repeatedInclude "b.example")], some 5⟩ :=
    eq_ok_of_toOption (by decide +kernel)
  have hclean (a : Assessment) (ha : audit 5 = .ok a) : ∀ f ∈ a.findings, ¬ f.IsExcess := by
    obtain rfl := Except.ok.inj (hkept.symm.trans ha)
    rintro f hf ⟨e, he⟩
    rw [List.mem_singleton.mp hf] at he
    cases he
  let excess (count : Nat) (limit : Int) (term : Text) : Finding := .fatal (.excess (.lookups count limit term))
  let repeated : Finding := .remark (.repeatedInclude "b.example")
  let a : Assessment := ⟨[repeated, excess 4 3 "c.example: redirect=d.example"], some 4⟩
  let b : Assessment := ⟨[repeated, excess 5 4 "d.example: ptr"], some 5⟩
  have ha : audit 3 = .ok a := eq_ok_of_toOption (by decide +kernel)
  have hb : audit 4 = .ok b := eq_ok_of_toOption (by decide +kernel)
  refine ⟨htally, (hevaluate _ _ 0 request ⟨by decide, by decide⟩ hfits).1, hkept, ?_, a, b, ha, hb, rfl, rfl, ?_, ?_⟩
  · exact (haudit { lookups := 5 } _ _).1 hclean { lookups := 9 } (by decide)
  · decide +kernel
  · have hexcess : ∃ f ∈ a.findings, f.IsExcess :=
      ⟨excess 4 3 "c.example: redirect=d.example", List.mem_cons_of_mem _ List.mem_cons_self, _, rfl⟩
    obtain ⟨-, -, found, term, -, -, hlonger⟩ := (haudit { lookups := 3 } _ _).2 a ha hexcess
    exact (hlonger { lookups := 4 } b (by decide) hb).2 defaultMarker

end SenderPolicy
