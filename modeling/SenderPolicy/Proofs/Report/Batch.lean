import Mathlib.Data.Char
import Mathlib.Data.List.Lex
import Mathlib.Data.List.Sort
import SenderPolicy.Dns.Zone
import SenderPolicy.Proofs.Domain.Normal
import SenderPolicy.Proofs.Failure
import SenderPolicy.Report

/-!
Reports on many domains at once. The names that the lines come to are put in order, each one once, so that only the set
of them matters. A report tells the normal form of its name: the reports are in order as far as normalizing the names
once more leaves them so.
-/
namespace SenderPolicy
open Text

/-! Names in order -/

namespace Report
variable {t u : Text} {ts us lines lines' : List Text}

theorem mem_insertOrdered : u ∈ insertOrdered t ts ↔ u = t ∨ u ∈ ts := by
  induction ts with
  | nil => simp [insertOrdered]
  | cons v rest ih =>
    unfold insertOrdered
    split
    · rename_i heq
      simp [heq]
    · split
      · exact List.mem_cons
      · rw [List.mem_cons, ih, List.mem_cons, or_left_comm]

theorem pairwise_insertOrdered (h : ts.Pairwise (· < ·)) (t : Text) : (insertOrdered t ts).Pairwise (· < ·) := by
  induction ts with
  | nil => exact List.pairwise_singleton _ t
  | cons v rest ih =>
    obtain ⟨hv, hrest⟩ := List.pairwise_cons.mp h
    unfold insertOrdered
    split
    · exact h
    · rename_i hne
      split
      · rename_i hbefore
        have hlt : t < v := of_decide_eq_true hbefore
        exact .cons (List.forall_mem_cons.mpr ⟨hlt, fun u hu => lt_trans hlt (hv u hu)⟩) h
      · rename_i hbehind
        have hlt : v < t := lt_of_le_of_ne (not_lt.mp fun hlt => hbehind (decide_eq_true hlt)) (Ne.symm hne)
        refine .cons (fun u hu => ?_) (ih hrest)
        obtain rfl | hu := mem_insertOrdered.mp hu
        · exact hlt
        · exact hv u hu

theorem mem_foldr_insertOrdered : u ∈ ts.foldr insertOrdered [] ↔ u ∈ ts := by
  induction ts with
  | nil => exact Iff.rfl
  | cons t rest ih => rw [List.foldr_cons, mem_insertOrdered, ih, List.mem_cons]

theorem pairwise_foldr_insertOrdered (ts : List Text) : (ts.foldr insertOrdered []).Pairwise (· < ·) := by
  induction ts with
  | nil => exact .nil
  | cons t rest ih => exact pairwise_insertOrdered ih t

theorem domainsOfLines_ascend (lines : List Text) : (domainsOfLines lines).Pairwise (· < ·) :=
  (pairwise_foldr_insertOrdered _).filter _

theorem domainsOfLines_congr (h : ∀ d, d ∈ lines.map domainOfLine ↔ d ∈ lines'.map domainOfLine) :
    domainsOfLines lines = domainsOfLines lines' := by
  have hsame : (lines.map domainOfLine).foldr insertOrdered [] = (lines'.map domainOfLine).foldr insertOrdered [] :=
    (pairwise_foldr_insertOrdered _).eq_of_mem_iff (pairwise_foldr_insertOrdered _) fun d => by
      rw [mem_foldr_insertOrdered, mem_foldr_insertOrdered, h]
  rw [domainsOfLines, hsame, domainsOfLines]

/-! Reports, one after another -/

variable {ε : Type} {rules : List Domain.SuffixRule} {limits : Limits} {replies : Dns.Query → Dns.Reply}
  {domain : Text} {report : Report} {reports : List Report}

theorem domain_of_ofDomain (h : (ofDomain rules limits domain).value replies = .ok report) :
    report.domain = Domain.normalized domain := by
  unfold ofDomain at h
  rw [Dns.Plan.value_bind] at h
  split at h
  · cases h
    rfl
  · rw [Dns.Plan.value_bind] at h
    split at h
    · cases h
    · rw [Dns.Plan.value_bind] at h
      cases h
      rfl

/-- Each domain is reported on by itself, and the first report that does not pass ends it all. -/
theorem ofDomains_value (rules : List Domain.SuffixRule) (limits : Limits)
    (pass : Except Fault Report → Except ε Report) (replies : Dns.Query → Dns.Reply) (domains : List Text) :
    (ofDomains rules limits pass domains).value replies =
      domains.mapM fun domain => pass ((ofDomain rules limits domain).value replies) := by
  induction domains with
  | nil => rfl
  | cons domain rest ih =>
    rw [ofDomains, Dns.Plan.value_bind, List.mapM_cons]
    cases pass ((ofDomain rules limits domain).value replies) with
    | error e => rfl
    | ok report =>
      dsimp only
      rw [Dns.Plan.value_bind, ih]
      cases rest.mapM fun domain => pass ((ofDomain rules limits domain).value replies) with
      | error e => rfl
      | ok reports => rfl

theorem map_domain_of_ofLines (h : (ofLines rules limits lines).value replies = .ok reports) :
    reports.map (·.domain) = (domainsOfLines lines).map Domain.normalized := by
  rw [ofLines, ofDomains_value] at h
  rw [← List.forall₂_eq_eq_eq, List.forall₂_map_left_iff, List.forall₂_map_right_iff]
  exact (mapM_eq_ok_iff.mp h).flip.imp fun _ _ hreport => domain_of_ofDomain hreport

theorem pairwise_map_iff {f : Text → Text} (h : ts.Pairwise (· < ·)) :
    (ts.map f).Pairwise (· < ·) ↔ ∀ t ∈ ts, ∀ u ∈ ts, t < u → f t < f u := by
  rw [List.pairwise_map]
  constructor
  · intro hmap t ht u hu
    have hfront : ts.Pairwise fun t u => t < u → f t < f u := hmap.imp fun {t u} hf (_ : t < u) => hf
    have hbehind : ts.Pairwise fun t u => u < t → f u < f t := h.imp fun hlt hgt => absurd hgt (lt_asymm hlt)
    exact hfront.forall_of_forall_of_flip (fun t _ hlt => absurd hlt (lt_irrefl t)) hbehind ht hu
  · intro hkeeps
    exact h.imp_of_mem fun ht hu hlt => hkeeps _ ht _ hu hlt

/-- A name of a line is kept when it is normalized once more, if it is composed and no blank stands at its end. -/
theorem normalized_of_mem_domainsOfLines {d : Text} (h : d ∈ domainsOfLines lines) (hcomposed : composed d = d)
    (hlast : ∀ c, d.getLast? = some c → isBlank c = false) : Domain.normalized d = d := by
  obtain ⟨line, -, rfl⟩ := List.mem_map.mp (mem_foldr_insertOrdered.mp (List.mem_filter.mp h).1)
  exact Domain.normalized_eq_self_iff.mpr
    ⟨hcomposed, Domain.stripped_normalized_eq_iff.mpr hlast, Domain.lower_normalized _⟩

/-- A batch goes through the names of its lines in order, each one once, and has one report on each, which tells the
normal form of the name. So the domains that are reported ascend exactly if normalizing keeps the names in order; they
are the names themselves if these are composed and no blank stands at their ends. Lines that name the same domains are
one batch. -/
theorem ofLines_ascend_iff (h : (ofLines rules limits lines).value replies = .ok reports) :
    (domainsOfLines lines).Pairwise (· < ·) ∧
      reports.map (·.domain) = (domainsOfLines lines).map Domain.normalized ∧
      ((reports.map (·.domain)).Pairwise (· < ·) ↔ ∀ d ∈ domainsOfLines lines, ∀ e ∈ domainsOfLines lines,
        d < e → Domain.normalized d < Domain.normalized e) ∧
      ((∀ d ∈ domainsOfLines lines, composed d = d ∧ ∀ c, d.getLast? = some c → isBlank c = false) →
        reports.map (·.domain) = domainsOfLines lines) ∧
      ∀ lines', (∀ d, d ∈ lines'.map domainOfLine ↔ d ∈ lines.map domainOfLine) →
        ofLines rules limits lines' = ofLines rules limits lines := by
  have hdomains := map_domain_of_ofLines h
  refine ⟨domainsOfLines_ascend lines, hdomains, ?_, fun hkept => ?_, fun lines' hsame => ?_⟩
  · rw [hdomains, pairwise_map_iff (domainsOfLines_ascend lines)]
  · calc
      reports.map (·.domain) = (domainsOfLines lines).map Domain.normalized := hdomains
      _ = (domainsOfLines lines).map id :=
        List.map_congr_left fun d hd => normalized_of_mem_domainsOfLines hd (hkept d hd).1 (hkept d hd).2
      _ = domainsOfLines lines := List.map_id _
  · rw [ofLines, domainsOfLines_congr hsame, ofLines]

def unpublishedDomains (lines : List Text) : Option (List Text) :=
  ((ofLines [] {} lines).value (Dns.Zone.reply [])).toOption.map fun reports => reports.map (·.domain)

/-- Lines in no order, with a name given twice, another without a dot, and blanks, dots and notes beside the names. -/
theorem untidy_lines_ascend :
    let lines : List Text := ["z.example.", "B.example, a note", "localhost", " b.example", "a.example.\r\n"]
    let lines' : List Text := ["a.example", "b.example", "b.example", "localhost", "z.example"]
    ∃ reports, (ofLines [] {} lines).value (Dns.Zone.reply []) = .ok reports ∧
      reports.map (·.domain) = ["a.example", "b.example", "z.example"] ∧
      (∀ d ∈ domainsOfLines lines, composed d = d ∧ ∀ c, d.getLast? = some c → isBlank c = false) ∧
      (∀ d, d ∈ lines'.map domainOfLine ↔ d ∈ lines.map domainOfLine) ∧
      ofLines [] {} lines' = ofLines [] {} lines := by
  intro lines lines'
  have hnames : domainsOfLines lines = ["a.example", "b.example", "z.example"] := by decide +kernel
  have hdomains : unpublishedDomains lines = some (["a.example", "b.example", "z.example"] : List Text) := by
    decide +kernel
  obtain ⟨reports, hreports, -⟩ := Option.map_eq_some_iff.mp hdomains
  replace hreports := eq_ok_of_toOption hreports
  have hforms : ∀ d ∈ domainsOfLines lines, composed d = d ∧ d.getLast? = some 'e' := by
    rw [hnames]
    decide +kernel
  have hkept : ∀ d ∈ domainsOfLines lines, composed d = d ∧ ∀ c, d.getLast? = some c → isBlank c = false := by
    intro d hd
    obtain ⟨hcomposed, hlast⟩ := hforms d hd
    refine ⟨hcomposed, fun c hc => ?_⟩
    obtain rfl : 'e' = c := Option.some.inj (hlast.symm.trans hc)
    rfl
  have hsame : ∀ d, d ∈ lines'.map domainOfLine ↔ d ∈ lines.map domainOfLine := by
    have hthere : ∀ d ∈ lines'.map domainOfLine, d ∈ lines.map domainOfLine := by decide +kernel
    have hback : ∀ d ∈ lines.map domainOfLine, d ∈ lines'.map domainOfLine := by decide +kernel
    exact fun d => ⟨hthere d, hback d⟩
  obtain ⟨-, -, -, htold, hlike⟩ := ofLines_ascend_iff hreports
  exact ⟨reports, hreports, (htold hkept).trans hnames, hkept, hsame, hlike lines' hsame⟩

/-- A name whose last dot stands behind a blank is reported as if it were not, and a name whose capital is composed in
lower case only is reported out of its place. -/
theorem domain_reported_twice :
    unpublishedDomains ["d.example .,", "d.example"] = some (["d.example", "d.example"] : List Text) ∧
      unpublishedDomains ["H\u0331.de", "z.de"] = some (["\u1e96.de", "z.de"] : List Text) ∧
      ¬ (["d.example", "d.example"] : List Text).Pairwise (· < ·) ∧
      ¬ (["\u1e96.de", "z.de"] : List Text).Pairwise (· < ·) := by
  decide +kernel

end Report
end SenderPolicy
