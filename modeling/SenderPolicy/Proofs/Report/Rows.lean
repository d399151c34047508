import Mathlib.Data.List.Forall2
import SenderPolicy.Proofs.Failure
import SenderPolicy.Proofs.Report.Cells

/-!
What a table tells of reports. The row of a report names in the header's columns what its fields hold; the table of a
list of reports is read as the header with one such row for each of them, in order.
-/
namespace SenderPolicy

def Document.value? (name : Text) : Document → Option Document
  | .fields all => find? name all
  | _ => none

namespace Table
open Document Text
variable {d report graph : Document} {name t : Text} {ts cells : List Text} {reports : List Document}

/-- The row that tells this in the columns of these names; a column of which nothing is told is empty. -/
def rowOf (told : List (Text × Text)) : List Text := header.map fun column => (told.lookup column).getD []

/-- The members of the value are these texts. -/
def Lists (d : Document) (ts : List Text) : Prop := members d = .ok (ts.map .text)

/-- The edges of the graph lead to these domains, in order. -/
def LeadsTo (graph : Document) (targets : List Text) : Prop :=
  ∃ edges all, value? "edges" graph = some edges ∧ members edges = .ok all ∧
    List.Forall₂ (fun edge target => value? "to" edge = some (.text target)) all targets

/-- What is told of every report. -/
inductive Heads (report : Document) : List (Text × Text) → Prop
  | intro {domain base record isValid : Document} :
      value? "domain" report = some domain → value? "base_domain" report = some base →
      value? "record" report = some record → value? "valid" report = some isValid →
      Heads report [("domain", cellText domain), ("base_domain", cellText base), ("spf_record", cellText record),
        ("spf_valid", cellText isValid)]

/-- The row of a report: why there is no record, or what the audit and the graph of the record hold. -/
inductive Shows (report : Document) : List Text → Prop
  | failed {head : List (Text × Text)} {message : Document} :
      Heads report head → value? "error" report = some message →
      Shows report (rowOf (head ++ ([("spf_error", cellText message)] : List (Text × Text))))
  | audited {head : List (Text × Text)} {lookups problems warnings graph : Document} {ps ws targets : List Text} :
      Heads report head → value? "error" report = none → value? "dns_lookups" report = some lookups →
      value? "problems" report = some problems → Lists problems ps →
      value? "warnings" report = some warnings → Lists warnings ws →
      value? "graph" report = some graph → LeadsTo graph targets →
      Shows report (rowOf (head ++ ([("spf_dns_lookups", cellText lookups), ("spf_problems", joined ['|'] ps),
        ("spf_warnings", joined ['|'] ws), ("spf_includes", joined ['|'] targets)] : List (Text × Text))))

/-! Fields and members -/

theorem field_eq_ok_iff : field name report = .ok d ↔ value? name report = some d := by
  cases report with
  | fields all =>
    rw [field, value?]
    cases find? name all with
    | none => simp
    | some v => rw [Except.ok.injEq, Option.some.injEq]
  | _ => simp [field, value?]

theorem field_bind_eq_ok_iff {β : Type} {f : Document → Except Misfit β} {b : β} :
    field name report >>= f = .ok b ↔ ∃ d, value? name report = some d ∧ f d = .ok b := by
  constructor
  · intro h
    obtain ⟨d, hd, h⟩ := of_bind_eq_ok h
    exact ⟨d, field_eq_ok_iff.mp hd, h⟩
  · rintro ⟨d, hd, h⟩
    rw [field_eq_ok_iff.mpr hd, ok_bind, h]

theorem textOf_eq_ok_iff : textOf d = .ok t ↔ d = .text t := by
  cases d <;> simp [textOf]

theorem mapM_textOf_eq_ok_iff {all : List Document} : all.mapM textOf = .ok ts ↔ all = ts.map .text := by
  rw [mapM_eq_ok_iff, ← List.forall₂_eq_eq_eq, List.forall₂_map_right_iff]
  simp only [textOf_eq_ok_iff]

theorem barred_eq_ok_iff : barred d = .ok t ↔ ∃ ts, Lists d ts ∧ t = joined ['|'] ts := by
  unfold barred Lists
  constructor
  · intro h
    obtain ⟨all, hall, h⟩ := of_bind_eq_ok h
    obtain ⟨ts, hts, h⟩ := of_bind_eq_ok h
    cases h
    exact ⟨ts, hall.trans (congrArg Except.ok (mapM_textOf_eq_ok_iff.mp hts)), rfl⟩
  · rintro ⟨ts, hall, rfl⟩
    rw [hall, ok_bind, mapM_textOf_eq_ok_iff.mpr rfl]
    rfl

theorem barredTargets_eq_ok_iff : barredTargets graph = .ok t ↔ ∃ ts, LeadsTo graph ts ∧ t = joined ['|'] ts := by
  unfold barredTargets LeadsTo
  constructor
  · intro h
    obtain ⟨edges, hedges, h⟩ := field_bind_eq_ok_iff.mp h
    obtain ⟨all, hall, h⟩ := of_bind_eq_ok h
    obtain ⟨targets, htargets, h⟩ := of_bind_eq_ok h
    obtain ⟨ts, hts, h⟩ := of_bind_eq_ok h
    cases h
    obtain rfl := mapM_textOf_eq_ok_iff.mp hts
    rw [mapM_eq_ok_iff, List.forall₂_map_right_iff] at htargets
    exact ⟨ts, ⟨edges, all, hedges, hall, htargets.imp fun _ _ => field_eq_ok_iff.mp⟩, rfl⟩
  · rintro ⟨ts, ⟨edges, all, hedges, hall, htargets⟩, rfl⟩
    have hto : all.mapM (field "to") = .ok (ts.map .text) := by
      rw [mapM_eq_ok_iff, List.forall₂_map_right_iff]
      exact htargets.imp fun _ _ => field_eq_ok_iff.mpr
    rw [field_eq_ok_iff.mpr hedges, ok_bind, hall, ok_bind, hto, ok_bind, mapM_textOf_eq_ok_iff.mpr rfl]
    rfl

theorem cells_eq_ok_iff : Table.cells report = .ok cells ↔ Shows report cells := by
  unfold Table.cells
  constructor
  · intro h
    obtain ⟨domain, hdomain, h⟩ := field_bind_eq_ok_iff.mp h
    obtain ⟨base, hbase, h⟩ := field_bind_eq_ok_iff.mp h
    obtain ⟨record, hrecord, h⟩ := field_bind_eq_ok_iff.mp h
    obtain ⟨isValid, hvalid, h⟩ := field_bind_eq_ok_iff.mp h
    have hhead := Heads.intro hdomain hbase hrecord hvalid
    dsimp only at h
    split at h
    · rename_i message hmessage
      cases h
      exact Shows.failed hhead (field_eq_ok_iff.mp hmessage)
    · rename_i hmissing
      have hnone : value? "error" report = none := by
        rw [Option.eq_none_iff_forall_ne_some]
        intro message hmessage
        rw [field_eq_ok_iff.mpr hmessage] at hmissing
        cases hmissing
      obtain ⟨lookups, hlookups, h⟩ := field_bind_eq_ok_iff.mp h
      obtain ⟨problems, hproblems, h⟩ := field_bind_eq_ok_iff.mp h
      obtain ⟨problemCell, hbarred, h⟩ := of_bind_eq_ok h
      obtain ⟨ps, hps, rfl⟩ := barred_eq_ok_iff.mp hbarred
      obtain ⟨warnings, hwarnings, h⟩ := field_bind_eq_ok_iff.mp h
      obtain ⟨warningCell, hbarred, h⟩ := of_bind_eq_ok h
      obtain ⟨ws, hws, rfl⟩ := barred_eq_ok_iff.mp hbarred
      obtain ⟨graph, hgraph, h⟩ := field_bind_eq_ok_iff.mp h
      obtain ⟨targetCell, hbarred, h⟩ := of_bind_eq_ok h
      obtain ⟨targets, htargets, rfl⟩ := barredTargets_eq_ok_iff.mp hbarred
      cases h
      exact Shows.audited hhead hnone hlookups hproblems hps hwarnings hws hgraph htargets
  · intro h
    cases h with
    | failed hhead hmessage =>
      obtain ⟨hdomain, hbase, hrecord, hvalid⟩ := hhead
      refine field_bind_eq_ok_iff.mpr ⟨_, hdomain, field_bind_eq_ok_iff.mpr ⟨_, hbase,
        field_bind_eq_ok_iff.mpr ⟨_, hrecord, field_bind_eq_ok_iff.mpr ⟨_, hvalid, ?_⟩⟩⟩⟩
      rw [field_eq_ok_iff.mpr hmessage]
      rfl
    | audited hhead hnone hlookups hproblems hps hwarnings hws hgraph htargets =>
      obtain ⟨hdomain, hbase, hrecord, hvalid⟩ := hhead
      refine field_bind_eq_ok_iff.mpr ⟨_, hdomain, field_bind_eq_ok_iff.mpr ⟨_, hbase,
        field_bind_eq_ok_iff.mpr ⟨_, hrecord, field_bind_eq_ok_iff.mpr ⟨_, hvalid, ?_⟩⟩⟩⟩
      dsimp only
      split
      · rename_i message hmessage
        rw [field_eq_ok_iff.mp hmessage] at hnone
        cases hnone
      · rw [field_eq_ok_iff.mpr hlookups, ok_bind, field_eq_ok_iff.mpr hproblems, ok_bind,
          barred_eq_ok_iff.mpr ⟨_, hps, rfl⟩, ok_bind, field_eq_ok_iff.mpr hwarnings, ok_bind,
          barred_eq_ok_iff.mpr ⟨_, hws, rfl⟩, ok_bind, field_eq_ok_iff.mpr hgraph, ok_bind,
          barredTargets_eq_ok_iff.mpr ⟨_, htargets, rfl⟩, ok_bind]
        rfl

/-! Tables -/

theorem length_of_shows (h : Shows report cells) : cells.length = 9 := by
  cases h <;> exact List.length_map ..

theorem length_of_mem_rows {rows : List (List Text)} (h : List.Forall₂ Shows reports rows) :
    ∀ cells ∈ rows, cells.length = 9 := by
  induction h with
  | nil => simp
  | cons hshows _ ih => exact List.forall_mem_cons.mpr ⟨length_of_shows hshows, ih⟩

theorem ofDocument_items_eq_ok_iff :
    ofDocument (.items reports) = .ok t ↔
      ∃ rows, List.Forall₂ Shows reports rows ∧ t = ((header :: rows).map row).flatten := by
  have hrows (rows : List (List Text)) : reports.mapM Table.cells = .ok rows ↔ List.Forall₂ Shows reports rows := by
    rw [mapM_eq_ok_iff]
    simp only [cells_eq_ok_iff]
  constructor
  · intro h
    obtain ⟨rows, hmap, h⟩ := of_bind_eq_ok (show (reports.mapM Table.cells >>= _) = _ from h)
    cases h
    exact ⟨rows, (hrows rows).mp hmap, rfl⟩
  · rintro ⟨rows, hshows, rfl⟩
    show (reports.mapM Table.cells >>= _) = _
    rw [(hrows rows).mpr hshows]
    rfl

/-- A table of reports is written exactly if each of them has a row, and it is read as the header with these rows below
it, nine cells to each. One report by itself has the table of a list of one. -/
theorem table_reads_back (reports : List Document) :
    (∀ t, ofDocument (.items reports) = .ok t → ∃ rows, List.Forall₂ Shows reports rows ∧
      (∀ cells ∈ rows, cells.length = 9) ∧ read t = some (header :: rows)) ∧
    (∀ rows, List.Forall₂ Shows reports rows →
      ∃ t, ofDocument (.items reports) = .ok t ∧ read t = some (header :: rows)) ∧
    ∀ all, reports = [.fields all] → ofDocument (.fields all) = ofDocument (.items reports) := by
  have hread {rows : List (List Text)} (h : List.Forall₂ Shows reports rows) :
      read ((header :: rows).map row).flatten = some (header :: rows) := by
    refine read_rows (List.cons_ne_nil header rows) (List.forall_mem_cons.mpr ⟨List.cons_ne_nil _ _, ?_⟩)
    exact fun cells hcells => List.ne_nil_of_length_eq_add_one (length_of_mem_rows h cells hcells)
  refine ⟨?_, ?_, ?_⟩
  · intro t ht
    obtain ⟨rows, hshows, rfl⟩ := ofDocument_items_eq_ok_iff.mp ht
    exact ⟨rows, hshows, length_of_mem_rows hshows, hread hshows⟩
  · intro rows hshows
    exact ⟨_, ofDocument_items_eq_ok_iff.mpr ⟨rows, hshows, rfl⟩, hread hshows⟩
  · rintro all rfl
    rfl

/-- A message and a record with marks and ends of lines, and problems with bars and commas. -/
theorem marks_read_back :
    let failed : Document := .fields [("domain", .text "a.example"), ("base_domain", .text "example"), ("record", .null),
      ("valid", .flag false), ("error", .text "no \"record\",\r\nthere")]
    let audited : Document := .fields [("domain", .text "b.example"), ("base_domain", .text "example"),
      ("record", .text "v=spf1 include:x.example \"-all\""), ("valid", .flag true), ("dns_lookups", .number 1),
      ("problems", .items [.text "one, two", .text "|"]), ("warnings", .items []),
      ("graph", .fields [("edges", .items [.fields [("from", .text "b.example"), ("to", .text "x.example")]])])]
    let rows : List (List Text) := [
      ["a.example", "example", "False", "", "", "", "no \"record\",\r\nthere", "", ""],
      ["b.example", "example", "True", "v=spf1 include:x.example \"-all\"", "1", "x.example", "", "one, two||", ""]]
    ∃ t, ofDocument (.items [failed, audited]) = .ok t ∧ read t = some (header :: rows) := by
  intro failed audited rows
  have hhead : Heads failed _ := .intro rfl rfl rfl rfl
  have hmessage : value? "error" failed = some (.text "no \"record\",\r\nthere") := rfl
  have hfailed : Shows failed rows[0] := Shows.failed hhead hmessage
  have hhead : Heads audited _ := .intro rfl rfl rfl rfl
  have hlookups : value? "dns_lookups" audited = some (.number 1) := rfl
  have hproblems : Lists (.items [.text "one, two", .text "|"]) ["one, two", "|"] := rfl
  have hwarnings : Lists (.items []) [] := rfl
  have htargets : LeadsTo (.fields [("edges", .items [.fields [("from", .text "b.example"), ("to", .text "x.example")]])])
      ["x.example"] := ⟨_, _, rfl, rfl, .cons rfl .nil⟩
  have haudited : Shows audited rows[1] := Shows.audited hhead rfl hlookups rfl hproblems rfl hwarnings rfl htargets
  exact (table_reads_back [failed, audited]).2.1 rows (.cons hfailed (.cons haudited .nil))

end Table
end SenderPolicy
