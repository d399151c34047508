import SenderPolicy.Proofs.Text.Words
import SenderPolicy.Published

/-!
Reading a record from its text: a text that begins with the version tag has no quotes to be dropped, and its
terms are read from the words behind the tag.
-/
namespace SenderPolicy.Record
open Text
variable {t : Text}

theorem unquoted_of_version (t : Text) : unquoted ('v' :: t) = trim ('v' :: t) := by
  have hblank : isBlank 'v' = false := by decide
  have htrim : trim ('v' :: t) = dropTrailing isBlank ('v' :: t) := by
    rw [trim, trimmed, List.dropWhile_cons_of_neg (by simp [hblank])]
  obtain ⟨u, hu, -⟩ := dropTrailing_append isBlank ('v' :: t)
  have hhead : (trim ('v' :: t)).head? ≠ some '"' := by
    intro hhead
    rw [htrim] at hhead
    obtain ⟨rest, hrest⟩ := List.head?_eq_some_iff.mp hhead
    rw [hrest] at hu
    cases hu
  exact if_neg hhead

theorem words_unquoted (t : Text) : words (unquoted ('v' :: t)) = words ('v' :: t) := by
  rw [unquoted_of_version, words_trim]

theorem parse?_of_words {tokens : List Text} (h : words ('v' :: t) = versionTag :: tokens) :
    parse? ('v' :: t) = some ⟨some versionTag, tokens.map Term.parse⟩ := by
  rw [parse?, words_unquoted, h]
  exact if_pos rfl

theorem words_of_parse? {r : Record} (h : parse? t = some r) :
    ∃ tokens, words (unquoted t) = versionTag :: tokens ∧
      r = ⟨some versionTag, tokens.map Term.parse⟩ := by
  unfold parse? at h
  split at h
  · cases h
  · rename_i tag tokens hwords
    split at h
    · rename_i htag
      exact ⟨tokens, htag ▸ hwords, (Option.some.inj h).symm⟩
    · cases h

theorem versionTag_solid : IsSolid versionTag := by
  have hall : versionTag.all (fun c => !isBlank c) = true := by rfl
  exact ⟨by decide, fun c hc => by simpa using List.all_eq_true.mp hall c hc⟩

theorem exists_parse? (h : Publication.isRecord t) : ∃ r, parse? t = some r := by
  rcases Bool.or_eq_true _ _ ▸ h with h | h
  · rw [beq_iff_eq.mp h]
    exact ⟨_, parse?_of_words (words_of_solid versionTag_solid)⟩
  · obtain ⟨rest, hrest⟩ := List.isPrefixOf_iff_prefix.mp h
    have hwords : words (versionTag ++ ' ' :: rest) = versionTag :: words rest := by
      rw [words_append_blank (by decide), words_of_solid versionTag_solid, List.singleton_append]
    rw [← hrest, List.append_assoc, List.singleton_append]
    exact ⟨_, parse?_of_words hwords⟩

end SenderPolicy.Record

namespace SenderPolicy.Publication

theorem ofAnswer_single {domain t : Text} (h : isRecord t = true) :
    ofAnswer domain { records := [.text t] } = .ok ⟨t, sizeWarnings domain [t]⟩ := by
  simp [ofAnswer, Dns.Datum.parts, h]

theorem exists_datum_of_ofAnswer {domain : Text} {a : Dns.Answer} {publication : Publication}
    (h : ofAnswer domain a = .ok publication) :
    ∃ d ∈ a.records, publication.record = d.parts.flatten ∧ isRecord d.parts.flatten := by
  unfold ofAnswer at h
  split at h
  · cases h
  · split at h
    · cases h
    · split at h
      · cases h
      · rename_i strings honly
        cases h
        have hmem : strings ∈ (a.records.map Dns.Datum.parts).filter fun strings =>
            isRecord strings.flatten := honly ▸ List.mem_cons_self
        obtain ⟨hin, hrecord⟩ := List.mem_filter.mp hmem
        obtain ⟨d, hd, rfl⟩ := List.mem_map.mp hin
        exact ⟨d, hd, rfl, hrecord⟩
      · cases h

theorem isRecord_of_ofAnswer {domain : Text} {a : Dns.Answer} {publication : Publication}
    (h : ofAnswer domain a = .ok publication) : isRecord publication.record := by
  obtain ⟨d, -, heq, hrecord⟩ := exists_datum_of_ofAnswer h
  rwa [heq]

end SenderPolicy.Publication
