import DocStore.Proofs.Json.Reader

/-!
# Replies that hold a document

A text that can be read as a document is not blank (`Json.not_blank_of_parse`), so that a reply with
such a body is interpreted by its document: it is the error that a member `error` reports, and else
the document itself if the request succeeded (`Api.interpret_of_parse`).
-/

namespace DocStore

namespace Text

/-- Trimming leaves nothing of blanks only. -/
theorem blank_of_trim_eq_nil {s : List Char} (h : trim s = []) : ∀ c ∈ s, isBlank c = true := by
  have hend : ∀ c ∈ trimStart s, isBlank c = true := by
    rw [trim, dropEndWhile, List.reverse_eq_nil_iff] at h
    intro c hc
    rw [← List.mem_reverse, ← List.takeWhile_append_dropWhile (p := isBlank)
      (l := (trimStart s).reverse), h, List.append_nil] at hc
    exact List.all_eq_true.1 List.all_takeWhile c hc
  intro c hc
  rw [← List.takeWhile_append_dropWhile (p := isBlank) (l := s), List.mem_append] at hc
  rcases hc with hc | hc
  · exact List.all_eq_true.1 List.all_takeWhile c hc
  · exact hend c hc

theorem isDigit_eq_false_of_isBlank {c : Char} (h : isBlank c = true) : c.isDigit = false := by
  simp only [isBlank, Bool.or_eq_true, Bool.and_eq_true, decide_eq_true_eq, beq_iff_eq] at h
  refine Bool.eq_false_iff.2 fun hdigit => ?_
  simp only [Char.isDigit, Bool.and_eq_true, decide_eq_true_eq, ge_iff_le,
    UInt32.le_iff_toNat_le] at hdigit
  change 48 ≤ c.toNat ∧ c.toNat ≤ 57 at hdigit
  omega

end Text

namespace Json

variable {rules : Rules} {s rest : List Char} {value : Json}

/-- Every document begins with a character that is not blank. -/
theorem not_blank_of_valueWith {inner : Option (Scan Json)}
    (h : valueWith rules inner s = .ok (value, rest)) : ∃ c ∈ s, Text.isBlank c = false := by
  unfold valueWith at h
  cases hskip : skipSpace s with
  | nil => simp [hskip] at h
  | cons c s' =>
    have hmem : c ∈ skipSpace s := hskip ▸ List.mem_cons_self
    refine ⟨c, (List.dropWhile_suffix isSpace).mem hmem, Bool.eq_false_iff.2 fun hblank => ?_⟩
    -- No character that a document can begin with is blank.
    have hne : ∀ d, Text.isBlank d = false → c ≠ d := by
      rintro d hd rfl
      rw [hblank] at hd
      cases hd
    simp [hskip, Text.isDigit_eq_false_of_isBlank hblank, hne 'n' (by decide), hne 't' (by decide),
      hne 'f' (by decide), hne '-' (by decide), hne '"' (by decide), hne '[' (by decide),
      hne '\x7b' (by decide)] at h

theorem not_blank_of_parse {text : String} (h : parse text = .ok value) :
    (Text.trim text.toList).isEmpty = false := by
  obtain ⟨rest, hscan⟩ := scan_of_readAll h
  obtain ⟨c, hmem, hc⟩ := not_blank_of_valueWith hscan
  refine List.isEmpty_eq_false_iff.2 fun hnil => ?_
  rw [Text.blank_of_trim_eq_nil hnil c hmem] at hc
  cases hc

end Json

namespace Api

/-- A reply with a document is an error if the document reports one, or if the request failed. -/
theorem interpret_of_parse (status : Nat) {text : String} {document : Json}
    (h : Json.parse text = .ok document) :
    interpret ⟨status, text⟩ =
      match document.field? "error" with
      | some error => .error (reportedError status document error)
      | none =>
        if (⟨status, text⟩ : Http.Response).isSuccess then .ok document
        else .error (.http status text) := by
  simp only [interpret, Json.not_blank_of_parse h, h]
  rfl

end Api

end DocStore
