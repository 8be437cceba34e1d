import Lexis.Proofs.Scan.Faults
import Lexis.Workspace

/-!
# Workspace — remarks on a text

A text that tokenizes has no remarks, and any other has one (`remarks_eq`).  Its range is one
character long, and begins at the place of the one fault site of the text: the number of line feeds
before it, and the number of characters before it on its line (`FaultSite.Holds.remark_eq`).  **So
the character of the fault is found there again** (`FaultSite.Holds.getElem?_lines`).
-/

namespace Lexis

/-- The remarks on a text, by what its scan comes to. -/
theorem remarks_eq (uri text : String) :
    remarks uri text =
      match tokenize text (documentFile uri) 0 with
      | .ok _        => []
      | .error fault => [fault.remark] := by
  rw [remarks, tokenize_eq]
  cases (scan text (documentFile uri) 0).fault? <;> rfl

/-- A remark on a text is that on the fault of its scan. -/
theorem remarks_eq_singleton_iff {uri text : String} {remark : Remark} :
    remarks uri text = [remark] ↔
      ∃ fault, (scan text (documentFile uri) 0).fault? = some fault ∧ fault.remark = remark := by
  rw [remarks]
  cases (scan text (documentFile uri) 0).fault? <;> simp

namespace FaultSite

/-- The number of the line of a site, from zero on. -/
def lineIndex (text : String) (site : FaultSite) : Nat :=
  (text.toList.take site.place).count '\n'

/-- The number of characters before a site on its line. -/
def column (text : String) (site : FaultSite) : Nat :=
  (Text.lastLine (text.toList.take site.place)).length

variable {text filename : String} {line : Int} {site : FaultSite} {fault : Fault}

/-- **The remark on a fault** stands at the site of the fault. -/
theorem Reports.remark_eq (h : site.Reports text filename 0 fault) :
    fault.remark =
      ⟨⟨site.lineIndex text, site.column text⟩, ⟨site.lineIndex text, site.column text + 1⟩,
        fault.message, 1, "glscan"⟩ := by
  rw [Fault.remark, h.position]
  simp [Position.behind, lineIndex, column]

/-- **The character of a site** is the one at its column on its line. -/
theorem Holds.getElem?_lines (h : site.Holds text filename line) :
    ∃ l, (Text.lines text.toList)[site.lineIndex text]? = some l ∧
      l[site.column text]? = some site.char := by
  have hcut := Text.getElem?_lines (text.toList.take site.place) (text.toList.drop site.place)
  rw [List.take_append_drop] at hcut
  refine ⟨_, hcut, ?_⟩
  rw [h.firstLine_drop_place]
  simp [column]

end FaultSite

/-- The remarks say of a text what a scan of it comes to.  There are none where it tokenizes.  Where
it does not, there is one error with the message of the fault, and its range is the one character
that the fault is about. -/
def Describes (remarks : List Remark) (uri text : String) : Prop :=
  match tokenize text (documentFile uri) 0 with
  | .ok _        => remarks = []
  | .error fault =>
    ∃ (site : FaultSite) (l c : Nat), site.Holds text (documentFile uri) 0 ∧
      site.Reports text (documentFile uri) 0 fault ∧
      remarks = [⟨⟨l, c⟩, ⟨l, c + 1⟩, fault.message, 1, "glscan"⟩] ∧
      (Text.lines text.toList)[l]?.bind (·[c]?) = some site.char

/-- **The remarks on a text describe it.** -/
theorem describes_remarks (uri text : String) : Describes (remarks uri text) uri text := by
  rw [Describes, remarks_eq]
  cases htokenize : tokenize text (documentFile uri) 0 with
  | ok tokens => rfl
  | error fault =>
      obtain ⟨site, hsite, hreports⟩ :=
        FaultSite.exists_reports (tokenize_eq_error_iff.mp htokenize)
      obtain ⟨l, hline, hchar⟩ := hsite.getElem?_lines
      refine ⟨site, site.lineIndex text, site.column text, hsite, hreports, ?_, ?_⟩
      · simp only [hreports.remark_eq]
      · rw [hline, Option.bind_some, hchar]

end Lexis
