import Lexis.Proofs.Grammar.Newlines
import Lexis.Proofs.Scan.Carriage

/-!
# Scan — the text of a file

A file is scanned after its line ends are made line feeds, an open document as it stands.  The two
scans read other texts, but they come to the same: the message of a fault is made of its kind, its
detail and the character it is about (`message_stopFault`), and none of these changes with the line
ends (`message_scan_turned`, `message_scan_dropCarriages`).

**The scan of a text as a file has the message of its scan as it stands**
(`message_scan_unifyNewlines`), and where no carriage return stands alone **the same position**
(`position_scan_unifyNewlines`).
-/

namespace Lexis

open Text (PairsCarriages dropCarriages turned turnLone unifyNewlines)

namespace Scan

/-- The message of the fault that stopped a scan. -/
def message? (scan : Scan) : Option String :=
  scan.fault?.map Fault.message

/-- The position of the fault that stopped a scan. -/
def position? (scan : Scan) : Option Position :=
  scan.fault?.map Fault.position

end Scan

/-- **The message of a fault** says nothing of its place. -/
theorem message_stopFault {c : Char} (hc : c ≠ '\n') {filename filename' : String}
    {line line' : Int} {before before' rest rest' : List Char} (kind : FaultKind)
    (detail : String) :
    (stopFault filename line before (c :: rest) kind detail).message =
      (stopFault filename' line' before' (c :: rest') kind detail).message := by
  cases kind with
  | invalidSyntax => rfl
  | illegalCharacter =>
      rw [Fault.message, Fault.message, stopFault_illegal_detail hc, stopFault_illegal_detail hc,
        stopFault_kind, stopFault_kind]

section

variable {source : String} {text : List Char}

/-- **Carriage returns made line feeds** do not change the message. -/
theorem message_scan_turned (filename filename' : String) (line line' : Int)
    (htext : source.toList = turned text) :
    (scan source filename line).message? =
      (scan (String.ofList text) filename' line').message? := by
  rcases scan_cases (String.ofList text) with
    ⟨xs, hreads⟩ | ⟨xs, rest, n, kind, detail, hreads, hstops⟩
  · obtain ⟨ys, hturned⟩ := hreads.turned
    rw [String.toList_ofList, ← htext] at hturned
    rw [Scan.message?, scan_of_reads hreads, Scan.message?, scan_of_reads hturned]
  · obtain ⟨ys, hturned⟩ := hreads.turned
    rw [String.toList_ofList, ← htext] at hturned
    obtain ⟨c, behind, hdrop, hc⟩ := hstops.drop_eq_cons
    have hself : Text.turn c = c := Text.turn_eq_self (ne_of_isSpace hc (by decide))
    have hdrop' : (turned rest).drop n = c :: turned behind := by
      rw [turned, ← List.map_drop, hdrop, List.map_cons, hself, turned]
    rw [Scan.message?, scan_of_stops hreads hstops, Scan.message?,
      scan_of_stops hturned hstops.turned, hdrop, hdrop']
    exact congrArg some (message_stopFault (ne_of_isSpace hc (by decide)) kind detail)

/-- **Carriage returns in front of line feeds left out** change neither the message nor the
position. -/
theorem scan_dropCarriages (h : PairsCarriages text) (filename filename' : String) (line : Int)
    (htext : source.toList = dropCarriages text) :
    (scan source filename line).message? = (scan (String.ofList text) filename' line).message? ∧
      (scan source filename line).position? =
        (scan (String.ofList text) filename' line).position? := by
  rcases scan_cases (String.ofList text) with
    ⟨xs, hreads⟩ | ⟨xs, rest, n, kind, detail, hreads, hstops⟩
  · obtain ⟨ys, -, hdropped⟩ := hreads.exists_shortens (by rwa [String.toList_ofList])
    rw [String.toList_ofList, ← htext] at hdropped
    rw [Scan.message?, Scan.position?, Scan.message?, Scan.position?, scan_of_reads hreads,
      scan_of_reads hdropped]
    exact ⟨rfl, rfl⟩
  · obtain ⟨ys, hys, hdropped⟩ := hreads.exists_shortens (by rwa [String.toList_ofList])
    have hsource := hreads.text_eq
    rw [String.toList_ofList] at hdropped hsource
    rw [← htext] at hdropped
    rw [hsource] at h
    -- the place of the stop, in the text and without carriage returns
    obtain ⟨c, behind, hdrop, hc⟩ := hstops.drop_eq_cons
    have hfeed : c ≠ '\n' := ne_of_isSpace hc (by decide)
    have hplace : PairsCarriages ((Lexeme.texts xs ++ rest.take n) ++ c :: behind) := by
      rwa [List.append_assoc, ← hdrop, List.take_append_drop]
    have hrest : dropCarriages rest = dropCarriages (rest.take n) ++ c :: dropCarriages behind := by
      rw [← Text.dropCarriages_cons (ne_of_isSpace hc (by decide)), ← Text.dropCarriages_append,
        ← hdrop, List.take_append_drop]
    have hscan := scan_of_stops hdropped (hstops.dropCarriages h.of_append) filename line
    rw [hrest, List.take_left, List.drop_left, hys.texts_eq, ← Text.dropCarriages_append] at hscan
    have hposition := hplace.behind_dropCarriages
      (getLast?_ne_carriage hplace (by simpa using hfeed)) line
    rw [Scan.message?, Scan.position?, Scan.message?, Scan.position?, scan_of_stops hreads hstops,
      hscan, hdrop]
    refine ⟨congrArg some (message_stopFault hfeed kind detail), ?_⟩
    simp only [Option.map_some, Fault.position, stopFault_anchor, Token.mark, hposition]

end

/-- **The message of a fault is the same in a file.** -/
theorem message_scan_unifyNewlines (text filename filename' : String) (line : Int) :
    (scan (String.ofList (unifyNewlines text.toList)) filename line).message? =
      (scan text filename' line).message? := by
  -- over the text whose lone carriage returns alone are line feeds
  have hfile : (String.ofList (unifyNewlines text.toList)).toList =
      dropCarriages (turnLone text.toList) := by
    rw [String.toList_ofList, Text.unifyNewlines_eq]
  have hturned : (String.ofList (turned text.toList)).toList = turned (turnLone text.toList) := by
    rw [String.toList_ofList, Text.turned_turnLone]
  have htext := message_scan_turned filename filename' line line
    (String.toList_ofList (l := turned text.toList))
  rw [String.ofList_toList] at htext
  rw [(scan_dropCarriages (Text.pairsCarriages_turnLone _) filename filename line hfile).1,
    ← message_scan_turned filename filename line line hturned, htext]

/-- **The position of a fault is the same in a file** where no carriage return stands alone. -/
theorem position_scan_unifyNewlines {text : String} (h : PairsCarriages text.toList)
    (filename filename' : String) (line : Int) :
    (scan (String.ofList (unifyNewlines text.toList)) filename line).position? =
      (scan text filename' line).position? := by
  have hfile : (String.ofList (unifyNewlines text.toList)).toList = dropCarriages text.toList := by
    rw [String.toList_ofList, Text.unifyNewlines_eq, Text.turnLone_eq_self h]
  have hposition := (scan_dropCarriages h filename filename' line hfile).2
  rwa [String.ofList_toList] at hposition

end Lexis
