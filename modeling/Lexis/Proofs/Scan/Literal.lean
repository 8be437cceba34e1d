import Lexis.Proofs.Cursor.Consistent
import Lexis.Proofs.Scan.Run
import Lexis.Session

/-!
# Scan — string literals

What reading a literal does to a scanner, wherever its cursor stands in the source.  The text behind
the opening quote begins with pieces and a closing quote in one way at most.  If it does so, the
reading passes exactly these, and what is behind must be such that a word may end there: then the
scanner has one more token (`readString_of_follows`), and otherwise one more anchor
(`readString_of_intruder`).  If it does not, the reading passes the whole text, and the fault is at
the opening quote (`readString_open`).  `respond_readString` puts the three together.

The fault of a reading is recorded, and answered with, if it can be reported.  If not, the reading
has no answer, and the scanner is the same but for the fault.
-/

namespace Lexis

open Literal (sources decodings Closes)

namespace Cursor

variable {filename : String} {line : Int} {before after : List Char}

/-- The fault of a character that may not follow a word. -/
def intruderFault (c : Cursor) (what : String) (intruder : Char) : Fault :=
  if startsToken intruder then
    c.fault .invalidSyntax
      ("unexpected " ++ Text.quoted (String.singleton intruder) ++ " after " ++ what)
  else c.fault .illegalCharacter ""

/-- A rejected word is a fault, and the rest of the line is skipped. -/
theorem reject_eq (c : Cursor) (what : String) (intruder : Char) :
    c.reject what intruder = ⟨.fault (c.intruderFault what intruder), c.skipLine⟩ := by
  unfold reject intruderFault
  split <;> rfl

/-- The fault of an intruder is at the intruder. -/
theorem intruderFault_anchor (c : Cursor) (what : String) (intruder : Char) :
    (c.intruderFault what intruder).anchor = .mark c.filename c.lineText c.position := by
  unfold intruderFault
  split <;> exact Token.fault_anchor _ _ _

theorem intruderFault_of_startsToken {c : Char} (h : startsToken c = true) (d : Cursor)
    (what : String) :
    (d.intruderFault what c).kind = .invalidSyntax ∧ (d.intruderFault what c).detail =
      "unexpected " ++ Text.quoted (String.singleton c) ++ " after " ++ what := by
  rw [intruderFault, if_pos h]
  exact ⟨rfl, rfl⟩

/-- An intruder that starts no token is illegal, and the detail shows it. -/
theorem intruderFault_of_not_startsToken {c : Char} (h : startsToken c = false)
    (hc : ¬ IsFollower c) (what : String) :
    let fault := (between filename line before (c :: after)).intruderFault what c
    fault.kind = .illegalCharacter ∧ fault.detail = Text.quoted (String.singleton c) := by
  intro fault
  have hfeed : c ≠ '\n' := by
    rintro rfl
    exact hc (.inl rfl)
  have hfault : fault = stopFault filename line before (c :: after) .illegalCharacter "" := by
    refine if_neg ?_
    rw [h]
    exact Bool.false_ne_true
  rw [hfault]
  exact ⟨stopFault_kind .., stopFault_illegal_detail hfeed ..⟩

/-- The cursor behind the closing quote of a literal. -/
theorem consistent_behind_literal (filename : String) (line : Int) (before : List Char)
    (pieces : List Literal.Piece) (rest : List Char) :
    let behind := between filename line (before ++ [quote] ++ sources pieces ++ [quote]) rest
    behind.Consistent (before ++ quote :: (sources pieces ++ quote :: rest)) line ∧
      behind.offset = before.length + (sources pieces).length + 2 ∧
      behind.position.line =
        (Position.behind line before).line + (sources pieces).count '\n' := by
  intro behind
  have hbetween := consistent_between filename line
    (before ++ [quote] ++ sources pieces ++ [quote]) rest
  have hq : [quote].count '\n' = 0 := by decide
  refine ⟨by simpa [behind] using hbetween, ?_, ?_⟩
  · simp only [behind, between_offset, List.length_append, List.length_singleton]
    omega
  · simp only [behind, between_position, Position.behind_line, List.count_append, hq]
    omega

end Cursor

namespace Scanner

variable {filename : String} {line : Int} {before : List Char} {s : Scanner}

/-- A reading that comes upon a fault makes its anchor, and is answered if the fault can be
reported. -/
theorem respond_readString_of_fault {fault : Fault} {c : Cursor}
    (h : s.cursor.readString = ⟨.fault fault, c⟩) :
    s.respond .readString = (if fault.canReport then some (.fault fault) else none, { s with
      cursor := c
      tokens := s.tokens.push fault.anchor
      fault? := if fault.canReport then some fault else s.fault? }) := by
  have hperform : s.perform .readString = (.fault fault, { s with
      cursor := c
      tokens := s.tokens.push fault.anchor
      fault? := some fault }) := by
    rw [perform, h]
    rfl
  exact respond_of_fault hperform rfl rfl

section

variable {pieces : List Literal.Piece} {rest : List Char}
  (hs : s.cursor = .between filename line before (quote :: (sources pieces ++ quote :: rest)))
include hs

/-- A literal with a follower behind it makes a token. -/
theorem readString_of_follows (h : Follows rest) :
    let behind := Cursor.between filename line (before ++ [quote] ++ sources pieces ++ [quote]) rest
    s.respond .readString = (some .nothing, { s with
      cursor := behind
      tokens := s.tokens.push ⟨.string, String.ofList (decodings pieces), s.cursor.filename,
        s.cursor.lineText, s.cursor.position, behind.position⟩ }) := by
  intro behind
  have hread : s.cursor.readString = behind.finish .string (String.ofList (decodings pieces))
      s.cursor.position s.cursor.lineText := by
    rw [hs, Cursor.readString_sources, Cursor.finishWord_of_follows h]
    rfl
  refine respond_of_perform ?_ rfl
  rw [perform, hread, hs]
  rfl

/-- A literal with an intruder behind it makes an anchor at the intruder. -/
theorem readString_of_intruder {c : Char} (hc : c ∈ rest.head?) (h : ¬ IsFollower c) :
    let behind := Cursor.between filename line (before ++ [quote] ++ sources pieces ++ [quote]) rest
    let fault := behind.intruderFault "string literal" c
    s.respond .readString = (if fault.canReport then some (.fault fault) else none, { s with
      cursor := behind.skipLine
      tokens := s.tokens.push fault.anchor
      fault? := if fault.canReport then some fault else s.fault? }) := by
  intro behind fault
  obtain ⟨below, rfl⟩ : ∃ below, rest = c :: below := List.head?_eq_some_iff.mp hc
  have hread : s.cursor.readString = ⟨.fault fault, behind.skipLine⟩ := by
    rw [hs, Cursor.readString_sources, Cursor.finishWord_of_intruder h, Cursor.reject_eq]
  exact respond_readString_of_fault hread

end

/-- A literal that is not closed makes an anchor at its quote. -/
theorem readString_open {rest : List Char}
    (hs : s.cursor = .between filename line before (quote :: rest)) (h : ¬ Closes rest) :
    let fault := s.cursor.faultAt .invalidSyntax "unterminated string literal" s.cursor.position
      s.cursor.lineText
    s.respond .readString = (if fault.canReport then some (.fault fault) else none, { s with
      cursor := .between filename line (before ++ quote :: rest) []
      tokens := s.tokens.push fault.anchor
      fault? := if fault.canReport then some fault else s.fault? }) := by
  intro fault
  have hread : s.cursor.readString =
      ⟨.fault fault, .between filename line (before ++ quote :: rest) []⟩ := by
    have hfault : fault = (Cursor.between filename line before (quote :: rest)).faultAt
        .invalidSyntax "unterminated string literal" (.behind line before)
        (Cursor.between filename line before (quote :: rest)).lineText := by
      rw [← Cursor.between_position, ← hs]
    rw [hs, Cursor.readString_of_not_closes h, hfault, Cursor.failAt]
    rfl
  exact respond_readString_of_fault hread

end Scanner

/-- **Reading a string literal.**  Let the cursor of a scanner be consistent with the source and
stand at a quote.  What is behind the quote begins with pieces and a closing quote in at most one
way.  If it does, there is a consistent cursor just behind the closing quote, below as many lines as
the pieces have line feeds.  With a follower or nothing there, the scanner goes to this cursor and
has one more token, of the decoded pieces, from the opening quote to this cursor; with any other
character there, it has one more anchor, at that character.  If what is behind the opening quote
does not begin so, the scanner goes to the end of the source and has one more anchor, at the quote.
An anchor comes with a fault: if this can be reported, the reading answers with it and records it;
if not, the reading has no answer, and what was recorded before stays. -/
theorem Scanner.respond_readString {source : List Char} {line : Int} {s : Scanner}
    (hs : s.cursor.Consistent source line) (hquote : s.cursor.current? = some quote) :
    let ahead := source.drop (s.cursor.offset + 1)
    (∀ pieces rest pieces' rest', ahead = sources pieces ++ quote :: rest →
      ahead = sources pieces' ++ quote :: rest' → pieces = pieces' ∧ rest = rest') ∧
    (∀ pieces rest, ahead = sources pieces ++ quote :: rest →
      ∃ behind : Cursor, behind.Consistent source line ∧ behind.filename = s.cursor.filename ∧
        behind.offset = s.cursor.offset + (sources pieces).length + 2 ∧ behind.rest = rest ∧
        behind.position.line = s.cursor.position.line + (sources pieces).count '\n' ∧
        (Follows rest →
          s.respond .readString = (some .nothing, { s with
            cursor := behind
            tokens := s.tokens.push ⟨.string, String.ofList (decodings pieces), s.cursor.filename,
              s.cursor.lineText, s.cursor.position, behind.position⟩ })) ∧
        ∀ c ∈ rest.head?, ¬ IsFollower c →
          ∃ fault : Fault,
            fault.anchor = .mark behind.filename behind.lineText behind.position ∧
            (startsToken c = true → fault.kind = .invalidSyntax ∧ fault.detail =
              "unexpected " ++ Text.quoted (String.singleton c) ++ " after " ++ "string literal") ∧
            (startsToken c = false → fault.kind = .illegalCharacter ∧
              fault.detail = Text.quoted (String.singleton c)) ∧
            s.respond .readString = (if fault.canReport then some (.fault fault) else none, { s with
              cursor := behind.skipLine
              tokens := s.tokens.push fault.anchor
              fault? := if fault.canReport then some fault else s.fault? })) ∧
    (¬ Closes ahead →
      ∃ fault : Fault, ∃ atEnd : Cursor,
        fault.kind = .invalidSyntax ∧ fault.detail = "unterminated string literal" ∧
        fault.anchor = .mark s.cursor.filename s.cursor.lineText s.cursor.position ∧
        atEnd.Consistent source line ∧ atEnd.offset = source.length ∧
        s.respond .readString = (if fault.canReport then some (.fault fault) else none, { s with
          cursor := atEnd
          tokens := s.tokens.push fault.anchor
          fault? := if fault.canReport then some fault else s.fault? })) := by
  intro ahead
  obtain ⟨filename, before, after, rfl, hcursor⟩ := hs.exists_between
  obtain ⟨text, rfl⟩ : ∃ text, after = quote :: text := by
    rw [hcursor] at hquote
    exact List.head?_eq_some_iff.mp hquote
  have hoffset : s.cursor.offset = before.length := by
    rw [hcursor, Cursor.between_offset]
  have hahead : ahead = text := by
    simp [ahead, hoffset]
  rw [hahead]
  refine ⟨fun pieces rest pieces' rest' h h' => ?_, fun pieces rest h => ?_, fun h => ?_⟩
  · exact Literal.sources_append_quote_inj (h.symm.trans h')
  · subst h
    let behind := Cursor.between filename line (before ++ [quote] ++ sources pieces ++ [quote]) rest
    obtain ⟨hbehind, hlength, hline⟩ :=
      Cursor.consistent_behind_literal filename line before pieces rest
    refine ⟨behind, hbehind, by rw [hcursor]; rfl, by rw [hoffset]; exact hlength, rfl,
      by rw [hcursor]; exact hline, fun hfollows => readString_of_follows hcursor hfollows,
      fun c hc hfollower => ?_⟩
    refine ⟨behind.intruderFault "string literal" c, behind.intruderFault_anchor _ c,
      fun hstarts => Cursor.intruderFault_of_startsToken hstarts behind _, fun hstarts => ?_,
      readString_of_intruder hcursor hc hfollower⟩
    obtain ⟨below, rfl⟩ := List.head?_eq_some_iff.mp hc
    exact Cursor.intruderFault_of_not_startsToken hstarts hfollower _
  · have hend := Cursor.consistent_between filename line (before ++ quote :: text) []
    rw [List.append_nil] at hend
    exact ⟨s.cursor.faultAt .invalidSyntax "unterminated string literal" s.cursor.position
        s.cursor.lineText, .between filename line (before ++ quote :: text) [],
      rfl, rfl, rfl, hend, rfl, readString_open hcursor h⟩

/-- A literal of two lines, with an escaped feed, an escaped quote and an escaped line end in it. -/
theorem Scanner.respond_readString_two_lines :
    let s := Scanner.ofSource "\"\\n\"\\\n b\";" "input" 4
    ∃ behind, s.respond .readString = (some .nothing, { s with
      cursor := behind
      tokens := #[⟨.string, "\n\"\n b", "input", "\"\\n\"\\", ⟨0, 4, 0⟩, behind.position⟩] }) ∧
      behind.offset = 9 ∧ behind.position.line = 5 := by
  intro s
  have hread := respond_readString (s := s)
    (Cursor.consistent_ofSource "\"\\n\"\\\n b\";" "input" 4) (by decide)
  obtain ⟨behind, -, -, hoffset, -, hline, htoken, -⟩ := hread.2.1
    [.escaped 1 '"' (by decide), .escaped 0 '\n' (by decide), .plain ' ' (by decide),
      .plain 'b' (by decide)] [';'] (by decide)
  have hfollows : Follows [';'] := by
    intro c hc
    obtain rfl : ';' = c := by simpa using hc
    exact .inr rfl
  exact ⟨behind, htoken hfollows, hoffset, hline⟩

end Lexis
