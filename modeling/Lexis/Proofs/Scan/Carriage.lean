import Lexis.Proofs.Diagnostic.Line
import Lexis.Proofs.Grammar.Carriage
import Lexis.Proofs.Scan.Run

/-!
# Scan — line ends of two characters

A source whose carriage returns all stand in front of line feeds, and the source with each such
line end made a line feed, are the same to a scan.  `Token.shortened` is a token of the first as
the second has it: with shorter line ends in its value, without the carriage return at the end of
its line, and at the same place.

**The second scan has the tokens of the first, shortened, and its fault, with the same report**
(`scan_shortenNewlines`).
-/

namespace Lexis

open Text (PairsCarriages dropCarriages shortenNewlines)

/-- A token with shorter line ends in its value and no carriage return at the end of its line. -/
def Token.shortened (t : Token) : Token :=
  { t with
    value    := String.ofList (shortenNewlines t.value.toList)
    lineText := String.ofList (Text.dropTrailing '\r' t.lineText.toList) }

@[simp] theorem Token.shortened_filename (t : Token) : t.shortened.filename = t.filename := rfl

@[simp] theorem Token.shortened_start (t : Token) : t.shortened.start = t.start := rfl

@[simp] theorem Token.toList_shortened_lineText (t : Token) :
    t.shortened.lineText.toList = Text.dropTrailing '\r' t.lineText.toList :=
  String.toList_ofList ..

/-- A fault whose anchor has no carriage return at the end of its line. -/
def Fault.shortened (fault : Fault) : Fault :=
  { fault with anchor := fault.anchor.shortened }

@[simp] theorem Fault.shortened_kind (fault : Fault) : fault.shortened.kind = fault.kind := rfl

@[simp] theorem Fault.shortened_anchor (fault : Fault) :
    fault.shortened.anchor = fault.anchor.shortened := rfl

@[simp] theorem Fault.shortened_detail (fault : Fault) :
    fault.shortened.detail = fault.detail := rfl

@[simp] theorem Fault.shortened_message (fault : Fault) :
    fault.shortened.message = fault.message := rfl

variable {before after : List Char}

/-! ### Places -/

/-- In front of a character that is no line feed there is no carriage return. -/
theorem getLast?_ne_carriage (h : PairsCarriages (before ++ after))
    (hhead : after.head? ≠ some '\n') : before.getLast? ≠ some '\r' := by
  intro hlast
  obtain ⟨front, rfl⟩ := List.getLast?_eq_some_iff.mp hlast
  exact hhead (h front after (by simp))

/-- A mark in front of a character that is no line feed, without carriage returns. -/
theorem mark_dropCarriages (h : PairsCarriages (before ++ after))
    (hhead : after.head? ≠ some '\n') (filename : String) (line : Int) :
    Token.mark filename
        (String.ofList (Text.lastLine (dropCarriages before) ++
          Text.firstLine (dropCarriages after)))
        (.behind line (dropCarriages before)) =
      (Token.mark filename (String.ofList (Text.lastLine before ++ Text.firstLine after))
        (.behind line before)).shortened := by
  rw [h.behind_dropCarriages (getLast?_ne_carriage h hhead), ← h.dropTrailing_cut]
  simp [Token.shortened, Token.mark, shortenNewlines]

/-- **The report on a mark is the same without carriage returns**, in front of a character that is
no line feed. -/
theorem report_shortened_mark (h : PairsCarriages (before ++ after))
    (hhead : after.head? ≠ some '\n') (filename : String) (line : Int) (detail : String) :
    (Token.mark filename (String.ofList (Text.lastLine before ++ Text.firstLine after))
        (.behind line before)).shortened.report detail =
      (Token.mark filename (String.ofList (Text.lastLine before ++ Text.firstLine after))
        (.behind line before)).report detail := by
  have hbefore := h.not_mem_lastLine (getLast?_ne_carriage h hhead)
  have hline : (Text.lastLine before).length ≤
      (Text.dropTrailing '\r' (Text.lastLine before ++ Text.firstLine after)).length := by
    rw [h.dropTrailing_cut, Text.lastLine_dropCarriages, Text.dropCarriages_eq_self hbefore,
      List.length_append]
    exact Nat.le_add_right _ _
  refine Token.report_eq_of_dropTrailing (Token.shortened_filename _) (Token.shortened_start _)
    (Token.toList_shortened_lineText _) ?_ detail
  simpa [Token.mark] using hline

/-! ### Tokens -/

namespace Lexeme

/-- A lexeme with a token neither begins nor ends with a blank. -/
theorem ends_of_pair? {x : Lexeme} {pair : Kind × String} (h : x.pair? = some pair) :
    (∀ c ∈ x.text.head?, isSpace c = false) ∧ ∀ c ∈ x.text.getLast?, isSpace c = false := by
  have run : (∀ c ∈ x.text, isLetterOrDigit c = true) →
      (∀ c ∈ x.text.head?, isSpace c = false) ∧ ∀ c ∈ x.text.getLast?, isSpace c = false :=
    fun hall => ⟨fun c hc => isSpace_of_isLetterOrDigit (hall c (List.mem_of_head? hc)),
      fun c hc => isSpace_of_isLetterOrDigit (hall c (List.mem_of_getLast? hc))⟩
  match x with
  | .filler (.blank c hc) => simp [pair?] at h
  | .filler (.mark m) => cases m <;> simp [text, Filler.char, Mark.char] <;> decide
  | .word (.integer digits ne hd) =>
      refine run fun c hc => ?_
      have hdigit : isDigit c = true := hd c hc
      simp [isLetterOrDigit, hdigit]
  | .word (.identifier first others hf ho) =>
      refine run fun c hc => ?_
      rcases List.mem_cons.mp hc with rfl | hc
      · simp [isLetterOrDigit, isLetter_eq_true_iff.mpr hf]
      · exact isLetterOrDigit_iff.mpr (ho c hc)
  | .word (.literal pieces) =>
      have hquote : isSpace quote = false := by decide
      have hlast : (text (.word (.literal pieces))).getLast? = some quote :=
        List.getLast?_concat (l := quote :: Literal.sources pieces)
      refine ⟨fun c hc => ?_, fun c hc => ?_⟩
      · obtain rfl : quote = c := by simpa [text, Word.text] using hc
        exact hquote
      · obtain rfl : quote = c := by simpa [hlast] using hc
        exact hquote

/-- The token of a lexeme, without carriage returns. -/
theorem token?_dropCarriages {x y : Lexeme} (htext : y.text = dropCarriages x.text)
    (hpair : y.pair? = x.pair?.map shortenedPair)
    (h : PairsCarriages (before ++ (x.text ++ after))) (filename : String) (line : Int) :
    y.token? filename line (dropCarriages before) (dropCarriages after) =
      (x.token? filename line before after).map Token.shortened := by
  rw [token?, token?, hpair]
  cases hsays : x.pair? with
  | none => rfl
  | some pair =>
      obtain ⟨hhead, hlast⟩ := ends_of_pair? hsays
      have hne := x.text_ne_nil
      have hstart : (x.text ++ after).head? ≠ some '\n' := fun hfeed => by
        rw [List.head?_append_of_ne_nil _ hne] at hfeed
        exact absurd (hhead _ hfeed) (by decide)
      have hstop : (before ++ x.text).getLast? ≠ some '\r' := fun hcarriage => by
        rw [List.getLast?_append_of_ne_nil _ hne] at hcarriage
        exact absurd (hlast _ hcarriage) (by decide)
      have hbehind : PairsCarriages ((before ++ x.text) ++ after) := by rwa [List.append_assoc]
      rw [Option.map_some, Option.map_some, Option.map_some, htext, ← Text.dropCarriages_append,
        ← Text.dropCarriages_append, ← h.dropTrailing_cut,
        h.behind_dropCarriages (getLast?_ne_carriage h hstart), hbehind.behind_dropCarriages hstop]
      simp [Token.shortened, shortenedPair]

/-- **The tokens of lexemes, without carriage returns.** -/
theorem tokens_shortens {xs ys : List Lexeme} (hys : Shortens xs ys) {rest : List Char}
    (h : PairsCarriages (before ++ (texts xs ++ rest))) (filename : String) (line : Int) :
    tokens filename line (dropCarriages before) ys (dropCarriages rest) =
      (tokens filename line before xs rest).map Token.shortened := by
  induction hys generalizing before with
  | nil => rfl
  | @skip x xs ys htext hpair _ ih =>
      have hbehind : PairsCarriages ((before ++ x.text) ++ (texts xs ++ rest)) := by
        simpa using h
      have htail := ih hbehind
      rw [Text.dropCarriages_append, htext, List.append_nil] at htail
      rw [tokens, htail, token?, hpair]
      rfl
  | @keep x y xs ys htext hpair hys ih =>
      have hbehind : PairsCarriages ((before ++ x.text) ++ (texts xs ++ rest)) := by
        simpa using h
      have htail := ih hbehind
      have htoken := token?_dropCarriages htext hpair (by rwa [List.append_assoc] at hbehind)
        filename line
      rw [Text.dropCarriages_append, ← htext] at htail
      rw [Text.dropCarriages_append, ← hys.texts_eq] at htoken
      rw [tokens, tokens, htail, htoken, List.map_append]
      cases x.token? filename line before (texts xs ++ rest) <;> rfl

end Lexeme

/-- A text that is read has its tokens without carriage returns too. -/
theorem Reads.exists_tokens_shortened {text rest : List Char} {xs : List Lexeme}
    (h : Reads text xs rest) (hpairs : PairsCarriages text) (filename : String) (line : Int) :
    ∃ ys, Reads (dropCarriages text) ys (dropCarriages rest) ∧
      Lexeme.texts ys = dropCarriages (Lexeme.texts xs) ∧
      Lexeme.tokens filename line [] ys (dropCarriages rest) =
        (Lexeme.tokens filename line [] xs rest).map Token.shortened := by
  obtain ⟨ys, hys, hreads⟩ := h.exists_shortens hpairs
  rw [h.text_eq, ← List.nil_append (Lexeme.texts xs ++ rest)] at hpairs
  exact ⟨ys, hreads, hys.texts_eq, Lexeme.tokens_shortens hys hpairs filename line⟩

/-! ### Marks and faults -/

/-- The closing mark, without carriage returns. -/
theorem closingMark_dropCarriages {source : List Char} (h : PairsCarriages source)
    (filename : String) (line : Int) (tokens : List Token) :
    closingMark filename line (dropCarriages source) (tokens.map Token.shortened) =
      (closingMark filename line source tokens).shortened := by
  rcases List.eq_nil_or_concat' tokens with rfl | ⟨tokens, last, rfl⟩
  · rw [← List.append_nil source] at h
    simpa [closingMark] using mark_dropCarriages h (by simp) filename line
  · simp [closingMark, Token.shortened, Token.mark, shortenNewlines]

attribute [ext] Fault

section

variable {c : Char} {rest : List Char} {filename : String} {line : Int}

/-- The fault of a stop, without carriage returns.  The character there is found in its line again
where the kind asks for it, and it is the same. -/
theorem stopFault_dropCarriages (h : PairsCarriages (before ++ c :: rest)) (hc : isSpace c = false)
    (kind : FaultKind) (detail : String) :
    stopFault filename line (dropCarriages before) (dropCarriages (c :: rest)) kind detail =
      (stopFault filename line before (c :: rest) kind detail).shortened := by
  have hfeed : c ≠ '\n' := ne_of_isSpace hc (by decide)
  have hanchor := mark_dropCarriages h (by simpa using hfeed) filename line
  refine Fault.ext ?_ ?_ ?_
  · rw [stopFault_kind, Fault.shortened_kind, stopFault_kind]
  · rw [stopFault_anchor, Fault.shortened_anchor, stopFault_anchor, hanchor]
  · rw [Fault.shortened_detail]
    cases kind with
    | invalidSyntax => rfl
    | illegalCharacter =>
        rw [Text.dropCarriages_cons (ne_of_isSpace hc (by decide)), stopFault_illegal_detail hfeed,
          stopFault_illegal_detail hfeed]

/-- **The report on the fault of a stop is the same without carriage returns.** -/
theorem report_shortened_stopFault (h : PairsCarriages (before ++ c :: rest))
    (hc : isSpace c = false) (kind : FaultKind) (detail : String) :
    (stopFault filename line before (c :: rest) kind detail).shortened.report =
      (stopFault filename line before (c :: rest) kind detail).report := by
  have hfeed : c ≠ '\n' := ne_of_isSpace hc (by decide)
  rw [Fault.report, Fault.report, Fault.shortened_anchor, Fault.shortened_message,
    stopFault_anchor, report_shortened_mark h (by simpa using hfeed)]

end

/-! ### The outcome of a scan -/

/-- **Line ends of two characters scan like line feeds.** -/
theorem scan_shortenNewlines {source : String} (h : PairsCarriages source.toList)
    (filename : String) (line : Int) :
    let shorter := String.ofList (shortenNewlines source.toList)
    (scan shorter filename line).tokens = (scan source filename line).tokens.map Token.shortened ∧
      (scan shorter filename line).fault? = (scan source filename line).fault?.map Fault.shortened ∧
      (scan shorter filename line).report? = (scan source filename line).report? := by
  intro shorter
  have hshorter : shorter.toList = dropCarriages source.toList := by
    rw [String.toList_ofList, h.shortenNewlines_eq]
  rcases scan_cases source with ⟨xs, hreads⟩ | ⟨xs, rest, n, kind, detail, hreads, hstops⟩
  · obtain ⟨ys, hreads', -, htokens⟩ := hreads.exists_tokens_shortened h filename line
    rw [← hshorter] at hreads'
    rw [Text.dropCarriages_nil] at htokens
    rw [scan_of_reads hreads, scan_of_reads hreads', hshorter, htokens,
      closingMark_dropCarriages h]
    refine ⟨?_, rfl, rfl⟩
    rw [List.map_append, List.map_singleton]
  · obtain ⟨ys, hreads', htexts, htokens⟩ := hreads.exists_tokens_shortened h filename line
    rw [← hshorter] at hreads'
    rw [hreads.text_eq] at h
    -- the place of the stop, in the source and without carriage returns
    obtain ⟨c, behind, hdrop, hc⟩ := hstops.drop_eq_cons
    have hplace : PairsCarriages ((Lexeme.texts xs ++ rest.take n) ++ c :: behind) := by
      rwa [List.append_assoc, ← hdrop, List.take_append_drop]
    have hrest : dropCarriages rest =
        dropCarriages (rest.take n) ++ dropCarriages (c :: behind) := by
      rw [← Text.dropCarriages_append, ← hdrop, List.take_append_drop]
    have hscan := scan_of_stops hreads' (hstops.dropCarriages h.of_append) filename line
    rw [hrest, List.take_left, List.drop_left, htexts, ← Text.dropCarriages_append,
      stopFault_dropCarriages hplace hc, ← hrest, htokens] at hscan
    rw [hscan, scan_of_stops hreads hstops, hdrop]
    refine ⟨?_, rfl, congrArg some (report_shortened_stopFault hplace hc kind detail)⟩
    rw [List.map_append, List.map_singleton, Fault.shortened_anchor]

/-- A literal goes over an escaped line end, and a fault stands behind another one. -/
theorem scan_shortenNewlines_fault :
    let source := "f \"a\\\r\nb\"\r\n 1x\r\n"
    (scan source "input" 0).tokens.map Token.value = ["f", "a\r\nb", ""] ∧
      (scan "f \"a\\\nb\"\n 1x\n" "input" 0).tokens.map Token.value = ["f", "a\nb", ""] ∧
      (scan "f \"a\\\nb\"\n 1x\n" "input" 0).report? = (scan source "input" 0).report? := by
  intro source
  have hpairs : PairsCarriages source.toList := by decide +kernel
  obtain ⟨htokens, -, hreport⟩ := scan_shortenNewlines hpairs "input" 0
  have hshorter : String.ofList (shortenNewlines source.toList) = "f \"a\\\nb\"\n 1x\n" := by
    decide +kernel
  rw [hshorter] at htokens hreport
  have hvalues : (scan source "input" 0).tokens.map Token.value = ["f", "a\r\nb", ""] := by
    decide +kernel
  refine ⟨hvalues, ?_, hreport⟩
  rw [htokens]
  decide +kernel

end Lexis
