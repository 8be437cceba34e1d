import Lexis.Proofs.Scan.Front

/-!
# Scan — line by line

A source is cut at a line feed into what is above and what is below.  The tokens above do not
depend on what is below, and those below depend on what is above only in the number that their
lines are counted from (`Lexeme.tokens_resume`); so does the fault of a stop (`stopFault_above`,
`stopFault_below`).

**A scan goes line by line** (`scan_append_feed`).  Where the scan above succeeds, the scan of the
whole has its tokens and then those of the scan below; where it fails other than in an open literal,
the scan of the whole is the scan above.
-/

namespace Lexis

variable {filename : String} {line : Int}

/-! ### Above and below a line feed -/

namespace Lexeme

/-- The tokens of lexemes do not depend on the lines below them. -/
theorem tokens_above (before : List Char) (xs : List Lexeme) (after below : List Char) :
    tokens filename line before xs (after ++ '\n' :: below) =
      tokens filename line before xs after := by
  induction xs generalizing before with
  | nil => rfl
  | cons x xs ih =>
      have htoken : x.token? filename line before (texts xs ++ (after ++ '\n' :: below)) =
          x.token? filename line before (texts xs ++ after) := by
        rw [token?, token?, ← List.append_assoc, ← List.append_assoc, ← List.append_assoc,
          Text.firstLine_append_feed_cons]
      rw [tokens, tokens, htoken, ih]

/-- The tokens of lexemes depend on the lines above only in the number of their own line. -/
theorem tokens_below (above before : List Char) (xs : List Lexeme) (after : List Char) :
    tokens filename line (above ++ '\n' :: before) xs after =
      tokens filename (line + above.count '\n' + 1) before xs after := by
  induction xs generalizing before with
  | nil => rfl
  | cons x xs ih =>
      have htoken : x.token? filename line (above ++ '\n' :: before) (texts xs ++ after) =
          x.token? filename (line + above.count '\n' + 1) before (texts xs ++ after) := by
        rw [token?, token?, List.append_assoc, List.cons_append, Text.lastLine_append_feed_cons,
          Position.behind_append_feed_cons, Position.behind_append_feed_cons]
      rw [tokens, tokens, htoken, List.append_assoc, List.cons_append, ih]

end Lexeme

/-- The fault of a stop does not depend on the lines below it. -/
theorem stopFault_above (before after below : List Char) (kind : FaultKind) (detail : String) :
    stopFault filename line before (after ++ '\n' :: below) kind detail =
      stopFault filename line before after kind detail := by
  rw [stopFault, stopFault, Cursor.fault, Cursor.fault, Cursor.between_lineText,
    Cursor.between_lineText, Text.firstLine_append_feed_cons]
  rfl

/-- The fault of a stop depends on the lines above only in the number of its own line. -/
theorem stopFault_below (above before after : List Char) (kind : FaultKind) (detail : String) :
    stopFault filename line (above ++ '\n' :: before) after kind detail =
      stopFault filename (line + above.count '\n' + 1) before after kind detail := by
  rw [stopFault, stopFault, Cursor.fault, Cursor.fault, Cursor.between_lineText,
    Cursor.between_lineText, Cursor.between_position, Cursor.between_position,
    Text.lastLine_append_feed_cons, Position.behind_append_feed_cons]
  rfl

/-- The mark that closes the tokens above and below stands at the last token of all. -/
theorem closingMark_append_feed (above below : List Char) (tokens tokens' : List Token) :
    closingMark filename line (above ++ '\n' :: below) (tokens ++ tokens') =
      if tokens' = [] ∧ tokens ≠ [] then closingMark filename line above tokens
      else closingMark filename (line + above.count '\n' + 1) below tokens' := by
  rcases List.eq_nil_or_concat' tokens' with rfl | ⟨tokens', last, rfl⟩
  · rcases List.eq_nil_or_concat' tokens with rfl | ⟨tokens, last, rfl⟩
    · simp [closingMark, Text.lastLine_append_feed_cons, Position.behind_append_feed_cons]
    · simp [closingMark]
  · simp [closingMark, ← List.append_assoc]

/-! ### Reading on -/

/-- A source that is read to its end is read on over a line feed. -/
theorem Reads.append_feed {above below rest : List Char} {xs ys : List Lexeme}
    (h : Reads above xs []) (h' : Reads below ys rest) :
    Reads (above ++ '\n' :: below) (xs ++ .filler (.blank '\n' (by simp)) :: ys) rest := by
  obtain ⟨htext, hsparse⟩ := reads_nil_iff.mp h
  have hfollows : Follows ('\n' :: below) := by
    intro c hc
    obtain rfl : '\n' = c := by simpa using hc
    exact .inl rfl
  have hfeed : Lexeme.IsWord (.filler (.blank '\n' (by simp))) → Follows below := False.elim
  exact reads_append_iff.mpr
    ⟨'\n' :: below, reads_iff.mpr ⟨by rw [htext], hsparse, fun _ _ _ => hfollows⟩, .more hfeed h'⟩

/-- The tokens of a source that is read on over a line feed. -/
theorem Lexeme.tokens_resume {above : List Char} {xs : List Lexeme} (h : Reads above xs [])
    (ys : List Lexeme) (rest : List Char) :
    tokens filename line [] (xs ++ .filler (.blank '\n' (by simp)) :: ys) rest =
      tokens filename line [] xs [] ++
        tokens filename (line + above.count '\n' + 1) [] ys rest := by
  have htexts : Lexeme.texts xs = above := (reads_nil_iff.mp h).1.symm
  have hrest : texts (.filler (.blank '\n' (by simp)) :: ys) ++ rest =
      [] ++ '\n' :: (texts ys ++ rest) := by
    simp [text, Filler.char]
  rw [tokens_append, hrest, tokens_above, List.nil_append, htexts]
  refine congrArg (tokens filename line [] xs [] ++ ·) ?_
  exact tokens_below above [] ys rest

/-- A text that stops does so whatever comes behind it, unless it stops in an open literal. -/
theorem Stops.append {text : List Char} {n : Nat} {kind : FaultKind} {detail : String}
    (h : Stops text n kind detail)
    (hopen : (kind, detail) ≠ (.invalidSyntax, "unterminated string literal")) (more : List Char) :
    n < text.length ∧ Stops (text ++ more) n kind detail := by
  cases h with
  | @misplaced w c rest hc hs =>
      rw [List.append_assoc, List.cons_append]
      exact ⟨by simp, .misplaced hc hs⟩
  | @foreign w c rest hc hs =>
      rw [List.append_assoc, List.cons_append]
      exact ⟨by simp, .foreign hc hs⟩
  | unclosed h => exact absurd rfl hopen
  | illegal h => exact ⟨by simp, .illegal h⟩

/-! ### Scanning on -/

/-- **A scan that fails above a line feed**, other than in an open literal, does not see what is
below. -/
theorem scan_append_feed_of_fault {s₁ : String} {fault : Fault}
    (h : (scan s₁ filename line).fault? = some fault)
    (hopen : fault.detail ≠ "unterminated string literal") (s₂ : String) :
    scan (s₁ ++ "\n" ++ s₂) filename line = scan s₁ filename line := by
  rcases scan_cases s₁ with ⟨xs, hreads⟩ | ⟨xs, rest, n, kind, detail, hreads, hstops⟩
  · simp [scan_of_reads hreads] at h
  · have hscan := scan_of_stops hreads hstops filename line
    rw [hscan] at h
    obtain rfl := Option.some.inj h
    have hdetail : (kind, detail) ≠ (.invalidSyntax, "unterminated string literal") := by
      rintro ⟨rfl, rfl⟩
      exact hopen rfl
    obtain ⟨hn, hstops'⟩ := hstops.append hdetail ('\n' :: s₂.toList)
    have hreads' : Reads (s₁ ++ "\n" ++ s₂).toList xs (rest ++ '\n' :: s₂.toList) := by
      have hhead : (rest ++ '\n' :: s₂.toList).head? = rest.head? := by
        cases rest with
        | nil => simp at hn
        | cons c rest => rfl
      simpa [hreads.text_eq] using hreads.congr hhead
    rw [hscan, scan_of_stops hreads' hstops', Lexeme.tokens_above,
      List.take_append_of_le_length hn.le, List.drop_append_of_le_length hn.le, stopFault_above]

section

variable {s₁ s₂ : String} {xs ys : List Lexeme}

theorem toList_append_feed (s₁ s₂ : String) :
    (s₁ ++ "\n" ++ s₂).toList = s₁.toList ++ '\n' :: s₂.toList := by
  simp

/-- Above a line feed all is read, and below it too: one of the two marks closes the tokens. -/
theorem scan_append_feed_of_reads (h : Reads s₁.toList xs []) (h' : Reads s₂.toList ys [])
    (filename : String) (line : Int) :
    let tokens := Lexeme.tokens filename line [] xs []
    let tokens' := Lexeme.tokens filename (line + s₁.toList.count '\n' + 1) [] ys []
    scan (s₁ ++ "\n" ++ s₂) filename line =
      ⟨tokens ++ if tokens' = [] ∧ tokens ≠ [] then [closingMark filename line s₁.toList tokens]
        else (scan s₂ filename (line + s₁.toList.count '\n' + 1)).tokens, none⟩ := by
  have hwhole := h.append_feed h'
  rw [← toList_append_feed] at hwhole
  rw [scan_of_reads hwhole, scan_of_reads h', Lexeme.tokens_resume h, toList_append_feed,
    closingMark_append_feed]
  dsimp only
  by_cases hlast : Lexeme.tokens filename (line + s₁.toList.count '\n' + 1) [] ys [] = [] ∧
      Lexeme.tokens filename line [] xs [] ≠ []
  · rw [if_pos hlast, if_pos hlast, hlast.1, List.append_nil]
  · rw [if_neg hlast, if_neg hlast, List.append_assoc]

/-- Above a line feed all is read, and below it the scan stops. -/
theorem scan_append_feed_of_stops {rest : List Char} {n : Nat} {kind : FaultKind} {detail : String}
    (h : Reads s₁.toList xs []) (h' : Reads s₂.toList ys rest) (hs : Stops rest n kind detail)
    (filename : String) (line : Int) :
    let below := scan s₂ filename (line + s₁.toList.count '\n' + 1)
    scan (s₁ ++ "\n" ++ s₂) filename line =
      ⟨Lexeme.tokens filename line [] xs [] ++ below.tokens, below.fault?⟩ := by
  have hwhole := h.append_feed h'
  rw [← toList_append_feed] at hwhole
  have hbefore : Lexeme.texts (xs ++ .filler (.blank '\n' (by simp)) :: ys) ++ rest.take n =
      s₁.toList ++ '\n' :: (Lexeme.texts ys ++ rest.take n) := by
    simp [(reads_nil_iff.mp h).1, Lexeme.text, Filler.char]
  simp only [scan_of_stops hwhole hs, scan_of_stops h' hs, Lexeme.tokens_resume h, hbefore,
    stopFault_below, List.append_assoc]

/-- Where all is read, nothing but the end of the file is read off a source when no lexeme of it
makes a token. -/
theorem forall_kind_eq_eof_iff (h : Reads s₂.toList ys []) (filename : String) (line : Int) :
    (∀ t ∈ (scan s₂ filename line).tokens, t.kind = .eof) ↔
      Lexeme.tokens filename line [] ys [] = [] := by
  rw [scan_of_reads h, List.forall_mem_append]
  constructor
  · rintro ⟨hall, -⟩
    refine List.eq_nil_iff_forall_not_mem.mpr fun t ht => ?_
    exact Lexeme.kind_ne_eof_of_mem_tokens _ _ _ _ _ t ht (hall t ht)
  · intro hnil
    rw [hnil]
    simp

end

/-- **A scan goes line by line.**  Where the scan above a line feed succeeds, the scan of the whole
fails as the scan below does, and has the tokens above and then those below; only where there are
tokens above and none below, the end-of-file token stays above.  Where the scan above fails other
than in an open literal, the scan of the whole is the scan above. -/
theorem scan_append_feed (s₁ s₂ filename : String) (line : Int) :
    ((scan s₁ filename line).fault? = none →
      let below := scan s₂ filename (line + s₁.toList.count '\n' + 1)
      let whole := scan (s₁ ++ "\n" ++ s₂) filename line
      ∃ tokens eof, (scan s₁ filename line).tokens = tokens ++ [eof] ∧ eof.kind = .eof ∧
        (∀ t ∈ tokens, t.kind ≠ .eof) ∧
        whole.fault? = below.fault? ∧ whole.report? = below.report? ∧
        whole.tokens = tokens ++
          if below.fault? = none ∧ (∀ t ∈ below.tokens, t.kind = .eof) ∧ tokens ≠ [] then [eof]
          else below.tokens) ∧
    ∀ fault, (scan s₁ filename line).fault? = some fault →
      fault.detail ≠ "unterminated string literal" →
      scan (s₁ ++ "\n" ++ s₂) filename line = scan s₁ filename line := by
  refine ⟨fun habove => ?_, fun fault hfault hopen => scan_append_feed_of_fault hfault hopen s₂⟩
  intro below whole
  rcases scan_cases s₁ with ⟨xs, hreads⟩ | ⟨xs, rest, n, kind, detail, hreads, hstops⟩
  · -- the last token above is the closing mark, and no lexeme makes one
    refine ⟨_, _, congrArg Scan.tokens (scan_of_reads hreads filename line),
      closingMark_kind _ _ _ _, Lexeme.kind_ne_eof_of_mem_tokens _ _ _ _ _, ?_⟩
    rcases scan_cases s₂ with ⟨ys, hreads'⟩ | ⟨ys, rest, n, kind, detail, hreads', hstops⟩
    · have hwhole : whole = _ := scan_append_feed_of_reads hreads hreads' filename line
      have hbelow : below.fault? = none := by
        rw [show below = _ from scan_of_reads hreads' _ _]
      refine ⟨by rw [hwhole, hbelow], by rw [Scan.report?, Scan.report?, hwhole, hbelow], ?_⟩
      simp only [hwhole, hbelow, true_and, below, forall_kind_eq_eof_iff hreads']
    · have hwhole : whole = _ := scan_append_feed_of_stops hreads hreads' hstops filename line
      have hbelow : below.fault? ≠ none := by
        rw [show below = _ from scan_of_stops hreads' hstops _ _]
        simp
      refine ⟨by rw [hwhole], by rw [Scan.report?, Scan.report?, hwhole], ?_⟩
      rw [if_neg fun h => hbelow h.1, hwhole]
  · simp [scan_of_stops hreads hstops] at habove

/-- Only a blank is below a call; an open literal is below a number with a letter behind it. -/
theorem scan_append_feed_call :
    (scan ("f()" ++ "\n" ++ "\t") "input" 4).tokens = (scan "f()" "input" 4).tokens ∧
      scan ("1x" ++ "\n" ++ "\"") "input" 4 = scan "1x" "input" 4 := by
  constructor
  · have hsize : (scan "f()" "input" 4).tokens.length = 4 := by decide +kernel
    obtain ⟨tokens, eof, habove, -, -, -, -, hwhole⟩ :=
      (scan_append_feed "f()" "\t" "input" 4).1 (by decide +kernel)
    have hne : tokens ≠ [] := by
      rintro rfl
      simp [habove] at hsize
    rw [hwhole, if_pos ⟨by decide +kernel, by decide +kernel, hne⟩, habove]
  · have hdetail : (scan "1x" "input" 4).fault?.map Fault.detail =
        some "unexpected 'x' after integer literal" := by decide +kernel
    obtain ⟨fault, hfault, hfault'⟩ := Option.map_eq_some_iff.mp hdetail
    exact (scan_append_feed "1x" "\"" "input" 4).2 fault hfault (by rw [hfault']; decide)

end Lexis
