import Lexis.Proofs.Scan.Turn
import Lexis.Scanner

/-!
# Scan — a whole scan

A scan of a source that is read to its end answers with the tokens of the lexemes read, closed by a
mark (`scan_of_reads`).  A scan of a source that stops answers with the tokens of the lexemes read
up to there, the anchor of the fault, and the fault (`scan_of_stops`).  Every source is of one of
the two sorts (`scan_cases`), so a source tokenizes exactly when it is read to its end
(`tokenizes_iff`).
-/

namespace Lexis

/-! ### The tokens of lexemes -/

/-- The tokens of lexemes between two parts of a source. -/
def Lexeme.tokens (filename : String) (line : Int) :
    (before : List Char) → (xs : List Lexeme) → (after : List Char) → List Token
  | _,      [],      _     => []
  | before, x :: xs, after =>
    (x.token? filename line before (Lexeme.texts xs ++ after)).toList ++
      tokens filename line (before ++ x.text) xs after

/-- The mark that closes the tokens of a source read to its end. -/
def closingMark (filename : String) (line : Int) (source : List Char) (tokens : List Token) :
    Token :=
  match tokens.getLast? with
  | some last => .mark last.filename last.lineText last.stop
  | none      => .mark filename (String.ofList (Text.lastLine source)) (.behind line source)

@[simp] theorem closingMark_kind (filename : String) (line : Int) (source : List Char)
    (tokens : List Token) : (closingMark filename line source tokens).kind = .eof := by
  unfold closingMark
  split <;> rfl

/-- The fault of a stop between two parts of a source. -/
def stopFault (filename : String) (line : Int) (before after : List Char) (kind : FaultKind)
    (detail : String) : Fault :=
  (Cursor.between filename line before after).fault kind detail

@[simp] theorem stopFault_anchor (filename : String) (line : Int) (before after : List Char)
    (kind : FaultKind) (detail : String) :
    (stopFault filename line before after kind detail).anchor =
      .mark filename (String.ofList (Text.lastLine before ++ Text.firstLine after))
        (.behind line before) :=
  Token.fault_anchor _ _ _

@[simp] theorem stopFault_kind (filename : String) (line : Int) (before after : List Char)
    (kind : FaultKind) (detail : String) :
    (stopFault filename line before after kind detail).kind = kind :=
  Token.fault_kind _ _ _

/-- The detail of an illegal character is the character, found in its line again. -/
theorem stopFault_illegal_detail {c : Char} (hc : c ≠ '\n') (filename : String) (line : Int)
    (before after : List Char) (detail : String) :
    (stopFault filename line before (c :: after) .illegalCharacter detail).detail =
      Text.quoted (String.singleton c) := by
  have hfirst : Text.firstLine (c :: after) = c :: Text.firstLine after := by
    rw [Text.firstLine, Text.lines_cons hc]
    rfl
  have hat : Text.sliceAt (Text.lastLine before ++ c :: Text.firstLine after)
      ((Text.lastLine before).length : Int) = [c] := by
    rw [Text.sliceAt_of_lt _ _ (by simp)]
    simp
  have hfault : stopFault filename line before (c :: after) .illegalCharacter detail =
      Token.illegalCharacter (.mark filename
        (String.ofList (Text.lastLine before ++ Text.firstLine (c :: after)))
        (.behind line before)) := rfl
  simp only [hfault, Token.illegalCharacter, Token.shownCharacter, Token.mark,
    String.toList_ofList, hfirst, Position.behind_column, hat, String.singleton_eq_ofList]

namespace Scanner

variable {filename : String} {line : Int}

theorem run_of_rest_eq_nil {s : Scanner} (h : s.cursor.rest = []) : s.run = s := by
  rw [run, if_pos (.inl h)]

theorem run_of_isSome {s : Scanner} (h : s.fault?.isSome = true) : s.run = s := by
  rw [run, if_pos (.inr h)]

theorem run_eq_run_next {s : Scanner} (hrest : s.cursor.rest ≠ []) (hfault : s.fault? = none) :
    s.run = s.next.run := by
  rw [run, if_neg (by simp [hrest, hfault])]

/-- A turn at a lexeme adds its token. -/
theorem next_lexeme {x : Lexeme} {before after : List Char} (hx : x.IsWord → Follows after)
    (tokens : List Token) :
    (⟨.between filename line before (x.text ++ after), tokens.toArray, none, false⟩ :
        Scanner).next =
      ⟨.between filename line (before ++ x.text) after,
        (tokens ++ (x.token? filename line before after).toList).toArray, none, false⟩ := by
  rw [next, Cursor.turn_lexeme hx]
  cases x.token? filename line before after with
  | none => simp [take]
  | some token => simp [take]

/-- **A run over lexemes** adds their tokens. -/
theorem run_reads {text rest : List Char} {xs : List Lexeme} (h : Reads text xs rest)
    (filename : String) (line : Int) (before : List Char) (tokens : List Token) :
    (⟨.between filename line before text, tokens.toArray, none, false⟩ : Scanner).run =
      (⟨.between filename line (before ++ Lexeme.texts xs) rest,
        (tokens ++ Lexeme.tokens filename line before xs rest).toArray, none, false⟩ :
          Scanner).run := by
  induction h generalizing before tokens with
  | done text => simp [Lexeme.tokens]
  | @more x xs text rest hx h ih =>
      have hne : x.text ++ text ≠ [] := by simp [x.text_ne_nil]
      rw [run_eq_run_next hne rfl, next_lexeme hx, ih, Lexeme.texts_cons, Lexeme.tokens,
        h.text_eq]
      simp only [List.append_assoc]

/-- A turn at a stop records its fault, and ends the run. -/
theorem run_stops {rest : List Char} {n : Nat} {kind : FaultKind} {detail : String}
    (h : Stops rest n kind detail) (filename : String) (line : Int) (before : List Char)
    (tokens : List Token) :
    let fault := stopFault filename line (before ++ rest.take n) (rest.drop n) kind detail
    ∃ cursor, (⟨.between filename line before rest, tokens.toArray, none, false⟩ : Scanner).run =
      ⟨cursor, (tokens ++ [fault.anchor]).toArray, some fault, false⟩ := by
  have hne : rest ≠ [] := by cases h <;> simp
  have hturn := Cursor.turn_stops h filename line before
  refine ⟨(Cursor.between filename line before rest).turn.cursor, ?_⟩
  rw [run_eq_run_next hne rfl]
  have hnext : (⟨.between filename line before rest, tokens.toArray, none, false⟩ : Scanner).next =
      ⟨(Cursor.between filename line before rest).turn.cursor,
        (tokens ++ [(stopFault filename line (before ++ rest.take n) (rest.drop n) kind
          detail).anchor]).toArray,
        some (stopFault filename line (before ++ rest.take n) (rest.drop n) kind detail),
        false⟩ := by
    rw [next, take, hturn]
    simp [stopFault]
  rw [hnext, run_of_isSome rfl]

end Scanner

/-! ### The outcome of a scan -/

/-- **A source read to its end.** -/
theorem scan_of_reads {source : String} {xs : List Lexeme} (h : Reads source.toList xs [])
    (filename : String) (line : Int) :
    scan source filename line =
      ⟨Lexeme.tokens filename line [] xs [] ++
        [closingMark filename line source.toList (Lexeme.tokens filename line [] xs [])],
        none⟩ := by
  have hrun := (Scanner.run_reads h filename line [] []).trans
    (Scanner.run_of_rest_eq_nil rfl)
  have htext : Lexeme.texts xs = source.toList := by simp [h.text_eq]
  rw [scan, Scanner.ofSource, Cursor.ofSource_eq, Scanner.scan, Scanner.complete,
    if_neg (by simp), Scanner.finish, hrun]
  simp only [Option.isSome_none, Bool.false_eq_true, if_false, Scanner.close, Scanner.closing,
    List.nil_append, htext, closingMark]
  cases hlast : (Lexeme.tokens filename line [] xs []).getLast? with
  | none => simp [hlast]
  | some last => simp [hlast]

/-- **A source that stops.** -/
theorem scan_of_stops {source : String} {xs : List Lexeme} {rest : List Char} {n : Nat}
    {kind : FaultKind} {detail : String} (h : Reads source.toList xs rest)
    (hs : Stops rest n kind detail) (filename : String) (line : Int) :
    let fault := stopFault filename line (Lexeme.texts xs ++ rest.take n) (rest.drop n) kind detail
    scan source filename line =
      ⟨Lexeme.tokens filename line [] xs rest ++ [fault.anchor], some fault⟩ := by
  intro fault
  have hrun := Scanner.run_reads h filename line [] []
  obtain ⟨cursor, hstop⟩ := Scanner.run_stops hs filename line (Lexeme.texts xs)
    (Lexeme.tokens filename line [] xs rest)
  rw [List.nil_append, List.nil_append, hstop] at hrun
  rw [scan, Scanner.ofSource, Cursor.ofSource_eq, Scanner.scan, Scanner.complete,
    if_neg (by simp), Scanner.finish, hrun]
  simp [fault]

/-- **Every scan** reads its source to the end, or stops. -/
theorem scan_cases (source : String) :
    (∃ xs, Reads source.toList xs []) ∨
      ∃ xs rest n kind detail, Reads source.toList xs rest ∧ Stops rest n kind detail := by
  obtain ⟨xs, rest, hreads, rfl | ⟨n, kind, detail, hs⟩⟩ := exists_reads source.toList
  · exact .inl ⟨xs, hreads⟩
  · exact .inr ⟨xs, rest, n, kind, detail, hreads, hs⟩

theorem tokenize_eq (source filename : String) (line : Int) :
    tokenize source filename line =
      match (scan source filename line).fault? with
      | some fault => .error fault
      | none       => .ok (scan source filename line).tokens :=
  rfl

/-- The fault that is answered is the one that stopped the scan. -/
theorem tokenize_eq_error_iff {source filename : String} {line : Int} {fault : Fault} :
    tokenize source filename line = .error fault ↔
      (scan source filename line).fault? = some fault := by
  rw [tokenize_eq]
  cases (scan source filename line).fault? with
  | none => simp
  | some fault' => simp

theorem tokenize_eq_ok_iff {source filename : String} {line : Int} {tokens : List Token} :
    tokenize source filename line = .ok tokens ↔ scan source filename line = ⟨tokens, none⟩ := by
  rw [tokenize_eq]
  obtain ⟨tokens', fault?⟩ := scan source filename line
  cases fault? with
  | none => simp
  | some fault => simp

theorem tokenize_of_reads {source : String} {xs : List Lexeme} (h : Reads source.toList xs [])
    (filename : String) (line : Int) :
    tokenize source filename line =
      .ok (Lexeme.tokens filename line [] xs [] ++
        [closingMark filename line source.toList (Lexeme.tokens filename line [] xs [])]) := by
  rw [tokenize_eq, scan_of_reads h]

theorem tokenize_of_stops {source : String} {xs : List Lexeme} {rest : List Char} {n : Nat}
    {kind : FaultKind} {detail : String} (h : Reads source.toList xs rest)
    (hs : Stops rest n kind detail) (filename : String) (line : Int) :
    tokenize source filename line = .error
      (stopFault filename line (Lexeme.texts xs ++ rest.take n) (rest.drop n) kind detail) := by
  rw [tokenize_eq, scan_of_stops h hs]

/-- The source has tokens. -/
def Tokenizes (source filename : String) (line : Int) : Prop :=
  ∃ tokens, tokenize source filename line = .ok tokens

theorem tokenizes_iff_fault?_eq_none {source filename : String} {line : Int} :
    Tokenizes source filename line ↔ (scan source filename line).fault? = none := by
  rw [Tokenizes, tokenize_eq]
  cases (scan source filename line).fault? <;> simp

/-- **A source tokenizes exactly when it is read to its end.** -/
theorem tokenizes_iff {source filename : String} {line : Int} :
    Tokenizes source filename line ↔ ∃ xs, Reads source.toList xs [] := by
  constructor
  · rintro ⟨tokens, htokens⟩
    rcases scan_cases source with h | ⟨xs, rest, n, kind, detail, hreads, hs⟩
    · exact h
    · rw [tokenize_of_stops hreads hs] at htokens
      simp at htokens
  · rintro ⟨xs, hreads⟩
    exact ⟨_, tokenize_of_reads hreads filename line⟩

end Lexis
