import Lexis.Proofs.Scan.Run
import Lexis.Proofs.Text.Slice

/-!
# Scan — spans

The position of a token denotes an offset of the source (`Position.offsetIn`): the offset of its
line and its column.  `Tiles source line low tokens high` says that the source from `low` up to
`high` is made of the spans of the tokens, in order, and spaces; each token `Fits` its span.

**Spans are faithful and lossless** (`scan_tiles`).  The tokens of a scan that succeeds tile its
source; those of a scan that fails tile it up to a place not behind the fault.
-/

namespace Lexis

/-- A text of spaces only. -/
def AllSpace (text : List Char) : Prop :=
  ∀ c ∈ text, c ∈ [' ', '\t', '\n', '\r']

/-- The position is a place of the text: on one of its lines, not behind the line's end. -/
def Position.IsPlace (text : List Char) (line : Int) (p : Position) : Prop :=
  line ≤ p.line ∧ p.index = p.column ∧ 0 ≤ p.column ∧
    ∃ l, (Text.lines text)[(p.line - line).toNat]? = some l ∧ p.column ≤ l.length

namespace Token

/-- The offset at which a token starts. -/
def startIn (source : List Char) (line : Int) (t : Token) : Int :=
  t.start.offsetIn source line

/-- The offset at which a token stops. -/
def stopIn (source : List Char) (line : Int) (t : Token) : Int :=
  t.stop.offsetIn source line

/-- The text is the lexeme of a token: a literal that decodes to its value, or the value itself. -/
def IsSpelled (t : Token) (text : List Char) : Prop :=
  if t.kind = .string then
    ∃ pieces, text = quote :: (Literal.sources pieces ++ [quote]) ∧
      t.value = String.ofList (Literal.decodings pieces)
  else text = t.value.toList

/-- A token fits its source: it spans a lexeme of its own there, and it keeps the line it starts
on. -/
structure Fits (source : List Char) (line : Int) (t : Token) : Prop where
  start    : t.start.IsPlace source line
  stop     : t.stop.IsPlace source line
  nonempty : t.startIn source line < t.stopIn source line
  spelled  : t.IsSpelled (Text.slice source (t.startIn source line) (t.stopIn source line))
  lineText : (Text.lines source)[(t.start.line - line).toNat]? = some t.lineText.toList

end Token

/-- The source between two offsets is made of spaces and of the spans of tokens, in order. -/
def Tiles (source : List Char) (line : Int) : Int → List Token → Int → Prop
  | low, [],          high => low ≤ high ∧ AllSpace (Text.slice source low high)
  | low, t :: tokens, high =>
    low ≤ t.startIn source line ∧ AllSpace (Text.slice source low (t.startIn source line)) ∧
      t.Fits source line ∧ Tiles source line (t.stopIn source line) tokens high

/-- The source between two offsets, cut where tokens start and stop and put together again. -/
def interleaving (source : List Char) (line : Int) : Int → List Token → Int → List Char
  | low, [],          high => Text.slice source low high
  | low, t :: tokens, high =>
    Text.slice source low (t.startIn source line) ++
      (Text.slice source (t.startIn source line) (t.stopIn source line) ++
        interleaving source line (t.stopIn source line) tokens high)

/-! ### Tiling -/

namespace Tiles

variable {source : List Char} {line : Int}

theorem low_le_high {tokens : List Token} {low high : Int}
    (h : Tiles source line low tokens high) : low ≤ high := by
  induction tokens generalizing low with
  | nil => exact h.1
  | cons t tokens ih =>
      obtain ⟨hlow, -, hfits, htail⟩ := h
      have := ih htail
      have := hfits.nonempty
      omega

/-- Spaces in front of tiles. -/
theorem spaces {tokens : List Token} {low mid : Nat} {high : Int} (hle : low ≤ mid)
    (hspace : AllSpace (Text.slice source low mid)) (h : Tiles source line mid tokens high) :
    Tiles source line low tokens high := by
  have join : ∀ stop : Int, (mid : Int) ≤ stop → AllSpace (Text.slice source mid stop) →
      AllSpace (Text.slice source low stop) := by
    intro stop hstop hrest c hc
    obtain ⟨n, rfl⟩ := Int.eq_ofNat_of_zero_le (show 0 ≤ stop by omega)
    rw [← Text.slice_append_slice hle (show mid ≤ n by omega)] at hc
    exact (List.mem_append.mp hc).elim (hspace c) (hrest c)
  cases tokens with
  | nil => exact ⟨by have := h.1; omega, join high h.1 h.2⟩
  | cons t tokens =>
      obtain ⟨hstart, hblank, hfits, htail⟩ := h
      exact ⟨by omega, join _ hstart hblank, hfits, htail⟩

/-- Tokens that tile stop before the end of the tiles. -/
theorem stopIn_le {tokens : List Token} {low high : Int} (h : Tiles source line low tokens high) :
    ∀ t ∈ tokens, t.stopIn source line ≤ high := by
  induction tokens generalizing low with
  | nil => simp
  | cons t tokens ih =>
      obtain ⟨-, -, -, htail⟩ := h
      rw [List.forall_mem_cons]
      exact ⟨htail.low_le_high, ih htail⟩

theorem fits {tokens : List Token} {low high : Int} (h : Tiles source line low tokens high) :
    ∀ t ∈ tokens, t.Fits source line := by
  induction tokens generalizing low with
  | nil => simp
  | cons t tokens ih =>
      obtain ⟨-, -, hfits, htail⟩ := h
      rw [List.forall_mem_cons]
      exact ⟨hfits, ih htail⟩

/-- Tiles make up the source. -/
theorem interleaving_eq {tokens : List Token} {low high : Nat}
    (h : Tiles source line low tokens high) :
    interleaving source line low tokens high = Text.slice source low high := by
  induction tokens generalizing low with
  | nil => rfl
  | cons t tokens ih =>
      obtain ⟨hlow, -, hfits, htail⟩ := h
      have hne := hfits.nonempty
      have hhigh := htail.low_le_high
      obtain ⟨start, hstart⟩ := Int.eq_ofNat_of_zero_le
        (show 0 ≤ t.startIn source line by omega)
      obtain ⟨stop, hstop⟩ := Int.eq_ofNat_of_zero_le (show 0 ≤ t.stopIn source line by omega)
      rw [hstop] at htail
      rw [interleaving, hstart, hstop, ih htail,
        Text.slice_append_slice (by omega) (by omega),
        Text.slice_append_slice (by omega) (by omega)]

end Tiles

/-! ### The tokens of lexemes tile them -/

/-- The position behind a part of a text is a place of the text. -/
theorem Position.isPlace_behind (line : Int) (before after : List Char) :
    (behind line before).IsPlace (before ++ after) line := by
  refine ⟨by rw [behind_line]; omega, rfl, by rw [behind_column]; omega,
    Text.lastLine before ++ Text.firstLine after, ?_, ?_⟩
  · rw [toNat_behind_line_sub, Text.getElem?_lines]
  · rw [behind_column, List.length_append]
    omega

namespace Lexeme

variable {filename : String} {line : Int} {before after : List Char} {x : Lexeme} {t : Token}

theorem token?_eq_some (h : x.token? filename line before after = some t) :
    x.pair? = some (t.kind, t.value) ∧ t.filename = filename ∧
      t.lineText = String.ofList (Text.lastLine before ++ Text.firstLine (x.text ++ after)) ∧
      t.start = .behind line before ∧ t.stop = .behind line (before ++ x.text) := by
  obtain ⟨⟨kind, value⟩, hpair, rfl⟩ := Option.map_eq_some_iff.mp h
  exact ⟨hpair, rfl, rfl, rfl, rfl⟩

/-- A lexeme without a token is a space. -/
theorem allSpace_of_pair? (h : x.pair? = none) : AllSpace x.text := by
  match x with
  | .filler (.blank c hc) =>
      intro d hd
      obtain rfl : d = c := List.mem_singleton.mp hd
      exact hc
  | .filler (.mark m) => simp [pair?] at h
  | .word w => simp [pair?] at h

/-- A lexeme spells the token it makes, which is not the end of the file. -/
theorem isSpelled_of_pair? (h : x.pair? = some (t.kind, t.value)) :
    t.IsSpelled x.text ∧ t.kind ≠ .eof := by
  obtain ⟨kind, value, filename, lineText, start, stop⟩ := t
  match x with
  | .filler (.blank c hc) => simp [pair?] at h
  | .filler (.mark m) =>
      obtain ⟨rfl, rfl⟩ : m.kind = kind ∧ String.singleton m.char = value := by
        simpa [pair?] using h
      cases m <;> simp [Token.IsSpelled, Mark.kind, text, Filler.char]
  | .word w =>
      obtain ⟨rfl, rfl⟩ : w.kind = kind ∧ w.value = value := by simpa [pair?] using h
      cases w with
      | integer => simp [Token.IsSpelled, Word.kind, Word.value, text, Word.text]
      | identifier => simp [Token.IsSpelled, Word.kind, Word.value, text, Word.text]
      | literal pieces =>
          simp only [Token.IsSpelled, Word.kind, if_true]
          exact ⟨⟨pieces, rfl, rfl⟩, by simp⟩

/-- The token of a lexeme spans it. -/
theorem offsets_of_token? (h : x.token? filename line before after = some t) :
    t.startIn (before ++ (x.text ++ after)) line = before.length ∧
      t.stopIn (before ++ (x.text ++ after)) line = (before ++ x.text).length := by
  obtain ⟨-, -, -, hstart, hstop⟩ := token?_eq_some h
  constructor
  · rw [Token.startIn, hstart, Position.offsetIn_behind]
  · rw [Token.stopIn, hstop, ← List.append_assoc, Position.offsetIn_behind]

/-- The token of a lexeme fits the source. -/
theorem fits_of_token? (h : x.token? filename line before after = some t) :
    t.Fits (before ++ (x.text ++ after)) line := by
  obtain ⟨hpair, -, hline, hstart, hstop⟩ := token?_eq_some h
  obtain ⟨hlow, hhigh⟩ := offsets_of_token? h
  constructor
  · rw [hstart]
    exact Position.isPlace_behind line before (x.text ++ after)
  · rw [hstop, ← List.append_assoc]
    exact Position.isPlace_behind line (before ++ x.text) after
  · have := List.length_pos_iff.mpr x.text_ne_nil
    rw [hlow, hhigh, List.length_append]
    omega
  · rw [hlow, hhigh, ← List.append_assoc, Text.slice_append]
    exact (isSpelled_of_pair? hpair).1
  · rw [hstart, Position.toNat_behind_line_sub, Text.getElem?_lines, hline, String.toList_ofList]

/-- **The tokens of lexemes tile them.** -/
theorem tiles_tokens (filename : String) (line : Int) (before : List Char) (xs : List Lexeme)
    (after : List Char) :
    Tiles (before ++ (texts xs ++ after)) line before.length
      (tokens filename line before xs after) (before ++ texts xs).length := by
  induction xs generalizing before with
  | nil =>
      rw [texts_nil, List.append_nil]
      exact ⟨Int.le_refl _, by rw [Text.slice_self]; simp [AllSpace]⟩
  | cons x xs ih =>
      have htail := ih (before ++ x.text)
      have hsource : before ++ x.text ++ (texts xs ++ after) =
          before ++ (x.text ++ (texts xs ++ after)) := List.append_assoc _ _ _
      have hend : before ++ x.text ++ texts xs = before ++ texts (x :: xs) := by simp
      rw [hend, hsource] at htail
      rw [texts_cons, List.append_assoc, tokens]
      rw [texts_cons] at htail
      cases htoken : x.token? filename line before (texts xs ++ after) with
      | none =>
          have hspace := allSpace_of_pair? (Option.map_eq_none_iff.mp htoken)
          rw [Option.toList_none, List.nil_append]
          refine htail.spaces (by simp) ?_
          rwa [← hsource, Text.slice_append]
      | some t =>
          obtain ⟨hlow, hhigh⟩ := offsets_of_token? htoken
          rw [Option.toList_some, List.singleton_append, Tiles, hlow, hhigh]
          exact ⟨Int.le_refl _, by rw [Text.slice_self]; simp [AllSpace], fits_of_token? htoken,
            htail⟩

/-- A token of lexemes is the token of one of them. -/
theorem exists_of_mem_tokens {xs : List Lexeme} (h : t ∈ tokens filename line before xs after) :
    ∃ ys x zs, xs = ys ++ x :: zs ∧
      x.token? filename line (before ++ texts ys) (texts zs ++ after) = some t := by
  induction xs generalizing before with
  | nil => exact absurd h List.not_mem_nil
  | cons x xs ih =>
      rw [tokens, List.mem_append, Option.mem_toList] at h
      rcases h with h | h
      · exact ⟨[], x, xs, rfl, by rwa [texts_nil, List.append_nil]⟩
      · obtain ⟨ys, y, zs, rfl, hy⟩ := ih h
        exact ⟨x :: ys, y, zs, rfl, by rwa [texts_cons, ← List.append_assoc]⟩

/-- No lexeme makes an end-of-file token. -/
theorem kind_ne_eof_of_mem_tokens (filename : String) (line : Int) (before : List Char)
    (xs : List Lexeme) (after : List Char) :
    ∀ t ∈ tokens filename line before xs after, t.kind ≠ .eof := by
  intro t ht
  obtain ⟨ys, x, zs, -, hx⟩ := exists_of_mem_tokens ht
  exact (isSpelled_of_pair? (token?_eq_some hx).1).2

end Lexeme

/-! ### The tokens of a scan -/

/-- The positions of a token are places of a text. -/
def Token.IsPlaced (text : List Char) (line : Int) (t : Token) : Prop :=
  t.start.IsPlace text line ∧ t.stop.IsPlace text line

/-- The tokens of lexemes are placed in the text they are read from. -/
theorem Reads.isPlaced_of_mem_tokens {text rest : List Char} {xs : List Lexeme}
    (h : Reads text xs rest) (filename : String) (line : Int) :
    ∀ t ∈ Lexeme.tokens filename line [] xs rest, t.IsPlaced text line := by
  have htiles := Lexeme.tiles_tokens filename line [] xs rest
  rw [List.nil_append, ← h.text_eq] at htiles
  exact fun t ht => ⟨(htiles.fits t ht).start, (htiles.fits t ht).stop⟩

/-- **Every token of a scan is placed in its source**, the last one too. -/
theorem isPlaced_of_mem_scan (source filename : String) (line : Int) :
    ∀ t ∈ (scan source filename line).tokens, t.IsPlaced source.toList line := by
  rcases scan_cases source with ⟨xs, hreads⟩ | ⟨xs, rest, n, kind, detail, hreads, hstops⟩
  · have htokens := hreads.isPlaced_of_mem_tokens filename line
    rw [scan_of_reads hreads, List.forall_mem_append, List.forall_mem_singleton]
    refine ⟨htokens, ?_⟩
    -- the mark is at the end of the last token, or of the source
    rw [closingMark]
    split
    · rename_i last hlast
      have hstop := (htokens last (List.mem_of_getLast? hlast)).2
      exact ⟨hstop, hstop⟩
    · have hend := Position.isPlace_behind line source.toList []
      rw [List.append_nil] at hend
      exact ⟨hend, hend⟩
  · rw [scan_of_stops hreads hstops, List.forall_mem_append, List.forall_mem_singleton]
    refine ⟨hreads.isPlaced_of_mem_tokens filename line, ?_⟩
    have hplace := Position.isPlace_behind line (Lexeme.texts xs ++ rest.take n) (rest.drop n)
    rw [List.append_assoc, List.take_append_drop, ← hreads.text_eq] at hplace
    rw [stopFault_anchor]
    exact ⟨hplace, hplace⟩

/-- The anchor of a fault is a token of the scan. -/
theorem anchor_mem_scan {source filename : String} {line : Int} {fault : Fault}
    (h : (scan source filename line).fault? = some fault) :
    fault.anchor ∈ (scan source filename line).tokens := by
  rcases scan_cases source with ⟨xs, hreads⟩ | ⟨xs, rest, n, kind, detail, hreads, hstops⟩
  · simp [scan_of_reads hreads] at h
  · rw [scan_of_stops hreads hstops] at h ⊢
    obtain rfl := Option.some.inj h
    exact List.mem_append_right _ (List.mem_singleton_self _)

/-- **Spans are faithful and lossless.**  A scan answers with tokens and an end-of-file token.  The
tokens of a scan that succeeds tile its source, and their spans and the spaces around them make it
up.  Those of a scan that fails tile it up to an offset not behind the anchor of the fault, which
keeps the line it stands on. -/
theorem scan_tiles (source filename : String) (line : Int) :
    ∃ tokens last, (scan source filename line).tokens = tokens ++ [last] ∧ last.kind = .eof ∧
      (∀ t ∈ tokens, t.kind ≠ .eof) ∧
      match (scan source filename line).fault? with
      | none =>
        Tiles source.toList line 0 tokens source.toList.length ∧
          interleaving source.toList line 0 tokens source.toList.length = source.toList
      | some fault =>
        last = fault.anchor ∧ last.start.IsPlace source.toList line ∧
          (Text.lines source.toList)[(last.start.line - line).toNat]? = some last.lineText.toList ∧
          last.startIn source.toList line ≤ source.toList.length ∧
          (∀ t ∈ tokens, t.stopIn source.toList line ≤ last.startIn source.toList line) ∧
          ∃ high ≤ last.startIn source.toList line, Tiles source.toList line 0 tokens high := by
  rcases scan_cases source with ⟨xs, hreads⟩ | ⟨xs, rest, n, kind, detail, hreads, hstops⟩
  · have htiles := Lexeme.tiles_tokens filename line [] xs []
    rw [List.append_nil, List.nil_append, ← (reads_nil_iff.mp hreads).1] at htiles
    rw [scan_of_reads hreads]
    refine ⟨_, _, rfl, closingMark_kind _ _ _ _, Lexeme.kind_ne_eof_of_mem_tokens _ _ _ _ _,
      htiles, ?_⟩
    have hall : interleaving source.toList line (0 : Nat) _ source.toList.length = _ :=
      Tiles.interleaving_eq htiles
    rwa [Text.slice_natCast, List.take_length, List.drop_zero] at hall
  · have htiles := Lexeme.tiles_tokens filename line [] xs rest
    rw [List.nil_append, List.nil_append, ← hreads.text_eq] at htiles
    rw [scan_of_stops hreads hstops]
    have hsource : source.toList = Lexeme.texts xs ++ rest.take n ++ rest.drop n := by
      rw [hreads.text_eq, List.append_assoc, List.take_append_drop]
    have hlow : (Lexeme.texts xs).length ≤ (Lexeme.texts xs ++ rest.take n).length := by simp
    generalize Lexeme.texts xs ++ rest.take n = before at hsource hlow
    have hoffset : (stopFault filename line before (rest.drop n) kind detail).anchor.startIn
        source.toList line = before.length := by
      rw [stopFault_anchor, hsource]
      exact Position.offsetIn_behind line before _
    refine ⟨_, _, rfl, by simp [Token.mark], Lexeme.kind_ne_eof_of_mem_tokens _ _ _ _ _, rfl, ?_,
      ?_, ?_, ?_, (Lexeme.texts xs).length, ?_, htiles⟩
    · rw [stopFault_anchor, hsource]
      exact Position.isPlace_behind line before _
    · rw [stopFault_anchor, hsource]
      simp only [Token.mark, Position.toNat_behind_line_sub, Text.getElem?_lines,
        String.toList_ofList]
    · rw [hoffset, hsource, List.length_append]
      omega
    · intro t ht
      rw [hoffset]
      exact Int.le_trans (htiles.stopIn_le t ht) (by omega)
    · rw [hoffset]
      omega

end Lexis
