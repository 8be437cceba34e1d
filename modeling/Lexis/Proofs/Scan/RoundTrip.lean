import Lexis.Proofs.Scan.Front
import Lexis.Proofs.Scan.Language
import Mathlib.Data.Set.List

/-!
# Scan — printing and reading back

An `Item` is what a token may say: a kind, and a value that tokens of the kind carry
(`Kind.Carries`).  A `Printout` is a list of items with blanks in front of each and behind the
last, some at least between two words.  Its source spells each item as it stands, a string between
quotes with every quote and every escape character escaped.

**A printout is read back exactly, and whatever is read is a list of items**
(`tokenize_printout`).
-/

namespace Lexis

/-! ### Items -/

/-- The values that tokens of a kind carry. -/
def Kind.Carries : Kind → String → Prop
  | .eof,        _ => False
  | .integer,    v => v.toList ≠ [] ∧ ∀ c ∈ v.toList, c.isDigit = true
  | .identifier, v => ∃ first others, v.toList = first :: others ∧
      (first.isAlpha = true ∨ first = '_') ∧ ∀ c ∈ others, c.isAlphanum = true ∨ c = '_'
  | .string,     _ => True
  | .semicolon,  v => v = ";"
  | .lparen,     v => v = "("
  | .rparen,     v => v = ")"
  | .comma,      v => v = ","
  | .lbrace,     v => v = "\x7b"
  | .rbrace,     v => v = "\x7d"

/-- What a token may say. -/
structure Item where
  kind    : Kind
  value   : String
  carries : kind.Carries value

/-- A text with every quote and every escape character escaped. -/
def Literal.escaped (text : List Char) : List Char :=
  text.flatMap fun c => if c = quote ∨ c = escape then [escape, c] else [c]

namespace Item

def pair (i : Item) : Kind × String :=
  (i.kind, i.value)

/-- The spelling of an item. -/
def text (i : Item) : List Char :=
  if i.kind = .string then quote :: (Literal.escaped i.value.toList ++ [quote])
  else i.value.toList

end Item

/-- An escaped text is made of pieces, and decodes to the text. -/
theorem Literal.exists_pieces_escaped (text : List Char) :
    ∃ pieces, sources pieces = escaped text ∧ decodings pieces = text := by
  induction text with
  | nil => exact ⟨[], rfl, rfl⟩
  | cons c text ih =>
      obtain ⟨pieces, hsources, hdecodings⟩ := ih
      rw [escaped, List.flatMap_cons, ← escaped, ← hsources]
      by_cases hc : c = quote ∨ c = escape
      · have hn : c ≠ 'n' := by rcases hc with rfl | rfl <;> decide
        exact ⟨.escaped 0 c hn :: pieces, by simp [Piece.source, hc],
          by simp [Piece.decoded, hdecodings]⟩
      · exact ⟨.plain c (not_or.mp hc) :: pieces, by simp [Piece.source, hc],
          by simp [Piece.decoded, hdecodings]⟩

/-- The spelling of an item is a lexeme that says what the item does. -/
theorem Item.exists_lexeme (i : Item) :
    ∃ x : Lexeme, x.text = i.text ∧ x.pair? = some i.pair ∧ (x.IsWord ↔ i.kind.isWord = true) := by
  have mark : ∀ m : Mark, i.kind = m.kind → i.value = String.singleton m.char →
      ∃ x : Lexeme, x.text = i.text ∧ x.pair? = some i.pair ∧
        (x.IsWord ↔ i.kind.isWord = true) := by
    intro m hkind hvalue
    refine ⟨.filler (.mark m), ?_, by rw [pair, hkind, hvalue]; rfl, ?_⟩
    · rw [text, hkind, hvalue]
      cases m <;> rfl
    · rw [hkind]
      cases m <;> simp [Lexeme.IsWord, Mark.kind, Kind.isWord]
  obtain ⟨kind, value, h⟩ := i
  cases kind with
  | eof => exact h.elim
  | integer =>
      exact ⟨.word (.integer value.toList h.1 h.2), rfl,
        by simp [Lexeme.pair?, Word.kind, Word.value, pair], by simp [Lexeme.IsWord, Kind.isWord]⟩
  | identifier =>
      obtain ⟨first, others, hvalue, hfirst, hothers⟩ := h
      refine ⟨.word (.identifier first others hfirst hothers), hvalue.symm, ?_,
        by simp [Lexeme.IsWord, Kind.isWord]⟩
      simp [Lexeme.pair?, Word.kind, Word.value, pair, ← hvalue]
  | string =>
      obtain ⟨pieces, hsources, hdecodings⟩ := Literal.exists_pieces_escaped value.toList
      refine ⟨.word (.literal pieces), ?_, ?_, by simp [Lexeme.IsWord, Kind.isWord]⟩
      · simp [Lexeme.text, Word.text, text, hsources]
      · simp [Lexeme.pair?, Word.kind, Word.value, pair, hdecodings]
  | semicolon => exact mark .semicolon rfl h
  | lparen => exact mark .lparen rfl h
  | rparen => exact mark .rparen rfl h
  | comma => exact mark .comma rfl h
  | lbrace => exact mark .lbrace rfl h
  | rbrace => exact mark .rbrace rfl h

/-- What a lexeme says, an item may say. -/
theorem Lexeme.carries_of_pair? {x : Lexeme} {pair : Kind × String} (h : x.pair? = some pair) :
    pair.1.Carries pair.2 := by
  match x with
  | .filler (.blank c hc) => simp [pair?] at h
  | .filler (.mark m) =>
      obtain rfl : (m.kind, String.singleton m.char) = pair := by simpa [pair?] using h
      cases m <;> rfl
  | .word w =>
      obtain rfl : (w.kind, w.value) = pair := by simpa [pair?] using h
      cases w with
      | integer digits ne hd => simpa [Kind.Carries, Word.kind, Word.value] using ⟨ne, hd⟩
      | identifier first others hf ho =>
          exact ⟨first, others, by simp [Word.value], hf, ho⟩
      | literal pieces => trivial

/-! ### Printouts -/

/-- Items to be printed, with the gap in front of each, and the gap behind the last. -/
structure Printout where
  items : List (List Char × Item)
  last  : List Char
  /-- The gaps are blank. -/
  blank : ∀ gap ∈ last :: items.map Prod.fst, ∀ c ∈ gap, c ∈ [' ', '\t', '\n', '\r']
  /-- Between two words the gap is not empty. -/
  apart : items.IsChain fun x y => x.2.kind.isWord = true → y.2.kind.isWord = true → y.1 ≠ []

namespace Printout

/-- Items as they are printed. -/
def texts (items : List (List Char × Item)) (last : List Char) : List Char :=
  items.flatMap (fun x => x.1 ++ x.2.text) ++ last

/-- The text of a printout. -/
def source (p : Printout) : String :=
  String.ofList (texts p.items p.last)

/-- The kinds and values printed. -/
def pairs (p : Printout) : List (Kind × String) :=
  p.items.map fun x => x.2.pair

/-- Blanks in front of a text that is read are read. -/
theorem reads_blanks {gap text rest : List Char} {xs : List Lexeme} (hgap : AllSpace gap)
    (h : Reads text xs rest) :
    ∃ ys, Reads (gap ++ text) ys rest ∧ Lexeme.pairs ys = Lexeme.pairs xs := by
  induction gap with
  | nil => exact ⟨xs, h, rfl⟩
  | cons c gap ih =>
      obtain ⟨hc, hgap⟩ := List.forall_mem_cons.mp hgap
      obtain ⟨ys, hys, hpairs⟩ := ih hgap
      have hblank : Lexeme.IsWord (.filler (.blank c hc)) → Follows (gap ++ text) := False.elim
      exact ⟨.filler (.blank c hc) :: ys, .more hblank hys, hpairs⟩

/-- What is printed behind a word may follow it: a blank of the gap, or the mark next to it. -/
theorem follows_texts {x : List Char × Item} {items : List (List Char × Item)} {last : List Char}
    (hword : x.2.kind.isWord = true)
    (hblank : ∀ gap ∈ last :: items.map Prod.fst, AllSpace gap)
    (hapart : ∀ y ∈ items.head?, x.2.kind.isWord = true → y.2.kind.isWord = true → y.1 ≠ []) :
    Follows (texts items last) := by
  have hgap : ∀ gap text, AllSpace gap → (gap = [] → Follows text) → Follows (gap ++ text) := by
    intro gap text hgap htext
    cases gap with
    | nil => exact htext rfl
    | cons c gap =>
        intro d hd
        obtain rfl : c = d := by simpa using hd
        exact .inl (isSpace_iff.mpr (hgap c List.mem_cons_self))
  cases items with
  | nil => simpa [texts] using hgap last [] (hblank last List.mem_cons_self) (by simp [Follows])
  | cons y items =>
      rw [texts, List.flatMap_cons, List.append_assoc, List.append_assoc]
      refine hgap y.1 _ (hblank y.1 (by simp)) fun hnil => ?_
      -- the next item stands directly behind the word, so it must be a mark
      obtain ⟨z, htext, -, hz⟩ := y.2.exists_lexeme
      rw [← htext]
      cases z with
      | word w => exact absurd hnil (hapart y rfl hword (hz.mp trivial))
      | filler f =>
          intro d hd
          obtain rfl : f.char = d := by simpa [Lexeme.text] using hd
          exact f.isFollower

/-- **What is printed is read**, and says what the items do. -/
theorem exists_reads_texts {items : List (List Char × Item)} {last : List Char}
    (hblank : ∀ gap ∈ last :: items.map Prod.fst, AllSpace gap)
    (hapart : items.IsChain fun x y =>
      x.2.kind.isWord = true → y.2.kind.isWord = true → y.1 ≠ []) :
    ∃ xs, Reads (texts items last) xs [] ∧
      Lexeme.pairs xs = items.map fun x => x.2.pair := by
  induction items with
  | nil =>
      obtain ⟨xs, hreads, hpairs⟩ := reads_blanks (hblank last List.mem_cons_self) (.done [])
      exact ⟨xs, by simpa [texts] using hreads, hpairs⟩
  | cons x items ih =>
      obtain ⟨hhead, htail⟩ := List.isChain_cons.mp hapart
      have hblank' : ∀ gap ∈ last :: items.map Prod.fst, AllSpace gap := fun gap hgap =>
        hblank gap (by
          rw [List.map_cons, List.mem_cons, List.mem_cons]
          exact (List.mem_cons.mp hgap).imp id .inr)
      obtain ⟨xs, hreads, hpairs⟩ := ih hblank' htail
      obtain ⟨z, htext, hpair, hz⟩ := x.2.exists_lexeme
      have hfollows : z.IsWord → Follows (texts items last) := fun hw =>
        follows_texts (hz.mp hw) hblank' hhead
      obtain ⟨ys, hys, hpairs'⟩ := reads_blanks (hblank x.1 (by simp)) (.more hfollows hreads)
      refine ⟨ys, ?_, ?_⟩
      · rw [texts, List.flatMap_cons, List.append_assoc, List.append_assoc, ← htext]
        exact hys
      · rw [hpairs', Lexeme.pairs, List.filterMap_cons, hpair, ← Lexeme.pairs, hpairs]
        rfl

end Printout

/-! ### The round trip -/

/-- The closing mark says nothing. -/
theorem pair_closingMark (filename : String) (line : Int) (source : List Char)
    (tokens : List Token) : (closingMark filename line source tokens).pair = (.eof, "") := by
  unfold closingMark
  split <;> rfl

/-- The tokens of a source that is read say what its lexemes do. -/
theorem exists_tokenize_of_reads {source : String} {xs : List Lexeme}
    (h : Reads source.toList xs []) (filename : String) (line : Int) :
    ∃ tokens, tokenize source filename line = .ok tokens ∧
      tokens.map Token.pair = Lexeme.pairs xs ++ [(.eof, "")] := by
  refine ⟨_, tokenize_of_reads h filename line, ?_⟩
  rw [List.map_append, Lexeme.map_pair_tokens, List.map_singleton, pair_closingMark]

/-- **Printing and reading back.**  The tokens of a printout say what its items do, whatever gaps
it has, and then comes the end of the file.  Conversely the tokens of any source that tokenizes say
what some items do. -/
theorem tokenize_printout (filename : String) (line : Int) :
    (∀ p : Printout, ∃ tokens, tokenize p.source filename line = .ok tokens ∧
      tokens.map Token.pair = p.pairs ++ [(.eof, "")]) ∧
    ∀ source tokens, tokenize source filename line = .ok tokens →
      ∃ items : List Item, tokens.map Token.pair = items.map Item.pair ++ [(.eof, "")] := by
  refine ⟨fun p => ?_, fun source tokens htokens => ?_⟩
  · obtain ⟨xs, hreads, hpairs⟩ := Printout.exists_reads_texts p.blank p.apart
    have hsource : Reads p.source.toList xs [] := by
      rwa [Printout.source, String.toList_ofList]
    obtain ⟨tokens, htokens, hsay⟩ := exists_tokenize_of_reads hsource filename line
    exact ⟨tokens, htokens, by rw [hsay, hpairs, Printout.pairs]⟩
  · obtain ⟨xs, hreads⟩ := tokenizes_iff.mp ⟨tokens, htokens⟩
    obtain ⟨tokens', htokens', hsay⟩ := exists_tokenize_of_reads hreads filename line
    obtain rfl : tokens = tokens' := Except.ok.inj (htokens.symm.trans htokens')
    rw [hsay]
    -- each pair comes from a lexeme, and what a lexeme says is an item's pair
    have hrange : Lexeme.pairs xs ∈ Set.range (List.map Item.pair) := by
      rw [Set.range_list_map]
      intro pair hpair
      obtain ⟨x, -, hx⟩ := List.mem_filterMap.mp hpair
      exact ⟨⟨pair.1, pair.2, Lexeme.carries_of_pair? hx⟩, rfl⟩
    obtain ⟨items, hitems⟩ := hrange
    exact ⟨items, by rw [hitems]⟩

/-- A literal whose text holds an escape character in front of an `n`, between two marks. -/
theorem tokenize_printout_call :
    ∃ tokens, tokenize "f(\"\\\\n\\\"\n\" \t7)\n" "input" 0 = .ok tokens ∧
      tokens.map Token.pair = [(.identifier, "f"), (.lparen, "("), (.string, "\\n\"\n"),
        (.integer, "7"), (.rparen, ")"), (.eof, "")] ∧
      ∃ items : List Item, tokens.map Token.pair = items.map Item.pair ++ [(.eof, "")] := by
  let p : Printout :=
    ⟨[([], ⟨.identifier, "f", 'f', [], by simp, by decide, by simp⟩),
      ([], ⟨.lparen, "(", rfl⟩), ([], ⟨.string, "\\n\"\n", trivial⟩),
      ([' ', '\t'], ⟨.integer, "7", by simp, by simp⟩), ([], ⟨.rparen, ")", rfl⟩)], ['\n'],
      by simp, by simp [Kind.isWord]⟩
  have hsource : p.source = "f(\"\\\\n\\\"\n\" \t7)\n" := by decide
  obtain ⟨tokens, htokens, hsay⟩ := (tokenize_printout "input" 0).1 p
  rw [hsource] at htokens
  exact ⟨tokens, htokens, hsay, (tokenize_printout "input" 0).2 _ _ htokens⟩

end Lexis
