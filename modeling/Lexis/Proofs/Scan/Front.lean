import Lexis.Proofs.Scan.Spans

/-!
# Scan — the front of a source

`front source k` is the source cut short behind its first `k` characters.  Where it tokenizes, its
tokens are those of the lexemes it is read into (`tokensOf_of_reads`), and it ends in a word when
the last of these is one (`wordAtEnd?_of_reads`).  What is cut off shows in its tokens only in the
texts of their lines (`Lexeme.map_unlined_tokens`).
-/

namespace Lexis

/-- A source cut short. -/
def front (source : String) (k : Nat) : String :=
  String.ofList (source.toList.take k)

/-- The tokens of a source in front of the end-of-file token; none where it does not tokenize. -/
def tokensOf (source filename : String) (line : Int) : List Token :=
  match tokenize source filename line with
  | .ok tokens => tokens.dropLast
  | .error _   => []

/-- A token without the text of its line. -/
def Token.unlined (t : Token) : Token :=
  { t with lineText := "" }

/-- The kinds of words. -/
def Kind.isWord : Kind → Bool
  | .integer | .identifier | .string => true
  | _                                => false

/-- The kind of the word that a source ends in: of its last token, where that is a word and stops
where the source does. -/
def wordAtEnd? (source filename : String) (line : Int) : Option Kind :=
  (tokensOf source filename line).getLast?.bind fun t =>
    if t.kind.isWord = true ∧ t.stopIn source.toList line = source.toList.length then some t.kind
    else none

@[simp] theorem toList_front (source : String) (k : Nat) :
    (front source k).toList = source.toList.take k :=
  String.toList_ofList

namespace Lexeme

/-- The kind of a word. -/
def wordKind? : Lexeme → Option Kind
  | .filler _ => none
  | .word w   => some w.kind

/-- The last lexeme, when it is a word of a kind. -/
theorem exists_concat_word {xs : List Lexeme} {kind : Kind}
    (h : xs.getLast?.bind wordKind? = some kind) :
    ∃ ys w, xs = ys ++ [.word w] ∧ w.kind = kind := by
  obtain ⟨x, hx, hkind⟩ := Option.bind_eq_some_iff.mp h
  obtain ⟨ys, rfl⟩ := List.getLast?_eq_some_iff.mp hx
  match x with
  | .filler f => simp [wordKind?] at hkind
  | .word w => exact ⟨ys, w, rfl, by simpa [wordKind?] using hkind⟩

/-- The last lexeme, when it is no word. -/
theorem not_isWord_of_getLast? {xs : List Lexeme} (h : xs.getLast?.bind wordKind? = none) :
    ∀ x ∈ xs.getLast?, ¬ x.IsWord := by
  intro x hx hw
  match x with
  | .filler f => exact hw
  | .word w => simp [show xs.getLast? = some (.word w) from hx, wordKind?] at h

theorem tokens_append (filename : String) (line : Int) (before : List Char) (xs ys : List Lexeme)
    (after : List Char) :
    tokens filename line before (xs ++ ys) after =
      tokens filename line before xs (texts ys ++ after) ++
        tokens filename line (before ++ texts xs) ys after := by
  induction xs generalizing before with
  | nil => simp [tokens]
  | cons x xs ih =>
      rw [List.cons_append, tokens, tokens, ih, texts_append, texts_cons, List.append_assoc,
        List.append_assoc, List.append_assoc]

/-- The tokens of lexemes depend on what is behind them only in the texts of their lines. -/
theorem map_unlined_tokens (filename : String) (line : Int) (before : List Char)
    (xs : List Lexeme) (after after' : List Char) :
    (tokens filename line before xs after).map Token.unlined =
      (tokens filename line before xs after').map Token.unlined := by
  induction xs generalizing before with
  | nil => rfl
  | cons x xs ih =>
      rw [tokens, tokens, List.map_append, List.map_append, ih, token?, token?]
      cases x.pair? with
      | none => rfl
      | some pair => rfl

end Lexeme

/-! ### A source read to its end -/

theorem tokensOf_of_reads {source : String} {xs : List Lexeme} (h : Reads source.toList xs [])
    (filename : String) (line : Int) :
    tokensOf source filename line = Lexeme.tokens filename line [] xs [] := by
  rw [tokensOf, tokenize_of_reads h]
  exact List.dropLast_concat

/-- **A source ends in a word** when the last lexeme it is read into is one. -/
theorem wordAtEnd?_of_reads {source : String} {xs : List Lexeme} (h : Reads source.toList xs [])
    (filename : String) (line : Int) :
    wordAtEnd? source filename line = xs.getLast?.bind Lexeme.wordKind? := by
  rw [wordAtEnd?, tokensOf_of_reads h]
  have htext : source.toList = Lexeme.texts xs := (reads_nil_iff.mp h).1
  rcases List.eq_nil_or_concat' xs with rfl | ⟨ys, x, rfl⟩
  · rfl
  · have htiles := Lexeme.tiles_tokens filename line [] ys (Lexeme.texts [x])
    rw [List.nil_append, List.nil_append, ← Lexeme.texts_append, ← htext] at htiles
    have hlen : source.toList.length = (Lexeme.texts ys).length + x.text.length := by
      simp [htext]
    have hpos := List.length_pos_iff.mpr x.text_ne_nil
    rw [Lexeme.tokens_append, List.getLast?_concat, Option.bind_some, List.append_nil]
    match x with
    | .filler (.blank c hc) =>
        -- the last token is one of the lexemes before, and stops with them at the latest
        have hnone :
            Lexeme.tokens filename line ([] ++ Lexeme.texts ys) [.filler (.blank c hc)] [] = [] :=
          rfl
        rw [hnone, List.append_nil, Lexeme.wordKind?, Option.bind_eq_none_iff]
        intro t ht
        have := htiles.stopIn_le t (List.mem_of_getLast? ht)
        rw [if_neg (by omega)]
    | .filler (.mark m) =>
        have hword : m.kind.isWord = false := by cases m <;> rfl
        simp [Lexeme.tokens, Lexeme.token?, Lexeme.pair?, hword, Lexeme.wordKind?]
    | .word w =>
        have hword : w.kind.isWord = true := by cases w <;> rfl
        have hstop := Position.offsetIn_behind line (Lexeme.texts ys ++ w.text) []
        rw [List.append_nil] at hstop
        have hsource : source.toList = Lexeme.texts ys ++ w.text := by
          simp [htext, Lexeme.text]
        simp [Lexeme.tokens, Lexeme.token?, Lexeme.pair?, hword, Lexeme.wordKind?, Token.stopIn,
          hsource, hstop, Lexeme.text]

/-- What is behind a source shows in the tokens of its lexemes only in the texts of their lines. -/
theorem map_unlined_tokensOf {source : String} {xs : List Lexeme} (h : Reads source.toList xs [])
    (filename : String) (line : Int) (after : List Char) :
    (Lexeme.tokens filename line [] xs after).map Token.unlined =
      (tokensOf source filename line).map Token.unlined := by
  rw [tokensOf_of_reads h]
  exact Lexeme.map_unlined_tokens _ _ _ _ _ _

/-- Without the last word, the tokens lack the last one. -/
theorem map_unlined_dropLast_tokensOf {source : String} {xs : List Lexeme} {w : Word}
    (h : Reads source.toList (xs ++ [.word w]) []) (filename : String) (line : Int)
    (after : List Char) :
    (Lexeme.tokens filename line [] xs after).map Token.unlined =
      (tokensOf source filename line).dropLast.map Token.unlined := by
  obtain ⟨t, ht⟩ : ∃ t, Lexeme.tokens filename line ([] ++ Lexeme.texts xs) [.word w] [] = [t] :=
    ⟨_, rfl⟩
  rw [tokensOf_of_reads h, Lexeme.tokens_append, ht, List.dropLast_concat]
  exact Lexeme.map_unlined_tokens _ _ _ _ _ _

/-! ### A front, and what is behind it -/

section

variable {source : String} {k : Nat} {c : Char} {xs : List Lexeme}

/-- A source, cut at one of its characters. -/
theorem eq_take_append_cons (hc : source.toList[k]? = some c) :
    source.toList = source.toList.take k ++ c :: source.toList.drop (k + 1) ∧
      (source.toList.take k).length = k := by
  obtain ⟨hk, rfl⟩ := List.getElem?_eq_some_iff.mp hc
  refine ⟨?_, by rw [List.length_take]; omega⟩
  rw [← List.drop_eq_getElem_cons hk, List.take_append_drop]

/-- Reading goes on behind a front where the next character may follow the last lexeme. -/
theorem reads_of_front (h : Reads (front source k).toList xs [])
    (hc : source.toList[k]? = some c) (hlast : ∀ x ∈ xs.getLast?, x.IsWord → IsFollower c) :
    Reads source.toList xs (c :: source.toList.drop (k + 1)) ∧ k = (Lexeme.texts xs).length := by
  obtain ⟨hsource, hlen⟩ := eq_take_append_cons hc
  rw [toList_front] at h
  obtain ⟨htext, hsparse⟩ := reads_nil_iff.mp h
  refine ⟨reads_iff.mpr ⟨?_, hsparse, fun x hx hw d hd => ?_⟩, by rw [← htext, hlen]⟩
  · rwa [← htext]
  · obtain rfl : c = d := by simpa using hd
    exact hlast x hx hw

/-- The last word of a front is still to be read where the next character is looked at. -/
theorem reads_word_of_front {w : Word} (h : Reads (front source k).toList (xs ++ [.word w]) [])
    (hc : source.toList[k]? = some c) :
    Reads source.toList xs (w.text ++ c :: source.toList.drop (k + 1)) ∧
      k = (Lexeme.texts xs).length + w.text.length := by
  obtain ⟨hsource, hlen⟩ := eq_take_append_cons hc
  rw [toList_front] at h
  have hxs := reads_concat_word_iff.mp h
  have htext := hxs.text_eq
  refine ⟨?_, by rw [← List.length_append, ← htext, hlen]⟩
  have hgo := hxs.congr (w.head?_text_append (c :: source.toList.drop (k + 1)))
  rwa [← List.append_assoc, ← htext, ← hsource] at hgo

variable {rest : List Char}

/-- The front that lexemes are read off is read to its end. -/
theorem front_of_reads (h : Reads source.toList xs (c :: rest)) :
    Reads (front source (Lexeme.texts xs).length).toList xs [] ∧
      source.toList[(Lexeme.texts xs).length]? = some c ∧
      source.toList.drop ((Lexeme.texts xs).length + 1) = rest := by
  obtain ⟨htext, hsparse, -⟩ := reads_iff.mp h
  rw [toList_front, htext, List.take_left, List.getElem?_append_right (Nat.le_refl _),
    Nat.sub_self, List.drop_length_add_append]
  exact ⟨reads_nil_iff.mpr ⟨rfl, hsparse⟩, rfl, rfl⟩

/-- So is the front with the word behind them. -/
theorem front_of_reads_word {w : Word} (h : Reads source.toList xs (w.text ++ c :: rest)) :
    Reads (front source ((Lexeme.texts xs).length + w.text.length)).toList (xs ++ [.word w]) [] ∧
      source.toList[(Lexeme.texts xs).length + w.text.length]? = some c := by
  have hword := h.congr (w.head?_text_append (c :: rest)).symm
  have htext : source.toList = (Lexeme.texts xs ++ w.text) ++ c :: rest := by
    rw [h.text_eq, List.append_assoc]
  rw [toList_front, htext, ← List.length_append, List.take_left,
    List.getElem?_append_right (Nat.le_refl _), Nat.sub_self]
  exact ⟨reads_concat_word_iff.mpr hword, rfl⟩

end

end Lexis
