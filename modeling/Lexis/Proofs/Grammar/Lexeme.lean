import Lexis.Proofs.Grammar.Literal
import Lexis.Token.Basic
import Mathlib.Data.List.Chain

/-!
# Grammar — lexemes and layouts

A source text is made of lexemes.  A `Word` is a number, a name or a string literal; a `Filler` is
a blank or one of the six `Mark`s of punctuation.  A word or a mark makes a token of its kind and
value (`Lexeme.pair?`); a blank makes none.

A `Layout` is a text of the language: words with fillers in front, behind and, at least one,
between each two.  Read in order it is a list of lexemes in which no word follows a word
(`Sparse`), and every such list is the reading of a layout (`exists_layout`).
-/

namespace Lexis

/-- A punctuation character that makes a token. -/
inductive Mark where
  | semicolon
  | lparen
  | rparen
  | comma
  | lbrace
  | rbrace

namespace Mark

def char : Mark → Char
  | .semicolon => ';'
  | .lparen    => '('
  | .rparen    => ')'
  | .comma     => ','
  | .lbrace    => '\x7b'
  | .rbrace    => '\x7d'

def kind : Mark → Kind
  | .semicolon => .semicolon
  | .lparen    => .lparen
  | .rparen    => .rparen
  | .comma     => .comma
  | .lbrace    => .lbrace
  | .rbrace    => .rbrace

end Mark

/-- What may stand between words: a blank, or a mark. -/
inductive Filler where
  | blank (c : Char) (h : c ∈ [' ', '\t', '\n', '\r'])
  | mark (m : Mark)

/-- A number, a name or a string literal. -/
inductive Word where
  | integer (digits : List Char) (ne : digits ≠ []) (h : ∀ c ∈ digits, c.isDigit = true)
  | identifier (first : Char) (others : List Char) (hf : first.isAlpha = true ∨ first = '_')
      (ho : ∀ c ∈ others, c.isAlphanum = true ∨ c = '_')
  | literal (pieces : List Literal.Piece)

/-- A piece of a source text that one turn reads. -/
inductive Lexeme where
  | filler (f : Filler)
  | word (w : Word)

namespace Filler

def char : Filler → Char
  | .blank c _ => c
  | .mark m    => m.char

end Filler

namespace Word

/-- A word as it stands. -/
def text : Word → List Char
  | .integer digits _ _          => digits
  | .identifier first others _ _ => first :: others
  | .literal pieces              => quote :: (Literal.sources pieces ++ [quote])

def kind : Word → Kind
  | .integer _ _ _      => .integer
  | .identifier _ _ _ _ => .identifier
  | .literal _          => .string

/-- The value of the token a word makes: a literal is decoded. -/
def value : Word → String
  | .integer digits _ _          => String.ofList digits
  | .identifier first others _ _ => String.ofList (first :: others)
  | .literal pieces              => String.ofList (Literal.decodings pieces)

theorem text_ne_nil (w : Word) : w.text ≠ [] := by
  cases w with
  | integer _ ne _ => exact ne
  | identifier => exact List.cons_ne_nil _ _
  | literal => exact List.cons_ne_nil _ _

end Word

namespace Lexeme

/-- A lexeme as it stands. -/
def text : Lexeme → List Char
  | .filler f => [f.char]
  | .word w   => w.text

/-- The kind and the value of the token a lexeme makes. -/
def pair? : Lexeme → Option (Kind × String)
  | .filler (.blank _ _) => none
  | .filler (.mark m)    => some (m.kind, String.singleton m.char)
  | .word w              => some (w.kind, w.value)

def IsWord : Lexeme → Prop
  | .filler _ => False
  | .word _   => True

/-- Lexemes as they stand. -/
def texts (xs : List Lexeme) : List Char :=
  xs.flatMap text

/-- The kinds and values of the tokens that lexemes make. -/
def pairs (xs : List Lexeme) : List (Kind × String) :=
  xs.filterMap pair?

/-- No word follows a word. -/
def Sparse (xs : List Lexeme) : Prop :=
  xs.IsChain fun x y => ¬ (x.IsWord ∧ y.IsWord)

@[simp] theorem texts_nil : texts [] = [] := rfl

@[simp] theorem texts_cons (x : Lexeme) (xs : List Lexeme) :
    texts (x :: xs) = x.text ++ texts xs :=
  List.flatMap_cons

@[simp] theorem texts_append (xs ys : List Lexeme) : texts (xs ++ ys) = texts xs ++ texts ys :=
  List.flatMap_append

theorem text_ne_nil (x : Lexeme) : x.text ≠ [] := by
  cases x with
  | filler f => exact List.cons_ne_nil _ _
  | word w => exact w.text_ne_nil

theorem sparse_filler_cons {f : Filler} {xs : List Lexeme} :
    Sparse (.filler f :: xs) ↔ Sparse xs := by
  simp [Sparse, List.isChain_cons, IsWord]

theorem sparse_word_cons {w : Word} {xs : List Lexeme} :
    Sparse (.word w :: xs) ↔ (∀ y ∈ xs.head?, ¬ y.IsWord) ∧ Sparse xs := by
  simp [Sparse, List.isChain_cons, IsWord]

/-- Fillers in front of a list leave it sparse. -/
theorem sparse_fillers_append {fs : List Filler} {xs : List Lexeme} :
    Sparse (fs.map .filler ++ xs) ↔ Sparse xs := by
  induction fs with
  | nil => rfl
  | cons f fs ih => rw [List.map_cons, List.cons_append, sparse_filler_cons, ih]

end Lexeme

/-! ### Layouts -/

/-- A text of the language: fillers, and words with the fillers behind each. -/
structure Layout where
  lead  : List Filler
  items : List (Word × List Filler)
  /-- Between two words there is a filler. -/
  apart : ∀ item ∈ items.dropLast, item.2 ≠ []

namespace Layout

/-- The lexemes of a word and the fillers behind it. -/
def item (item : Word × List Filler) : List Lexeme :=
  .word item.1 :: item.2.map .filler

/-- The lexemes of a layout, in order. -/
def lexemes (l : Layout) : List Lexeme :=
  l.lead.map .filler ++ l.items.flatMap item

/-- The text of a layout. -/
def source (l : Layout) : String :=
  String.ofList (Lexeme.texts l.lexemes)

/-- The kinds and values of the tokens of a layout: of its marks and its words, in order. -/
def pairs (l : Layout) : List (Kind × String) :=
  Lexeme.pairs l.lexemes

/-- No word of a layout follows a word. -/
theorem sparse_lexemes (l : Layout) : Lexeme.Sparse l.lexemes := by
  obtain ⟨lead, items, apart⟩ := l
  refine Lexeme.sparse_fillers_append.mpr ?_
  induction items with
  | nil => exact .nil
  | cons i items ih =>
      obtain ⟨w, gap⟩ := i
      have hrest : Lexeme.Sparse (items.flatMap item) := ih fun k hk => by
        cases items with
        | nil => simp at hk
        | cons j items => exact apart k (List.mem_cons_of_mem _ hk)
      rw [List.flatMap_cons, item, List.cons_append, Lexeme.sparse_word_cons,
        Lexeme.sparse_fillers_append]
      refine ⟨fun y hy => ?_, hrest⟩
      cases gap with
      | cons f gap =>
          obtain rfl : Lexeme.filler f = y := by simpa using hy
          exact id
      | nil =>
          cases items with
          | nil => simp at hy
          | cons j items => exact absurd rfl (apart (w, []) List.mem_cons_self)

/-- **Every sparse list of lexemes is the reading of a layout.** -/
theorem exists_layout {xs : List Lexeme} (h : Lexeme.Sparse xs) :
    ∃ l : Layout, l.lexemes = xs := by
  induction xs with
  | nil => exact ⟨⟨[], [], by simp⟩, rfl⟩
  | cons x xs ih =>
      cases x with
      | filler f =>
          obtain ⟨⟨lead, items, apart⟩, rfl⟩ := ih (Lexeme.sparse_filler_cons.mp h)
          exact ⟨⟨f :: lead, items, apart⟩, rfl⟩
      | word w =>
          obtain ⟨hhead, hxs⟩ := Lexeme.sparse_word_cons.mp h
          obtain ⟨⟨lead, items, apart⟩, rfl⟩ := ih hxs
          refine ⟨⟨[], (w, lead) :: items, fun k hk => ?_⟩, rfl⟩
          cases items with
          | nil => simp at hk
          | cons j items =>
              rw [List.dropLast_cons_cons] at hk
              rcases List.mem_cons.mp hk with rfl | hk
              · -- without a filler the word would stand in front of the next one
                rintro (rfl : lead = [])
                exact hhead (.word j.1) rfl trivial
              · exact apart k hk

end Layout

end Lexis
