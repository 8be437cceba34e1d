import Lexis.Fault
import Lexis.Proofs.Grammar.Lexeme
import Mathlib.Data.List.TakeWhile

/-!
# Grammar — reading a text

`Reads text xs rest` says that the lexemes `xs` are read off the front of `text` and `rest` is
left: a word is read only where the text behind it may follow a word (`Follows`).
`Stops text n kind detail` says that no lexeme can be read off the front of `text`: a fault lies
`n` characters ahead.

**Every text is read up to its end or a stop** (`exists_reads`).  Reading is local: it looks one
character beyond the lexemes it takes (`reads_iff`).
-/

namespace Lexis

/-! ### Character classes -/

theorem isSpace_iff {c : Char} : isSpace c = true ↔ c ∈ [' ', '\t', '\n', '\r'] := by
  simp only [isSpace, spaces, List.contains_eq_mem, decide_eq_true_eq, List.mem_cons,
    List.not_mem_nil, or_false]
  tauto

theorem ne_of_isSpace {c d : Char} (hc : isSpace c = false) (hd : isSpace d = true) : c ≠ d := by
  rintro rfl
  rw [hc] at hd
  contradiction

theorem isLetter_eq_true_iff {c : Char} : isLetter c = true ↔ c.isAlpha = true ∨ c = '_' := by
  simp [isLetter]

theorem isLetterOrDigit_iff {c : Char} :
    isLetterOrDigit c = true ↔ c.isAlphanum = true ∨ c = '_' := by
  simp only [isLetterOrDigit, isLetter, isDigit, Char.isAlphanum, Bool.or_eq_true,
    decide_eq_true_eq]
  tauto

namespace Mark

@[simp] theorem ofPunctuation?_char (m : Mark) : Kind.ofPunctuation? m.char = some m.kind := by
  cases m <;> decide

theorem isPunctuation_char (m : Mark) : isPunctuation m.char = true := by
  cases m <;> decide

theorem exists_of_ofPunctuation? {c : Char} {k : Kind} (h : Kind.ofPunctuation? c = some k) :
    ∃ m : Mark, m.char = c ∧ m.kind = k := by
  -- one case for each test of the definition
  unfold Kind.ofPunctuation? at h
  split at h
  · exact ⟨.semicolon, by simp_all [char, kind]⟩
  split at h
  · exact ⟨.lparen, by simp_all [char, kind]⟩
  split at h
  · exact ⟨.rparen, by simp_all [char, kind]⟩
  split at h
  · exact ⟨.comma, by simp_all [char, kind]⟩
  split at h
  · exact ⟨.lbrace, by simp_all [char, kind]⟩
  split at h
  · exact ⟨.rbrace, by simp_all [char, kind]⟩
  · simp at h

theorem ofPunctuation?_eq_none_iff {c : Char} :
    Kind.ofPunctuation? c = none ↔ ∀ m : Mark, c ≠ m.char := by
  constructor
  · rintro h m rfl
    simp at h
  · intro h
    by_contra hk
    obtain ⟨k, hk⟩ := Option.ne_none_iff_exists'.mp hk
    obtain ⟨m, rfl, -⟩ := exists_of_ofPunctuation? hk
    exact h m rfl

end Mark

/-! ### What may follow a word -/

/-- A character that may stand directly behind a word. -/
def IsFollower (c : Char) : Prop :=
  isSpace c = true ∨ isPunctuation c = true

/-- A text that may stand directly behind a word. -/
def Follows (rest : List Char) : Prop :=
  ∀ c ∈ rest.head?, IsFollower c

/-- A follower is of no class that a word begins with or goes on with. -/
theorem IsFollower.classes {c : Char} (h : IsFollower c) :
    isLetterOrDigit c = false ∧ c ≠ quote := by
  have hs : ∀ d ∈ spaces, (!isLetterOrDigit d && d != quote) = true :=
    List.all_eq_true.mp (by decide)
  have hp : ∀ d ∈ punctuations, (!isLetterOrDigit d && d != quote) = true :=
    List.all_eq_true.mp (by decide)
  have hc : (!isLetterOrDigit c && c != quote) = true := by
    rcases h with h | h
    · exact hs c (List.contains_iff_mem.mp h)
    · exact hp c (List.contains_iff_mem.mp h)
  simpa using hc

/-- A letter or a digit is no blank. -/
theorem isSpace_of_isLetterOrDigit {c : Char} (h : isLetterOrDigit c = true) :
    isSpace c = false := by
  cases hs : isSpace c with
  | false => rfl
  | true => rw [(IsFollower.classes (.inl hs)).1] at h; exact absurd h (by simp)

/-- A letter is no digit. -/
theorem isDigit_of_isLetter {c : Char} (h : isLetter c = true) : isDigit c = false := by
  cases hd : isDigit c with
  | false => rfl
  | true =>
      have hd := (isDigit_iff c).mp hd
      rcases (isLetter_iff c).mp h with h | h | rfl
      · omega
      · omega
      · simp at hd

theorem Filler.isFollower (f : Filler) : IsFollower f.char := by
  cases f with
  | blank c h => exact .inl (isSpace_iff.mpr h)
  | mark m => exact .inr m.isPunctuation_char

namespace Word

/-- The class of characters that a run goes on with; a literal ends at its quote. -/
def continues : Word → Char → Bool
  | .integer _ _ _,      c => isDigit c
  | .identifier _ _ _ _, c => isLetterOrDigit c
  | .literal _,          _ => false

/-- What messages call a word. -/
def what : Word → String
  | .integer _ _ _      => "integer literal"
  | .identifier _ _ _ _ => "identifier"
  | .literal _          => "string literal"

/-- A character that neither goes on with the word nor may follow it. -/
def Intrudes (w : Word) (c : Char) : Prop :=
  w.continues c = false ∧ ¬ IsFollower c

theorem continues_of_isFollower (w : Word) {c : Char} (h : IsFollower c) :
    w.continues c = false := by
  have hc := h.classes.1
  cases w with
  | integer => exact (Bool.or_eq_false_iff.mp hc).2
  | identifier => exact hc
  | literal => rfl

/-- A word that is no literal has no blank in it. -/
theorem not_mem_text_of_isSpace {w : Word} {c : Char} (h : w.kind ≠ .string)
    (hc : isSpace c = true) : c ∉ w.text := by
  have hclass : isLetterOrDigit c ≠ true := by
    intro hword
    rw [isSpace_of_isLetterOrDigit hword] at hc
    exact absurd hc (by decide)
  cases w with
  | integer digits ne hd =>
      intro hmem
      have hdigit : isDigit c = true := hd c hmem
      exact hclass (by simp [isLetterOrDigit, hdigit])
  | identifier first others hf ho =>
      rw [text, List.mem_cons, not_or]
      constructor
      · rintro rfl
        exact hclass (by simp [isLetterOrDigit, isLetter_eq_true_iff.mpr hf])
      · exact fun hmem => hclass (isLetterOrDigit_iff.mpr (ho c hmem))
  | literal pieces => exact absurd rfl h

/-- A word begins with a letter, a digit or a quote. -/
theorem head_text (w : Word) :
    ∃ c t, w.text = c :: t ∧ (isLetterOrDigit c = true ∨ c = quote) := by
  cases w with
  | integer digits ne h =>
      obtain ⟨c, t, rfl⟩ := List.exists_cons_of_ne_nil ne
      have hc : isDigit c = true := h c List.mem_cons_self
      exact ⟨c, t, rfl, .inl (by simp [isLetterOrDigit, hc])⟩
  | identifier first others hf _ =>
      exact ⟨first, others, rfl,
        .inl (by simp [isLetterOrDigit, isLetter_eq_true_iff.mpr hf])⟩
  | literal => exact ⟨quote, _, rfl, .inr rfl⟩

/-- A text that begins with a word begins with the word's first character. -/
theorem head?_text_append (w : Word) (rest : List Char) :
    (w.text ++ rest).head? = w.text.head? := by
  obtain ⟨c, t, ht, -⟩ := w.head_text
  rw [ht]
  rfl

/-- A word does not follow a word. -/
theorem not_follows (w : Word) (rest : List Char) : ¬ Follows (w.text ++ rest) := by
  obtain ⟨c, t, ht, hc⟩ := w.head_text
  intro h
  obtain ⟨hl, hq⟩ := (h c (by simp [ht])).classes
  rcases hc with hc | hc
  · simp [hc] at hl
  · exact hq hc

end Word

/-! ### Reading -/

/-- The lexemes are read off the front of a text, and a rest is left. -/
inductive Reads : List Char → List Lexeme → List Char → Prop where
  | done (text : List Char) : Reads text [] text
  | more {x : Lexeme} {xs : List Lexeme} {text rest : List Char}
      (hx : x.IsWord → Follows text) (h : Reads text xs rest) :
      Reads (x.text ++ text) (x :: xs) rest

/-- **Reading is local.**  Lexemes are read off a text when it begins with them, no word follows a
word, and what is left may follow the last of them. -/
theorem reads_iff {text rest : List Char} {xs : List Lexeme} :
    Reads text xs rest ↔ text = Lexeme.texts xs ++ rest ∧ Lexeme.Sparse xs ∧
      ∀ x ∈ xs.getLast?, x.IsWord → Follows rest := by
  constructor
  · -- a word is read in front of what may follow it, so the lexeme behind it is a filler
    intro h
    induction h with
    | done text => exact ⟨rfl, .nil, by simp⟩
    | @more x xs text rest hx _ ih =>
        obtain ⟨rfl, hsp, hlast⟩ := ih
        refine ⟨by simp, ?_, ?_⟩
        · cases x with
          | filler f => exact Lexeme.sparse_filler_cons.mpr hsp
          | word w =>
              refine Lexeme.sparse_word_cons.mpr ⟨fun y hy hw => ?_, hsp⟩
              cases xs with
              | nil => simp at hy
              | cons z xs =>
                  obtain rfl : z = y := by simpa using hy
                  cases z with
                  | filler f => exact hw
                  | word v => exact v.not_follows _ (by simpa [Lexeme.text] using hx trivial)
        · cases xs with
          | nil => simpa using hx
          | cons z xs => simpa [List.getLast?_cons_cons] using hlast
  · -- a word that is not the last has a filler behind it, which may follow it
    rintro ⟨rfl, hsp, hlast⟩
    induction xs with
    | nil => exact .done rest
    | cons x xs ih =>
        rw [Lexeme.texts_cons, List.append_assoc]
        cases xs with
        | nil => exact .more (by simpa using hlast) (.done rest)
        | cons z xs =>
            rw [List.getLast?_cons_cons] at hlast
            cases x with
            | filler f =>
                exact .more (fun h => h.elim) (ih (Lexeme.sparse_filler_cons.mp hsp) hlast)
            | word w =>
                obtain ⟨hhead, hxs⟩ := Lexeme.sparse_word_cons.mp hsp
                refine .more (fun _ c hc => ?_) (ih hxs hlast)
                cases z with
                | word v => exact absurd trivial (hhead _ rfl)
                | filler f =>
                    obtain rfl : f.char = c := by simpa [Lexeme.text] using hc
                    exact f.isFollower

theorem Reads.text_eq {text rest : List Char} {xs : List Lexeme} (h : Reads text xs rest) :
    text = Lexeme.texts xs ++ rest :=
  (reads_iff.mp h).1

/-- Whole texts that are read are the sparse lists of lexemes. -/
theorem reads_nil_iff {text : List Char} {xs : List Lexeme} :
    Reads text xs [] ↔ text = Lexeme.texts xs ∧ Lexeme.Sparse xs := by
  simp [reads_iff, Follows]

/-- Only the first character left matters to what has been read. -/
theorem Reads.congr {text rest rest' : List Char} {xs : List Lexeme} (h : Reads text xs rest)
    (hhead : rest'.head? = rest.head?) : Reads (Lexeme.texts xs ++ rest') xs rest' := by
  obtain ⟨-, hsp, hlast⟩ := reads_iff.mp h
  refine reads_iff.mpr ⟨rfl, hsp, fun x hx hw c hc => ?_⟩
  exact hlast x hx hw c (hhead ▸ hc)

/-- Lexemes that are read, joined and parted. -/
theorem reads_append_iff {text rest : List Char} {xs ys : List Lexeme} :
    Reads text (xs ++ ys) rest ↔ ∃ mid, Reads text xs mid ∧ Reads mid ys rest := by
  constructor
  · intro h
    induction xs generalizing text with
    | nil => exact ⟨text, .done text, h⟩
    | cons x xs ih =>
        cases h with
        | more hx h =>
            obtain ⟨mid, hxs, hys⟩ := ih h
            exact ⟨mid, .more hx hxs, hys⟩
  · rintro ⟨mid, hxs, hys⟩
    induction hxs with
    | done text => exact hys
    | more hx _ ih => exact .more hx (ih hys)

/-- A last word is read off a text when the lexemes in front of it leave it. -/
theorem reads_concat_word_iff {text : List Char} {xs : List Lexeme} {w : Word} :
    Reads text (xs ++ [.word w]) [] ↔ Reads text xs w.text := by
  rw [reads_append_iff]
  constructor
  · rintro ⟨mid, hxs, hw⟩
    obtain ⟨rfl, -⟩ := reads_nil_iff.mp hw
    simpa [Lexeme.text] using hxs
  · intro h
    exact ⟨w.text, h, reads_nil_iff.mpr ⟨by simp [Lexeme.text], .singleton _⟩⟩

/-! ### Stops -/

/-- A character that no lexeme begins with. -/
def Illegal (c : Char) : Prop :=
  c ∉ [' ', '\t', '\n', '\r'] ∧ ¬ (c.isAlphanum = true ∨ c = '_') ∧ (∀ m : Mark, c ≠ m.char) ∧
    c ≠ quote

theorem illegal_iff {c : Char} : Illegal c ↔ isSpace c = false ∧ isLetterOrDigit c = false ∧
    Kind.ofPunctuation? c = none ∧ c ≠ quote := by
  rw [Illegal, ← Mark.ofPunctuation?_eq_none_iff, ← isSpace_iff, ← isLetterOrDigit_iff,
    Bool.not_eq_true, Bool.not_eq_true]

/-- No lexeme is read off the front of a text: a fault of a kind and with a detail lies a number of
characters ahead.  (The detail of an illegal character is found later, from its line.) -/
inductive Stops : List Char → Nat → FaultKind → String → Prop where
  /-- The start of a token stands directly behind a word. -/
  | misplaced {w : Word} {c : Char} {rest : List Char} (hc : w.Intrudes c)
      (hs : startsToken c = true) :
      Stops (w.text ++ c :: rest) w.text.length .invalidSyntax
        ("unexpected " ++ Text.quoted (String.singleton c) ++ " after " ++ w.what)
  /-- A character of no class stands directly behind a word. -/
  | foreign {w : Word} {c : Char} {rest : List Char} (hc : w.Intrudes c)
      (hs : startsToken c = false) :
      Stops (w.text ++ c :: rest) w.text.length .illegalCharacter ""
  /-- No quote closes a string literal. -/
  | unclosed {rest : List Char} (h : ¬ Literal.Closes rest) :
      Stops (quote :: rest) 0 .invalidSyntax "unterminated string literal"
  | illegal {c : Char} {rest : List Char} (h : Illegal c) : Stops (c :: rest) 0 .illegalCharacter ""

/-- What stops behind a word and begins no token is illegal everywhere, and is no punctuation. -/
theorem Word.intrudes_and_not_startsToken_iff {w : Word} {c : Char} :
    (w.Intrudes c ∧ startsToken c = false) ↔ (Illegal c ∧ isPunctuation c = false) := by
  rw [illegal_iff, Word.Intrudes, IsFollower, startsToken]
  constructor
  · rintro ⟨⟨-, hf⟩, hs⟩
    simp only [Bool.or_eq_false_iff, decide_eq_false_iff_not] at hs
    simp only [not_or, Bool.not_eq_true] at hf
    refine ⟨⟨hf.1, hs.1.1, Mark.ofPunctuation?_eq_none_iff.mpr ?_, hs.2⟩, hf.2⟩
    rintro m rfl
    simp [m.isPunctuation_char] at hf
  · rintro ⟨⟨hs, hl, -, hq⟩, hp⟩
    refine ⟨⟨?_, by simp [hs, hp]⟩, by simp [hl, hp, hq]⟩
    cases w with
    | integer => exact (Bool.or_eq_false_iff.mp hl).2
    | identifier => exact hl
    | literal => rfl

/-- A lexeme is read off the front of a text, or the text stops. -/
def Goes (text : List Char) : Prop :=
  (∃ x rest, text = Lexeme.text x ++ rest ∧ (x.IsWord → Follows rest)) ∨
    ∃ n kind detail, Stops text n kind detail

/-- A word that ends at its run is read or stops. -/
theorem goes_word (w : Word) {rest : List Char} (h : ∀ c ∈ rest.head?, w.continues c = false) :
    Goes (w.text ++ rest) := by
  by_cases hf : Follows rest
  · exact .inl ⟨.word w, rest, rfl, fun _ => hf⟩
  · cases rest with
    | nil => exact absurd (by simp [Follows]) hf
    | cons c rest =>
        have hc : w.Intrudes c := ⟨h c rfl, fun hc => hf fun d hd => by
          obtain rfl : c = d := by simpa using hd
          exact hc⟩
        cases hs : startsToken c with
        | true => exact .inr ⟨_, _, _, .misplaced hc hs⟩
        | false => exact .inr ⟨_, _, _, .foreign hc hs⟩

/-- What a run leaves begins with no character of its class. -/
theorem head?_dropWhile_eq_false {p : Char → Bool} {text : List Char} :
    ∀ c ∈ (text.dropWhile p).head?, p c = false := by
  intro c hc
  have := List.head?_dropWhile_not p text
  rw [hc] at this
  simpa using this

/-- **A text that does not end is read or stops.** -/
theorem goes_of_ne_nil {text : List Char} (h : text ≠ []) : Goes text := by
  obtain ⟨c, text, rfl⟩ := List.exists_cons_of_ne_nil h
  by_cases hs : isSpace c = true
  · exact .inl ⟨.filler (.blank c (isSpace_iff.mp hs)), text, rfl, False.elim⟩
  by_cases hd : isDigit c = true
  · -- the digits from here on are a number
    have hrun := List.takeWhile_append_dropWhile (p := isDigit) (l := c :: text)
    rw [← hrun]
    have hall : ∀ d ∈ (c :: text).takeWhile isDigit, d.isDigit = true :=
      fun d hd => List.mem_takeWhile_imp hd
    exact goes_word (.integer _ (by simp [hd]) hall) head?_dropWhile_eq_false
  by_cases hl : isLetter c = true
  · -- the letters and digits from here on are a name
    have hrun := List.takeWhile_append_dropWhile (p := isLetterOrDigit) (l := text)
    rw [← hrun]
    have hall : ∀ d ∈ text.takeWhile isLetterOrDigit, d.isAlphanum = true ∨ d = '_' :=
      fun d hd => isLetterOrDigit_iff.mp (List.mem_takeWhile_imp hd)
    exact goes_word (.identifier c _ (isLetter_eq_true_iff.mp hl) hall) head?_dropWhile_eq_false
  cases hm : Kind.ofPunctuation? c with
  | some k =>
      obtain ⟨m, rfl, -⟩ := Mark.exists_of_ofPunctuation? hm
      exact .inl ⟨.filler (.mark m), text, rfl, False.elim⟩
  | none =>
      by_cases hq : c = quote
      · subst hq
        by_cases hcl : Literal.Closes text
        · obtain ⟨ps, rest, rfl⟩ := hcl
          have hgoes : Goes ((Word.literal ps).text ++ rest) := goes_word _ fun _ _ => rfl
          simpa [Word.text] using hgoes
        · exact .inr ⟨_, _, _, .unclosed hcl⟩
      · refine .inr ⟨_, _, _, .illegal (illegal_iff.mpr ⟨by simpa using hs, ?_, hm, hq⟩)⟩
        simp [isLetterOrDigit, hd, hl]

/-- **Every text is read up to its end or to a stop.** -/
theorem exists_reads (text : List Char) :
    ∃ xs rest, Reads text xs rest ∧ (rest = [] ∨ ∃ n kind detail, Stops rest n kind detail) := by
  -- on the length of the text: every lexeme takes at least one character
  induction hlen : text.length using Nat.strong_induction_on generalizing text with
  | _ len ih =>
      by_cases hnil : text = []
      · exact ⟨[], text, .done text, .inl hnil⟩
      rcases goes_of_ne_nil hnil with ⟨x, rest, rfl, hx⟩ | hstop
      · have hpos := List.length_pos_iff.mpr x.text_ne_nil
        rw [List.length_append] at hlen
        obtain ⟨xs, last, hreads, hend⟩ := ih rest.length (by omega) rest rfl
        exact ⟨x :: xs, last, .more hx hreads, hend⟩
      · exact ⟨[], text, .done text, .inr hstop⟩

end Lexis
