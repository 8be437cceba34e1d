import Lexis.Proofs.Text.Place
import Lexis.Text.Blank
import Mathlib.Data.List.Basic
import Mathlib.Data.List.Count

/-!
# Text — carriage returns

A text `PairsCarriages` when a line feed is directly behind every carriage return.  The carriage
returns are then the ends of its lines and no more: to shorten its line ends is to drop them all
(`PairsCarriages.shortenNewlines_eq`), each of its lines has at most one, at its end
(`PairsCarriages.dropTrailing_cut`), and where the character before a place is none of them they do
not count in its position (`PairsCarriages.behind_dropCarriages`).
-/

namespace Lexis

namespace Text

/-- A text without its carriage returns. -/
def dropCarriages (text : List Char) : List Char :=
  text.filter (· ≠ '\r')

/-- Directly behind every carriage return there is a line feed. -/
def PairsCarriages (text : List Char) : Prop :=
  ∀ before after, text = before ++ '\r' :: after → after.head? = some '\n'

/-! ### Without carriage returns -/

@[simp] theorem dropCarriages_nil : dropCarriages [] = [] := rfl

@[simp] theorem dropCarriages_carriage_cons (text : List Char) :
    dropCarriages ('\r' :: text) = dropCarriages text :=
  rfl

theorem dropCarriages_cons {c : Char} (hc : c ≠ '\r') (text : List Char) :
    dropCarriages (c :: text) = c :: dropCarriages text := by
  simp [dropCarriages, hc]

@[simp] theorem dropCarriages_append (text text' : List Char) :
    dropCarriages (text ++ text') = dropCarriages text ++ dropCarriages text' :=
  List.filter_append ..

theorem dropCarriages_eq_self {text : List Char} (h : '\r' ∉ text) : dropCarriages text = text := by
  rw [dropCarriages, List.filter_eq_self]
  intro c hc
  simpa using fun hcarriage : c = '\r' => h (hcarriage ▸ hc)

@[simp] theorem count_feed_dropCarriages (text : List Char) :
    (dropCarriages text).count '\n' = text.count '\n' :=
  List.count_filter (by decide)

/-- The lines of a text without its carriage returns. -/
theorem lines_dropCarriages (text : List Char) :
    lines (dropCarriages text) = (lines text).map dropCarriages := by
  induction text with
  | nil => rfl
  | cons c text ih =>
      rw [lines_eq_cons text, List.map_cons] at ih
      by_cases hfeed : c = '\n'
      · rw [hfeed, dropCarriages_cons (by decide), lines_feed_cons, lines_feed_cons, ih,
          lines_eq_cons text]
        rfl
      · rw [lines_cons hfeed, List.map_cons]
        by_cases hc : c = '\r'
        · rw [hc, dropCarriages_carriage_cons, dropCarriages_carriage_cons, ih]
        · rw [dropCarriages_cons hc, lines_cons hfeed, dropCarriages_cons hc, firstLine, ih]
          rfl

theorem firstLine_dropCarriages (text : List Char) :
    firstLine (dropCarriages text) = dropCarriages (firstLine text) := by
  rw [firstLine, lines_dropCarriages, lines_eq_cons text]
  rfl

theorem lastLine_dropCarriages (text : List Char) :
    lastLine (dropCarriages text) = dropCarriages (lastLine text) := by
  induction text using List.reverseRecOn with
  | nil => rfl
  | append_singleton text c ih =>
      rw [dropCarriages_append]
      by_cases hfeed : c = '\n'
      · rw [hfeed, lastLine_append_feed, dropCarriages_cons (by decide), dropCarriages_nil,
          lastLine_append_feed]
      · rw [lastLine_append_singleton hfeed, dropCarriages_append, ← ih]
        by_cases hc : c = '\r'
        · simp [hc]
        · rw [dropCarriages_cons hc, dropCarriages_nil, lastLine_append_singleton hfeed]

theorem shortenNewlines_cons {c : Char} (hc : c ≠ '\r') (text : List Char) :
    shortenNewlines (c :: text) = c :: shortenNewlines text := by
  rw [shortenNewlines]
  rintro rest rfl
  exact absurd rfl hc

theorem shortenNewlines_eq_self {text : List Char} (h : '\r' ∉ text) :
    shortenNewlines text = text := by
  induction text with
  | nil => rfl
  | cons c text ih =>
      rw [List.mem_cons, not_or] at h
      rw [shortenNewlines_cons (Ne.symm h.1), ih h.2]

end Text

/-! ### Line ends of two characters -/

namespace Text.PairsCarriages

variable {text before after : List Char} {c : Char}

theorem of_append (h : PairsCarriages (before ++ after)) : PairsCarriages after := by
  rintro before' after' rfl
  exact h (before ++ before') after' (by simp)

theorem tail (h : PairsCarriages (c :: text)) : PairsCarriages text := by
  rw [← List.singleton_append] at h
  exact h.of_append

theorem cons_iff :
    PairsCarriages (c :: text) ↔ (c = '\r' → text.head? = some '\n') ∧ PairsCarriages text := by
  constructor
  · exact fun h => ⟨fun hc => h [] text (by rw [hc, List.nil_append]), h.tail⟩
  · rintro ⟨hhead, h⟩ before after heq
    cases before with
    | nil =>
        obtain ⟨rfl, rfl⟩ := List.cons.inj heq
        exact hhead rfl
    | cons d before => exact h before after (List.cons.inj heq).2

instance decidable : (text : List Char) → Decidable (PairsCarriages text)
  | []        => .isTrue fun before after heq => by simp at heq
  | _ :: text => have := decidable text; decidable_of_iff _ cons_iff.symm

/-- A carriage return in front, and what is behind it. -/
theorem exists_feed (h : PairsCarriages ('\r' :: text)) :
    ∃ rest, text = '\n' :: rest ∧ PairsCarriages rest := by
  have hhead := (cons_iff.mp h).1 rfl
  cases text with
  | nil => simp at hhead
  | cons c rest =>
      obtain rfl : c = '\n' := by simpa using hhead
      exact ⟨rest, rfl, h.tail.tail⟩

/-- Induction over such texts, by one line end or one other character at a time. -/
theorem induction_on {motive : (text : List Char) → PairsCarriages text → Prop}
    (nil : ∀ h, motive [] h)
    (ending : ∀ rest h (hrest : PairsCarriages rest), motive rest hrest →
      motive ('\r' :: '\n' :: rest) h)
    (other : ∀ c rest h (hrest : PairsCarriages rest), c ≠ '\r' → motive rest hrest →
      motive (c :: rest) h)
    {text : List Char} (h : PairsCarriages text) : motive text h := by
  induction hlen : text.length using Nat.strong_induction_on generalizing text with
  | _ len ih =>
      cases text with
      | nil => exact nil h
      | cons c text =>
          rw [List.length_cons] at hlen
          by_cases hc : c = '\r'
          · subst hc
            obtain ⟨rest, rfl, hrest⟩ := h.exists_feed
            rw [List.length_cons] at hlen
            exact ending rest h hrest (ih rest.length (by omega) hrest rfl)
          · exact other c text h h.tail hc (ih text.length (by omega) h.tail rfl)

/-- **To shorten the line ends is to drop the carriage returns.** -/
theorem shortenNewlines_eq (h : PairsCarriages text) :
    shortenNewlines text = dropCarriages text := by
  induction h using induction_on with
  | nil => rfl
  | ending rest _ _ ih =>
      rw [shortenNewlines, ih, dropCarriages_carriage_cons, dropCarriages_cons (by decide)]
  | other c rest _ _ hc ih => rw [shortenNewlines_cons hc, ih, dropCarriages_cons hc]

/-- No line has a carriage return but at its end. -/
theorem not_mem_dropLast (h : PairsCarriages text) :
    ∀ l ∈ lines text, '\r' ∉ l.dropLast := by
  induction text with
  | nil => simp [lines]
  | cons c text ih =>
      have htext := ih h.tail
      by_cases hfeed : c = '\n'
      · rw [hfeed, lines_feed_cons]
        simpa using htext
      · rw [lines_eq_cons text, List.forall_mem_cons] at htext
        rw [lines_cons hfeed, List.forall_mem_cons]
        refine ⟨?_, htext.2⟩
        by_cases hc : c = '\r'
        · -- the carriage return is all of its line
          subst hc
          obtain ⟨rest, rfl, -⟩ := h.exists_feed
          simp [firstLine, lines_feed_cons]
        · intro hmem
          cases hfirst : firstLine text with
          | nil => simp [hfirst] at hmem
          | cons d first =>
              rw [hfirst] at hmem htext
              rw [List.dropLast_cons_cons, List.mem_cons] at hmem
              exact hmem.elim (fun heq => hc heq.symm) htext.1

/-- **The line that a place cuts** loses its carriage return with its last character. -/
theorem dropTrailing_cut (h : PairsCarriages (before ++ after)) :
    dropTrailing '\r' (lastLine before ++ firstLine after) =
      lastLine (dropCarriages before) ++ firstLine (dropCarriages after) := by
  have hline := h.not_mem_dropLast _ (List.mem_of_getElem? (getElem?_lines before after))
  rw [lastLine_dropCarriages, firstLine_dropCarriages, ← dropCarriages_append]
  rcases List.eq_nil_or_concat' (lastLine before ++ firstLine after) with hl | ⟨l, c, hl⟩
  · rw [hl]
    rfl
  · rw [hl, List.dropLast_concat] at hline
    rw [hl, dropCarriages_append, dropCarriages_eq_self hline]
    by_cases hc : c = '\r'
    · simp [hc, dropTrailing]
    · simp [dropTrailing, hc, dropCarriages_cons hc]

/-- Where the character before a place is no carriage return, there is none before it on its
line. -/
theorem not_mem_lastLine (h : PairsCarriages (before ++ after))
    (hend : before.getLast? ≠ some '\r') : '\r' ∉ lastLine before := by
  induction before using List.reverseRecOn generalizing after with
  | nil => simp
  | append_singleton before c ih =>
      rw [List.append_assoc, List.singleton_append] at h
      rw [List.getLast?_concat] at hend
      by_cases hfeed : c = '\n'
      · rw [hfeed, lastLine_append_feed]
        exact List.not_mem_nil
      · rw [lastLine_append_singleton hfeed, List.mem_append, List.mem_singleton]
        have hbefore : before.getLast? ≠ some '\r' := by
          intro hlast
          obtain ⟨front, rfl⟩ := List.getLast?_eq_some_iff.mp hlast
          have hhead := h front (c :: after) (by simp)
          exact hfeed (by simpa using hhead)
        rintro (hmem | rfl)
        · exact ih h hbefore hmem
        · exact hend rfl

/-- **There the position is the same without carriage returns.** -/
theorem behind_dropCarriages (h : PairsCarriages (before ++ after))
    (hend : before.getLast? ≠ some '\r') (line : Int) :
    Position.behind line (dropCarriages before) = Position.behind line before := by
  have hmem := h.not_mem_lastLine hend
  simp only [Position.behind, lastLine_dropCarriages, dropCarriages_eq_self hmem,
    count_feed_dropCarriages]

end Text.PairsCarriages

end Lexis
