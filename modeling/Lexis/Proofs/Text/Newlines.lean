import Lexis.Proofs.Text.Carriage

/-!
# Text — carriage returns as line feeds

Two ways to make the line ends of a text line feeds.  `turned` makes every carriage return one, so
a line end of two characters becomes two line feeds; `turnLone` does so with those that stand alone
only, and leaves a text that `PairsCarriages`.  **A text that has been read from a file is the
second without its carriage returns** (`unifyNewlines_eq`), and the two ways agree once all carriage
returns are made line feeds (`turned_turnLone`).
-/

namespace Lexis.Text

/-- A carriage return as a line feed. -/
def turn (c : Char) : Char :=
  if c = '\r' then '\n' else c

/-- A text with every carriage return made a line feed. -/
def turned (text : List Char) : List Char :=
  text.map turn

/-- A text with every carriage return that stands alone made a line feed. -/
def turnLone : List Char → List Char
  | '\r' :: '\n' :: rest => '\r' :: '\n' :: turnLone rest
  | c :: rest            => turn c :: turnLone rest
  | []                   => []

@[simp] theorem turn_carriage : turn '\r' = '\n' := rfl

theorem turn_eq_self {c : Char} (h : c ≠ '\r') : turn c = c :=
  if_neg h

@[simp] theorem turned_nil : turned [] = [] := rfl

@[simp] theorem turned_cons (c : Char) (text : List Char) :
    turned (c :: text) = turn c :: turned text :=
  rfl

@[simp] theorem turned_append (text text' : List Char) :
    turned (text ++ text') = turned text ++ turned text' :=
  List.map_append

@[simp] theorem length_turned (text : List Char) : (turned text).length = text.length :=
  List.length_map ..

theorem turned_eq_self {text : List Char} (h : '\r' ∉ text) : turned text = text := by
  have hall : ∀ c ∈ text, turn c = id c :=
    fun c hc => turn_eq_self fun hcarriage => h (hcarriage ▸ hc)
  rw [turned, List.map_congr_left hall, List.map_id]

theorem turn_ne_carriage (c : Char) : turn c ≠ '\r' := by
  rw [turn]
  split
  · decide
  · assumption

theorem turn_turn (c : Char) : turn (turn c) = turn c :=
  turn_eq_self (turn_ne_carriage c)

/-- The carriage returns that are left are all in front of line feeds. -/
theorem pairsCarriages_turnLone (text : List Char) : PairsCarriages (turnLone text) := by
  fun_induction turnLone text with
  | case1 rest ih => simpa [PairsCarriages.cons_iff] using ih
  | case2 c rest _ ih =>
      exact PairsCarriages.cons_iff.mpr ⟨fun h => absurd h (turn_ne_carriage c), ih⟩
  | case3 => simp [PairsCarriages]

theorem turned_turnLone (text : List Char) : turned (turnLone text) = turned text := by
  fun_induction turnLone text with
  | case1 rest ih => simp [ih]
  | case2 c rest _ ih => simp [ih, turn_turn]
  | case3 => rfl

/-- Where no carriage return stands alone nothing is changed. -/
theorem turnLone_eq_self {text : List Char} (h : PairsCarriages text) : turnLone text = text := by
  fun_induction turnLone text with
  | case1 rest ih => rw [ih h.tail.tail]
  | case2 c rest hpair ih =>
      have hc : c ≠ '\r' := by
        rintro rfl
        obtain ⟨rest', rfl, -⟩ := h.exists_feed
        exact hpair rest' rfl rfl
      rw [turn_eq_self hc, ih h.tail]
  | case3 => rfl

/-- **A text that is read from a file**: carriage returns that stand alone are made line feeds, and
the others are left out. -/
theorem unifyNewlines_eq (text : List Char) :
    unifyNewlines text = dropCarriages (turnLone text) := by
  fun_induction turnLone text with
  | case1 rest ih =>
      rw [unifyNewlines, ih, dropCarriages_carriage_cons, dropCarriages_cons (by decide)]
  | case2 c rest hpair ih =>
      rw [dropCarriages_cons (turn_ne_carriage c), ← ih]
      by_cases hc : c = '\r'
      · subst hc
        rw [unifyNewlines, turn_carriage]
        exact fun rest' => hpair rest' rfl
      · rw [unifyNewlines, turn_eq_self hc]
        · exact fun rest' hc' => absurd hc' hc
        · exact hc
  | case3 => rfl

theorem length_unifyNewlines_le (text : List Char) :
    (unifyNewlines text).length ≤ text.length := by
  have hlength : (turnLone text).length = text.length := by
    rw [← length_turned, turned_turnLone, length_turned]
  rw [unifyNewlines_eq, ← hlength]
  exact List.length_filter_le _ _

end Lexis.Text
