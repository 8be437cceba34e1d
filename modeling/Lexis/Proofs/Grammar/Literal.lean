import Lexis.Literal

/-!
# Grammar — string literals

A `Piece` is a unit of a string literal: a plain character, or the escape character, some `n`s and
one character that is not `n`.  The text between the quotes of a literal is a sequence of pieces.

* `body_sources`: the scan for the closing quote passes any sequence of pieces and decodes it.
* `body_eq_some_iff`: it finds a quote exactly behind a sequence of pieces.
* `sources_append_quote_inj`: a text begins with pieces and a closing quote in one way only.
* `exists_sources_of_body`: a text in which it finds no quote is one character short of a sequence
  of pieces, whatever escape the text breaks off in.
-/

namespace Lexis.Literal

/-- A unit of a string literal. -/
inductive Piece where
  | plain (c : Char) (h : c ≠ quote ∧ c ≠ escape)
  | escaped (feeds : Nat) (c : Char) (h : c ≠ 'n')

namespace Piece

/-- A piece as it stands. -/
def source : Piece → List Char
  | .plain c _         => [c]
  | .escaped feeds c _ => escape :: (List.replicate feeds 'n' ++ [c])

/-- What a piece stands for. -/
def decoded : Piece → List Char
  | .plain c _         => [c]
  | .escaped feeds c _ => List.replicate feeds '\n' ++ [c]

end Piece

/-- Pieces as they stand. -/
def sources (pieces : List Piece) : List Char :=
  pieces.flatMap Piece.source

/-- What pieces stand for. -/
def decodings (pieces : List Piece) : List Char :=
  pieces.flatMap Piece.decoded

/-- The text begins with pieces and a closing quote. -/
def Closes (text : List Char) : Prop :=
  ∃ pieces rest, text = sources pieces ++ quote :: rest

@[simp] theorem sources_nil : sources [] = [] := rfl

@[simp] theorem sources_cons (p : Piece) (ps : List Piece) :
    sources (p :: ps) = p.source ++ sources ps :=
  List.flatMap_cons

@[simp] theorem decodings_cons (p : Piece) (ps : List Piece) :
    decodings (p :: ps) = p.decoded ++ decodings ps :=
  List.flatMap_cons

/-! ### From pieces to the scan -/

/-- Behind an escape character, `n`s and one other character are one piece. -/
theorem body_true_replicate (feeds : Nat) {c : Char} (hc : c ≠ 'n') (text : List Char) :
    body true (List.replicate feeds 'n' ++ c :: text) =
      (body false text).map fun t =>
        (List.replicate feeds 'n' ++ c :: t.1, List.replicate feeds '\n' ++ c :: t.2) := by
  induction feeds with
  | zero =>
      rw [List.replicate_zero, List.nil_append, body, if_neg hc]
      rfl
  | succ feeds ih =>
      -- an `n` leaves the scan in the escape
      rw [List.replicate_succ, List.cons_append, body, if_pos rfl, ih, Option.map_map]
      rfl

/-- One piece, passed. -/
theorem body_piece (p : Piece) (text : List Char) :
    body false (p.source ++ text) =
      (body false text).map fun t => (p.source ++ t.1, p.decoded ++ t.2) := by
  cases p with
  | plain c h =>
      rw [Piece.source, List.cons_append, body, if_neg h.2, if_neg h.1]
      rfl
  | escaped feeds c h =>
      rw [Piece.source, List.cons_append, List.append_assoc, body, if_pos rfl,
        List.singleton_append, body_true_replicate feeds h, Option.map_map]
      refine congrArg (Option.map · (body false text)) ?_
      funext t
      simp [Piece.decoded]

/-- The scan for the closing quote passes any pieces and decodes them. -/
theorem body_sources (pieces : List Piece) (rest : List Char) :
    body false (sources pieces ++ quote :: rest) = some (sources pieces, decodings pieces) := by
  induction pieces with
  | nil =>
      have hne : quote ≠ escape := by decide
      rw [sources_nil, List.nil_append, body, if_neg hne, if_pos rfl]
      rfl
  | cons p ps ih =>
      rw [sources_cons, List.append_assoc, body_piece, ih]
      rfl

/-! ### From the scan to pieces -/

/-- What the scan passes is a sequence of pieces; in an escape, the rest of one piece and then a
sequence. -/
theorem pieces_of_body {text source decoded : List Char} :
    (body false text = some (source, decoded) →
      ∃ ps, source = sources ps ∧ decoded = decodings ps) ∧
    (body true text = some (source, decoded) →
      ∃ feeds c ps, c ≠ 'n' ∧ source = List.replicate feeds 'n' ++ c :: sources ps ∧
        decoded = List.replicate feeds '\n' ++ c :: decodings ps) := by
  -- both at once: an escape leads from plain text into an escape and back
  induction text generalizing source decoded with
  | nil => simp [body]
  | cons c text ih =>
      refine ⟨fun h => ?_, fun h => ?_⟩
      · rw [body] at h
        split at h
        · rename_i hc
          obtain ⟨⟨s, d⟩, hsd, he⟩ := Option.map_eq_some_iff.mp h
          obtain ⟨feeds, e, ps, hn, rfl, rfl⟩ := ih.2 hsd
          simp only [Prod.mk.injEq] at he
          exact ⟨.escaped feeds e hn :: ps, by simp [← he.1, hc, Piece.source],
            by simp [← he.2, Piece.decoded]⟩
        · rename_i hc
          split at h
          · simp only [Option.some.injEq, Prod.mk.injEq] at h
            exact ⟨[], h.1.symm, h.2.symm⟩
          · rename_i hq
            obtain ⟨⟨s, d⟩, hsd, he⟩ := Option.map_eq_some_iff.mp h
            obtain ⟨ps, rfl, rfl⟩ := ih.1 hsd
            simp only [consBoth, Prod.mk.injEq] at he
            exact ⟨.plain c ⟨hq, hc⟩ :: ps, he.1.symm, he.2.symm⟩
      · rw [body] at h
        split at h
        · rename_i hc
          obtain ⟨⟨s, d⟩, hsd, he⟩ := Option.map_eq_some_iff.mp h
          obtain ⟨feeds, e, ps, hn, rfl, rfl⟩ := ih.2 hsd
          simp only [consBoth, Prod.mk.injEq] at he
          exact ⟨feeds + 1, e, ps, hn, by rw [← he.1, hc]; rfl, he.2.symm⟩
        · rename_i hc
          obtain ⟨⟨s, d⟩, hsd, he⟩ := Option.map_eq_some_iff.mp h
          obtain ⟨ps, rfl, rfl⟩ := ih.1 hsd
          simp only [consBoth, Prod.mk.injEq] at he
          exact ⟨0, c, ps, hc, he.1.symm, he.2.symm⟩

/-- **The closing quote.**  The scan finds it exactly behind a sequence of pieces, and answers
with those pieces. -/
theorem body_eq_some_iff {text source decoded : List Char} :
    body false text = some (source, decoded) ↔
      ∃ ps rest, text = sources ps ++ quote :: rest ∧ source = sources ps ∧
        decoded = decodings ps := by
  constructor
  · intro h
    obtain ⟨ps, rfl, rfl⟩ := pieces_of_body.1 h
    obtain ⟨rest, rfl⟩ := eq_append_of_body h
    exact ⟨ps, rest, rfl, rfl, rfl⟩
  · rintro ⟨ps, rest, rfl, rfl, rfl⟩
    exact body_sources ps rest

theorem body_eq_none_iff {text : List Char} : body false text = none ↔ ¬ Closes text := by
  rw [Option.eq_none_iff_forall_ne_some]
  constructor
  · rintro h ⟨ps, rest, rfl⟩
    exact h _ (body_sources ps rest)
  · rintro h ⟨source, decoded⟩ hb
    obtain ⟨ps, rest, rfl, -, -⟩ := body_eq_some_iff.mp hb
    exact h ⟨ps, rest, rfl⟩

/-! ### One reading -/

/-- A run of `n`s and one other character are found again in front of any text. -/
theorem replicate_append_cons_inj {m n : Nat} {c d : Char} (hc : c ≠ 'n') (hd : d ≠ 'n')
    {text text' : List Char}
    (h : List.replicate m 'n' ++ c :: text = List.replicate n 'n' ++ d :: text') :
    m = n ∧ c = d ∧ text = text' := by
  induction m generalizing n with
  | zero =>
      cases n with
      | zero => simpa using h
      | succ n => exact absurd (List.cons.inj h).1 hc
  | succ m ih =>
      cases n with
      | zero => exact absurd (List.cons.inj h).1.symm hd
      | succ n =>
          obtain ⟨rfl, hrest⟩ := ih (List.cons.inj h).2
          exact ⟨rfl, hrest⟩

/-- A piece is found again in front of any text. -/
theorem Piece.source_append_inj {p q : Piece} {text text' : List Char}
    (h : p.source ++ text = q.source ++ text') : p = q ∧ text = text' := by
  cases p with
  | plain c hc =>
      cases q with
      | plain d hd =>
          obtain ⟨rfl, rfl⟩ := List.cons.inj h
          exact ⟨rfl, rfl⟩
      | escaped n d hd => exact absurd (List.cons.inj h).1 hc.2
  | escaped m c hc =>
      cases q with
      | plain d hd => exact absurd (List.cons.inj h).1.symm hd.2
      | escaped n d hd =>
          have htail : List.replicate m 'n' ++ [c] ++ text = List.replicate n 'n' ++ [d] ++ text' :=
            (List.cons.inj h).2
          rw [List.append_assoc, List.append_assoc] at htail
          obtain ⟨rfl, rfl, rfl⟩ := replicate_append_cons_inj hc hd htail
          exact ⟨rfl, rfl⟩

/-- A piece does not begin with the closing quote. -/
theorem Piece.quote_cons_ne (p : Piece) (text text' : List Char) :
    quote :: text ≠ p.source ++ text' := by
  intro h
  cases p with
  | plain c hc => exact hc.1 (List.cons.inj h).1.symm
  | escaped n c hc => exact absurd (List.cons.inj h).1 (by decide)

/-- **A literal has one reading**: a text begins with pieces and a closing quote in one way only. -/
theorem sources_append_quote_inj {ps qs : List Piece} {rest rest' : List Char}
    (h : sources ps ++ quote :: rest = sources qs ++ quote :: rest') : ps = qs ∧ rest = rest' := by
  induction ps generalizing qs with
  | nil =>
      cases qs with
      | nil => exact ⟨rfl, (List.cons.inj h).2⟩
      | cons q qs =>
          rw [sources_cons, List.append_assoc] at h
          exact absurd h (q.quote_cons_ne _ _)
  | cons p ps ih =>
      cases qs with
      | nil =>
          rw [sources_cons, List.append_assoc] at h
          exact absurd h.symm (p.quote_cons_ne _ _)
      | cons q qs =>
          rw [sources_cons, sources_cons, List.append_assoc, List.append_assoc] at h
          obtain ⟨rfl, htail⟩ := Piece.source_append_inj h
          obtain ⟨rfl, hrest⟩ := ih htail
          exact ⟨rfl, hrest⟩

/-! ### Texts that break off -/

/-- A text without a closing quote, with one plain character behind it, is a sequence of pieces:
the character ends the escape the text may break off in. -/
theorem exists_sources_of_body {x : Char} (hx : x ≠ quote ∧ x ≠ escape) (hn : x ≠ 'n')
    {text : List Char} :
    (body false text = none → ∃ ps, text ++ [x] = sources ps) ∧
    (body true text = none →
      ∃ feeds c ps, c ≠ 'n' ∧ text ++ [x] = List.replicate feeds 'n' ++ c :: sources ps) := by
  induction text with
  | nil => exact ⟨fun _ => ⟨[.plain x hx], rfl⟩, fun _ => ⟨0, x, [], hn, rfl⟩⟩
  | cons c text ih =>
      refine ⟨fun h => ?_, fun h => ?_⟩
      · rw [body] at h
        split at h
        · rename_i hc
          obtain ⟨feeds, e, ps, he, htext⟩ := ih.2 (Option.map_eq_none_iff.mp h)
          exact ⟨.escaped feeds e he :: ps, by simp [htext, hc, Piece.source]⟩
        · rename_i hc
          split at h
          · simp at h
          · rename_i hq
            obtain ⟨ps, htext⟩ := ih.1 (Option.map_eq_none_iff.mp h)
            exact ⟨.plain c ⟨hq, hc⟩ :: ps, by simp [htext, Piece.source]⟩
      · rw [body] at h
        split at h
        · rename_i hc
          obtain ⟨feeds, e, ps, he, htext⟩ := ih.2 (Option.map_eq_none_iff.mp h)
          exact ⟨feeds + 1, e, ps, he, by simp [htext, hc, List.replicate_succ]⟩
        · rename_i hc
          obtain ⟨ps, htext⟩ := ih.1 (Option.map_eq_none_iff.mp h)
          exact ⟨0, c, ps, hc, by simp [htext]⟩

end Lexis.Literal
