import Lexis.Proofs.Scan.Front

/-!
# Scan — faults

A `FaultSite` is a place of a source and one of three reasons why no scan passes it: a literal that
no quote closes, the start of a token behind a word, a character of no class.  `Holds` states each
reason by the front of the source alone, which tokenizes, and the character behind it;
`Reports` states what the fault says and which tokens are kept.

**A scan fails exactly at a fault site** (`exists_site`, `FaultSite.Holds.reports`), **at the only
one there is** (`scan_fault_exact`).
-/

namespace Lexis

/-! ### Characters behind a word -/

/-- What messages call a word of a kind. -/
def Kind.what : Kind → String
  | .integer    => "integer literal"
  | .identifier => "identifier"
  | .string     => "string literal"
  | _           => ""

/-- The characters that are unexpected behind a word of a kind. -/
def Kind.Misplaces : Kind → Char → Prop
  | .integer,    c => c.isAlpha = true ∨ c = '_' ∨ c = quote
  | .identifier, c => c = quote
  | .string,     c => c.isAlphanum = true ∨ c = '_' ∨ c = quote
  | _,           _ => False

theorem Word.what_eq (w : Word) : w.what = w.kind.what := by
  cases w <;> rfl

/-- The characters that are unexpected behind a word are those that begin a token there. -/
theorem Word.misplaces_iff {w : Word} {c : Char} :
    w.kind.Misplaces c ↔ w.Intrudes c ∧ startsToken c = true := by
  have hletter : ∀ hc : isLetterOrDigit c = true ∨ c = quote, ¬ IsFollower c := by
    intro hc hf
    rcases hc with hc | hc
    · simp [hf.classes.1] at hc
    · exact hf.classes.2 hc
  have hstarts : startsToken c = true ∧ ¬ IsFollower c ↔ isLetterOrDigit c = true ∨ c = quote := by
    constructor
    · rintro ⟨hs, hf⟩
      have hp : isPunctuation c ≠ true := fun hp => hf (.inr hp)
      simpa [startsToken, hp] using hs
    · intro hc
      refine ⟨?_, hletter hc⟩
      rcases hc with hc | hc <;> simp [startsToken, hc]
  rw [Word.Intrudes, and_assoc, and_comm (a := ¬ IsFollower c), hstarts]
  have hq : isDigit quote = false ∧ isLetterOrDigit quote = false := by decide
  cases w with
  | integer =>
      have hd : isLetter c = true → isDigit c = false := isDigit_of_isLetter
      simp only [kind, Kind.Misplaces, continues, ← or_assoc, ← isLetter_eq_true_iff]
      constructor
      · rintro (hc | rfl)
        · exact ⟨hd hc, .inl (by simp [isLetterOrDigit, hc])⟩
        · exact ⟨hq.1, .inr rfl⟩
      · rintro ⟨hc, hl | hl⟩
        · exact .inl (by simpa [isLetterOrDigit, hc] using hl)
        · exact .inr hl
  | identifier =>
      simp only [kind, Kind.Misplaces, continues]
      constructor
      · rintro rfl
        exact ⟨hq.2, .inr rfl⟩
      · rintro ⟨hc, hl | hl⟩
        · simp [hc] at hl
        · exact hl
  | literal =>
      simp only [kind, Kind.Misplaces, continues, ← or_assoc, ← isLetterOrDigit_iff, true_and]

/-- What is unexpected behind a word is no blank. -/
theorem Kind.Misplaces.isSpace_eq_false {kind : Kind} {c : Char} (h : kind.Misplaces c) :
    isSpace c = false := by
  have hletter : c.isAlphanum = true ∨ c = '_' → isSpace c = false :=
    fun hc => isSpace_of_isLetterOrDigit (isLetterOrDigit_iff.mpr hc)
  cases kind with
  | integer =>
      rcases h with h | rfl | rfl
      · exact hletter (.inl (by simp [Char.isAlphanum, h]))
      · rfl
      · rfl
  | identifier => exact h ▸ rfl
  | string =>
      rcases h with h | rfl | rfl
      · exact hletter (.inl h)
      · rfl
      · rfl
  | _ => exact h.elim

/-! ### Fault sites -/

/-- A place of a source that no scan passes, and the reason. -/
inductive FaultSite where
  /-- The literal that begins there is not closed. -/
  | unclosed (place : Nat)
  /-- A word of a kind ends there, and a character that begins a token stands behind it. -/
  | misplaced (place : Nat) (word : Kind) (c : Char)
  /-- A character stands there that no token begins with. -/
  | illegal (place : Nat) (c : Char)

namespace FaultSite

def place : FaultSite → Nat
  | .unclosed place      => place
  | .misplaced place _ _ => place
  | .illegal place _     => place

/-- The character that the fault there is about: the quote that opens a literal, or the one that
cannot be passed. -/
def char : FaultSite → Char
  | .unclosed _      => quote
  | .misplaced _ _ c => c
  | .illegal _ c     => c

/-- The source in front of the place tokenizes, and the character there cannot be passed. -/
def Holds (source filename : String) (line : Int) (site : FaultSite) : Prop :=
  Tokenizes (front source site.place) filename line ∧
    match site with
    | .unclosed q =>
      source.toList[q]? = some quote ∧ wordAtEnd? (front source q) filename line = none ∧
        ¬ Literal.Closes (source.toList.drop (q + 1))
    | .misplaced k word c =>
      source.toList[k]? = some c ∧ wordAtEnd? (front source k) filename line = some word ∧
        word.Misplaces c
    | .illegal k c => source.toList[k]? = some c ∧ Illegal c

/-- The kind of the fault there. -/
def kind : FaultSite → FaultKind
  | .unclosed _      => .invalidSyntax
  | .misplaced _ _ _ => .invalidSyntax
  | .illegal _ _     => .illegalCharacter

/-- The detail of the fault there. -/
def detail : FaultSite → String
  | .unclosed _         => "unterminated string literal"
  | .misplaced _ word c =>
    "unexpected " ++ Text.quoted (String.singleton c) ++ " after " ++ word.what
  | .illegal _ c        => Text.quoted (String.singleton c)

/-- The tokens kept in front of the fault: those of the source up to there, without the word that
ends there unless punctuation follows it. -/
def kept (source filename : String) (line : Int) (site : FaultSite) : List Token :=
  let tokens := tokensOf (front source site.place) filename line
  match site with
  | .unclosed _      => tokens
  | .misplaced _ _ _ => tokens.dropLast
  | .illegal k c     =>
    if (wordAtEnd? (front source k) filename line).isSome ∧ isPunctuation c = false then
      tokens.dropLast
    else tokens

/-- What a scan says of the fault there: its kind, its detail, its position, and the tokens kept,
up to the texts of their lines. -/
structure Reports (source filename : String) (line : Int) (site : FaultSite) (fault : Fault) :
    Prop where
  kind     : fault.kind = site.kind
  detail   : fault.detail = site.detail
  position : fault.position = .behind line (source.toList.take site.place)
  tokens   : ∃ tokens, (scan source filename line).tokens = tokens ++ [fault.anchor] ∧
    tokens.map Token.unlined = (site.kept source filename line).map Token.unlined

variable {source filename : String} {line : Int} {site : FaultSite}

/-- The fault of a stop is reported as that of a site when the place, the kind, the detail and the
tokens agree. -/
theorem reports_of_stops {xs : List Lexeme} {rest : List Char} {n : Nat} {detail : String}
    (hreads : Reads source.toList xs rest) (hstops : Stops rest n site.kind detail)
    (hplace : site.place = (Lexeme.texts xs).length + n)
    (hdetail : (stopFault filename line (Lexeme.texts xs ++ rest.take n) (rest.drop n) site.kind
      detail).detail = site.detail)
    (hkept : (Lexeme.tokens filename line [] xs rest).map Token.unlined =
      (site.kept source filename line).map Token.unlined) :
    ∃ fault, (scan source filename line).fault? = some fault ∧
      site.Reports source filename line fault := by
  have hscan := scan_of_stops hreads hstops filename line
  refine ⟨_, by rw [hscan], by simp, hdetail, ?_, _, by rw [hscan], hkept⟩
  rw [Fault.position, stopFault_anchor, hplace, hreads.text_eq, List.take_length_add_append]
  rfl

theorem ne_feed_of_illegal {c : Char} (h : Illegal c) : c ≠ '\n' := by
  rintro rfl
  exact h.1 (by decide)

/-- **A scan reports every fault site.** -/
theorem Holds.reports (h : site.Holds source filename line) :
    ∃ fault, (scan source filename line).fault? = some fault ∧
      site.Reports source filename line fault := by
  obtain ⟨htokenizes, h⟩ := h
  obtain ⟨xs, hfront⟩ := tokenizes_iff.mp htokenizes
  have hword := wordAtEnd?_of_reads hfront filename line
  cases site with
  | unclosed q =>
      obtain ⟨hc, hnone, hopen⟩ := h
      rw [place] at hfront hword
      rw [hword] at hnone
      have hlast := Lexeme.not_isWord_of_getLast? hnone
      obtain ⟨hreads, hplace⟩ := reads_of_front hfront hc fun x hx hw => absurd hw (hlast x hx)
      exact reports_of_stops hreads (.unclosed hopen) hplace rfl
        (map_unlined_tokensOf hfront _ _ _)
  | misplaced k word c =>
      obtain ⟨hc, hsome, hmisplaces⟩ := h
      rw [place] at hfront hword
      rw [hword] at hsome
      obtain ⟨ys, w, rfl, rfl⟩ := Lexeme.exists_concat_word hsome
      obtain ⟨hintrudes, hstarts⟩ := Word.misplaces_iff.mp hmisplaces
      obtain ⟨hreads, hplace⟩ := reads_word_of_front hfront hc
      refine reports_of_stops hreads (.misplaced hintrudes hstarts) hplace ?_
        (map_unlined_dropLast_tokensOf hfront _ _ _)
      rw [detail, ← Word.what_eq]
      rfl
  | illegal k c =>
      obtain ⟨hc, hillegal⟩ := h
      rw [place] at hfront hword
      have hfeed := ne_feed_of_illegal hillegal
      by_cases hdrop : (wordAtEnd? (front source k) filename line).isSome ∧ isPunctuation c = false
      · -- the word is given up with what intrudes behind it
        obtain ⟨word, hsome⟩ := Option.isSome_iff_exists.mp hdrop.1
        obtain ⟨ys, w, rfl, -⟩ := Lexeme.exists_concat_word (hword.symm.trans hsome)
        obtain ⟨hintrudes, hstarts⟩ :=
          (Word.intrudes_and_not_startsToken_iff (w := w)).mpr ⟨hillegal, hdrop.2⟩
        obtain ⟨hreads, hplace⟩ := reads_word_of_front hfront hc
        refine reports_of_stops hreads (.foreign hintrudes hstarts) hplace ?_ ?_
        · rw [List.drop_left]
          exact stopFault_illegal_detail hfeed _ _ _ _ _
        · rw [kept, if_pos hdrop]
          exact map_unlined_dropLast_tokensOf hfront _ _ _
      · -- the word is read, if there is one, and the character stops the next turn
        have hlast : ∀ x ∈ xs.getLast?, x.IsWord → IsFollower c := by
          intro x hx hw
          have hsome : (wordAtEnd? (front source k) filename line).isSome := by
            match x with
            | .word w => simp [hword, show xs.getLast? = some (.word w) from hx, Lexeme.wordKind?]
          cases hp : isPunctuation c with
          | true => exact .inr hp
          | false => exact absurd ⟨hsome, hp⟩ hdrop
        obtain ⟨hreads, hplace⟩ := reads_of_front hfront hc hlast
        refine reports_of_stops hreads (.illegal hillegal) hplace ?_ ?_
        · exact stopFault_illegal_detail hfeed _ _ _ _ _
        · rw [kept, if_neg hdrop]
          exact map_unlined_tokensOf hfront _ _ _

end FaultSite

/-- **A scan stops at a fault site.** -/
theorem exists_site {source : String} {xs : List Lexeme} {rest : List Char} {n : Nat}
    {kind : FaultKind} {detail : String} (hreads : Reads source.toList xs rest)
    (hstops : Stops rest n kind detail) (filename : String) (line : Int) :
    ∃ site : FaultSite, site.Holds source filename line := by
  cases hstops with
  | @misplaced w c rest hc hs =>
      obtain ⟨hfront, hat⟩ := front_of_reads_word hreads
      refine ⟨.misplaced ((Lexeme.texts xs).length + w.text.length) w.kind c,
        tokenizes_iff.mpr ⟨_, hfront⟩, hat, ?_, Word.misplaces_iff.mpr ⟨hc, hs⟩⟩
      rw [wordAtEnd?_of_reads hfront, List.getLast?_concat]
      rfl
  | @foreign w c rest hc hs =>
      obtain ⟨hfront, hat⟩ := front_of_reads_word hreads
      exact ⟨.illegal ((Lexeme.texts xs).length + w.text.length) c,
        tokenizes_iff.mpr ⟨_, hfront⟩, hat, (Word.intrudes_and_not_startsToken_iff.mp ⟨hc, hs⟩).1⟩
  | @unclosed rest h =>
      obtain ⟨hfront, hat, hdrop⟩ := front_of_reads hreads
      refine ⟨.unclosed (Lexeme.texts xs).length, tokenizes_iff.mpr ⟨_, hfront⟩, hat, ?_, ?_⟩
      · rw [wordAtEnd?_of_reads hfront, Option.bind_eq_none_iff]
        intro x hx
        match x with
        | .filler f => rfl
        | .word w =>
            -- a word is not read in front of a quote
            have hfollows := (reads_iff.mp hreads).2.2 _ hx trivial
            exact absurd rfl (hfollows quote rfl).classes.2
      · rwa [hdrop]
  | @illegal c rest h =>
      obtain ⟨hfront, hat, -⟩ := front_of_reads hreads
      exact ⟨.illegal (Lexeme.texts xs).length c, tokenizes_iff.mpr ⟨_, hfront⟩, hat, h⟩

namespace FaultSite

variable {source filename : String} {line : Int} {site : FaultSite}

/-- The character of a site stands at its place. -/
theorem Holds.getElem?_place (h : site.Holds source filename line) :
    source.toList[site.place]? = some site.char := by
  obtain ⟨-, h⟩ := h
  cases site <;> exact h.1

/-- The place of a site is in the source. -/
theorem Holds.place_lt (h : site.Holds source filename line) :
    site.place < source.toList.length :=
  (List.getElem?_eq_some_iff.mp h.getElem?_place).1

/-- A fault is never about a blank. -/
theorem Holds.isSpace_char (h : site.Holds source filename line) : isSpace site.char = false := by
  obtain ⟨-, h⟩ := h
  cases site with
  | unclosed q => rfl
  | misplaced k word c => exact h.2.2.isSpace_eq_false
  | illegal k c => exact (illegal_iff.mp h.2).1

/-- The source behind the place of a site begins with its character. -/
theorem Holds.drop_place (h : site.Holds source filename line) :
    source.toList.drop site.place = site.char :: source.toList.drop (site.place + 1) := by
  obtain ⟨hlt, hchar⟩ := List.getElem?_eq_some_iff.mp h.getElem?_place
  rw [List.drop_eq_getElem_cons hlt, hchar]

/-- The rest of the line of a site begins with its character. -/
theorem Holds.firstLine_drop_place (h : site.Holds source filename line) :
    Text.firstLine (source.toList.drop site.place) =
      site.char :: Text.firstLine (source.toList.drop (site.place + 1)) := by
  have hfeed : site.char ≠ '\n' := ne_of_isSpace h.isSpace_char (by decide)
  rw [h.drop_place, Text.firstLine, Text.lines_cons hfeed]
  rfl

/-- A fault that is reported for a site is at its place. -/
theorem Reports.offsetIn_eq {fault : Fault} (h : site.Reports source filename line fault)
    (hsite : site.Holds source filename line) :
    fault.position.offsetIn source.toList line = site.place := by
  have hoffset := Position.offsetIn_behind line (source.toList.take site.place)
    (source.toList.drop site.place)
  rw [List.take_append_drop, List.length_take, Nat.min_eq_left hsite.place_lt.le] at hoffset
  rw [h.position, hoffset]

/-- **A source has one fault site at most.** -/
theorem Holds.unique {other : FaultSite} (h : site.Holds source filename line)
    (h' : other.Holds source filename line) : other = site := by
  obtain ⟨fault, hfault, hreports⟩ := h.reports
  obtain ⟨fault', hfault', hreports'⟩ := h'.reports
  obtain rfl : fault = fault' := Option.some.inj (hfault.symm.trans hfault')
  -- the position of the fault tells the place, its kind and what is there tell the reason
  have hplace : other.place = site.place := by
    have := (hreports.offsetIn_eq h).symm.trans (hreports'.offsetIn_eq h')
    omega
  have hkind : other.kind = site.kind := hreports'.kind.symm.trans hreports.kind
  obtain ⟨-, h⟩ := h
  obtain ⟨-, h'⟩ := h'
  cases site with
  | unclosed q =>
      cases other with
      | unclosed q' => exact congrArg unclosed hplace
      | misplaced k' word' c' =>
          obtain rfl : k' = q := hplace
          exact absurd (h.2.1.symm.trans h'.2.1) (by simp)
      | illegal k' c' => simp [kind] at hkind
  | misplaced k word c =>
      cases other with
      | unclosed q' =>
          obtain rfl : q' = k := hplace
          exact absurd (h'.2.1.symm.trans h.2.1) (by simp)
      | misplaced k' word' c' =>
          obtain rfl : k' = k := hplace
          obtain rfl : c' = c := Option.some.inj (h'.1.symm.trans h.1)
          obtain rfl : word' = word := Option.some.inj (h'.2.1.symm.trans h.2.1)
          rfl
      | illegal k' c' => simp [kind] at hkind
  | illegal k c =>
      cases other with
      | unclosed q' => simp [kind] at hkind
      | misplaced k' word' c' => simp [kind] at hkind
      | illegal k' c' =>
          obtain rfl : k' = k := hplace
          obtain rfl : c' = c := Option.some.inj (h'.1.symm.trans h.1)
          rfl

/-- **Every fault is that of a site.** -/
theorem exists_reports {fault : Fault} (h : (scan source filename line).fault? = some fault) :
    ∃ site : FaultSite, site.Holds source filename line ∧
      site.Reports source filename line fault := by
  rcases scan_cases source with ⟨xs, hreads⟩ | ⟨xs, rest, n, kind, detail, hreads, hstops⟩
  · simp [scan_of_reads hreads] at h
  · obtain ⟨site, hsite⟩ := exists_site hreads hstops filename line
    obtain ⟨fault', hfault, hreports⟩ := hsite.reports
    obtain rfl : fault = fault' := Option.some.inj (h.symm.trans hfault)
    exact ⟨site, hsite, hreports⟩

end FaultSite

/-- **Faults are reported exactly.**  A scan that fails has one fault site in its source, and the
site determines the kind of the fault, its detail, its position and the tokens kept in front of it.
The source of a scan that does not fail has none. -/
theorem scan_fault_exact (source filename : String) (line : Int) :
    match (scan source filename line).fault? with
    | none       => ∀ site : FaultSite, ¬ site.Holds source filename line
    | some fault =>
      (∃! site : FaultSite, site.Holds source filename line) ∧
        ∀ site : FaultSite, site.Holds source filename line →
          site.Reports source filename line fault := by
  cases hfault : (scan source filename line).fault? with
  | none =>
      intro site hsite
      obtain ⟨fault, hsome, -⟩ := hsite.reports
      simp [hfault] at hsome
  | some fault =>
      obtain ⟨site, hsite, -⟩ := FaultSite.exists_reports hfault
      refine ⟨⟨site, hsite, fun other hother => hsite.unique hother⟩, fun other hother => ?_⟩
      obtain ⟨fault', hsome, hreports⟩ := hother.reports
      obtain rfl : fault = fault' := Option.some.inj (hfault.symm.trans hsome)
      exact hreports

/-- A letter behind a number. -/
theorem scan_fault_exact_letter :
    ∃ fault tokens, (scan "f 12x" "input" 3).fault? = some fault ∧
      fault.kind = .invalidSyntax ∧ fault.detail = "unexpected 'x' after integer literal" ∧
      fault.position = ⟨4, 3, 4⟩ ∧
      (scan "f 12x" "input" 3).tokens = tokens ++ [fault.anchor] ∧
      tokens.map Token.value = ["f"] := by
  have hfront : Reads (front "f 12x" 4).toList
      [.word (.identifier 'f' [] (by decide) (by simp)), .filler (.blank ' ' (by simp)),
        .word (.integer ['1', '2'] (by simp) (by simp))] [] :=
    reads_nil_iff.mpr ⟨by decide, by simp [Lexeme.Sparse, Lexeme.IsWord]⟩
  have hsite : (FaultSite.misplaced 4 .integer 'x').Holds "f 12x" "input" 3 :=
    ⟨tokenizes_iff.mpr ⟨_, hfront⟩, by decide, wordAtEnd?_of_reads hfront _ _, .inl (by decide)⟩
  have h := scan_fault_exact "f 12x" "input" 3
  cases hfault : (scan "f 12x" "input" 3).fault? with
  | none =>
      rw [hfault] at h
      exact absurd hsite (h _)
  | some fault =>
      rw [hfault] at h
      have hreports := h.2 _ hsite
      obtain ⟨tokens, htokens, hkept⟩ := hreports.tokens
      refine ⟨fault, tokens, rfl, hreports.kind, hreports.detail.trans (by decide),
        hreports.position.trans (by decide), htokens, ?_⟩
      have hvalues : tokens.map Token.value = (tokens.map Token.unlined).map Token.value := by
        rw [List.map_map]
        rfl
      rw [hvalues, hkept, FaultSite.kept, FaultSite.place, tokensOf_of_reads hfront]
      rfl

end Lexis
