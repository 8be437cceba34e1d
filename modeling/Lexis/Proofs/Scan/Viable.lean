import Lexis.Proofs.Scan.Faults

/-!
# Scan — viable prefixes

A fault site is seen from the front of its source: it holds in every front that reaches behind its
place (`FaultSite.Holds.in_front`), and, unless a quote could still close a literal, in every
extension (`FaultSite.Holds.append`).  So a fault is reported at the earliest place and never too
early (`tokenize_error_viable`): in front of it lies a text that tokenizes, and no text that goes on
with the character there does.  An open literal can be closed by going on.
-/

namespace Lexis

/-- Whether a source tokenizes depends neither on its name nor on the number of its first line. -/
theorem Tokenizes.congr {source filename : String} {line : Int}
    (h : Tokenizes source filename line) (filename' : String) (line' : Int) :
    Tokenizes source filename' line' :=
  tokenizes_iff.mpr (tokenizes_iff.mp h)

theorem front_append {source : String} {k : Nat} (hk : k ≤ source.toList.length) (t : String) :
    front (source ++ t) k = front source k := by
  rw [front, front, String.toList_append, List.take_append_of_le_length hk]

theorem front_front (source : String) {k n : Nat} (h : k ≤ n) :
    front (front source n) k = front source k := by
  rw [front, toList_front, List.take_take, Nat.min_eq_left h, front]

theorem Literal.Closes.append {text : List Char} (h : Closes text) (more : List Char) :
    Closes (text ++ more) := by
  obtain ⟨pieces, rest, rfl⟩ := h
  exact ⟨pieces, rest ++ more, by simp⟩

namespace FaultSite

variable {source filename : String} {line : Int} {site : FaultSite}

/-- A site holds in each front of the source that has its place. -/
theorem Holds.in_front {k : Nat} (h : site.Holds source filename line) (hk : site.place < k) :
    site.Holds (front source k) filename line := by
  have hat : (front source k).toList[site.place]? = source.toList[site.place]? := by
    rw [toList_front, List.getElem?_take_of_lt hk]
  have hfront := front_front source hk.le
  obtain ⟨htokenizes, h⟩ := h
  refine ⟨by rwa [hfront], ?_⟩
  cases site with
  | unclosed q =>
      obtain ⟨hc, hword, hopen⟩ := h
      refine ⟨hat.trans hc, hfront ▸ hword, fun hcloses => hopen ?_⟩
      have hsource := hcloses.append (source.toList.drop k)
      rwa [toList_front, ← List.drop_append_of_le_length, List.take_append_drop] at hsource
      have := (List.getElem?_eq_some_iff.mp hc).1
      rw [List.length_take]
      exact Nat.le_min.mpr ⟨hk, this⟩
  | misplaced n word c =>
      obtain ⟨hc, hword, hmisplaces⟩ := h
      exact ⟨hat.trans hc, hfront ▸ hword, hmisplaces⟩
  | illegal n c => exact ⟨hat.trans h.1, h.2⟩

/-- A site other than an open literal holds in each source that begins with the source. -/
theorem Holds.append (h : site.Holds source filename line) (hsite : ∀ q, site ≠ .unclosed q)
    (t : String) : site.Holds (source ++ t) filename line := by
  have hlt := h.place_lt
  have hfront := front_append hlt.le t
  have hat : (source ++ t).toList[site.place]? = source.toList[site.place]? := by
    rw [String.toList_append, List.getElem?_append_left hlt]
  obtain ⟨htokenizes, h⟩ := h
  refine ⟨by rwa [hfront], ?_⟩
  cases site with
  | unclosed q => exact absurd rfl (hsite q)
  | misplaced n word c =>
      obtain ⟨hc, hword, hmisplaces⟩ := h
      exact ⟨hat.trans hc, hfront ▸ hword, hmisplaces⟩
  | illegal n c => exact ⟨hat.trans h.1, h.2⟩

/-- A source with a site does not tokenize. -/
theorem Holds.not_tokenizes (h : site.Holds source filename line) :
    ¬ Tokenizes source filename line := by
  rintro ⟨tokens, htokens⟩
  obtain ⟨fault, hfault, -⟩ := h.reports
  rw [tokenize_eq_error_iff.mpr hfault] at htokens
  simp at htokens

/-- No site lies in a front that tokenizes. -/
theorem Holds.le_place {k : Nat} (h : site.Holds source filename line)
    (hfront : Tokenizes (front source k) filename line) : k ≤ site.place := by
  by_contra hlt
  exact (h.in_front (Nat.lt_of_not_le hlt)).not_tokenizes hfront

/-- **An open literal can be closed**: a plain character ends the escape that the source may break
off in, and a quote ends the literal. -/
theorem Holds.exists_tokenizes {q : Nat} (h : (unclosed q).Holds source filename line) :
    ∃ t, Tokenizes (source ++ t) filename line := by
  obtain ⟨htokenizes, hc, hword, hopen⟩ := h
  obtain ⟨xs, hfront⟩ := tokenizes_iff.mp htokenizes
  rw [place] at hfront
  have hlast := Lexeme.not_isWord_of_getLast? ((wordAtEnd?_of_reads hfront _ _).symm.trans hword)
  obtain ⟨hreads, -⟩ := reads_of_front hfront hc fun x hx hw => absurd hw (hlast x hx)
  obtain ⟨pieces, hpieces⟩ := (Literal.exists_sources_of_body (x := 'x') (by decide) (by decide)).1
    (Literal.body_eq_none_iff.mpr hopen)
  have hclosed : (source ++ "x\"").toList =
      Lexeme.texts xs ++ (Word.literal pieces).text := by
    rw [String.toList_append, hreads.text_eq, Word.text, ← hpieces]
    simp [quote]
  refine ⟨"x\"", tokenizes_iff.mpr ⟨xs ++ [.word (.literal pieces)], ?_⟩⟩
  rw [reads_concat_word_iff, hclosed]
  exact hreads.congr rfl

/-- The detail of an open literal is no other site's. -/
theorem detail_ne {site : FaultSite} (hsite : ∀ q, site ≠ .unclosed q) :
    site.detail ≠ "unterminated string literal" := by
  intro h
  have hchars := congrArg (fun s : String => (s.toList[0]?, s.toList[2]?)) h
  cases site with
  | unclosed q => exact hsite q rfl
  | misplaced k word c => simp [detail, String.toList_append] at hchars
  | illegal k c =>
      simp only [detail, Text.quoted, Text.Quoted.encode, String.toList_ofList] at hchars
      have hmark : Text.Quoted.mark (String.singleton c).toList = 'u' := by
        simpa using congrArg Prod.fst hchars
      unfold Text.Quoted.mark at hmark
      split at hmark <;> simp at hmark

end FaultSite

/-- **A fault is reported at the earliest place and never too early.**  In front of a fault other
than that of an open literal the source tokenizes, and no text that begins with the source up to
and with the character at the fault does.  A source with an open literal can go on and tokenize,
and wherever it goes on, no fault is reported in front of the literal. -/
theorem tokenize_error_viable {source filename : String} {line : Int} {fault : Fault}
    (h : tokenize source filename line = .error fault) :
    ∃ k : Nat, fault.position.offsetIn source.toList line = k ∧ k < source.toList.length ∧
      (fault.detail ≠ "unterminated string literal" →
        Tokenizes (front source k) filename line ∧
          ∀ (t filename' : String) (line' : Int),
            ¬ Tokenizes (front source (k + 1) ++ t) filename' line') ∧
      (fault.detail = "unterminated string literal" →
        source.toList[k]? = some quote ∧ (∃ t, Tokenizes (source ++ t) filename line) ∧
          ∀ (t : String) (fault' : Fault),
            tokenize (source ++ t) filename line = .error fault' →
              (k : Int) ≤ fault'.position.offsetIn (source ++ t).toList line) := by
  obtain ⟨site, hsite, hreports⟩ := FaultSite.exists_reports (tokenize_eq_error_iff.mp h)
  refine ⟨site.place, hreports.offsetIn_eq hsite, hsite.place_lt, fun hdetail => ?_,
    fun hdetail => ?_⟩
  · have hopen : ∀ q, site ≠ .unclosed q := by
      rintro q rfl
      exact hdetail hreports.detail
    refine ⟨hsite.1, fun t filename' line' htokenizes => ?_⟩
    have hgo := (hsite.in_front (Nat.lt_succ_self _)).append hopen t
    exact hgo.not_tokenizes (htokenizes.congr filename line)
  · rw [hreports.detail] at hdetail
    cases site with
    | unclosed q =>
        refine ⟨hsite.2.1, hsite.exists_tokenizes, fun t fault' h' => ?_⟩
        obtain ⟨site', hsite', hreports'⟩ :=
          FaultSite.exists_reports (tokenize_eq_error_iff.mp h')
        have hfront := hsite.1
        rw [← front_append hsite.place_lt.le t] at hfront
        have hle := hsite'.le_place hfront
        rw [hreports'.offsetIn_eq hsite']
        omega
    | misplaced n word c => exact absurd hdetail (FaultSite.detail_ne (by simp))
    | illegal n c => exact absurd hdetail (FaultSite.detail_ne (by simp))

/-- Behind a number a letter cannot be mended; a literal that breaks off in an escape can. -/
theorem tokenize_error_viable_letter_literal :
    (∀ t, ¬ Tokenizes ("1x" ++ t) "input" 0) ∧ ∃ t, Tokenizes ("\"a\\n" ++ t) "input" 0 := by
  constructor
  · have hletter : (Word.integer ['1'] (by simp) (by simp)).Intrudes 'x' :=
      ⟨by decide, by unfold IsFollower; decide⟩
    have hreads : Reads "1x".toList [] ['1', 'x'] := .done _
    have herror := tokenize_of_stops hreads (.misplaced hletter (by decide)) "input" 0
    obtain ⟨k, hk, -, hviable, -⟩ := tokenize_error_viable herror
    obtain rfl : k = 1 := Int.ofNat.inj (hk.symm.trans (by decide))
    intro t
    exact (hviable (by decide)).2 t "input" 0
  · have hopen : ¬ Literal.Closes ['a', '\\', 'n'] := Literal.body_eq_none_iff.mp (by decide)
    have hreads : Reads "\"a\\n".toList [] ['"', 'a', '\\', 'n'] := .done _
    have herror := tokenize_of_stops hreads (.unclosed hopen) "input" 0
    obtain ⟨k, -, -, -, hopen⟩ := tokenize_error_viable herror
    exact (hopen (by decide)).2.1

end Lexis
