import Lexis.Proofs.Text.Carriage
import Lexis.Proofs.Text.OneLine
import Lexis.Proofs.Workspace.Remarks

/-!
# Workspace — ranges as a client reads them

A client of the protocol that remarks are sent over reads a location by rules of its own: a line
ends at a line feed, at a carriage return, or at the two together, and a character of a line is
counted in the sixteen-bit units that encode it, one or two.  `Location.offset?` is the offset that
a location denotes by these rules.

Remarks are made with lines that end at line feeds only and with characters that count one each.
**So a client finds the character of the fault when no carriage return stands alone before it, and
no character that takes two units stands before it on its line or is itself the one**
(`remark_covers_iff`).
-/

namespace Lexis

open Text (PairsCarriages lastLine)

namespace Client

/-- The number of units that a character counts. -/
def units (c : Char) : Nat :=
  if c.toNat < 0x10000 then 1 else 2

/-- A character that ends a line, or begins the end of one. -/
def EndsLine (c : Char) : Prop :=
  c = '\n' ∨ c = '\r'

instance (c : Char) : Decidable (EndsLine c) :=
  inferInstanceAs (Decidable (c = '\n' ∨ c = '\r'))

/-- The number of characters in front of a unit of a text's first line: all of the line where it has
no such unit, and no number where the unit is the second of a character. -/
def within? : (text : List Char) → (unit : Nat) → Option Nat
  | [],        _    => some 0
  | c :: rest, unit =>
    if unit = 0 ∨ EndsLine c then some 0
    else if unit < units c then none
    else (within? rest (unit - units c)).map (· + 1)

/-- The offset of a unit of a line of a text. -/
def offset? : (text : List Char) → (line unit : Nat) → Option Nat
  | text,                0,        unit => within? text unit
  | [],                  _ + 1,    _    => none
  | '\r' :: '\n' :: rest, line + 1, unit => (offset? rest line unit).map (· + 2)
  | c :: rest,           line + 1, unit =>
    (offset? rest (if EndsLine c then line else line + 1) unit).map (· + 1)

/-- The number of the line ends of a text. -/
def lineEnds : List Char → Nat
  | '\r' :: '\n' :: rest => lineEnds rest + 1
  | c :: rest            => lineEnds rest + if EndsLine c then 1 else 0
  | []                   => 0

/-! ### Units -/

theorem one_le_units (c : Char) : 1 ≤ units c := by
  rw [units]
  split <;> omega

theorem units_eq_one_iff {c : Char} : units c = 1 ↔ c.toNat < 0x10000 := by
  rw [units]
  split <;> omega

/-- A place of a line is at most as many characters as units behind its start. -/
theorem le_of_within? {text : List Char} {unit place : Nat} (h : within? text unit = some place) :
    place ≤ unit := by
  induction text generalizing unit place with
  | nil =>
      obtain rfl : 0 = place := Option.some.inj h
      exact Nat.zero_le _
  | cons c text ih =>
      rw [within?] at h
      split_ifs at h with hstart hpair
      · obtain rfl : 0 = place := Option.some.inj h
        exact Nat.zero_le _
      · obtain ⟨k, hk, rfl⟩ := Option.map_eq_some_iff.mp h
        have := ih hk
        have := one_le_units c
        omega

/-- **Characters and units agree** on a line as far as its characters count one each. -/
theorem within?_append_iff {line : List Char} (hline : ∀ c ∈ line, ¬ EndsLine c)
    (after : List Char) :
    within? (line ++ after) line.length = some line.length ↔ ∀ c ∈ line, units c = 1 := by
  induction line with
  | nil =>
      cases after with
      | nil => simp [within?]
      | cons c after => simp [within?]
  | cons c line ih =>
      rw [List.forall_mem_cons] at hline
      have hends : ¬ (line.length + 1 = 0 ∨ EndsLine c) := by
        rintro (h | h)
        · omega
        · exact hline.1 h
      rw [List.forall_mem_cons, ← ih hline.2, List.cons_append, List.length_cons, within?,
        if_neg hends]
      constructor
      · intro h
        split_ifs at h with hpair
        obtain ⟨k, hk, heq⟩ := Option.map_eq_some_iff.mp h
        obtain rfl : k = line.length := by omega
        have := le_of_within? hk
        have := one_le_units c
        obtain hone : units c = 1 := by omega
        rw [hone, Nat.add_sub_cancel] at hk
        exact ⟨hone, hk⟩
      · rintro ⟨hone, h⟩
        rw [hone, if_neg (by omega), Nat.add_sub_cancel, h]
        rfl

/-! ### Lines -/

theorem offset?_cons {c : Char} (hc : c ≠ '\r') (text : List Char) (line unit : Nat) :
    offset? (c :: text) (line + 1) unit =
      (offset? text (if c = '\n' then line else line + 1) unit).map (· + 1) := by
  rw [offset?]
  · simp [EndsLine, hc]
  · rintro rest rfl
    exact absurd rfl hc

/-- **Where no carriage return stands alone**, a line begins behind as many line feeds. -/
theorem offset?_of_pairsCarriages {before : List Char} (h : PairsCarriages before)
    (after : List Char) (unit : Nat) :
    offset? (before ++ after) (before.count '\n') unit =
      (within? (lastLine before ++ after) unit).map
        (· + (before.length - (lastLine before).length)) := by
  induction h using PairsCarriages.induction_on with
  | nil => simp [offset?]
  | ending rest _ _ ih =>
      have hle := Text.length_lastLine_le rest
      have hlast : lastLine ('\r' :: '\n' :: rest) = lastLine rest :=
        Text.lastLine_append_feed_cons ['\r'] rest
      have hcount : ('\r' :: '\n' :: rest).count '\n' = rest.count '\n' + 1 := by simp
      rw [hlast, hcount, List.cons_append, List.cons_append, offset?, ih, Option.map_map,
        List.length_cons, List.length_cons]
      exact congrArg (Option.map · _) (funext fun k => by simp only [Function.comp]; omega)
  | other c rest _ _ hc ih =>
      have hle := Text.length_lastLine_le rest
      by_cases hfeed : c = '\n'
      · have hlast : lastLine ('\n' :: rest) = lastLine rest :=
          Text.lastLine_append_feed_cons [] rest
        rw [hfeed, hlast, List.count_cons_self, List.cons_append, offset?_cons (by decide),
          if_pos rfl, ih, Option.map_map, List.length_cons]
        exact congrArg (Option.map · _) (funext fun k => by simp only [Function.comp]; omega)
      · rw [List.count_cons_of_ne hfeed, List.length_cons]
        by_cases hmem : '\n' ∈ rest
        · obtain ⟨line, hline⟩ := Nat.exists_eq_add_of_lt (List.count_pos_iff.mpr hmem)
          rw [Nat.zero_add] at hline
          rw [hline] at ih ⊢
          rw [Text.lastLine_cons_of_mem hmem, List.cons_append, offset?_cons hc, if_neg hfeed, ih,
            Option.map_map]
          exact congrArg (Option.map · _) (funext fun k => by simp only [Function.comp]; omega)
        · -- all of it is on the first line
          have hline : '\n' ∉ c :: rest := by simpa [Ne.symm hfeed] using hmem
          rw [List.count_eq_zero.mpr hmem, Text.lastLine_eq_self hline, offset?]
          simp

theorem count_feed_le_lineEnds (text : List Char) : text.count '\n' ≤ lineEnds text := by
  fun_induction lineEnds text with
  | case1 rest ih => simpa using ih
  | case2 c rest _ ih =>
      by_cases hfeed : c = '\n'
      · simpa [hfeed, EndsLine] using ih
      · rw [List.count_cons_of_ne hfeed]
        omega
  | case3 => simp

/-- A carriage return that stands alone ends a line without a line feed. -/
theorem count_feed_lt_lineEnds {text : List Char} (h : ¬ PairsCarriages text) :
    text.count '\n' < lineEnds text := by
  fun_induction lineEnds text with
  | case1 rest ih =>
      have hrest : ¬ PairsCarriages rest := by
        simpa [PairsCarriages.cons_iff] using h
      simpa using ih hrest
  | case2 c rest hpair ih =>
      by_cases hc : c = '\r'
      · subst hc
        have hle := count_feed_le_lineEnds rest
        rw [List.count_cons_of_ne (by decide), if_pos (.inr rfl)]
        omega
      · have hrest : ¬ PairsCarriages rest := by
          simpa [PairsCarriages.cons_iff, hc] using h
        have hlt := ih hrest
        by_cases hfeed : c = '\n'
        · simpa [hfeed, EndsLine] using hlt
        · rw [List.count_cons_of_ne hfeed]
          omega
  | case3 => exact absurd (by simp [PairsCarriages]) h

theorem exists_endsLine {text : List Char} (h : 0 < lineEnds text) : ∃ c ∈ text, EndsLine c := by
  fun_induction lineEnds text with
  | case1 rest _ => exact ⟨'\r', List.mem_cons_self, .inr rfl⟩
  | case2 c rest _ ih =>
      by_cases hc : EndsLine c
      · exact ⟨c, List.mem_cons_self, hc⟩
      · rw [if_neg hc] at h
        obtain ⟨d, hd, hends⟩ := ih h
        exact ⟨d, List.mem_cons_of_mem _ hd, hends⟩
  | case3 => exact absurd h (Nat.lt_irrefl _)

/-- A place of a line is not behind its end. -/
theorem within?_lt {before : List Char} {unit place : Nat} (hends : ∃ c ∈ before, EndsLine c)
    (after : List Char) (h : within? (before ++ after) unit = some place) :
    place < before.length := by
  induction before generalizing unit place with
  | nil => simp at hends
  | cons c before ih =>
      rw [List.cons_append, within?] at h
      split_ifs at h with hstart hpair
      · obtain rfl : 0 = place := Option.some.inj h
        exact Nat.zero_lt_succ _
      · obtain ⟨k, hk, rfl⟩ := Option.map_eq_some_iff.mp h
        have hbefore : ∃ d ∈ before, EndsLine d := by
          obtain ⟨d, hd, hdends⟩ := hends
          rcases List.mem_cons.mp hd with rfl | hd
          · exact absurd (.inr hdends) hstart
          · exact ⟨d, hd, hdends⟩
        exact Nat.succ_lt_succ (ih hbefore hk)

/-- **A place of a line that ends before another place is before it.** -/
theorem offset?_lt {before : List Char} {line unit place : Nat} (hline : line < lineEnds before)
    (after : List Char) (h : offset? (before ++ after) line unit = some place) :
    place < before.length := by
  fun_induction lineEnds before generalizing line place with
  | case1 rest ih =>
      cases line with
      | zero =>
          rw [offset?] at h
          exact within?_lt ⟨'\r', List.mem_cons_self, .inr rfl⟩ after h
      | succ line =>
          rw [List.cons_append, List.cons_append, offset?] at h
          obtain ⟨k, hk, rfl⟩ := Option.map_eq_some_iff.mp h
          simpa using ih (Nat.lt_of_succ_lt_succ hline) hk
  | case2 c rest hpair ih =>
      cases line with
      | zero =>
          rw [offset?] at h
          refine within?_lt ?_ after h
          by_cases hc : EndsLine c
          · exact ⟨c, List.mem_cons_self, hc⟩
          · rw [if_neg hc] at hline
            obtain ⟨d, hd, hends⟩ := exists_endsLine hline
            exact ⟨d, List.mem_cons_of_mem _ hd, hends⟩
      | succ line =>
          -- no carriage return at the end of what is before is the first of a pair
          have hpair' : ∀ rest', c = '\r' → rest ++ after = '\n' :: rest' → False := by
            intro rest' hc heq
            cases rest with
            | nil =>
                rw [hc, lineEnds, if_pos (.inr rfl)] at hline
                omega
            | cons d rest => exact hpair rest hc (by rw [(List.cons.inj heq).1])
          rw [List.cons_append, offset?] at h
          · obtain ⟨k, hk, rfl⟩ := Option.map_eq_some_iff.mp h
            have hrest := ih (by split_ifs at hline ⊢ <;> omega) hk
            simpa using hrest
          · exact hpair'
  | case3 => exact absurd hline (Nat.not_lt_zero _)

/-- No character of the cut line in front of a place ends a line. -/
theorem not_endsLine_of_mem_lastLine {before : List Char} (h : PairsCarriages before) :
    ∀ c ∈ lastLine before, ¬ EndsLine c := by
  have hend : before.getLast? ≠ some '\r' := by
    intro hlast
    obtain ⟨front, rfl⟩ := List.getLast?_eq_some_iff.mp hlast
    exact absurd (h front [] rfl) (by simp)
  have happend : PairsCarriages (before ++ []) := by rwa [List.append_nil]
  have hcarriage : '\r' ∉ lastLine before := happend.not_mem_lastLine hend
  rintro c hc (rfl | rfl)
  · exact Text.feed_not_mem_lastLine before hc
  · exact hcarriage hc

/-- **A place on the cut line** is found when the characters of the line up to there agree with
their units. -/
theorem offset?_eq_some_iff {before : List Char} (h : PairsCarriages before) (run : List Char)
    (hrun : ∀ c ∈ run, ¬ EndsLine c) (after : List Char) :
    offset? (before ++ (run ++ after)) (before.count '\n') (lastLine before ++ run).length =
        some (before.length + run.length) ↔
      ∀ c ∈ lastLine before ++ run, units c = 1 := by
  have hline : ∀ c ∈ lastLine before ++ run, ¬ EndsLine c := by
    intro c hc
    exact (List.mem_append.mp hc).elim (not_endsLine_of_mem_lastLine h c) (hrun c)
  have hle := Text.length_lastLine_le before
  rw [offset?_of_pairsCarriages h, ← List.append_assoc, ← within?_append_iff hline after,
    Option.map_eq_some_iff]
  constructor
  · rintro ⟨k, hk, hplace⟩
    rw [hk, List.length_append]
    exact congrArg some (by omega)
  · intro hwithin
    exact ⟨_, hwithin, by rw [List.length_append]; omega⟩

end Client

/-! ### Ranges -/

/-- The offset that a location of a text denotes for a client. -/
def Location.offset? (text : List Char) (p : Location) : Option Nat :=
  if 0 ≤ p.line ∧ 0 ≤ p.character then Client.offset? text p.line.toNat p.character.toNat else none

/-- The range of a remark is, for a client, the one character at a place of a text. -/
def Remark.Covers (remark : Remark) (text : List Char) (place : Nat) : Prop :=
  remark.start.offset? text = some place ∧ remark.stop.offset? text = some (place + 1)

instance (remark : Remark) (text : List Char) (place : Nat) :
    Decidable (remark.Covers text place) :=
  inferInstanceAs (Decidable (remark.start.offset? text = some place ∧
    remark.stop.offset? text = some (place + 1)))

/-- **The range of one character**, counted as remarks count, is that character for a client when no
carriage return stands alone before it and the characters of its line up to it agree with their
units. -/
theorem Client.covers_iff {remark : Remark} {before : List Char} {c : Char} (hc : ¬ EndsLine c)
    (after : List Char)
    (hstart : remark.start = ⟨before.count '\n', (lastLine before).length⟩)
    (hstop : remark.stop = ⟨before.count '\n', (lastLine before).length + 1⟩) :
    remark.Covers (before ++ c :: after) before.length ↔
      PairsCarriages before ∧ ∀ d ∈ lastLine before ++ [c], units d = 1 := by
  have hlocation (line unit : Nat) (text : List Char) :
      Location.offset? text ⟨line, unit⟩ = Client.offset? text line unit := by
    simp [Location.offset?]
  rw [Remark.Covers, hstart, hstop, ← Int.natCast_one, ← Int.natCast_add, hlocation, hlocation]
  rcases em (PairsCarriages before) with hpairs | hpairs
  · have hfirst := offset?_eq_some_iff hpairs [] (by simp) (c :: after)
    have hlast := offset?_eq_some_iff hpairs [c] (by simpa using hc) after
    simp only [List.append_nil, List.nil_append, List.length_nil, Nat.add_zero] at hfirst
    simp only [List.singleton_append, List.length_append, List.length_singleton] at hlast
    rw [hfirst, hlast, and_iff_right hpairs]
    exact and_iff_right_of_imp fun h d hd => h d (List.mem_append_left _ hd)
  · refine iff_of_false (fun h => ?_) (fun h => hpairs h.1)
    exact absurd (offset?_lt (count_feed_lt_lineEnds hpairs) _ h.1) (Nat.lt_irrefl _)

/-- **A client finds the character of the fault** when no carriage return stands alone before it,
and neither it nor a character before it on its line takes two units. -/
theorem remark_covers_iff {uri text : String} {remark : Remark} (h : remarks uri text = [remark]) :
    ∃ site : FaultSite, site.Holds text (documentFile uri) 0 ∧
      text.toList[site.place]? = some site.char ∧
      (remark.Covers text.toList site.place ↔
        PairsCarriages (text.toList.take site.place) ∧
          ∀ c ∈ lastLine (text.toList.take site.place) ++ [site.char], c.toNat < 0x10000) := by
  obtain ⟨fault, hfault, rfl⟩ := remarks_eq_singleton_iff.mp h
  obtain ⟨site, hsite, hreports⟩ := FaultSite.exists_reports hfault
  have hends : ¬ Client.EndsLine site.char := by
    rintro (hfeed | hcarriage)
    · exact ne_of_isSpace hsite.isSpace_char (by decide) hfeed
    · exact ne_of_isSpace hsite.isSpace_char (by decide) hcarriage
  have hremark := hreports.remark_eq
  have hcovers := Client.covers_iff hends (text.toList.drop (site.place + 1))
    (congrArg Remark.start hremark) (congrArg Remark.stop hremark)
  rw [← hsite.drop_place, List.take_append_drop,
    List.length_take_of_le hsite.place_lt.le] at hcovers
  simp only [Client.units_eq_one_iff] at hcovers
  exact ⟨site, hsite, hsite.getElem?_place, hcovers⟩

/-- A character of two units on a line above, and line ends of two characters, are in order. -/
theorem remark_covers_iff_line_above :
    ∃ remark, remarks "file:///a.gl" "\"😀\"\r\n f @" = [remark] ∧
      (FaultSite.illegal 8 '@').Holds "\"😀\"\r\n f @" "a.gl" 0 ∧
      remark.Covers "\"😀\"\r\n f @".toList 8 := by
  have hfile : documentFile "file:///a.gl" = "a.gl" := by decide +kernel
  have hsite : (FaultSite.illegal 8 '@').Holds "\"😀\"\r\n f @" "a.gl" 0 :=
    ⟨tokenizes_iff_fault?_eq_none.mpr (by decide +kernel), by decide, illegal_iff.mpr (by decide)⟩
  obtain ⟨fault, hfault, -⟩ := hsite.reports
  have hremarks : remarks "file:///a.gl" "\"😀\"\r\n f @" = [fault.remark] :=
    remarks_eq_singleton_iff.mpr ⟨fault, by rw [hfile, hfault], rfl⟩
  obtain ⟨site, hsite', -, hcovers⟩ := remark_covers_iff hremarks
  rw [hfile] at hsite'
  obtain rfl : site = _ := hsite.unique hsite'
  have hline : lastLine ("\"😀\"\r\n f @".toList.take 8) ++ ['@'] = [' ', 'f', ' ', '@'] := by
    decide +kernel
  refine ⟨fault.remark, hremarks, hsite, hcovers.mpr ⟨by decide +kernel, ?_⟩⟩
  rw [FaultSite.place, FaultSite.char, hline]
  simp

/-- Behind a character of two units the range is one unit too far to the left, and behind a carriage
return that stands alone it is on the line above. -/
theorem remark_not_covers :
    (∃ remark, remarks "file:///a.gl" "\"😀\" @" = [remark] ∧
      (FaultSite.illegal 4 '@').Holds "\"😀\" @" "a.gl" 0 ∧
      remark.start = ⟨0, 4⟩ ∧ remark.start.offset? "\"😀\" @".toList = some 3 ∧
      ¬ remark.Covers "\"😀\" @".toList 4) ∧
    ∃ remark, remarks "file:///a.gl" "a\r@" = [remark] ∧
      (FaultSite.illegal 2 '@').Holds "a\r@" "a.gl" 0 ∧
      remark.start = ⟨0, 2⟩ ∧ remark.start.offset? "a\r@".toList = some 1 ∧
      ¬ remark.Covers "a\r@".toList 2 := by
  have hillegal : Illegal '@' := illegal_iff.mpr (by decide)
  refine ⟨⟨⟨⟨0, 4⟩, ⟨0, 5⟩, "IllegalCharacter: '@'", 1, "glscan"⟩, by decide +kernel, ?_, rfl,
      by decide +kernel, by decide +kernel⟩,
    ⟨⟨⟨0, 2⟩, ⟨0, 3⟩, "IllegalCharacter: '@'", 1, "glscan"⟩, by decide +kernel, ?_, rfl,
      by decide +kernel, by decide +kernel⟩⟩
  · exact ⟨tokenizes_iff_fault?_eq_none.mpr (by decide +kernel), by decide, hillegal⟩
  · exact ⟨tokenizes_iff_fault?_eq_none.mpr (by decide +kernel), by decide, hillegal⟩

end Lexis
