import Lexis.Proofs.Diagnostic.Line
import Lexis.Proofs.Text.OneLine
import Mathlib.Data.List.TakeWhile

/-!
# Diagnostic — the lines of a report

A report on a token has four lines: its header, the shown line, the caret and the detail
(`Token.lines_report`).  The caret stands under the token's first character where the trims leave
that character; that they do is said by the characters on its two sides (`getElem?_shownLine_iff`).
-/

namespace Lexis

/-! ### Trims at a character -/

namespace Text

/-- Not all of a text is blank. -/
def HasInk (text : List Char) : Prop :=
  ∃ c ∈ text, isBlank c = false

instance (text : List Char) : Decidable (HasInk text) :=
  decidable_of_iff (text.any fun c => !isBlank c) (by simp [HasInk])

theorem trimLeft_eq_nil_iff {text : List Char} : trimLeft text = [] ↔ ¬ HasInk text := by
  simp [trimLeft, HasInk, List.dropWhile_eq_nil_iff]

theorem hasInk_reverse {text : List Char} : HasInk text.reverse ↔ HasInk text := by
  simp only [HasInk, List.mem_reverse]

theorem trimRight_eq_nil_iff {text : List Char} : trimRight text = [] ↔ ¬ HasInk text := by
  rw [trimRight, List.reverse_eq_nil_iff, ← trimLeft, trimLeft_eq_nil_iff, hasInk_reverse]

theorem hasInk_append {text text' : List Char} :
    HasInk (text ++ text') ↔ HasInk text ∨ HasInk text' := by
  simp only [HasInk, List.mem_append, or_and_right, exists_or]

theorem hasInk_singleton {c : Char} : HasInk [c] ↔ isBlank c = false := by
  simp [HasInk]

/-- The left trim keeps what is behind ink. -/
theorem trimLeft_append_of_hasInk {text : List Char} (h : HasInk text) (after : List Char) :
    trimLeft (text ++ after) = trimLeft text ++ after := by
  have hne : trimLeft text ≠ [] := fun hnil => trimLeft_eq_nil_iff.mp hnil h
  rw [trimLeft, List.dropWhile_append, ← trimLeft, if_neg (by simpa using hne)]

/-- The left trim takes blanks and goes on behind them. -/
theorem trimLeft_append_of_not_hasInk {text : List Char} (h : ¬ HasInk text)
    (after : List Char) : trimLeft (text ++ after) = trimLeft after := by
  have hnil : trimLeft text = [] := trimLeft_eq_nil_iff.mpr h
  rw [trimLeft, List.dropWhile_append, ← trimLeft, hnil, if_pos List.isEmpty_nil, trimLeft]

/-- The right trim keeps what is in front of ink. -/
theorem trimRight_append_of_hasInk {text : List Char} (h : HasInk text) (before : List Char) :
    trimRight (before ++ text) = before ++ trimRight text := by
  rw [trimRight, ← trimLeft, List.reverse_append, trimLeft_append_of_hasInk (hasInk_reverse.mpr h),
    List.reverse_append, List.reverse_reverse, trimRight, trimLeft]

/-- The right trim takes blanks and goes on in front of them. -/
theorem trimRight_append_of_not_hasInk {text : List Char} (h : ¬ HasInk text)
    (before : List Char) : trimRight (before ++ text) = trimRight before := by
  rw [trimRight, ← trimLeft, List.reverse_append,
    trimLeft_append_of_not_hasInk (mt hasInk_reverse.mp h), trimRight, trimLeft]

theorem trimRight_cons_of_hasInk {c : Char} {text : List Char} (h : HasInk (c :: text)) :
    trimRight (c :: text) = c :: trimRight text := by
  rcases em (HasInk text) with htext | htext
  · exact trimRight_append_of_hasInk htext [c]
  · have hparts : HasInk [c] ∨ HasInk text := hasInk_append.mp h
    have hink : isBlank c = false := hasInk_singleton.mp (hparts.resolve_right htext)
    rw [← List.singleton_append, trimRight_append_of_not_hasInk htext,
      trimRight_eq_nil_iff.mpr htext]
    simp [trimRight, hink]

theorem length_trimLeft_le (text : List Char) : (trimLeft text).length ≤ text.length :=
  (List.dropWhile_suffix _).length_le

theorem trimRight_isPrefix (text : List Char) : trimRight text <+: text := by
  rw [trimRight, ← List.reverse_suffix, List.reverse_reverse]
  exact List.dropWhile_suffix _

/-- What both trims leave begins with no blank. -/
theorem head?_trim {text : List Char} {c : Char} (h : (trim text).head? = some c) :
    isBlank c = false := by
  obtain ⟨behind, hbehind⟩ := trimRight_isPrefix (trimLeft text)
  have hhead : (trimLeft text).head? = some c := by
    rw [← hbehind, List.head?_append, ← trim, h]
    rfl
  exact trimLeft_head hhead

end Text

/-! ### The caret -/

namespace Diagnostic

open Text

theorem isBlank_untab (c : Char) : isBlank (if c = '\t' then ' ' else c) = isBlank c := by
  split
  · rename_i h
    subst h
    rfl
  · rfl

theorem hasInk_untabbed {text : List Char} : HasInk (untabbed text) ↔ HasInk text := by
  simp [HasInk, untabbed, isBlank_untab]

theorem untabbed_append_cons {c : Char} (hc : c ≠ '\t') (before after : List Char) :
    untabbed (before ++ c :: after) = untabbed before ++ c :: untabbed after := by
  simp [untabbed, hc]

variable {before after : List Char} {c : Char}

/-- The caret is under the character when it or one before it is ink: the left trim then ends
before it. -/
theorem caretColumn_of_hasInk (hc : c ≠ '\t') (h : HasInk (before ++ [c])) (after : List Char) :
    ∃ shown, trimLeft (untabbed (before ++ c :: after)) = shown ++ c :: untabbed after ∧
      caretColumn (before ++ c :: after) before.length = shown.length := by
  have hink : ∃ shown, trimLeft (untabbed before ++ [c]) = shown ++ [c] ∧
      shown.length ≤ before.length := by
    rcases em (HasInk (untabbed before)) with hbefore | hbefore
    · refine ⟨_, trimLeft_append_of_hasInk hbefore [c], ?_⟩
      simpa [untabbed] using length_trimLeft_le (untabbed before)
    · rw [hasInk_append, hasInk_singleton] at h
      have hink := h.resolve_left fun h => hbefore (hasInk_untabbed.mpr h)
      refine ⟨[], ?_, Nat.zero_le _⟩
      rw [trimLeft_append_of_not_hasInk hbefore, trimLeft,
        List.dropWhile_cons_of_neg (by simp [hink]), List.nil_append]
  obtain ⟨shown, hshown, hle⟩ := hink
  have htrim : trimLeft (untabbed (before ++ c :: after)) = shown ++ c :: untabbed after := by
    have hink : HasInk (untabbed before ++ [c]) := by
      rwa [hasInk_append, hasInk_untabbed, ← hasInk_append]
    rw [untabbed_append_cons hc, List.append_cons, trimLeft_append_of_hasInk hink, hshown,
      List.append_assoc, List.singleton_append]
  refine ⟨shown, htrim, ?_⟩
  rw [caretColumn, indentation, htrim]
  simp only [List.length_append, List.length_cons, untabbed, List.length_map]
  omega

/-- The caret is at the front of the line when all up to the character is blank. -/
theorem caretColumn_of_not_hasInk (hc : c ≠ '\t') (h : ¬ HasInk (before ++ [c])) :
    caretColumn (before ++ c :: after) before.length = 0 := by
  have hink : ¬ HasInk (untabbed before ++ [c]) := by
    rwa [hasInk_append, hasInk_untabbed, ← hasInk_append]
  have hle := length_trimLeft_le (untabbed after)
  rw [untabbed, List.length_map] at hle
  rw [caretColumn, indentation, untabbed_append_cons hc, List.append_cons (untabbed before),
    trimLeft_append_of_not_hasInk hink, untabbed]
  simp only [List.length_append, List.length_cons]
  omega

/-- **The character over the caret.**  The caret stands under a character of its line when there is
ink on both sides of it, itself included. -/
theorem getElem?_shownLine_iff (hc : c ≠ '\t') :
    (shownLine (before ++ c :: after))[caretColumn (before ++ c :: after) before.length]? =
        some c ↔
      HasInk (before ++ [c]) ∧ HasInk (c :: after) := by
  rw [shownLine_eq_trim]
  rcases em (HasInk (before ++ [c])) with hfront | hfront
  · obtain ⟨shown, htrim, hcolumn⟩ := caretColumn_of_hasInk hc hfront after
    rw [hcolumn, trim, htrim, and_iff_right hfront]
    have hink : HasInk (c :: untabbed after) ↔ HasInk (c :: after) := by
      rw [← List.singleton_append, ← List.singleton_append (l := after), hasInk_append,
        hasInk_append, hasInk_untabbed]
    rcases em (HasInk (c :: after)) with hback | hback
    · -- the right trim ends behind the character
      rw [trimRight_append_of_hasInk (hink.mpr hback), List.getElem?_append_right (Nat.le_refl _),
        Nat.sub_self, trimRight_cons_of_hasInk (hink.mpr hback)]
      simp [hback]
    · -- the right trim takes the character
      rw [trimRight_append_of_not_hasInk (fun h => hback (hink.mp h)),
        List.getElem?_eq_none (trimRight_isPrefix shown).length_le]
      simp [hback]
  · rw [caretColumn_of_not_hasInk hc hfront, ← List.head?_eq_getElem?]
    refine iff_of_false (fun h => ?_) (fun h => hfront h.1)
    have hink := head?_trim h
    exact hfront (hasInk_append.mpr (.inr (hasInk_singleton.mpr hink)))

theorem feed_not_mem_shownLine {line : List Char} (h : '\n' ∉ line) : '\n' ∉ shownLine line := by
  rw [shownLine_eq_trim]
  intro hfeed
  have hmem : '\n' ∈ untabbed line :=
    (List.dropWhile_suffix _).subset ((trimRight_isPrefix _).subset hfeed)
  obtain ⟨c, hc, heq⟩ := List.mem_map.mp hmem
  split at heq
  · exact absurd heq (by decide)
  · exact h (heq ▸ hc)

end Diagnostic

/-! ### Four lines -/

/-- The first line of a report: the file and the line number. -/
def Token.reportHeader (token : Token) : String :=
  "  File \"" ++ token.filename ++ "\", line " ++ Text.integer (token.start.line + 1)

/-- The three lines under the first. -/
def Token.reportBody (token : Token) (detail : String) : String :=
  let line := token.lineText.toList
  "    " ++ String.ofList (Diagnostic.shownLine line) ++ "\n" ++
    "    " ++ String.ofList (List.replicate (Diagnostic.caretColumn line token.start.column) ' ') ++
    "^\n" ++ detail

theorem Token.report_eq (token : Token) (detail : String) :
    token.report detail = token.reportHeader ++ "\n" ++ token.reportBody detail := by
  have hassoc (header shown caret : String) :
      header ++ "\n" ++ "    " ++ shown ++ "\n" ++ "    " ++ caret ++ "^\n" ++ detail =
        header ++ "\n" ++ ("    " ++ shown ++ "\n" ++ "    " ++ caret ++ "^\n" ++ detail) := by
    simp only [String.append_assoc]
  exact hassoc token.reportHeader _ _

/-- Four texts put together as a report puts them. -/
theorem Diagnostic.toList_report (header shown caret detail : String) :
    (header ++ "\n" ++ "    " ++ shown ++ "\n" ++ "    " ++ caret ++ "^\n" ++ detail).toList =
      header.toList ++ '\n' :: ((List.replicate 4 ' ' ++ shown.toList) ++ '\n' ::
        ((List.replicate 4 ' ' ++ caret.toList ++ ['^']) ++ '\n' :: detail.toList)) := by
  have hindent : "    ".toList = List.replicate 4 ' ' := by decide
  have hfeed : "\n".toList = ['\n'] := by decide
  have hcaret : "^\n".toList = ['^', '\n'] := by decide
  simp only [String.toList_append, hindent, hfeed, hcaret, List.append_assoc, List.cons_append,
    List.nil_append]

/-- **A report has four lines.** -/
theorem Token.lines_report {token : Token} {detail : String}
    (hfilename : '\n' ∉ token.filename.toList)
    (hline : '\n' ∉ Diagnostic.shownLine token.lineText.toList) (hdetail : '\n' ∉ detail.toList) :
    Text.lines (token.report detail).toList =
      [token.reportHeader.toList,
       List.replicate 4 ' ' ++ Diagnostic.shownLine token.lineText.toList,
       List.replicate (4 + Diagnostic.caretColumn token.lineText.toList token.start.column) ' ' ++
         ['^'],
       detail.toList] := by
  have hheader : '\n' ∉ token.reportHeader.toList := by
    simp [reportHeader, hfilename, Text.feed_not_mem_integer]
  have hshown : '\n' ∉ List.replicate 4 ' ' ++ Diagnostic.shownLine token.lineText.toList := by
    simp [hline]
  have hcaret (n : Nat) : '\n' ∉ List.replicate 4 ' ' ++ List.replicate n ' ' ++ ['^'] := by
    simp [List.mem_replicate]
  have htext := Diagnostic.toList_report token.reportHeader
    (String.ofList (Diagnostic.shownLine token.lineText.toList))
    (String.ofList (List.replicate
      (Diagnostic.caretColumn token.lineText.toList token.start.column) ' ')) detail
  rw [String.toList_ofList, String.toList_ofList] at htext
  rw [List.replicate_add, show (token.report detail).toList = _ from htext,
    Text.lines_append_feed_cons, Text.lines_append_feed_cons, Text.lines_append_feed_cons,
    Text.lines_eq_singleton hheader, Text.lines_eq_singleton hshown,
    Text.lines_eq_singleton (hcaret _), Text.lines_eq_singleton hdetail]
  rfl

end Lexis
