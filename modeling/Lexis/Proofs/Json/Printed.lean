import Lexis.Proofs.Json.Reader

/-!
# JSON — what is printed

What is printed is ASCII (`isAscii_of_mem_printAt`), and it reads back (`read?_print`): a value, a
part in brackets and a field each read back in front of whatever no numeral goes on with.  The line
feeds and the indentation of the printer are only gaps to the reader.  A value is shorter than the
brackets around it, so that the length of the whole text bounds its depth.
-/

namespace Lexis.Json

open Text (decimalInt)

/-! ### Parts -/

section

variable {α : Type} {one : List Char → Option (α × List Char)} (shown : α → List Char)
  (close : Char)

/-- The parts behind the first, as they are laid out, and the closing bracket. -/
def printBehind (level : Nat) (parts : List α) : List Char :=
  parts.flatMap (fun part => ',' :: shown part) ++ (newline level ++ [close])

/-- A part is shorter than the brackets around it. -/
theorem length_shown_lt {part a : α} {parts : List α} (h : a ∈ part :: parts) (level : Nat) :
    (shown a).length < (shown part ++ printBehind shown close level parts).length := by
  have hsub : (shown a).Sublist (shown part ++ parts.flatMap (fun part => ',' :: shown part)) := by
    rcases List.mem_cons.mp h with rfl | h
    · exact List.sublist_append_left _ _
    · obtain ⟨front, back, rfl⟩ := List.append_of_mem h
      rw [List.flatMap_append, List.flatMap_cons]
      exact ((List.sublist_cons_self _ _).trans (List.sublist_append_left _ _)).trans
        ((List.sublist_append_right _ _).trans (List.sublist_append_right _ _))
  have := hsub.length_le
  simp only [printBehind, List.length_append, List.length_singleton] at this ⊢
  omega

theorem length_parts_lt (part : α) (parts : List α) (level : Nat) :
    parts.length < (shown part ++ printBehind shown close level parts).length := by
  have hparts : parts.length ≤ (parts.flatMap (fun part => ',' :: shown part)).length := by
    induction parts with
    | nil => exact Nat.le_refl _
    | cons part parts ih =>
        rw [List.flatMap_cons, List.length_append, List.length_cons, List.length_cons]
        omega
  simp only [printBehind, List.length_append, List.length_singleton]
  omega

variable {shown close}

/-- **Parts that are laid out are read**, where each of them is. -/
theorem readParts?_printBehind (hclose : close ≠ ',' ∧ isGap close = false) (level : Nat)
    (part : α) (parts : List α)
    (hone : ∀ a ∈ part :: parts, ∀ rest, Ends rest → one (shown a ++ rest) = some (a, rest))
    {limit : Nat} (hlimit : parts.length < limit) (rest : List Char) :
    readParts? close one limit (shown part ++ (printBehind shown close level parts ++ rest)) =
      some (part :: parts, rest) := by
  rw [List.forall_mem_cons] at hone
  -- each turn of the reader takes one part with the comma or the bracket behind it
  induction parts generalizing part limit with
  | nil =>
      cases limit with
      | zero => exact absurd hlimit (Nat.not_lt_zero _)
      | succ limit =>
          have hends : Ends (printBehind shown close level [] ++ rest) := ends_cons (by decide) _
          have hskip : skipGap (printBehind shown close level [] ++ rest) = close :: rest := by
            rw [printBehind, List.flatMap_nil, List.nil_append, List.append_assoc,
              skipGap_append fun _ => isGap_of_mem_newline, List.singleton_append,
              skipGap_cons hclose.2]
          simp only [readParts?, hone.1 _ hends, hskip, Option.bind_eq_bind, Option.bind_some,
            if_neg hclose.1, if_true]
  | cons next parts ih =>
      cases limit with
      | zero => exact absurd hlimit (Nat.not_lt_zero _)
      | succ limit =>
          have hbehind : printBehind shown close level (next :: parts) ++ rest =
              ',' :: (shown next ++ (printBehind shown close level parts ++ rest)) := by
            simp only [printBehind, List.flatMap_cons, List.cons_append, List.append_assoc]
          have hnext := ih next (List.forall_mem_cons.mp hone.2) (Nat.lt_of_succ_lt_succ hlimit)
          rw [hbehind, readParts?, hone.1 _ (ends_cons (by decide) _)]
          simp only [skipGap_cons (c := ',') rfl, hnext, Option.bind_eq_bind, Option.bind_some,
            if_true]

theorem readBracketed?_printBehind (hclose : close ≠ ',' ∧ isGap close = false) (level : Nat)
    (part : α) (parts : List α)
    (hone : ∀ a ∈ part :: parts, ∀ rest, Ends rest → one (shown a ++ rest) = some (a, rest))
    (hfirst : ∀ rest, ∃ c tail, skipGap (shown part ++ rest) = c :: tail ∧ c ≠ close)
    (rest : List Char) :
    readBracketed? close one (shown part ++ (printBehind shown close level parts ++ rest)) =
      some (part :: parts, rest) := by
  have hlimit : parts.length <
      (shown part ++ (printBehind shown close level parts ++ rest)).length := by
    have := length_parts_lt shown close part parts level
    simp only [List.length_append] at this ⊢
    omega
  obtain ⟨c, tail, hskip, hc⟩ := hfirst (printBehind shown close level parts ++ rest)
  simp only [readBracketed?, hskip, if_neg hc]
  exact readParts?_printBehind hclose level part parts hone hlimit rest

end

/-! ### Values -/

/-- An item as it is laid out in an array. -/
def printItem (level : Nat) (item : Json) : List Char :=
  newline level ++ printAt level item

/-- A field as it is laid out in an object. -/
def printField (level : Nat) (field : String × Json) : List Char :=
  newline level ++ (printText field.1.toList ++ ':' :: ' ' :: printAt level field.2)

theorem printItems_eq (level : Nat) (items : List Json) :
    printItems level items = printBehind (printItem (level + 1)) ']' level items := by
  induction items with
  | nil => rfl
  | cons item items ih =>
      simp only [printItems, ih, printBehind, printItem, List.flatMap_cons, List.cons_append,
        List.append_assoc]

theorem printFields_eq (level : Nat) (fields : List (String × Json)) :
    printFields level fields = printBehind (printField (level + 1)) '\x7d' level fields := by
  induction fields with
  | nil => rfl
  | cons field fields ih =>
      simp only [printFields, ih, printBehind, printField, List.flatMap_cons, List.cons_append,
        List.append_assoc]

/-- A numeral begins with no gap, no quote and no bracket. -/
theorem exists_decimalInt_eq_cons (n : Int) :
    ∃ c tail, decimalInt n = c :: tail ∧ isGap c = false ∧ c ∉ ['"', '[', '\x7b', ']'] := by
  have hne : decimalInt n ≠ [] := by
    cases n with
    | ofNat n => exact Text.decimal_ne_nil n
    | negSucc n => exact List.cons_ne_nil _ _
  obtain ⟨c, tail, hn⟩ := List.exists_cons_of_ne_nil hne
  have hmarks : ∀ d ∈ [' ', '\t', '\n', '\r'] ++ ['"', '[', '\x7b', ']'],
      (d != '-' && !d.isDigit) = true := List.all_eq_true.mp (by decide)
  have hc : c ∉ [' ', '\t', '\n', '\r'] ++ ['"', '[', '\x7b', ']'] := by
    intro hmem
    have hmark := hmarks c hmem
    rcases Text.eq_minus_or_isDigit_of_mem_decimalInt (n := n) (c := c) (by simp [hn]) with h | h
    · simp [h] at hmark
    · simp [h] at hmark
  rw [List.mem_append, not_or] at hc
  exact ⟨c, tail, hn, by simpa [isGap] using hc.1, hc.2⟩

/-- A value begins with no gap, and not with the end of an array. -/
theorem exists_printAt_eq_cons (level : Nat) (json : Json) :
    ∃ c tail, printAt level json = c :: tail ∧ isGap c = false ∧ c ≠ ']' := by
  match json with
  | .number n =>
      obtain ⟨c, tail, hn, hgap, hc⟩ := exists_decimalInt_eq_cons n
      exact ⟨c, tail, hn, hgap, fun h => hc (by simp [h])⟩
  | .string text => exact ⟨'"', _, rfl, rfl, by decide⟩
  | .array [] => exact ⟨'[', _, rfl, rfl, by decide⟩
  | .array (_ :: _) => exact ⟨'[', _, rfl, rfl, by decide⟩
  | .object [] => exact ⟨'\x7b', _, rfl, rfl, by decide⟩
  | .object (_ :: _) => exact ⟨'\x7b', _, rfl, rfl, by decide⟩

theorem readValue?_number (n : Int) (depth : Nat) {rest : List Char} (hrest : Ends rest) :
    readValue? (depth + 1) (decimalInt n ++ rest) = some (.number n, rest) := by
  obtain ⟨c, tail, hn, hgap, hc⟩ := exists_decimalInt_eq_cons n
  have hskip : skipGap (decimalInt n ++ rest) = decimalInt n ++ rest := by
    rw [hn]
    exact skipGap_cons hgap _
  have hhead {d : Char} (hd : d ∈ ['"', '[', '\x7b', ']']) (text : List Char) :
      decimalInt n ++ rest ≠ d :: text := by
    rw [hn, List.cons_append, Ne, List.cons.injEq]
    exact fun h => hc (h.1 ▸ hd)
  rw [readValue?, hskip]
  split
  · exact absurd ‹_› (hhead (by decide) _)
  · exact absurd ‹_› (hhead (by decide) _)
  · exact absurd ‹_› (hhead (by decide) _)
  · rw [readNumber?_decimalInt n hrest, Option.map_some]

theorem readValue?_string (text : String) (depth : Nat) (rest : List Char) :
    readValue? (depth + 1) (printText text.toList ++ rest) = some (.string text, rest) := by
  obtain ⟨hprint, hread⟩ := readText?_printText text rest
  rw [hprint, readValue?, skipGap_cons rfl]
  simp only [hread, Option.map_some]

/-- A field is read where its value is. -/
theorem readField?_printField {value? : List Char → Option (Json × List Char)} (level : Nat)
    (field : String × Json) {rest : List Char}
    (hvalue : value? (' ' :: (printAt level field.2 ++ rest)) = some (field.2, rest)) :
    readField? value? (printField level field ++ rest) = some (field, rest) := by
  obtain ⟨hprint, hread⟩ :=
    readText?_printText field.1 (':' :: ' ' :: (printAt level field.2 ++ rest))
  rw [printField, List.append_assoc, List.append_assoc, List.cons_append, List.cons_append, hprint,
    readField?, skipGap_append fun _ => isGap_of_mem_newline, skipGap_cons rfl]
  simp only [hread, hvalue, Option.bind_eq_bind, Option.bind_some, skipGap_cons (c := ':') rfl]

theorem printAt_array (level : Nat) (item : Json) (items : List Json) :
    printAt level (.array (item :: items)) =
      '[' :: (printItem (level + 1) item ++
        printBehind (printItem (level + 1)) ']' level items) := by
  rw [printAt, printItems_eq, printItem]

theorem printAt_object (level : Nat) (field : String × Json) (fields : List (String × Json)) :
    printAt level (.object (field :: fields)) =
      '\x7b' :: (printField (level + 1) field ++
        printBehind (printField (level + 1)) '\x7d' level fields) := by
  rw [printAt, printFields_eq, printField]
  simp only [List.append_assoc, List.cons_append]

/-- An array ends with its bracket. -/
theorem getLast?_printAt_array (level : Nat) (items : List Json) :
    (printAt level (.array items)).getLast? = some ']' := by
  cases items with
  | nil => rfl
  | cons item items =>
      rw [printAt_array, printBehind, ← List.append_assoc, ← List.append_assoc, ← List.cons_append,
        List.getLast?_concat]

/-- An array is read where its items are. -/
theorem readValue?_array {depth level : Nat} {item : Json} {items : List Json}
    (hitem : ∀ a ∈ item :: items, ∀ rest, Ends rest →
      readValue? depth (printItem (level + 1) a ++ rest) = some (a, rest)) (rest : List Char) :
    readValue? (depth + 1) (printAt level (.array (item :: items)) ++ rest) =
      some (.array (item :: items), rest) := by
  have hfirst : ∀ rest, ∃ c tail,
      skipGap (printItem (level + 1) item ++ rest) = c :: tail ∧ c ≠ ']' := by
    intro rest
    obtain ⟨c, tail, hc, hgap, hne⟩ := exists_printAt_eq_cons (level + 1) item
    rw [printItem, List.append_assoc, skipGap_append fun _ => isGap_of_mem_newline, hc]
    exact ⟨c, _, skipGap_cons hgap _, hne⟩
  rw [printAt_array, List.cons_append, List.append_assoc, readValue?, skipGap_cons rfl]
  simp only [readBracketed?_printBehind (by decide) level item items hitem hfirst, Option.map_some]

/-- An object is read where its fields are. -/
theorem readValue?_object {depth level : Nat} {field : String × Json}
    {fields : List (String × Json)}
    (hfield : ∀ a ∈ field :: fields, ∀ rest, Ends rest →
      readField? (readValue? depth) (printField (level + 1) a ++ rest) = some (a, rest))
    (rest : List Char) :
    readValue? (depth + 1) (printAt level (.object (field :: fields)) ++ rest) =
      some (.object (field :: fields), rest) := by
  have hfirst : ∀ rest, ∃ c tail,
      skipGap (printField (level + 1) field ++ rest) = c :: tail ∧ c ≠ '\x7d' := by
    intro rest
    rw [printField, List.append_assoc, skipGap_append fun _ => isGap_of_mem_newline]
    exact ⟨'"', _, skipGap_cons rfl _, by decide⟩
  rw [printAt_object, List.cons_append, List.append_assoc, readValue?, skipGap_cons rfl]
  simp only [readBracketed?_printBehind (by decide) level field fields hfield hfirst,
    Option.map_some]

/-- **A value reads back from what is printed for it**, whatever is behind that. -/
theorem readValue?_printAt {json : Json} {level depth : Nat}
    (hdepth : (printAt level json).length ≤ depth) {rest : List Char} (hrest : Ends rest) :
    readValue? depth (printAt level json ++ rest) = some (json, rest) := by
  -- the induction is on the depth; what is in brackets is shorter than they are
  induction depth generalizing json level rest with
  | zero =>
      obtain ⟨c, tail, hprint, -⟩ := exists_printAt_eq_cons level json
      rw [hprint] at hdepth
      exact absurd hdepth (Nat.not_succ_le_zero _)
  | succ depth ih =>
      match json with
      | .number n => exact readValue?_number n depth hrest
      | .string text => exact readValue?_string text depth rest
      | .array [] => rfl
      | .object [] => rfl
      | .array (item :: items) =>
          rw [printAt_array, List.length_cons] at hdepth
          refine readValue?_array (fun a ha rest hrest => ?_) rest
          have hlength := length_shown_lt (printItem (level + 1)) ']' ha level
          have hvalue : (printAt (level + 1) a).length ≤ (printItem (level + 1) a).length := by
            rw [printItem, List.length_append]
            exact Nat.le_add_left _ _
          rw [printItem, List.append_assoc, readValue?_gap fun _ => isGap_of_mem_newline]
          exact ih (by omega) hrest
      | .object (field :: fields) =>
          rw [printAt_object, List.length_cons] at hdepth
          refine readValue?_object (fun a ha rest hrest => ?_) rest
          have hlength := length_shown_lt (printField (level + 1)) '\x7d' ha level
          have hvalue : (printAt (level + 1) a.2).length ≤ (printField (level + 1) a).length := by
            simp only [printField, List.length_append, List.length_cons]
            omega
          have hspace : ∀ c ∈ [' '], isGap c = true := List.forall_mem_singleton.mpr rfl
          refine readField?_printField _ _ ?_
          exact (readValue?_gap hspace depth _).trans (ih (by omega) hrest)

/-- **What is printed reads back**, with a gap behind it. -/
theorem read?_print (json : Json) {gap : String} (hgap : ∀ c ∈ gap.toList, isGap c = true) :
    read? (json.print ++ gap) = some json := by
  have hends : Ends gap.toList := by
    intro c hc
    have hdigit : ∀ d ∈ [' ', '\t', '\n', '\r'], (!d.isDigit) = true :=
      List.all_eq_true.mp (by decide)
    simpa using hdigit c (List.contains_iff_mem.mp (hgap c (List.mem_of_mem_head? hc)))
  have hskip : skipGap gap.toList = [] := List.dropWhile_eq_nil_iff.mpr hgap
  have htext : (json.print ++ gap).toList = printAt 0 json ++ gap.toList := by
    rw [String.toList_append, print, String.toList_ofList]
  rw [read?, htext, readValue?_printAt (by simp) hends]
  exact if_pos hskip

/-! ### ASCII -/

/-- The characters of ASCII. -/
def IsAscii (c : Char) : Prop :=
  c.toNat < 128

instance (c : Char) : Decidable (IsAscii c) :=
  inferInstanceAs (Decidable (c.toNat < 128))

theorem isAscii_of_mem_decimalInt {n : Int} {c : Char} (h : c ∈ decimalInt n) : IsAscii c :=
  Text.forall_mem_decimalInt (by decide) (by decide) h

theorem isAscii_of_mem_hex {width n : Nat} {c : Char} (h : c ∈ Text.Quoted.hex width n) :
    IsAscii c :=
  Text.Quoted.forall_mem_hex (by decide) h

theorem isAscii_of_mem_escapeUnit {unit : Nat} {c : Char} (h : c ∈ escapeUnit unit) :
    IsAscii c := by
  rcases List.mem_cons.mp h with rfl | h
  · decide
  · rcases List.mem_cons.mp h with rfl | h
    · decide
    · exact isAscii_of_mem_hex h

theorem isAscii_of_mem_escapeChar {c d : Char} (h : d ∈ escapeChar c) : IsAscii d := by
  have hpair {e : Char} (he : IsAscii e) (h : d ∈ ['\\', e]) : IsAscii d := by
    rcases List.mem_cons.mp h with rfl | h
    · decide
    · rwa [List.mem_singleton.mp h]
  rw [escapeChar] at h
  split_ifs at h with hbare _ _ _ _ _ hascii
  · refine hpair ?_ h
    rcases hbare with rfl | rfl <;> decide
  · exact hpair (by decide) h
  · exact hpair (by decide) h
  · exact hpair (by decide) h
  · exact hpair (by decide) h
  · exact hpair (by decide) h
  · rw [List.mem_singleton.mp h]
    exact Nat.lt_of_le_of_lt hascii.2 (by decide)
  · rw [escapePoint] at h
    split at h
    · exact isAscii_of_mem_escapeUnit h
    · exact (List.mem_append.mp h).elim isAscii_of_mem_escapeUnit isAscii_of_mem_escapeUnit

theorem isAscii_of_mem_printText {text : List Char} {c : Char} (h : c ∈ printText text) :
    IsAscii c := by
  rw [printText, List.mem_cons, List.mem_append, List.mem_flatMap, List.mem_singleton] at h
  rcases h with rfl | ⟨d, -, h⟩ | rfl
  · decide
  · exact isAscii_of_mem_escapeChar h
  · decide

theorem isAscii_of_mem_newline {level : Nat} {c : Char} (h : c ∈ newline level) : IsAscii c := by
  rcases List.mem_cons.mp h with rfl | h
  · decide
  · rw [List.eq_of_mem_replicate h]
    decide

mutual

/-- **What is printed is ASCII.** -/
theorem isAscii_of_mem_printAt {level : Nat} {c : Char} :
    ∀ {json : Json}, c ∈ printAt level json → IsAscii c
  | .number n, h => isAscii_of_mem_decimalInt h
  | .string text, h => isAscii_of_mem_printText h
  | .array [], h => by
      simp only [printAt, List.mem_cons, List.not_mem_nil, or_false] at h
      rcases h with rfl | rfl
      · decide
      · decide
  | .array (item :: items), h => by
      simp only [printAt, List.mem_cons, List.mem_append] at h
      rcases h with rfl | (h | h) | h
      · decide
      · exact isAscii_of_mem_newline h
      · exact isAscii_of_mem_printAt h
      · exact isAscii_of_mem_printItems h
  | .object [], h => by
      simp only [printAt, List.mem_cons, List.not_mem_nil, or_false] at h
      rcases h with rfl | rfl
      · decide
      · decide
  | .object ((name, value) :: fields), h => by
      simp only [printAt, List.mem_cons, List.mem_append] at h
      rcases h with rfl | (h | h) | rfl | rfl | h | h
      · decide
      · exact isAscii_of_mem_newline h
      · exact isAscii_of_mem_printText h
      · decide
      · decide
      · exact isAscii_of_mem_printAt h
      · exact isAscii_of_mem_printFields h

theorem isAscii_of_mem_printItems {level : Nat} {c : Char} :
    ∀ {items : List Json}, c ∈ printItems level items → IsAscii c
  | [], h => by
      simp only [printItems, List.mem_append, List.mem_singleton] at h
      rcases h with h | rfl
      · exact isAscii_of_mem_newline h
      · decide
  | item :: items, h => by
      simp only [printItems, List.mem_cons, List.mem_append] at h
      rcases h with rfl | (h | h) | h
      · decide
      · exact isAscii_of_mem_newline h
      · exact isAscii_of_mem_printAt h
      · exact isAscii_of_mem_printItems h

theorem isAscii_of_mem_printFields {level : Nat} {c : Char} :
    ∀ {fields : List (String × Json)}, c ∈ printFields level fields → IsAscii c
  | [], h => by
      simp only [printFields, List.mem_append, List.mem_singleton] at h
      rcases h with h | rfl
      · exact isAscii_of_mem_newline h
      · decide
  | (name, value) :: fields, h => by
      simp only [printFields, List.mem_cons, List.mem_append] at h
      rcases h with rfl | (h | h) | rfl | rfl | h | h
      · decide
      · exact isAscii_of_mem_newline h
      · exact isAscii_of_mem_printText h
      · decide
      · decide
      · exact isAscii_of_mem_printAt h
      · exact isAscii_of_mem_printFields h

end

end Lexis.Json
