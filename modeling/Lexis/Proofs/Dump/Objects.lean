import Lexis.Proofs.Dump.Rows
import Lexis.Proofs.Json.Printed
import Mathlib.Data.List.Forall2

/-!
# Dump — objects

A dump as JSON is an array with an object for each token.  An object tells a token
(`Token.IsToldBy`) by fields that have its kind, its value and its two positions, and those by their
three numbers.

**A dump as JSON reads back** (`dumpSource_json_reads_back`): it is ASCII and ends with one line
feed, and what is read from it tells the tokens, in their order.
-/

namespace Lexis

/-! ### What an object tells -/

/-- The value of a field of an object. -/
def Json.field? (json : Json) (name : String) : Option Json :=
  match json with
  | .object fields => fields.lookup name
  | _              => none

/-- An object has the three numbers of a position. -/
structure Position.IsToldBy (p : Position) (json : Json) : Prop where
  index  : json.field? "index" = some (.number p.index)
  line   : json.field? "lineno" = some (.number p.line)
  column : json.field? "column" = some (.number p.column)

/-- An object has the kind, the value and the positions of a token. -/
structure Token.IsToldBy (token : Token) (json : Json) : Prop where
  kind  : json.field? "kind" = some (.string token.kind.name)
  value : json.field? "value" = some (.string token.value)
  start : ∃ position, json.field? "start" = some position ∧ token.start.IsToldBy position
  stop  : ∃ position, json.field? "end" = some position ∧ token.stop.IsToldBy position

theorem Position.isToldBy_toJson (p : Position) : p.IsToldBy p.toJson :=
  ⟨rfl, rfl, rfl⟩

theorem Token.isToldBy_toJson (token : Token) : token.IsToldBy token.toJson :=
  ⟨rfl, rfl, ⟨_, rfl, token.start.isToldBy_toJson⟩, ⟨_, rfl, token.stop.isToldBy_toJson⟩⟩

/-! ### Dumps as JSON -/

theorem Format.toList_write_json (tokens : List Token) :
    (Format.json.write tokens).toList = (dumpJson tokens).printAt 0 ++ ['\n'] := by
  rw [write, String.toList_append, Json.print, String.toList_ofList]
  rfl

theorem Format.isAscii_of_mem_write_json {tokens : List Token} {c : Char}
    (h : c ∈ (Format.json.write tokens).toList) : Json.IsAscii c := by
  rw [toList_write_json, List.mem_append, List.mem_singleton] at h
  rcases h with h | rfl
  · exact Json.isAscii_of_mem_printAt h
  · decide

/-- What is read from a dump tells its tokens. -/
theorem Format.read?_write_json (tokens : List Token) :
    ∃ items, Json.read? (Format.json.write tokens) = some (.array items) ∧
      List.Forall₂ Token.IsToldBy tokens items := by
  refine ⟨tokens.map Token.toJson, Json.read?_print _ (List.all_eq_true.mp (by decide)), ?_⟩
  rw [List.forall₂_map_right_iff]
  exact List.forall₂_same.mpr fun token _ => token.isToldBy_toJson

/-! ### The dump of a source -/

variable {entry : Entry} {source filename : String} {startLine : Int} {tokens : List Token}

/-- **A dump as JSON reads back.**  There is one exactly where every number in it has few enough
digits to be written.  It is ASCII and ends with one line feed, and it is read as an array that has
for each token, in their order, an object with its kind, its value and its positions. -/
theorem dumpSource_json_reads_back (hsource : sourceText entry = .ok source)
    (htokens : tokenize source filename (startLine - 1) = .ok tokens) :
    ((∃ dump, dumpSource entry filename startLine .json = .ok dump) ↔
      ∀ t ∈ tokens, ∀ p ∈ [t.start, t.stop], Text.isWritable p.index = true ∧
        Text.isWritable p.line = true ∧ Text.isWritable p.column = true) ∧
    ∀ dump, dumpSource entry filename startLine .json = .ok dump →
      (∀ c ∈ dump.toList, Json.IsAscii c) ∧
      (∃ body, dump.toList = body ++ ['\n'] ∧ body.getLast? ≠ some '\n') ∧
      ∃ items, Json.read? dump = some (.array items) ∧
        List.Forall₂ Token.IsToldBy tokens items := by
  have hok (dump : String) : dumpSource entry filename startLine .json = .ok dump ↔
      Format.json.write? tokens = some dump := by
    simp only [dumpSource_eq_ok_iff hsource, htokens, Except.ok.injEq, exists_eq_left']
  constructor
  · simp only [hok]
    rw [Format.exists_write?_iff]
    simp only [Format.numbers, List.forall_mem_cons, List.not_mem_nil, IsEmpty.forall_iff,
      implies_true, and_true]
  · intro dump hdump
    obtain ⟨-, rfl⟩ := Format.write?_eq_some_iff.mp ((hok dump).mp hdump)
    refine ⟨fun c => Format.isAscii_of_mem_write_json, ⟨_, Format.toList_write_json tokens, ?_⟩,
      Format.read?_write_json tokens⟩
    rw [dumpJson, Json.getLast?_printAt_array]
    decide

/-- A literal with an escaped quote, a tab and a character that is written as two surrogates. -/
theorem dumpSource_json_reads_back_surrogates :
    let source := "f \"\\\"\t😀\""
    let entry := Entry.file (Text.Utf8.encode source.toList)
    ∃ tokens dump items, tokenize source "input" 2 = .ok tokens ∧
      dumpSource entry "input" 3 .json = .ok dump ∧ Json.read? dump = some (.array items) ∧
      List.Forall₂ Token.IsToldBy tokens items ∧
      tokens.map Token.value = ["f", "\"\t😀", ""] := by
  intro source entry
  have hsource : sourceText entry = .ok source := by decide +kernel
  obtain ⟨tokens, htokens, hvalues, hsmall⟩ : ∃ tokens,
      tokenize source "input" (3 - 1) = .ok tokens ∧
        tokens.map Token.value = ["f", "\"\t😀", ""] ∧
        ∀ t ∈ tokens, ∀ p ∈ [t.start, t.stop],
          p.index.natAbs < 10 ∧ p.line.natAbs < 10 ∧ p.column.natAbs < 10 :=
    ⟨(scan source "input" 2).tokens, by decide +kernel, by decide +kernel, by decide +kernel⟩
  obtain ⟨hexists, hdumps⟩ := dumpSource_json_reads_back hsource htokens
  obtain ⟨dump, hdump⟩ := hexists.mpr fun t ht p hp =>
    ⟨Text.isWritable_of_digit (hsmall t ht p hp).1,
      Text.isWritable_of_digit (hsmall t ht p hp).2.1,
      Text.isWritable_of_digit (hsmall t ht p hp).2.2⟩
  obtain ⟨-, -, items, hread, htold⟩ := hdumps dump hdump
  exact ⟨tokens, dump, items, htokens, hdump, hread, htold, hvalues⟩

/-- There is no dump of two empty lines above one whose number has one digit more than the limit,
although they have tokens. -/
theorem not_dumpSource_json_long_line :
    let entry := Entry.file [10, 10]
    let startLine : Int := 10 ^ Text.digitLimit - 1
    sourceText entry = .ok "\n\n" ∧ Tokenizes "\n\n" "input" (startLine - 1) ∧
      ¬ ∃ dump, dumpSource entry "input" startLine .json = .ok dump := by
  intro entry startLine
  have hsource : sourceText entry = .ok "\n\n" := by decide
  let feed : Lexeme := .filler (.blank '\n' (by decide))
  have hfeed {text : List Char} : feed.IsWord → Follows text := False.elim
  have hreads : Reads "\n\n".toList [feed, feed] [] := .more hfeed (.more hfeed (.done []))
  have htokens := tokenize_of_reads hreads "input" (startLine - 1)
  refine ⟨hsource, ⟨_, htokens⟩, fun hdump => ?_⟩
  simp only [dumpSource_eq_ok_iff hsource, htokens, Except.ok.injEq, exists_eq_left'] at hdump
  -- the only token is the end of the file, two lines below the first
  have hwritable : Text.isWritable (Position.behind (startLine - 1) "\n\n".toList).line = true :=
    Format.exists_write?_iff.mp hdump _ (List.mem_singleton_self _) _ List.mem_cons_self _
      (List.mem_cons_of_mem _ List.mem_cons_self)
  have hline : (Position.behind (startLine - 1) "\n\n".toList).line = 10 ^ Text.digitLimit := by
    rw [Position.behind_line, show "\n\n".toList.count '\n' = 2 from rfl]
    simp only [startLine]
    omega
  rw [hline] at hwritable
  exact Text.not_isWritable_pow hwritable

end Lexis
