import Lexis.Proofs.Lookup
import Lexis.Proofs.Workspace.Remarks
import Mathlib.Data.List.Basic
import Mathlib.Data.List.Induction

/-!
# Workspace — histories

A history is a list of requests, served in turn (`Workspace.serve`).  What a workspace keeps of it
is, for each document, the last of the texts that were set for it (`text?_after`), so what a request
publishes is said by that text and the document's name (`getElem?_serve`).

**The last remarks on every document describe its present text** (`serve_describes`), in any history
that opens its documents before it asks for anything else of them.
-/

namespace Lexis

/-- The texts that a request sets for a document, the present one last. -/
def Request.textsFor (uri : String) : Request → List String
  | .opening other text => if other = uri then [text] else []
  | .change other texts => if other = uri then texts else []
  | .validation _       => []

/-- The document that a request opens. -/
def Request.opened? : Request → Option String
  | .opening uri _ => some uri
  | _              => none

/-- The text of a document after a history. -/
def presentText? (requests : List Request) (uri : String) : Option String :=
  (requests.flatMap (Request.textsFor uri)).getLast?

/-- Each request of a history is about a document that it, or a request before it, opens. -/
def Orderly (requests : List Request) : Prop :=
  ∀ n, (h : n < requests.length) →
    requests[n].uri ∈ (requests.take (n + 1)).filterMap Request.opened?

instance (requests : List Request) : Decidable (Orderly requests) :=
  inferInstanceAs (Decidable (∀ n, (h : n < requests.length) →
    requests[n].uri ∈ (requests.take (n + 1)).filterMap Request.opened?))

namespace Workspace

/-- The workspace after a history. -/
def after (w : Workspace) (requests : List Request) : Workspace :=
  requests.foldl apply w

/-- What a history publishes. -/
def serve (w : Workspace) : List Request → List Publication
  | []                  => []
  | request :: requests => (w.handle request).2 :: (w.handle request).1.serve requests

/-! ### The texts that are kept -/

theorem text?_put (w : Workspace) (uri text other : String) :
    (w.put uri text).text? other = if other = uri then some text else w.text? other :=
  lookup_set w.documents uri other text

/-- **One request** sets the last of its texts. -/
theorem text?_apply (w : Workspace) (request : Request) (uri : String) :
    (w.apply request).text? uri = (request.textsFor uri).getLast?.or (w.text? uri) := by
  cases request with
  | opening other text =>
      rw [apply, text?_put, Request.textsFor]
      by_cases h : other = uri
      · rw [if_pos h, if_pos h.symm]
        rfl
      · rw [if_neg h, if_neg (Ne.symm h)]
        rfl
  | change other texts =>
      rw [apply, Request.textsFor]
      cases hlast : texts.getLast? with
      | none =>
          obtain rfl := List.getLast?_eq_none_iff.mp hlast
          rw [ite_self]
          rfl
      | some text =>
          simp only
          rw [text?_put]
          by_cases h : other = uri
          · rw [if_pos h, if_pos h.symm, hlast]
            rfl
          · rw [if_neg h, if_neg (Ne.symm h)]
            rfl
  | validation other => rfl

/-- **A history** sets the last of its texts. -/
theorem text?_after (w : Workspace) (requests : List Request) (uri : String) :
    (w.after requests).text? uri = (presentText? requests uri).or (w.text? uri) := by
  induction requests generalizing w with
  | nil => rfl
  | cons request requests ih =>
      rw [after, List.foldl_cons, ← after, ih, text?_apply, presentText?, presentText?,
        List.flatMap_cons, List.getLast?_append, Option.or_assoc]

/-! ### What is published -/

/-- What one request publishes. -/
theorem handle_snd (w : Workspace) (request : Request) :
    (w.handle request).2 =
      publish request.uri (((w.after [request]).text? request.uri).getD "") :=
  rfl

theorem length_serve (w : Workspace) (requests : List Request) :
    (w.serve requests).length = requests.length := by
  induction requests generalizing w with
  | nil => rfl
  | cons request requests ih => rw [serve, List.length_cons, List.length_cons, ih]

theorem serve_append (w : Workspace) (requests requests' : List Request) :
    w.serve (requests ++ requests') = w.serve requests ++ (w.after requests).serve requests' := by
  induction requests generalizing w with
  | nil => rfl
  | cons request requests ih => exact congrArg _ (ih _)

end Workspace

open Workspace (serve text?_after)

/-! ### Orderly histories -/

namespace Orderly

variable {requests requests' : List Request}

theorem of_append (h : Orderly (requests ++ requests')) : Orderly requests := by
  intro n hn
  have hmem := h n (by rw [List.length_append]; omega)
  rwa [List.getElem_append_left hn, List.take_append_of_le_length hn] at hmem

/-- The document of the last request has a text. -/
theorem exists_presentText {request : Request} (h : Orderly (requests ++ [request])) :
    ∃ text, presentText? (requests ++ [request]) request.uri = some text := by
  have hmem := h requests.length (by simp)
  rw [List.getElem_concat_length rfl, List.take_of_length_le (by simp), List.mem_filterMap] at hmem
  obtain ⟨first, hfirst, hopened⟩ := hmem
  rw [presentText?, ← Option.isSome_iff_exists, List.getLast?_isSome]
  intro hnil
  have htexts := List.flatMap_eq_nil_iff.mp hnil first hfirst
  cases first with
  | opening uri text =>
      obtain rfl : uri = request.uri := Option.some.inj hopened
      simp [Request.textsFor] at htexts
  | change => simp [Request.opened?] at hopened
  | validation => simp [Request.opened?] at hopened

/-- The last request publishes the present text of its document. -/
theorem serve_concat {request : Request} (h : Orderly (requests ++ [request])) :
    ∃ text, presentText? (requests ++ [request]) request.uri = some text ∧
      Workspace.empty.serve (requests ++ [request]) =
        Workspace.empty.serve requests ++ [publish request.uri text] := by
  obtain ⟨text, htext⟩ := h.exists_presentText
  have hafter := text?_after .empty (requests ++ [request]) request.uri
  rw [htext, Workspace.after, List.foldl_append, ← Workspace.after] at hafter
  refine ⟨text, htext, ?_⟩
  rw [Workspace.serve_append, serve, serve, Workspace.handle_snd,
    show ((Workspace.empty.after requests).after [request]).text? request.uri = some text from
      hafter]
  rfl

/-- **Every request** publishes the text that its document has at that moment. -/
theorem getElem?_serve (h : Orderly requests) {n : Nat} {request : Request}
    (hn : requests[n]? = some request) :
    ∃ text, presentText? (requests.take (n + 1)) request.uri = some text ∧
      (Workspace.empty.serve requests)[n]? = some (publish request.uri text) := by
  -- the history up to this request, and what comes after it
  obtain ⟨before, after, rfl, rfl⟩ : ∃ before after, requests = before ++ request :: after ∧
      before.length = n := by
    obtain ⟨hlt, rfl⟩ := List.getElem?_eq_some_iff.mp hn
    exact ⟨requests.take n, requests.drop (n + 1), by simp, List.length_take_of_le hlt.le⟩
  rw [List.append_cons] at h
  obtain ⟨text, htext, hserve⟩ := h.of_append.serve_concat
  refine ⟨text, ?_, ?_⟩
  · rwa [List.append_cons, List.take_left' (by simp)]
  · rw [List.append_cons, Workspace.serve_append, hserve, List.append_assoc,
      List.getElem?_append_right (Workspace.length_serve _ _).le, Workspace.length_serve,
      Nat.sub_self]
    rfl

/-- **The last publication** of a document is that of its present text. -/
theorem getLast?_filter_serve (h : Orderly requests) (uri : String) :
    ((Workspace.empty.serve requests).filter (·.uri = uri)).getLast? =
      (presentText? requests uri).map (publish uri) := by
  -- from the end: the last request is about the document, or sets none of its texts
  induction requests using List.reverseRecOn with
  | nil => rfl
  | append_singleton requests request ih =>
      obtain ⟨text, htext, hserve⟩ := h.serve_concat
      rw [hserve, List.filter_append]
      by_cases huri : request.uri = uri
      · subst huri
        have hsame : (publish request.uri text).uri = request.uri := rfl
        rw [htext, List.filter_cons_of_pos (by simp [hsame]), List.filter_nil,
          List.getLast?_concat]
        rfl
      · have htexts : request.textsFor uri = [] := by
          cases request with
          | opening => exact if_neg huri
          | change => exact if_neg huri
          | validation => rfl
        rw [List.filter_cons_of_neg (by simp [publish, huri]), List.filter_nil, List.append_nil,
          ih h.of_append, presentText?, presentText?, List.flatMap_append,
          List.flatMap_singleton, htexts, List.append_nil]

end Orderly

/-- **Publications describe the present texts.**  In an orderly history each request publishes once,
for its own document and by its name and present text alone, and the remarks describe that text.  So
the last remarks on every document that was opened describe the text that it has in the end. -/
theorem serve_describes {requests : List Request} (h : Orderly requests) :
    (Workspace.empty.serve requests).length = requests.length ∧
      (∀ n request, requests[n]? = some request →
        ∃ text publication, presentText? (requests.take (n + 1)) request.uri = some text ∧
          (Workspace.empty.serve requests)[n]? = some publication ∧
          publication = publish request.uri text ∧ publication.uri = request.uri ∧
          Describes publication.remarks request.uri text) ∧
      ∀ uri text, presentText? requests uri = some text →
        ∃ publication,
          ((Workspace.empty.serve requests).filter (·.uri = uri)).getLast? = some publication ∧
          Describes publication.remarks uri text := by
  refine ⟨Workspace.length_serve _ _, fun n request hn => ?_, fun uri text htext => ?_⟩
  · obtain ⟨text, htext, hserve⟩ := h.getElem?_serve hn
    exact ⟨text, _, htext, hserve, rfl, rfl, describes_remarks _ _⟩
  · refine ⟨publish uri text, ?_, describes_remarks _ _⟩
    rw [h.getLast?_filter_serve, htext]
    rfl

/-- Two documents in turn: one is mended and then spoilt again, the other keeps its fault. -/
theorem serve_describes_two_documents :
    let requests : List Request :=
      [.opening "a.gl" "f(", .opening "b.gl" "(\n @", .change "a.gl" ["@", "f()"],
        .validation "b.gl", .change "a.gl" [], .change "a.gl" ["1x"]]
    Orderly requests ∧
      ((Workspace.empty.serve requests).map fun publication =>
        (publication.uri, publication.remarks.map Remark.message)) =
          [("a.gl", []), ("b.gl", ["IllegalCharacter: '@'"]), ("a.gl", []),
            ("b.gl", ["IllegalCharacter: '@'"]), ("a.gl", []),
            ("a.gl", ["InvalidSyntax: unexpected 'x' after integer literal"])] ∧
      ∃ publication,
        ((Workspace.empty.serve requests).filter (·.uri = "b.gl")).getLast? = some publication ∧
          Describes publication.remarks "b.gl" "(\n @" := by
  intro requests
  have horderly : Orderly requests := by decide
  refine ⟨horderly, by decide +kernel, ?_⟩
  exact (serve_describes horderly).2.2 "b.gl" "(\n @" (by decide)

end Lexis
