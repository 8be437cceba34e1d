import Lexis.FileTree
import Lexis.Proofs.Text.OneLine

/-!
# Command — paths

A path is read back from its writing, where its names are such that can be written
(`Path.ofText_text`), and the names of every path that is read are (`Path.isName_of_mem_ofText`).
To go into a folder and out of it again leads nowhere (`FileTree.follow_detours`) but makes the path
longer, so that a file beside a folder has paths of many lengths.
-/

namespace Lexis

namespace Path

/-! ### Paths in writing -/

/-- A name that can be written in a path, and is not left out there. -/
def IsName (name : String) : Prop :=
  name ≠ "" ∧ name ≠ "." ∧ '/' ∉ name.toList

instance (name : String) : Decidable (IsName name) :=
  inferInstanceAs (Decidable (_ ∧ _ ∧ _))

theorem isName_of_mem_ofText {name text : String} (h : name ∈ (ofText text).names) :
    IsName name := by
  obtain ⟨hname, hkept⟩ := List.mem_filter.mp h
  obtain ⟨field, hfield, rfl⟩ := List.mem_map.mp hname
  obtain ⟨hempty, hdot⟩ := of_decide_eq_true hkept
  exact ⟨hempty, hdot, by simpa using Text.separator_not_mem_fields hfield⟩

/-- The anchor is what stands in front of the first name. -/
theorem anchorOf_append {name : String} (h : IsName name) (anchor : Anchor) (rest : List Char) :
    anchorOf (anchor.text.toList ++ (name.toList ++ rest)) = anchor := by
  obtain ⟨hempty, -, hslash⟩ := h
  cases hname : name.toList with
  | nil => exact absurd (String.toList_eq_nil_iff.mp hname) hempty
  | cons c cs =>
      rw [hname, List.mem_cons, not_or] at hslash
      have hc : c ≠ '/' := fun hc => hslash.1 hc.symm
      cases anchor <;> simp [anchorOf, Anchor.text, hc]

/-- The slashes of an anchor hold no names. -/
theorem names_append (anchor : Anchor) (text : String) :
    (ofText (anchor.text ++ text)).names = (ofText text).names := by
  cases anchor with
  | here => rw [Anchor.text, String.empty_append]
  | root | doubleRoot =>
      obtain ⟨field, rest, hfields, -⟩ := Text.fields_cons_eq '/' '/' text.toList
      simp [ofText, Anchor.text, Text.fields_cons, Text.consField, hfields]

theorem names_ofText_intercalate {names : List String} (h : ∀ name ∈ names, IsName name) :
    (ofText ("/".intercalate names)).names = names := by
  cases names with
  | nil => decide +kernel
  | cons first rest =>
      have hjoined : ("/".intercalate (first :: rest)).toList =
          Text.joinFields '/' ((first :: rest).map String.toList) := by
        rw [String.toList_intercalate]
        rfl
      have hfields : Text.fields '/' ("/".intercalate (first :: rest)).toList =
          (first :: rest).map String.toList := by
        rw [hjoined]
        refine Text.fields_joinFields (by simp) fun field hfield => ?_
        obtain ⟨name, hname, rfl⟩ := List.mem_map.mp hfield
        exact (h name hname).2.2
      have hkept : ∀ name ∈ first :: rest, decide (name ≠ "" ∧ name ≠ ".") = true :=
        fun name hname => decide_eq_true ⟨(h name hname).1, (h name hname).2.1⟩
      rw [ofText, hfields, List.map_map, List.map_congr_left (g := id) (by simp), List.map_id,
        List.filter_eq_self.mpr hkept]

/-- **A path is read back** from its writing. -/
theorem ofText_text {p : Path} (h : ∀ name ∈ p.names, IsName name) : ofText p.text = p := by
  obtain ⟨anchor, names⟩ := p
  cases names with
  | nil => cases anchor <;> decide +kernel
  | cons first rest =>
      have htext : text ⟨anchor, first :: rest⟩ = anchor.text ++ "/".intercalate (first :: rest) :=
        if_neg (by simp)
      have hbegin : ∃ more, ("/".intercalate (first :: rest)).toList = first.toList ++ more := by
        cases rest <;> simp [String.intercalate_cons_cons]
      obtain ⟨more, hmore⟩ := hbegin
      have hanchor : (ofText (text ⟨anchor, first :: rest⟩)).anchor = anchor := by
        rw [htext, ofText, String.toList_append, hmore, anchorOf_append (h first (by simp))]
      have hnames : (ofText (text ⟨anchor, first :: rest⟩)).names = first :: rest := by
        rw [htext, names_append, names_ofText_intercalate h]
      exact congrArg₂ Path.mk hanchor hnames

/-- What is read is in normal form: its writing is read as the same path. -/
theorem ofText_text_ofText (text : String) : ofText (ofText text).text = ofText text :=
  ofText_text fun _ => isName_of_mem_ofText

/-- A character in the writing of a path is in a name, but for the slashes and the single dot. -/
theorem not_mem_text {c : Char} {p : Path} (hslash : c ≠ '/') (hdot : c ≠ '.')
    (h : ∀ name ∈ p.names, c ∉ name.toList) : c ∉ p.text.toList := by
  have hanchor : c ∉ p.anchor.text.toList := by
    cases p.anchor <;> simp [Anchor.text, hslash]
  have hjoined : c ∉ ("/".intercalate p.names).toList := by
    generalize p.names = names at h
    induction names with
    | nil => simp
    | cons first rest ih =>
        rw [List.forall_mem_cons] at h
        cases rest with
        | nil => simpa using h.1
        | cons next rest => simpa [String.intercalate_cons_cons, h.1, hslash] using ih h.2
  rw [text]
  split
  · simp [hdot]
  · rw [String.toList_append, List.mem_append, not_or]
    exact ⟨hanchor, hjoined⟩

/-- A path has no line feed but those of the text that writes it. -/
theorem feed_not_mem_text_ofText {name : String} (h : '\n' ∉ name.toList) :
    '\n' ∉ (ofText name).text.toList := by
  refine not_mem_text (by decide) (by decide) fun part hpart hfeed => ?_
  obtain ⟨field, hfield, rfl⟩ := List.mem_map.mp (List.mem_of_mem_filter hpart)
  rw [String.toList_ofList] at hfeed
  exact h ((Text.sublist_of_mem_fields hfield).subset hfeed)

theorem hasZero_eq_false {p : Path} (h : ∀ name ∈ p.names, '\x00' ∉ name.toList) :
    p.hasZero = false := by
  simpa [hasZero] using not_mem_text (by decide) (by decide) h

/-- The bytes of a path in writing: each name but the last has a slash behind it. -/
theorem utf8ByteSize_text_child (names : List String) (name : String) :
    (text ⟨.here, names ++ [name]⟩).utf8ByteSize =
      (names.map fun folder => folder.utf8ByteSize + 1).sum + name.utf8ByteSize := by
  rw [text, if_neg (by simp), Anchor.text, String.empty_append]
  induction names with
  | nil => simp
  | cons first names ih =>
      rw [List.cons_append, String.intercalate_cons_of_ne_nil (by simp), String.utf8ByteSize_append,
        String.utf8ByteSize_append, ih, List.map_cons, List.sum_cons]
      have hslash : "/".utf8ByteSize = 1 := by decide
      omega

end Path

/-! ### Detours -/

/-- The names of a way into a folder and out of it, over and over. -/
def detours (folder : String) (count : Nat) : List String :=
  (List.replicate count [folder, ".."]).flatten

theorem detours_succ (folder : String) (count : Nat) :
    detours folder (count + 1) = folder :: ".." :: detours folder count := by
  simp [detours, List.replicate_succ]

/-- A path to a name in the working directory, into a folder and out of it so many times first. -/
def Path.detour (folder : String) (count : Nat) (name : String) : Path :=
  ⟨.here, detours folder count ++ [name]⟩

namespace Path

variable {folder name : String} {count : Nat}

/-- What a detour's names all have is had by the folder, the name and the two dots. -/
theorem forall_mem_detour {P : String → Prop} (hfolder : P folder) (hup : P "..") (hname : P name) :
    ∀ part ∈ (detour folder count name).names, P part := by
  intro part hpart
  rcases List.mem_append.mp hpart with hpart | hpart
  · obtain ⟨turn, hturn, hpart⟩ := List.mem_flatten.mp hpart
    rw [List.eq_of_mem_replicate hturn] at hpart
    rcases List.mem_pair.mp hpart with rfl | rfl
    · exact hfolder
    · exact hup
  · rw [List.mem_singleton.mp hpart]
    exact hname

theorem hasZero_detour (hfolder : '\x00' ∉ folder.toList) (hname : '\x00' ∉ name.toList) :
    (detour folder count name).hasZero = false :=
  hasZero_eq_false (forall_mem_detour hfolder (by decide) hname)

theorem ofText_text_detour (hfolder : IsName folder) (hname : IsName name) :
    ofText (detour folder count name).text = detour folder count name :=
  ofText_text (forall_mem_detour hfolder (by decide) hname)

/-- Another name in the folder of a detour's end. -/
@[simp] theorem child_parent_detour (other : String) :
    (detour folder count name).parent.child other = detour folder count other := by
  simp [detour, parent, child]

theorem isLong_detour :
    (detour folder count name).isLong =
      decide (lengthLimit < count * (folder.utf8ByteSize + 4) + name.utf8ByteSize) := by
  have hup : "..".utf8ByteSize = 2 := by decide
  rw [isLong, detour, utf8ByteSize_text_child]
  congr 2
  induction count with
  | zero => simp [detours]
  | succ count ih =>
      rw [detours_succ, List.map_cons, List.map_cons, List.sum_cons, List.sum_cons, Nat.succ_mul]
      omega

end Path

namespace FileTree

variable {t : FileTree}

theorem entry_of_isLong {p : Path} (hzero : p.hasZero = false) (hlong : p.isLong = true) :
    t.entry p = .tooLong := by
  rw [entry, locate, if_neg (by simp [hzero]), if_pos hlong]

section

variable {folder : String} (hfolder : folder ≠ ".." ∧ Path.isLongName folder = false)
  (hhere : t.entryAt t.here = .folder) (hthere : t.entryAt (t.here ++ [folder]) = .folder)
include hfolder hhere hthere

/-- **A detour leads nowhere.** -/
theorem follow_detours (count : Nat) (names : List String) :
    t.follow t.here (detours folder count ++ names) = t.follow t.here names := by
  have hin : enter t.here folder = t.here ++ [folder] := if_neg hfolder.1
  have hout : enter (t.here ++ [folder]) ".." = t.here := by
    rw [enter, if_pos rfl, List.dropLast_concat]
  have hup : Path.isLongName ".." = false := by decide
  induction count with
  | zero => rfl
  | succ count ih =>
      rw [detours_succ, List.cons_append, List.cons_append, follow, hhere]
      simp only [hfolder.2, hin, Bool.false_eq_true, if_false]
      rw [follow, hthere]
      simp only [hup, hout, Bool.false_eq_true, if_false]
      exact ih

theorem entry_detour {count : Nat} {name : String}
    (hname : name ≠ ".." ∧ Path.isLongName name = false)
    (hzero : (Path.detour folder count name).hasZero = false)
    (hlong : (Path.detour folder count name).isLong = false) :
    t.entry (.detour folder count name) = t.entryAt (t.here ++ [name]) := by
  have hin : enter t.here name = t.here ++ [name] := if_neg hname.1
  have hstart : t.start (.detour folder count name) = t.here := if_pos rfl
  rw [entry, locate, if_neg (by simp [hzero]), if_neg (by simp [hlong]), hstart, Path.detour,
    follow_detours hfolder hhere hthere, follow, hhere]
  simp only [hname.2, hin, Bool.false_eq_true, if_false]
  rw [follow]

end

end FileTree

end Lexis
