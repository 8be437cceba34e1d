import Lexis.FileTree
import Lexis.Proofs.Lookup

/-!
# Command — a file that is written

What writing at a path does to a file tree (`FileTree.Writes`): the path leads to the bytes that
were written, every other file has the bytes that it had, and the folders and the working directory
are the same.  Nothing goes wrong where nothing stands against it at the entry
(`FileTree.exists_write`).

That the path leads to what was written has to be followed name by name (`follow_put`): writing a
file takes away no folder on the way to it.  Nor does it make one, so that a path to another place
leads to what it did (`entry_of_write`).
-/

namespace Lexis

/-- A place that is in no folder. -/
def Entry.IsOff (entry : Entry) : Prop :=
  entry = .nowhere ∨ entry = .inFile

namespace FileTree

variable {t : FileTree} {names target place goal : List String} {bytes : List UInt8}

/-! ### Files and folders beside the one that is put -/

theorem file?_put_of_ne (h : names ≠ target) : (t.put target bytes).file? names = t.file? names :=
  (lookup_set t.files target names bytes).trans (if_neg h)

/-- What was a folder still is one. -/
theorem isFolder_put (h : t.isFolder names = true) :
    (t.put target bytes).isFolder names = true := by
  simp only [isFolder, Bool.or_eq_true, List.any_eq_true] at h ⊢
  rcases h with h | ⟨file, hfile, hway⟩
  · exact .inl h
  · refine .inr ?_
    by_cases hname : file.1 = target
    · rw [hname] at hway
      exact ⟨(target, bytes), List.mem_cons_self, hway⟩
    · exact ⟨file, List.mem_cons_of_mem _ (List.mem_filter.mpr ⟨hfile, by simpa using hname⟩), hway⟩

theorem isFolder_of_entryAt (h : t.entryAt names = .folder) : t.isFolder names = true := by
  rw [entryAt] at h
  split at h
  · exact nomatch h
  · split at h
    · assumption
    · exact nomatch h

theorem entryAt_put_self : (t.put target bytes).entryAt target = .file bytes := by
  simp only [entryAt, file?_put]

theorem entryAt_put_of_folder (h : t.entryAt names = .folder) (hne : names ≠ target) :
    (t.put target bytes).entryAt names = .folder := by
  have hfolder := isFolder_of_entryAt h
  rw [entryAt] at h ⊢
  rw [file?_put_of_ne hne, isFolder_put hfolder]
  rwa [hfolder] at h

theorem isFolder_of_prefix {way : List String} (h : t.isFolder names = true)
    (hway : way <+: names) : t.isFolder way = true := by
  simp only [isFolder, Bool.or_eq_true, List.any_eq_true, Bool.and_eq_true, decide_eq_true_eq,
    List.isPrefixOf_iff_prefix, List.isEmpty_iff] at h ⊢
  rcases h with ((rfl | hhere) | ⟨folder, hfolder, hpre⟩) | ⟨file, hfile, hpre, hne⟩
  · exact .inl (.inl (.inl (List.prefix_nil.mp hway)))
  · exact .inl (.inl (.inr (hway.trans hhere)))
  · exact .inl (.inr ⟨folder, hfolder, hway.trans hpre⟩)
  · refine .inr ⟨file, hfile, hway.trans hpre, ?_⟩
    rintro rfl
    exact hne (hpre.eq_of_length_le hway.length_le).symm

/-- Where its folder is there, a file makes no other folder. -/
theorem isFolder_put_of_isFolder_dropLast (hfolder : t.isFolder target.dropLast = true) :
    (t.put target bytes).isFolder names = t.isFolder names := by
  refine Bool.eq_iff_iff.mpr ⟨fun h => ?_, isFolder_put⟩
  have hkeeps : t.isFolder names = true ∨ names <+: target ∧ target ≠ names := by
    simp only [isFolder, put, Bool.or_eq_true, List.any_eq_true, List.mem_cons, List.mem_filter,
      Bool.and_eq_true, decide_eq_true_eq, List.isPrefixOf_iff_prefix] at h ⊢
    rcases h with h | ⟨file, rfl | ⟨hfile, -⟩, hway⟩
    · exact .inl (.inl h)
    · exact .inr hway
    · exact .inl (.inr ⟨file, hfile, hway⟩)
  rcases hkeeps with h | ⟨⟨rest, hrest⟩, hne⟩
  · exact h
  · -- the file is below the folder, so its own folder is the same one or below it too
    refine isFolder_of_prefix hfolder ?_
    have hnil : rest ≠ [] := fun hnil => hne (by rw [← hrest, hnil, List.append_nil])
    rw [← hrest, List.dropLast_append_of_ne_nil hnil]
    exact List.prefix_append _ _

/-! ### The way to a file -/

/-- On the way to where a file can be written, every name is entered from a folder. -/
theorem of_follow_cons {name : String} {rest : List String} {entry : Entry}
    (h : t.follow place (name :: rest) = (goal, entry)) (hentry : entry.obstacle? = none) :
    t.entryAt place = .folder ∧ ¬ Path.isLongName name ∧
      t.follow (enter place name) rest = (goal, entry) := by
  rw [follow] at h
  split at h
  · next hfolder =>
      split at h
      · obtain ⟨-, rfl⟩ := Prod.mk.inj h
        exact nomatch hentry
      · next hname => exact ⟨hfolder, hname, h⟩
  · obtain ⟨-, rfl⟩ := Prod.mk.inj h
    exact nomatch hentry
  · obtain ⟨-, rfl⟩ := Prod.mk.inj h
    exact nomatch hentry

/-- The way to where a file can be written leads to what is there. -/
theorem entryAt_of_follow {entry : Entry} (h : t.follow place names = (goal, entry))
    (hentry : entry.obstacle? = none) : t.entryAt goal = entry := by
  induction names generalizing place with
  | nil =>
      obtain ⟨rfl, rfl⟩ := Prod.mk.inj h
      rfl
  | cons name rest ih =>
      obtain ⟨-, -, hrest⟩ := of_follow_cons h hentry
      exact ih hrest

/-- **The way to a file** is the same after the file is put at its end. -/
theorem follow_put {entry : Entry} (h : t.follow place names = (target, entry))
    (hentry : entry.obstacle? = none) :
    (t.put target bytes).follow place names = (target, .file bytes) := by
  have hthere := entryAt_of_follow h hentry
  induction names generalizing place with
  | nil =>
      obtain ⟨rfl, -⟩ := Prod.mk.inj h
      rw [follow, entryAt_put_self]
  | cons name rest ih =>
      obtain ⟨hfolder, hname, hrest⟩ := of_follow_cons h hentry
      -- the end of the way is no folder, so this place is not the one that is put
      have hne : place ≠ target := by
        rintro rfl
        rw [← hthere, hfolder] at hentry
        exact nomatch hentry
      rw [follow, entryAt_put_of_folder hfolder hne]
      simp only [if_neg hname]
      exact ih hrest

/-! ### Ways elsewhere -/

/-- Two trees are the same but for a file at a place, which either may not have. -/
structure SameBut (goal : List String) (t t' : FileTree) : Prop where
  here   : t'.here = t.here
  others : ∀ place, place ≠ goal → t'.entryAt place = t.entryAt place
  free   : (t.entryAt goal).obstacle? = none
  free'  : (t'.entryAt goal).obstacle? = none

theorem sameBut_put (hfolder : t.isFolder target.dropLast = true)
    (hfree : (t.entryAt target).obstacle? = none) :
    SameBut target t (t.put target bytes) where
  here := rfl
  others place hne := by
    rw [entryAt, entryAt, file?_put_of_ne hne, isFolder_put_of_isFolder_dropLast hfolder]
  free := hfree
  free' := by
    rw [entryAt_put_self]
    rfl

/-- No way goes through where a file can be written. -/
theorem follow_cons_of_free (h : (t.entryAt place).obstacle? = none) (name : String)
    (rest : List String) : (t.follow place (name :: rest)).2.IsOff := by
  rw [follow]
  split
  · next hfolder =>
      rw [hfolder] at h
      exact nomatch h
  · exact .inr rfl
  · exact .inl rfl

/-- **A way elsewhere** leads to the same in trees that are the same but for a file, or it goes
through the place of the file and leads nowhere in both. -/
theorem SameBut.follow {t' : FileTree} (h : SameBut goal t t')
    (hoff : t.follow place names ≠ (goal, t.entryAt goal)) :
    t'.follow place names = t.follow place names ∨
      (t.follow place names).2.IsOff ∧ (t'.follow place names).2.IsOff := by
  induction names generalizing place with
  | nil =>
      have hne : place ≠ goal := by
        rintro rfl
        exact hoff rfl
      rw [FileTree.follow, FileTree.follow, h.others place hne]
      exact .inl rfl
  | cons name rest ih =>
      by_cases hgoal : place = goal
      · subst hgoal
        exact .inr ⟨follow_cons_of_free h.free name rest, follow_cons_of_free h.free' name rest⟩
      · rw [FileTree.follow] at hoff
        rw [FileTree.follow, FileTree.follow, h.others place hgoal]
        split
        · next hfolder =>
            rw [hfolder] at hoff
            split
            · exact .inl rfl
            · next hname =>
                simp only [if_neg hname] at hoff
                exact ih hoff
        · exact .inl rfl
        · exact .inl rfl

/-! ### Writing at a path -/

/-- What a tree is after bytes are written at a path. -/
structure Writes (t : FileTree) (p : Path) (bytes : List UInt8) (after : FileTree) : Prop where
  /-- The path leads to the bytes. -/
  there   : after.entry p = .file bytes
  /-- Every other file has the bytes that it had, and there are no others. -/
  others  : ∀ names, names ≠ (t.locate p).1 → after.file? names = t.file? names
  folders : after.folders = t.folders
  here    : after.here = t.here

theorem entry_put {p : Path} (hplace : (t.locate p).1 = target)
    (hentry : (t.entry p).obstacle? = none) : (t.put target bytes).entry p = .file bytes := by
  have hstart : (t.put target bytes).start p = t.start p := rfl
  rw [entry, locate] at hentry ⊢
  rw [locate] at hplace
  split at hentry
  · exact nomatch hentry
  · split at hentry
    · exact nomatch hentry
    · next hzero hlong =>
        rw [if_neg hzero, if_neg hlong] at hplace ⊢
        rw [hstart, follow_put (Prod.ext hplace rfl) hentry]

/-- **A file that can be written is written**, and nothing else. -/
theorem exists_write {p : Path} (h : (t.entry p).obstacle? = none) (bytes : List UInt8) :
    ∃ after, t.write p bytes = .ok after ∧ t.Writes p bytes after :=
  ⟨t.put (t.locate p).1 bytes, by simp only [write, h], entry_put rfl h,
    fun _ hnames => file?_put_of_ne hnames, rfl, rfl⟩

/-! ### What other paths lead to -/

/-- A name is entered from a folder, on the way to where a file can be written. -/
theorem of_follow_concat {name : String} {entry : Entry}
    (h : t.follow place (names ++ [name]) = (goal, entry)) (hentry : entry.obstacle? = none) :
    ∃ folder, t.entryAt folder = .folder ∧ goal = enter folder name := by
  induction names generalizing place with
  | nil =>
      obtain ⟨hfolder, -, hrest⟩ := of_follow_cons h hentry
      exact ⟨place, hfolder, (Prod.mk.inj hrest).1.symm⟩
  | cons first names ih =>
      obtain ⟨-, -, hrest⟩ := of_follow_cons h hentry
      exact ih hrest

theorem locate_of_free {p : Path} (h : (t.entry p).obstacle? = none) :
    t.locate p = t.follow (t.start p) p.names := by
  rw [entry] at h
  rw [locate] at h ⊢
  split at h
  · exact nomatch h
  · split at h
    · exact nomatch h
    · next hzero hlong => rw [if_neg hzero, if_neg hlong]

/-- What is written is put at the end of the path. -/
theorem of_write {p : Path} {after : FileTree} (h : t.write p bytes = .ok after) :
    (t.entry p).obstacle? = none ∧ after = t.put (t.locate p).1 bytes := by
  rw [write] at h
  split at h
  · exact nomatch h
  · next hentry => exact ⟨hentry, (Except.ok.inj h).symm⟩

/-- A path elsewhere leads to the same in trees that are the same but for a file, or to a place in
no folder in both. -/
theorem SameBut.entry {t' : FileTree} {p : Path} (h : SameBut goal t t')
    (hoff : t.locate p ≠ (goal, t.entryAt goal)) :
    t'.entry p = t.entry p ∨ (t.entry p).IsOff ∧ (t'.entry p).IsOff := by
  have hstart : t'.start p = t.start p := by rw [start, start, h.here]
  rw [FileTree.entry, FileTree.entry]
  rw [locate] at hoff
  rw [locate, locate, hstart]
  split
  · exact .inl rfl
  · split
    · exact .inl rfl
    · next hzero hlong =>
        rw [if_neg hzero, if_neg hlong] at hoff
        exact (h.follow hoff).imp_left (congrArg Prod.snd)

/-- A file that is written changes the tree by itself only: its folder is there. -/
theorem sameBut_of_locate {q : Path} {name : String} {entry : Entry} (hname : name ≠ "..")
    (h : t.locate (q.child name) = (target, entry)) (hentry : entry.obstacle? = none) :
    SameBut target t (t.put target bytes) := by
  have hfree : (t.entry (q.child name)).obstacle? = none := by rwa [FileTree.entry, h]
  have hway : t.follow (t.start (q.child name)) (q.names ++ [name]) = (target, entry) :=
    (locate_of_free hfree).symm.trans h
  obtain ⟨folder, hfolder, rfl⟩ := of_follow_concat hway hentry
  refine sameBut_put ?_ (by rwa [entryAt_of_follow hway hentry])
  rw [enter, if_neg hname, List.dropLast_concat]
  exact isFolder_of_entryAt hfolder

/-- **Writing a file changes what no other path leads to**, but that a path may lead through the
place of the file, and so nowhere, before and after. -/
theorem entry_of_write {p q : Path} {name : String} {after : FileTree} (hname : name ≠ "..")
    (h : t.write (q.child name) bytes = .ok after) (hoff : t.locate p ≠ t.locate (q.child name)) :
    after.entry p = t.entry p ∨ (t.entry p).IsOff ∧ (after.entry p).IsOff := by
  obtain ⟨hfree, rfl⟩ := of_write h
  have hlocate : t.locate (q.child name) = ((t.locate (q.child name)).1, t.entry (q.child name)) :=
    Prod.ext rfl rfl
  have hthere : t.entryAt (t.locate (q.child name)).1 = t.entry (q.child name) :=
    entryAt_of_follow ((locate_of_free hfree).symm.trans hlocate) hfree
  refine (sameBut_of_locate hname hlocate hfree).entry ?_
  rwa [hthere, ← hlocate]

end FileTree

end Lexis
