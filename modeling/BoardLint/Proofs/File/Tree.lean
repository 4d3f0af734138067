import BoardLint.File.Tree
import BoardLint.Proofs.KeyMap

set_option autoImplicit false

/-! # Writing into file trees

Where a path leads depends on the directories only. So a file that is written is read back with any
path that leads to it, and neither other files nor the ways to them change. -/

namespace BoardLint

namespace KeyMap

variable {β : Type}

/-- Inserting entries with different keys: each is found, and at other keys there is what there
    was. -/
theorem get?_foldl_insert {xs : List (String × β)} (h : (xs.map (·.1)).Nodup) (m : KeyMap β) :
    (∀ x ∈ xs, (xs.foldl (fun m x => m.insert x.1 x.2) m).get? x.1 = some x.2) ∧
      ∀ key ∉ xs.map (·.1), (xs.foldl (fun m x => m.insert x.1 x.2) m).get? key = m.get? key := by
  induction xs generalizing m with
  | nil => exact ⟨List.forall_mem_nil _, fun _ _ => rfl⟩
  | cons x xs ih =>
      rw [List.map_cons, List.nodup_cons] at h
      obtain ⟨hmem, hother⟩ := ih h.2 (m.insert x.1 x.2)
      refine ⟨List.forall_mem_cons.mpr ⟨?_, hmem⟩, fun key hkey => ?_⟩
      · rw [List.foldl_cons, hother x.1 h.1, get?_insert, if_pos rfl]
      · rw [List.map_cons, List.mem_cons, not_or] at hkey
        rw [List.foldl_cons, hother key hkey.2, get?_insert, if_neg hkey.1]

end KeyMap

namespace FileTree

variable {t : FileTree} {path entry : String}

/-- The key that a path leads to. -/
def keyOf? (t : FileTree) (path : String) : Option String := (t.locate path).toOption.map key

/-- The tree with other files in the same directories. -/
def withFiles (t : FileTree) (files : KeyMap FileContent) : FileTree := { t with files := files }

/-- The path leads to an entry where a file can be: in a directory, and not one itself. -/
def Leads (t : FileTree) (path entry : String) : Prop :=
  ∃ location, t.locate path = .ok location ∧ key location = entry ∧
    t.hasDirectory location = false ∧ t.hasDirectory location.dropLast = true

theorem follow_withFiles {location found : List String} {pieces : List String}
    (h : t.follow location pieces = .ok found) (files : KeyMap FileContent) :
    (t.withFiles files).follow location pieces = .ok found := by
  induction pieces generalizing location with
  | nil => exact h
  | cons piece rest ih =>
      have hsame : (t.withFiles files).hasDirectory location = t.hasDirectory location := rfl
      rw [follow] at h ⊢
      rw [hsame]
      split at h
      · next hdirectory =>
        rw [if_pos hdirectory]
        split at h
        · next hstay =>
          rw [if_pos hstay]
          exact ih h
        · next hstay =>
          rw [if_neg hstay]
          split at h
          · next hup =>
            rw [if_pos hup]
            exact ih h
          · next hup =>
            rw [if_neg hup]
            exact ih h
      · split at h <;> cases h

namespace Leads

theorem withFiles (h : t.Leads path entry) (files : KeyMap FileContent) :
    (t.withFiles files).Leads path entry := by
  obtain ⟨location, hlocate, hentry, hfile, hparent⟩ := h
  refine ⟨location, ?_, hentry, hfile, hparent⟩
  unfold locate at hlocate ⊢
  split at hlocate
  · cases hlocate
  · next hpath =>
    rw [if_neg hpath]
    exact follow_withFiles hlocate files

theorem keyOf?_eq (h : t.Leads path entry) : t.keyOf? path = some entry := by
  obtain ⟨location, hlocate, rfl, -⟩ := h
  rw [keyOf?, hlocate]
  rfl

theorem write_eq (h : t.Leads path entry) (content : FileContent) :
    t.write path content = .ok (t.withFiles (t.files.insert entry content)) := by
  obtain ⟨location, hlocate, rfl, hfile, hparent⟩ := h
  simp [write, hlocate, hfile, hparent, FileTree.withFiles, bind, Except.bind]

theorem read_eq (h : t.Leads path entry) {content : FileContent}
    (hcontent : t.files.get? entry = some content) : t.read path = .ok content := by
  obtain ⟨location, hlocate, rfl, hfile, -⟩ := h
  simp [read, hlocate, hfile, fileAt?, hcontent, bind, Except.bind]

end Leads

/-- A path that can be written leads to an entry. -/
theorem exists_leads_of_write {content : FileContent} {t' : FileTree}
    (h : t.write path content = .ok t') : ∃ entry, t.Leads path entry := by
  cases hlocate : t.locate path with
  | error e => simp [write, hlocate, bind, Except.bind] at h
  | ok location =>
      simp only [write, hlocate, bind, Except.bind] at h
      split at h
      · cases h
      · next hfile =>
        split at h
        · next hparent => exact ⟨_, location, hlocate, rfl, by simpa using hfile, hparent⟩
        · split at h <;> cases h

end FileTree

end BoardLint
